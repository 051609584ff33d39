import TpmFido2.Tpm.Chip

/-!
# A chip to run

The theorems about chips are about all of them.  Here is one: its cryptography is as simple as the
laws allow, with secrets that are public and signatures that anyone could make, and its hash is the
sum of a message in blocks of 32 bytes.  That is not a good hash, but to change one block of a
message does change it (`injectiveInParts_blockSum`), and this is what the laws ask for.
-/

set_option autoImplicit false

namespace TpmFido2
namespace SampleChip

open Tpm2 Ctap2.Sample

/-! ## The hash -/

/-- The sum takes one more byte: the block is turned by one place, so that 32 bytes later it is
back. -/
def addByte (block : List UInt8) (b : UInt8) : List UInt8 := block.tail ++ [block.headD 0 ^^^ b]

/-- The sum of the blocks of a message. -/
def blockSum (m : List UInt8) : List UInt8 := m.foldl addByte (List.replicate 32 0)

theorem length_foldl_addByte (m block : List UInt8) (h : block.length = 32) :
    (m.foldl addByte block).length = 32 := by
  induction m generalizing block with
  | nil => exact h
  | cons b m ih =>
    refine ih _ ?_
    rw [addByte, List.length_append, List.length_tail, h]
    rfl

theorem length_blockSum (m : List UInt8) : (blockSum m).length = 32 :=
  length_foldl_addByte m _ List.length_replicate

/-- As many bytes as there are in a part of the block are added to that part, which is then at the
end. -/
theorem foldl_addByte_append {x a : List UInt8} (h : x.length = a.length) (y : List UInt8) :
    a.foldl addByte (x ++ y) = y ++ List.zipWith (· ^^^ ·) x a := by
  induction a generalizing x y with
  | nil => simp [List.length_eq_zero_iff.mp h]
  | cons b a ih =>
    cases x with
    | nil => cases h
    | cons c x =>
      have hstep : addByte (c :: x ++ y) b = x ++ (y ++ [c ^^^ b]) := by simp [addByte]
      rw [List.foldl_cons, hstep, ih (Nat.succ.inj h)]
      simp

theorem addByte_injective {x y : List UInt8} {b : UInt8} (hx : x.length = 32) (hy : y.length = 32)
    (h : addByte x b = addByte y b) : x = y := by
  cases x with
  | nil => cases hx
  | cons c x =>
    cases y with
    | nil => cases hy
    | cons d y =>
      have hlength : x.length = y.length := Nat.succ.inj (hx.trans hy.symm)
      obtain ⟨hxy, hcd⟩ := List.append_inj h hlength
      have hcd : c ^^^ b = d ^^^ b := List.singleton_inj.mp hcd
      rw [(UInt8.xor_left_inj b).mp hcd, show x = y from hxy]

theorem foldl_addByte_injective (m : List UInt8) {x y : List UInt8} (hx : x.length = 32)
    (hy : y.length = 32) (h : m.foldl addByte x = m.foldl addByte y) : x = y := by
  induction m generalizing x y with
  | nil => exact h
  | cons b m ih =>
    refine addByte_injective hx hy (ih ?_ ?_ h)
    · exact length_foldl_addByte [b] x hx
    · exact length_foldl_addByte [b] y hy

theorem zipWith_xor_injective {x a b : List UInt8} (ha : x.length = a.length)
    (hb : x.length = b.length)
    (h : List.zipWith (· ^^^ ·) x a = List.zipWith (· ^^^ ·) x b) : a = b := by
  induction x generalizing a b with
  | nil => rw [List.length_eq_zero_iff.mp ha.symm, List.length_eq_zero_iff.mp hb.symm]
  | cons c x ih =>
    cases a with
    | nil => cases ha
    | cons d a =>
      cases b with
      | nil => cases hb
      | cons d' b =>
        obtain ⟨hd, hab⟩ := List.cons.inj h
        rw [(UInt8.xor_right_inj c).mp hd, ih (Nat.succ.inj ha) (Nat.succ.inj hb) hab]

/-- To change one block of a message changes the sum. -/
theorem injectiveInParts_blockSum : InjectiveInParts blockSum := by
  intro before after a b ha hb h
  have hblock : (blockSum before).length = 32 := length_blockSum before
  have hsum : ∀ c : List UInt8, c.length = 32 → blockSum (before ++ c ++ after) =
      after.foldl addByte (List.zipWith (· ^^^ ·) (blockSum before) c) := by
    intro c hc
    have happend := foldl_addByte_append (hblock.trans hc.symm) []
    rw [List.append_nil, List.nil_append] at happend
    rw [blockSum, List.foldl_append, List.foldl_append]
    exact congrArg (after.foldl addByte) happend
  have hlength : ∀ c : List UInt8, c.length = 32 →
      (List.zipWith (· ^^^ ·) (blockSum before) c).length = 32 := by
    intro c hc
    rw [List.length_zipWith, hblock, hc]
    rfl
  rw [hsum a ha, hsum b hb] at h
  have hzip := foldl_addByte_injective after (hlength a ha) (hlength b hb) h
  exact zipWith_xor_injective (hblock.trans ha.symm) (hblock.trans hb.symm) hzip

/-! ## The cryptography -/

/-- A public area: the secret, and the template. -/
def publicOf (secret : List UInt8) (template : Template) : List UInt8 :=
  chunk secret ++ (chunk template.authPolicy ++ [if template.userWithAuth then 1 else 0])

/-- The template in a public area. -/
def templateOf (publicArea : List UInt8) : Option Template := do
  let (_, rest) ← unchunk publicArea
  let (authPolicy, rest) ← unchunk rest
  return ⟨authPolicy, rest = [1]⟩

theorem templateOf_publicOf (secret : List UInt8) (template : Template) :
    templateOf (publicOf secret template) = some template := by
  obtain ⟨authPolicy, userWithAuth⟩ := template
  cases userWithAuth <;> simp [templateOf, publicOf, unchunk_chunk]

/-- The secret belongs to the public area. -/
def isPair (publicArea secret : List UInt8) : Bool :=
  (templateOf publicArea).any fun template ↦ publicOf secret template = publicArea

/-- A signature is the secret and what was signed. -/
def scheme : Scheme where
  hash := blockSum
  generate seed template := (seed, publicOf seed template)
  template := templateOf
  protect publicArea secret authValue := chunk publicArea ++ (chunk secret ++ authValue)
  unprotect publicArea privateArea := do
    let (publicArea', rest) ← unchunk privateArea
    let (secret, authValue) ← unchunk rest
    if publicArea' = publicArea ∧ isPair publicArea secret then some (secret, authValue) else none
  sign secret digest _ := (secret, digest)
  verify publicArea digest signature := isPair publicArea signature.1 && signature.2 = digest
  ticket name digest := chunk name ++ digest
  checksTrial := true

theorem paired_iff (publicArea secret : List UInt8) :
    scheme.Paired publicArea secret ↔ isPair publicArea secret = true := by
  constructor
  · rintro ⟨seed, template, h⟩
    cases h
    simp [isPair, templateOf_publicOf]
  · intro h
    obtain ⟨template, -, h⟩ := (Option.any_eq_true _ _).mp h
    exact ⟨secret, template, Prod.ext rfl (of_decide_eq_true h)⟩

theorem lawful : scheme.Lawful where
  length_hash := length_blockSum
  template_generate := templateOf_publicOf
  unprotect_protect publicArea secret authValue h := by
    simp [scheme, unchunk_chunk, (paired_iff publicArea secret).mp h]
  paired publicArea privateArea secret authValue h := by
    obtain ⟨⟨publicArea', rest⟩, -, h⟩ := Option.bind_eq_some_iff.mp h
    obtain ⟨⟨secret', authValue'⟩, -, h⟩ := Option.bind_eq_some_iff.mp h
    obtain ⟨hpair, h⟩ := Option.ite_none_right_eq_some.mp h
    cases h
    exact (paired_iff publicArea secret).mpr hpair.2
  verify_sign publicArea secret digest digest' nonce := by
    rw [paired_iff, eq_comm (b := digest)]
    simp [scheme]

/-! ## The chip -/

/-- Packages with the hash of the chip, which also keep lists of small numbers. -/
def hashingPackages (known : List Cbor.Value) : Crates :=
  { packages known with
    writeIndices := fun indices ↦ indices.map fun i ↦ UInt8.ofNat i.toNat
    readIndices := fun b ↦ some (b.map fun x ↦ UInt32.ofNat x.toNat)
    sha256 := blockSum
    length_sha256 := length_blockSum }

/-- Every conversion takes every byte string. -/
def takes (_ : List UInt8) : Bool := true

theorem takes_protect (publicArea secret authValue : List UInt8) :
    takes (scheme.protect publicArea secret authValue) = true := rfl

theorem takes_generate (seed : List UInt8) (template : Template) :
    takes (scheme.generate seed template).2 = true := rfl

theorem takes_name (publicArea : List UInt8) : takes (scheme.name publicArea) = true := rfl

theorem unchunk_signature (signature : List UInt8 × List UInt8) :
    unchunk (chunk signature.1 ++ signature.2) = some signature :=
  unchunk_chunk signature.1 signature.2

/-- The chip. -/
def chip (known : List Cbor.Value) : Chip (hashingPackages known) where
  scheme := scheme
  lawful := lawful
  hash := rfl
  isPrivate := takes
  isPublic := takes
  isName := takes
  point _ := ([], [])
  marshalSignature signature := chunk signature.1 ++ signature.2
  unmarshalSignature := unchunk
  isPrivate_protect := takes_protect
  isPublic_generate := takes_generate
  isName_name := takes_name
  unmarshal_marshal := unchunk_signature

/-- Nothing fails; the random bytes of a new key are given. -/
def conditions (seed : List UInt8) : Conditions := ⟨fun _ _ ↦ true, seed, []⟩

/-- The chip when it is started: all PCRs have the given byte in every place. -/
def started (b : UInt8) : State :=
  ⟨fun _ ↦ List.replicate 32 b, fun _ ↦ false, fun _ ↦ none, fun _ ↦ none, 0⟩

end SampleChip
end TpmFido2
