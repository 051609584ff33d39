import Mathlib.Data.Nat.Init
import Mathlib.Logic.Function.Basic
import Mathlib.Tactic.Simps.Basic

/-!
# Keys and policy sessions of a TPM 2.0

A small model of the device: its PCRs, the objects and sessions that are loaded, and the commands on
them.  A command is a partial function on states, with no value where the device refuses it.

A policy session carries a digest, which starts with zeros.  `TPM2_PolicyPCR` extends it with the
selection and the digest of the selected PCRs; `TPM2_PolicyCommandCode` extends it with a command;
`TPM2_PolicyAuthorize` asks that it be one that a key has approved, and then *replaces* it by a
digest that depends on the name of that key and a reference only.  A key with a policy digest can be
used in a session with this digest.  That a key has approved a policy is shown by a ticket, which
`TPM2_VerifySignature` makes for a signature of the key over the hash of policy and reference.

In a trial session a device does not have to check anything, and one that does is as good
(`Scheme.checksTrial`).

The cryptography is a parameter (`Scheme`) with the laws that matter: what was sealed is what is
unsealed, only pairs of keys can be loaded, and a signature verifies for the digest it was made for
and for no other.  The hash is not assumed to be injective, which a hash of fixed length is not;
where a proof needs it, it asks for injectivity in a part of the message that is as long as a digest
(`InjectiveInParts`).
-/

set_option autoImplicit false

namespace Tpm2

/-! ## Selections of PCRs -/

/-- The PCRs of a selection, in the order in which they are read. -/
def selectedPcrs (selection : Nat → Bool) : List Nat := (List.range 24).filter selection

/-- The digests that a `TPML_DIGEST` has room for. -/
def digestsPerList : Nat := 8

/-- The PCRs that one `TPM2_PCR_Read` returns of a selection. -/
def readPcrs (selection : Nat → Bool) : List Nat := (selectedPcrs selection).take digestsPerList

/-- One `TPM2_PCR_Read` returns the whole selection. -/
def ReadAtOnce (selection : Nat → Bool) : Prop := (selectedPcrs selection).length ≤ digestsPerList

instance (selection : Nat → Bool) : Decidable (ReadAtOnce selection) :=
  inferInstanceAs (Decidable (_ ≤ _))

/-- Eight bits of a selection. -/
def octet (selection : Nat → Bool) (k : Nat) : UInt8 :=
  UInt8.ofNat (Nat.ofBits fun j : Fin 8 ↦ selection (8 * k + j))

/-- `TPML_PCR_SELECTION`, with one selection from the SHA-256 bank. -/
def marshalSelection (selection : Nat → Bool) : List UInt8 :=
  [0x00, 0x00, 0x00, 0x01, 0x00, 0x0b, 0x03, octet selection 0, octet selection 1,
    octet selection 2]

theorem octet_inj {a b : Nat → Bool} {k : Nat} :
    octet a k = octet b k ↔ ∀ j < 8, a (8 * k + j) = b (8 * k + j) := by
  constructor
  · intro h j hj
    have hbits : Nat.ofBits (fun j : Fin 8 ↦ a (8 * k + j)) =
        Nat.ofBits (fun j : Fin 8 ↦ b (8 * k + j)) := by
      have hnat := congrArg UInt8.toNat h
      rwa [octet, octet, UInt8.toNat_ofNat_of_lt' (Nat.ofBits_lt_two_pow _),
        UInt8.toNat_ofNat_of_lt' (Nat.ofBits_lt_two_pow _)] at hnat
    have hbit := congrArg (Nat.testBit · j) hbits
    simpa [Nat.testBit_ofBits_lt _ _ hj] using hbit
  · intro h
    rw [octet, octet]
    exact congrArg (fun f : Fin 8 → Bool ↦ UInt8.ofNat (Nat.ofBits f)) (funext fun j ↦ h j j.isLt)

/-- What is marshalled is the selection. -/
theorem marshalSelection_inj {a b : Nat → Bool} :
    marshalSelection a = marshalSelection b ↔ ∀ i < 24, a i = b i := by
  simp only [marshalSelection, List.cons.injEq, true_and, and_true, octet_inj]
  constructor
  · rintro ⟨h₀, h₁, h₂⟩ i hi
    rcases Nat.lt_or_ge i 8 with h | h
    · simpa using h₀ i h
    · rcases Nat.lt_or_ge i 16 with h' | h'
      · simpa [Nat.add_sub_of_le h] using h₁ (i - 8) (by omega)
      · simpa [Nat.add_sub_of_le h'] using h₂ (i - 16) (by omega)
  · intro h
    exact ⟨fun j hj ↦ h _ (by omega), fun j hj ↦ h _ (by omega), fun j hj ↦ h _ (by omega)⟩

theorem selectedPcrs_congr {a b : Nat → Bool} (h : ∀ i < 24, a i = b i) :
    selectedPcrs a = selectedPcrs b :=
  List.filter_congr fun i hi ↦ h i (List.mem_range.mp hi)

theorem readPcrs_of_readAtOnce {selection : Nat → Bool} (h : ReadAtOnce selection) :
    readPcrs selection = selectedPcrs selection := List.take_of_length_le h

/-! ## Policy digests -/

/-- The digest of a session that has just been started. -/
def emptyDigest : List UInt8 := List.replicate 32 0

/-- `TPM_CC_Sign`. -/
def signCode : List UInt8 := [0x00, 0x00, 0x01, 0x5d]

section
variable (hash : List UInt8 → List UInt8)

/-- `TPM2_PolicyPCR`. -/
def extendPcr (digest selection pcrDigest : List UInt8) : List UInt8 :=
  hash (digest ++ [0x00, 0x00, 0x01, 0x7f] ++ selection ++ pcrDigest)

/-- `TPM2_PolicyAuthorize`. -/
def authorizedDigest (name policyRef : List UInt8) : List UInt8 :=
  hash (hash (emptyDigest ++ [0x00, 0x00, 0x01, 0x6a] ++ name) ++ policyRef)

/-- `TPM2_PolicyCommandCode`. -/
def extendCommandCode (digest code : List UInt8) : List UInt8 :=
  hash (digest ++ [0x00, 0x00, 0x01, 0x6c] ++ code)

/-- The hash is injective in each part of a message that has the length of a digest. -/
def InjectiveInParts : Prop :=
  ∀ before after a b : List UInt8, a.length = 32 → b.length = 32 →
    hash (before ++ a ++ after) = hash (before ++ b ++ after) → a = b

end

/-- A session that has seen PCRs tells which values they had. -/
theorem extendPcr_injective {hash : List UInt8 → List UInt8} (hinj : InjectiveInParts hash)
    {digest selection a b : List UInt8} (ha : a.length = 32) (hb : b.length = 32)
    (h : extendPcr hash digest selection a = extendPcr hash digest selection b) : a = b := by
  refine hinj (digest ++ [0x00, 0x00, 0x01, 0x7f] ++ selection) [] a b ha hb ?_
  rw [List.append_nil, List.append_nil]
  exact h

/-! ## The device -/

/-- What the caller chooses of a signing key: its policy digest, and whether its auth value is
enough to use it. -/
structure Template where
  authPolicy : List UInt8
  userWithAuth : Bool
deriving DecidableEq

/-- The cryptography of a device. -/
structure Scheme where
  hash : List UInt8 → List UInt8
  /-- A key pair, from random bytes: the secret and the public area. -/
  generate : List UInt8 → Template → List UInt8 × List UInt8
  /-- The template in a public area. -/
  template : List UInt8 → Option Template
  /-- The private area for a public area, of a secret and an auth value. -/
  protect : (publicArea secret authValue : List UInt8) → List UInt8
  /-- The secret and the auth value in a private area, if it belongs to the public area. -/
  unprotect : (publicArea privateArea : List UInt8) → Option (List UInt8 × List UInt8)
  /-- A signature, with random bytes. -/
  sign : (secret digest nonce : List UInt8) → List UInt8 × List UInt8
  verify : (publicArea digest : List UInt8) → List UInt8 × List UInt8 → Bool
  /-- The ticket for a signature of a key over a digest. -/
  ticket : (name digest : List UInt8) → List UInt8
  /-- Whether what a session asks for is checked in trial sessions as well. -/
  checksTrial : Bool

/-- A secret and the public area it was generated with. -/
def Scheme.Paired (S : Scheme) (publicArea secret : List UInt8) : Prop :=
  ∃ seed template, S.generate seed template = (secret, publicArea)

/-- The laws of the cryptography. -/
structure Scheme.Lawful (S : Scheme) : Prop where
  length_hash : ∀ m, (S.hash m).length = 32
  template_generate : ∀ seed template, S.template (S.generate seed template).2 = some template
  unprotect_protect : ∀ publicArea secret authValue, S.Paired publicArea secret →
    S.unprotect publicArea (S.protect publicArea secret authValue) = some (secret, authValue)
  /-- What the device has not protected itself it does not take. -/
  paired : ∀ publicArea privateArea secret authValue,
    S.unprotect publicArea privateArea = some (secret, authValue) → S.Paired publicArea secret
  /-- A signature is good for the key that has made it and the digest that was signed, and for no
  other. -/
  verify_sign : ∀ publicArea secret digest digest' nonce,
    S.verify publicArea digest' (S.sign secret digest nonce) = true ↔
      S.Paired publicArea secret ∧ digest' = digest

/-- A signing key that is loaded, with the auth value that the host has set for its handle. -/
structure Key where
  publicArea : List UInt8
  template : Template
  secret : List UInt8
  authValue : List UInt8
  hostAuth : List UInt8

/-- A session: its kind, its digest, and the command it is restricted to. -/
structure Session where
  trial : Bool
  digest : List UInt8
  command : Option (List UInt8)

/-- The state of a device.  Storage parents, signing keys and sessions have their handles from one
counter. -/
structure State where
  pcrs : Nat → List UInt8
  parents : Nat → Bool
  keys : Nat → Option Key
  sessions : Nat → Option Session
  next : Nat

namespace State

/-- One more storage parent. -/
@[simps -fullyApplied] def holdParent (s : State) : State :=
  { s with parents := Function.update s.parents s.next true, next := s.next + 1 }

/-- One more key. -/
@[simps -fullyApplied] def holdKey (k : Key) (s : State) : State :=
  { s with keys := Function.update s.keys s.next (some k), next := s.next + 1 }

/-- One more session. -/
@[simps -fullyApplied] def start (x : Session) (s : State) : State :=
  { s with sessions := Function.update s.sessions s.next (some x), next := s.next + 1 }

/-- Another key behind a handle. -/
@[simps -fullyApplied] def setKey (h : Nat) (k : Key) (s : State) : State :=
  { s with keys := Function.update s.keys h (some k) }

/-- Another session behind a handle. -/
@[simps -fullyApplied] def setSession (h : Nat) (x : Session) (s : State) : State :=
  { s with sessions := Function.update s.sessions h (some x) }

/-- Nothing is behind the handle any more. -/
@[simps -fullyApplied] def flush (h : Nat) (s : State) : State :=
  { s with
    parents := Function.update s.parents h false
    keys := Function.update s.keys h none
    sessions := Function.update s.sessions h none }

end State

/-! ## The commands -/

/-- The key can be used with its auth value, and the host has set this value. -/
def Key.Authorized (k : Key) : Prop := k.template.userWithAuth = true ∧ k.hostAuth = k.authValue

instance (k : Key) : Decidable k.Authorized := inferInstanceAs (Decidable (_ ∧ _))

/-- The key can be used with a policy session, for a command. -/
def Key.AuthorizedBy (k : Key) (x : Session) (code : List UInt8) : Prop :=
  x.trial = false ∧ k.template.authPolicy = x.digest ∧ ∀ c ∈ x.command, c = code

instance (k : Key) (x : Session) (code : List UInt8) : Decidable (k.AuthorizedBy x code) :=
  inferInstanceAs (Decidable (_ ∧ _))

namespace Scheme

variable (S : Scheme)

/-- The name of an object with a public area. -/
def name (publicArea : List UInt8) : List UInt8 := [0x00, 0x0b] ++ S.hash publicArea

/-- What is asked for in a session is asked for in earnest. -/
def checks (x : Session) : Bool := !x.trial || S.checksTrial

/-- `TPM2_PCR_Read`: the values of the selected PCRs, up to eight of them.  To get the others a
caller has to ask again, with what is left of the selection. -/
def pcrRead (selection : Nat → Bool) (s : State) : Option (List (List UInt8) × State) :=
  some ((readPcrs selection).map s.pcrs, s)

def createPrimary (s : State) : Option (Nat × State) := some (s.next, s.holdParent)

/-- A key under a storage parent: its private and its public area. -/
def create (seed : List UInt8) (parent : Nat) (template : Template) (authValue : List UInt8)
    (s : State) : Option ((List UInt8 × List UInt8) × State) :=
  if s.parents parent then
    let pair := S.generate seed template
    some ((S.protect pair.2 pair.1 authValue, pair.2), s)
  else none

/-- The key in two areas. -/
def openKey (privateArea publicArea : List UInt8) : Option Key := do
  let sensitive ← S.unprotect publicArea privateArea
  let template ← S.template publicArea
  return ⟨publicArea, template, sensitive.1, sensitive.2, []⟩

def load (parent : Nat) (privateArea publicArea : List UInt8) (s : State) : Option (Nat × State) :=
  if s.parents parent then
    (S.openKey privateArea publicArea).map fun k ↦ (s.next, s.holdKey k)
  else none

/-- The host sets the auth value it uses with a handle. -/
def setAuth (object : Nat) (authValue : List UInt8) (s : State) : Option (Unit × State) :=
  (s.keys object).map fun k ↦ ((), s.setKey object { k with hostAuth := authValue })

def readName (object : Nat) (s : State) : Option (List UInt8 × State) :=
  (s.keys object).map fun k ↦ (S.name k.publicArea, s)

/-- `TPM2_Sign`, with the auth value of the key. -/
def signWithAuth (nonce : List UInt8) (object : Nat) (digest : List UInt8) (s : State) :
    Option ((List UInt8 × List UInt8) × State) :=
  (s.keys object).bind fun k ↦
    if k.Authorized then some (S.sign k.secret digest nonce, s) else none

/-- `TPM2_Sign`, with a policy session. -/
def signWithPolicy (nonce : List UInt8) (session object : Nat) (digest : List UInt8) (s : State) :
    Option ((List UInt8 × List UInt8) × State) :=
  (s.keys object).bind fun k ↦ (s.sessions session).bind fun x ↦
    if k.AuthorizedBy x signCode then some (S.sign k.secret digest nonce, s) else none

def verifySignature (object : Nat) (digest : List UInt8) (signature : List UInt8 × List UInt8)
    (s : State) : Option (List UInt8 × State) :=
  (s.keys object).bind fun k ↦
    if S.verify k.publicArea digest signature then some (S.ticket (S.name k.publicArea) digest, s)
    else none

def startSession (trial : Bool) (s : State) : Option (Nat × State) :=
  some (s.next, s.start ⟨trial, emptyDigest, none⟩)

/-- `TPM2_PolicyPCR`.  Outside trial sessions the digest has to be that of the current values. -/
def policyPcr (session : Nat) (pcrDigest : List UInt8) (selection : Nat → Bool) (s : State) :
    Option (Unit × State) :=
  (s.sessions session).bind fun x ↦
    if x.trial ∨ pcrDigest = S.hash ((selectedPcrs selection).map s.pcrs).flatten then
      some ((), s.setSession session
        { x with digest := extendPcr S.hash x.digest (marshalSelection selection) pcrDigest })
    else none

def getDigest (session : Nat) (s : State) : Option (List UInt8 × State) :=
  (s.sessions session).map fun x ↦ (x.digest, s)

/-- `TPM2_PolicyAuthorize`. -/
def policyAuthorize (session : Nat) (approved policyRef name ticket : List UInt8) (s : State) :
    Option (Unit × State) :=
  (s.sessions session).bind fun x ↦
    if S.checks x → x.digest = approved ∧
        ticket = S.ticket name (S.hash (approved ++ policyRef)) then
      some ((), s.setSession session { x with digest := authorizedDigest S.hash name policyRef })
    else none

/-- `TPM2_PolicyCommandCode`. -/
def policyCommandCode (session : Nat) (code : List UInt8) (s : State) : Option (Unit × State) :=
  (s.sessions session).map fun x ↦ ((), s.setSession session
    { x with digest := extendCommandCode S.hash x.digest code, command := some code })

/-- `TPM2_ObjectChangeAuth`: the new private area. -/
def changeAuth (object parent : Nat) (authValue : List UInt8) (s : State) :
    Option (List UInt8 × State) :=
  (s.keys object).bind fun k ↦
    if k.Authorized ∧ s.parents parent then some (S.protect k.publicArea k.secret authValue, s)
    else none

end Scheme

/-! ## No command changes a PCR -/

/-- Whatever the command answers, the PCRs are as they were. -/
def KeepsPcrs {α : Type} (c : State → Option (α × State)) : Prop :=
  ∀ s, ∀ p ∈ c s, p.2.pcrs = s.pcrs

section
variable {α γ : Type} {Q : α → Prop} {o : Option α} {a : α}

theorem forall_mem_some (h : Q a) : ∀ p ∈ some a, Q p := by
  rintro _ ⟨⟩
  exact h

theorem forall_mem_bind {x : Option γ} {f : γ → Option α} (h : ∀ c, ∀ p ∈ f c, Q p) :
    ∀ p ∈ x.bind f, Q p := by
  cases x with
  | none => rintro _ ⟨⟩
  | some c => exact h c

theorem forall_mem_map {x : Option γ} {f : γ → α} (h : ∀ c, Q (f c)) : ∀ p ∈ x.map f, Q p := by
  cases x with
  | none => rintro _ ⟨⟩
  | some c => exact forall_mem_some (h c)

/-- What is made of the answer does not matter. -/
theorem KeepsPcrs.map {c : State → Option (α × State)} (h : KeepsPcrs c) (f : α → γ) :
    KeepsPcrs fun s ↦ (c s).map fun p ↦ (f p.1, p.2) := by
  intro s p hp
  obtain ⟨q, hq, rfl⟩ := Option.map_eq_some_iff.mp hp
  exact h s q hq

theorem forall_mem_ite {c : Prop} [Decidable c] (h : ∀ p ∈ o, Q p) :
    ∀ p ∈ if c then o else none, Q p := by
  split
  · exact h
  · rintro _ ⟨⟩

end

namespace Scheme

variable (S : Scheme)

theorem keepsPcrs_pcrRead (selection : Nat → Bool) : KeepsPcrs (pcrRead selection) :=
  fun _ ↦ forall_mem_some rfl

theorem keepsPcrs_createPrimary : KeepsPcrs createPrimary := fun _ ↦ forall_mem_some rfl

theorem keepsPcrs_create (seed : List UInt8) (parent : Nat) (template : Template)
    (authValue : List UInt8) : KeepsPcrs (S.create seed parent template authValue) :=
  fun _ ↦ forall_mem_ite (forall_mem_some rfl)

theorem keepsPcrs_load (parent : Nat) (privateArea publicArea : List UInt8) :
    KeepsPcrs (S.load parent privateArea publicArea) :=
  fun _ ↦ forall_mem_ite (forall_mem_map fun _ ↦ rfl)

theorem keepsPcrs_setAuth (object : Nat) (authValue : List UInt8) :
    KeepsPcrs (setAuth object authValue) := fun _ ↦ forall_mem_map fun _ ↦ rfl

theorem keepsPcrs_readName (object : Nat) : KeepsPcrs (S.readName object) :=
  fun _ ↦ forall_mem_map fun _ ↦ rfl

theorem keepsPcrs_signWithAuth (nonce : List UInt8) (object : Nat) (digest : List UInt8) :
    KeepsPcrs (S.signWithAuth nonce object digest) :=
  fun _ ↦ forall_mem_bind fun _ ↦ forall_mem_ite (forall_mem_some rfl)

theorem keepsPcrs_signWithPolicy (nonce : List UInt8) (session object : Nat) (digest : List UInt8) :
    KeepsPcrs (S.signWithPolicy nonce session object digest) :=
  fun _ ↦ forall_mem_bind fun _ ↦ forall_mem_bind fun _ ↦ forall_mem_ite (forall_mem_some rfl)

theorem keepsPcrs_verifySignature (object : Nat) (digest : List UInt8)
    (signature : List UInt8 × List UInt8) : KeepsPcrs (S.verifySignature object digest signature) :=
  fun _ ↦ forall_mem_bind fun _ ↦ forall_mem_ite (forall_mem_some rfl)

theorem keepsPcrs_startSession (trial : Bool) : KeepsPcrs (startSession trial) :=
  fun _ ↦ forall_mem_some rfl

theorem keepsPcrs_policyPcr (session : Nat) (pcrDigest : List UInt8) (selection : Nat → Bool) :
    KeepsPcrs (S.policyPcr session pcrDigest selection) :=
  fun _ ↦ forall_mem_bind fun _ ↦ forall_mem_ite (forall_mem_some rfl)

theorem keepsPcrs_getDigest (session : Nat) : KeepsPcrs (getDigest session) :=
  fun _ ↦ forall_mem_map fun _ ↦ rfl

theorem keepsPcrs_policyAuthorize (session : Nat) (approved policyRef name ticket : List UInt8) :
    KeepsPcrs (S.policyAuthorize session approved policyRef name ticket) :=
  fun _ ↦ forall_mem_bind fun _ ↦ forall_mem_ite (forall_mem_some rfl)

theorem keepsPcrs_policyCommandCode (session : Nat) (code : List UInt8) :
    KeepsPcrs (S.policyCommandCode session code) := fun _ ↦ forall_mem_map fun _ ↦ rfl

theorem keepsPcrs_changeAuth (object parent : Nat) (authValue : List UInt8) :
    KeepsPcrs (S.changeAuth object parent authValue) :=
  fun _ ↦ forall_mem_bind fun _ ↦ forall_mem_ite (forall_mem_some rfl)

end Scheme

/-! ## Keys in areas -/

namespace Scheme

variable {S : Scheme}

/-- The key that a device has generated, with an auth value. -/
theorem openKey_generate (hS : S.Lawful) (seed authValue : List UInt8) (template : Template) :
    S.openKey (S.protect (S.generate seed template).2 (S.generate seed template).1 authValue)
        (S.generate seed template).2 =
      some ⟨(S.generate seed template).2, template, (S.generate seed template).1, authValue,
        []⟩ := by
  rw [openKey, hS.unprotect_protect _ _ _ ⟨seed, template, rfl⟩, Option.bind_eq_bind,
    Option.bind_some, hS.template_generate]
  rfl

/-- A key that can be loaded is one that the device has generated. -/
theorem paired_of_openKey (hS : S.Lawful) {privateArea publicArea : List UInt8} {k : Key}
    (h : S.openKey privateArea publicArea = some k) :
    k.publicArea = publicArea ∧ S.template publicArea = some k.template ∧
      S.Paired publicArea k.secret ∧ k.hostAuth = [] := by
  obtain ⟨sensitive, hsensitive, h⟩ := Option.bind_eq_some_iff.mp h
  obtain ⟨template, htemplate, h⟩ := Option.bind_eq_some_iff.mp h
  cases h
  exact ⟨rfl, htemplate, hS.paired _ _ _ _ hsensitive, rfl⟩

/-- The key with another auth value. -/
theorem openKey_protect (hS : S.Lawful) {privateArea publicArea : List UInt8} {k : Key}
    (h : S.openKey privateArea publicArea = some k) (authValue : List UInt8) :
    S.openKey (S.protect publicArea k.secret authValue) publicArea =
      some { k with authValue := authValue } := by
  obtain ⟨rfl, htemplate, hpaired, hhost⟩ := paired_of_openKey hS h
  rw [openKey, hS.unprotect_protect _ _ _ hpaired, Option.bind_eq_bind, Option.bind_some, htemplate,
    hhost]
  rfl

end Scheme
end Tpm2
