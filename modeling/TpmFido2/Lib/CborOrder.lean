import TpmFido2.Lib.Cbor

/-!
# The canonical order of the keys of a CBOR map

There are two ways to say in which order the keys of a map come: by major type, then the shorter
encoding first, then byte by byte (`CanonicalLe`); or byte by byte throughout (`lexLe` on the
encodings).  On the keys that occur — integers of 64 bits, texts and byte strings — they are the
same (**`lexLe_encode_iff`**).

The reason is in the head.  Its first byte has the major type above the form of the argument, and
the forms are numbered by their length, so between two heads of one major type the smaller argument
comes first, whatever follows (`not_lexLe_head`).  The argument in turn decides the length of the
encoding, so that "shorter first" never disagrees with "smaller argument first".
-/

set_option autoImplicit false

namespace Cbor

open Bytes

/-- The major type of an item. -/
def majorType : Value → Nat
  | .integer (.ofNat _) => 0
  | .integer (.negSucc _) => 1
  | .bytes _ => 2
  | .text _ => 3
  | .array _ => 4
  | .map _ => 5
  | .tag _ _ => 6
  | .float _ => 7
  | .bool _ => 7
  | .null => 7

/-- Canonical key order: the lower major type first, then the shorter encoding, then the encoding
that is smaller byte by byte. -/
def CanonicalLe (k l : Value) : Prop :=
  majorType k < majorType l ∨
    majorType k = majorType l ∧
      ((encode k).length < (encode l).length ∨
        (encode k).length = (encode l).length ∧ lexLe (encode k) (encode l))

/-- An integer that fits a head, or a text or byte string whose length does: no machine of 64 bits
has a longer one. -/
def IsKey : Value → Prop
  | .integer n => -2 ^ 64 ≤ n ∧ n < 2 ^ 64
  | .bytes b => b.length < 2 ^ 64
  | .text s => s.utf8ByteSize < 2 ^ 64
  | _ => False

/-! ## The first byte of a head -/

/-- The form of a head with argument `n`, as it stands in the first byte. -/
def headForm (n : Nat) : Nat :=
  if n < 24 then n
  else if n < 2 ^ 8 then 24
  else if n < 2 ^ 16 then 25
  else if n < 2 ^ 32 then 26
  else 27

/-- How many bytes of the argument come after the first byte. -/
def headWidth (n : Nat) : Nat :=
  if n < 24 then 0
  else if n < 2 ^ 8 then 1
  else if n < 2 ^ 16 then 2
  else if n < 2 ^ 32 then 4
  else 8

theorem head_eq (major n : Nat) :
    head major n = UInt8.ofNat (major * 32 + headForm n) :: beBytes (headWidth n) n := by
  unfold head headForm headWidth
  split_ifs <;> rfl

theorem headForm_lt (n : Nat) : headForm n < 32 := by
  unfold headForm
  split_ifs <;> omega

/-- The forms are in the order of the arguments; where the form is the same, so is the width. -/
theorem headForm_cases {m n : Nat} (h : m < n) (hn : n < 2 ^ 64) :
    headForm m < headForm n ∨
      headForm m = headForm n ∧ headWidth m = headWidth n ∧ n < 256 ^ headWidth n := by
  unfold headForm headWidth
  split_ifs <;> omega

theorem toNat_first {major n : Nat} (h : major < 8) :
    (UInt8.ofNat (major * 32 + headForm n)).toNat = major * 32 + headForm n := by
  have hform := headForm_lt n
  exact UInt8.toNat_ofNat_of_lt' (by rw [UInt8.size]; omega)

/-! ## Heads in order -/

/-- Heads of different major types are ordered by them, whatever follows. -/
theorem not_lexLe_of_major {major major' : Nat} (h : major < major') (h' : major' < 8) (m n : Nat)
    (as bs : List UInt8) : ¬ lexLe (head major' n ++ bs) (head major m ++ as) := by
  rw [head_eq, head_eq, List.cons_append, List.cons_append]
  refine not_lexLe_cons_of_lt ?_ _ _
  rw [UInt8.lt_iff_toNat_lt, toNat_first (h.trans h'), toNat_first h']
  have hform := headForm_lt m
  omega

/-- Heads of one major type are ordered by their arguments, whatever follows. -/
theorem not_lexLe_head {major m n : Nat} (hmajor : major < 8) (h : m < n) (hn : n < 2 ^ 64)
    (as bs : List UInt8) : ¬ lexLe (head major n ++ bs) (head major m ++ as) := by
  rw [head_eq, head_eq, List.cons_append, List.cons_append]
  rcases headForm_cases h hn with hlt | ⟨hform, hwidth, hfits⟩
  · refine not_lexLe_cons_of_lt ?_ _ _
    rw [UInt8.lt_iff_toNat_lt, toNat_first hmajor, toNat_first hmajor]
    omega
  · have hmod : m % 256 ^ headWidth n < n % 256 ^ headWidth n := by
      rwa [Nat.mod_eq_of_lt hfits, Nat.mod_eq_of_lt (h.trans hfits)]
    simpa [lexLe, hform, hwidth] using not_lexLe_beBytes hmod as bs

/-! ## Keys in order -/

/-- The encoding is a head and what follows it.  How much that is the argument says: nothing after
the head of an integer, and for a string as many bytes. -/
structure Encodes (v : Value) (major n : Nat) (content : List UInt8) : Prop where
  eq : encode v = head major n ++ content
  majorType : majorType v = major
  major_lt : major < 8
  fits : n < 2 ^ 64
  length : content.length = if major < 2 then 0 else n

theorem encodes_of_isKey {k : Value} (h : IsKey k) :
    ∃ major n content, Encodes k major n content := by
  cases k with
  | integer i =>
    rw [IsKey] at h
    cases i with
    | ofNat n =>
      have hn : (n : Int) < 2 ^ 64 := h.2
      exact ⟨0, n, [], by simp [encode], rfl, by decide, by omega, rfl⟩
    | negSucc n => exact ⟨1, n, [], by simp [encode], rfl, by decide, by omega, rfl⟩
  | bytes b => exact ⟨2, b.length, b, by rw [encode], rfl, by decide, h, rfl⟩
  | text s => exact ⟨3, s.utf8ByteSize, utf8 s, by rw [encode], rfl, by decide, h, length_utf8 s⟩
  | _ => exact h.elim

/-- Between keys of one major type, the smaller argument has no longer encoding. -/
theorem Encodes.length_le {k l : Value} {major m n : Nat} {as bs : List UInt8}
    (hk : Encodes k major m as) (hl : Encodes l major n bs) (h : m ≤ n) :
    (encode k).length ≤ (encode l).length := by
  have hhead := headSize_mono h
  rw [hk.eq, hl.eq, List.length_append, List.length_append, length_head, length_head, hk.length,
    hl.length]
  split_ifs <;> omega

/-- **Byte by byte is canonical order**, on keys. -/
theorem lexLe_encode_iff {k l : Value} (hk : IsKey k) (hl : IsKey l) :
    lexLe (encode k) (encode l) ↔ CanonicalLe k l := by
  obtain ⟨major, m, as, hek⟩ := encodes_of_isKey hk
  obtain ⟨major', n, bs, hel⟩ := encodes_of_isKey hl
  rw [CanonicalLe, hek.majorType, hel.majorType]
  rcases lt_trichotomy major major' with hlt | rfl | hgt
  · have hnot : ¬ lexLe (encode l) (encode k) := by
      rw [hek.eq, hel.eq]
      exact not_lexLe_of_major hlt hel.major_lt m n as bs
    exact ⟨fun _ ↦ .inl hlt, fun _ ↦ (lexLe_total _ _).resolve_right hnot⟩
  · -- One major type: the argument decides, and agrees with the length.
    rcases lt_trichotomy m n with hmn | rfl | hnm
    · have hnot : ¬ lexLe (encode l) (encode k) := by
        rw [hek.eq, hel.eq]
        exact not_lexLe_head hek.major_lt hmn hel.fits as bs
      have hle := (lexLe_total (encode k) (encode l)).resolve_right hnot
      have hlength := hek.length_le hel hmn.le
      refine ⟨fun _ ↦ .inr ⟨rfl, ?_⟩, fun _ ↦ hle⟩
      exact (lt_or_eq_of_le hlength).imp id fun heq ↦ ⟨heq, hle⟩
    · have hlength : (encode k).length = (encode l).length :=
        le_antisymm (hek.length_le hel le_rfl) (hel.length_le hek le_rfl)
      simp [hlength]
    · have hnot : ¬ lexLe (encode k) (encode l) := by
        rw [hek.eq, hel.eq]
        exact not_lexLe_head hek.major_lt hnm hek.fits bs as
      have hlength := hel.length_le hek hnm.le
      simp [hnot, hlength.not_gt]
  · have hnot : ¬ lexLe (encode k) (encode l) := by
      rw [hek.eq, hel.eq]
      exact not_lexLe_of_major hgt hek.major_lt n m bs as
    simp [hnot, hgt.not_gt, hgt.ne']

end Cbor
