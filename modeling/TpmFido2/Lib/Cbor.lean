import TpmFido2.Lib.Bytes

/-!
# CBOR values

The data model of CBOR and its preferred serialization: every head — the major type of an item
with its length or its number — in the shortest of the five forms the format has.

What is used of the serialization is how long it is.  The `length_encode_…` lemmas compute the
length of an encoding from the lengths of its parts, so that a bound on a response is a sum over
its fields; `headSize` is the only place where the five forms show.

Floating-point numbers are carried as their 64 bits and tags as their number; both are written in
a form of fixed length, which is not the shortest one for a number that a smaller format holds.
Nothing here is about such values.
-/

set_option autoImplicit false

namespace Cbor

open Bytes

/-- A CBOR data item. -/
inductive Value where
  | integer (n : Int)
  | bytes (b : List UInt8)
  | float (bits : UInt64)
  | text (s : String)
  | bool (b : Bool)
  | null
  | tag (number : UInt64) (v : Value)
  | array (vs : List Value)
  | map (entries : List (Value × Value))

/-! ## Looking inside a value -/

namespace Value

/-- The number, if the value is one. -/
def asInteger : Value → Option Int
  | .integer n => some n
  | _ => none

/-- The byte string, if the value is one. -/
def asBytes : Value → Option (List UInt8)
  | .bytes b => some b
  | _ => none

/-- The text, if the value is one. -/
def asText : Value → Option String
  | .text s => some s
  | _ => none

/-- The truth value, if the value is one. -/
def asBool : Value → Option Bool
  | .bool b => some b
  | _ => none

/-- The items, if the value is an array. -/
def asArray : Value → Option (List Value)
  | .array vs => some vs
  | _ => none

/-- The entries, if the value is a map. -/
def asMap : Value → Option (List (Value × Value))
  | .map entries => some entries
  | _ => none

end Value

/-! ## Serialization -/

/-- The head of an item: major type and argument, the argument in as few bytes as it fits. -/
def head (major n : Nat) : List UInt8 :=
  if n < 24 then [UInt8.ofNat (major * 32 + n)]
  else if n < 2 ^ 8 then UInt8.ofNat (major * 32 + 24) :: beBytes 1 n
  else if n < 2 ^ 16 then UInt8.ofNat (major * 32 + 25) :: beBytes 2 n
  else if n < 2 ^ 32 then UInt8.ofNat (major * 32 + 26) :: beBytes 4 n
  else UInt8.ofNat (major * 32 + 27) :: beBytes 8 n

/-- The length of a head with argument `n`. -/
def headSize (n : Nat) : Nat :=
  if n < 24 then 1
  else if n < 2 ^ 8 then 2
  else if n < 2 ^ 16 then 3
  else if n < 2 ^ 32 then 5
  else 9

theorem length_head (major n : Nat) : (head major n).length = headSize n := by
  unfold head headSize
  split_ifs <;> simp

theorem head_ne_nil (major n : Nat) : head major n ≠ [] := by
  unfold head
  split_ifs <;> simp

theorem headSize_le (n : Nat) : headSize n ≤ 9 := by
  unfold headSize
  split_ifs <;> omega

theorem headSize_le_three {n : Nat} (h : n < 2 ^ 16) : headSize n ≤ 3 := by
  unfold headSize
  split_ifs <;> omega

theorem headSize_mono {m n : Nat} (h : m ≤ n) : headSize m ≤ headSize n := by
  unfold headSize
  split_ifs <;> omega

/-- The argument of the head of a number: negative numbers count from `-1` down. -/
def magnitude : Int → Nat
  | .ofNat n => n
  | .negSucc n => n

mutual

/-- The preferred serialization of a value. -/
def encode : Value → List UInt8
  | .integer (.ofNat n) => head 0 n
  | .integer (.negSucc n) => head 1 n
  | .bytes b => head 2 b.length ++ b
  | .text s => head 3 s.utf8ByteSize ++ utf8 s
  | .array vs => head 4 vs.length ++ encodeAll vs
  | .map entries => head 5 entries.length ++ encodeEntries entries
  | .tag number v => head 6 number.toNat ++ encode v
  | .bool false => [0xf4]
  | .bool true => [0xf5]
  | .null => [0xf6]
  | .float bits => 0xfb :: beBytes 8 bits.toNat

/-- The items of an array, one after the other. -/
def encodeAll : List Value → List UInt8
  | [] => []
  | v :: vs => encode v ++ encodeAll vs

/-- The entries of a map, each key before its value. -/
def encodeEntries : List (Value × Value) → List UInt8
  | [] => []
  | (k, v) :: entries => encode k ++ encode v ++ encodeEntries entries

end

/-- Something is written for every value. -/
theorem encode_ne_nil (v : Value) : encode v ≠ [] := by
  rcases v with (_ | _) | _ | _ | _ | (_ | _) | _ | _ | _ | _ <;> simp [encode, head_ne_nil]

/-! ## Plain values -/

mutual

/-- The value has no floating-point number and no tag in it. -/
def isPlain : Value → Bool
  | .float _ => false
  | .tag _ _ => false
  | .array vs => allPlain vs
  | .map entries => entriesPlain entries
  | .integer _ => true
  | .bytes _ => true
  | .text _ => true
  | .bool _ => true
  | .null => true

def allPlain : List Value → Bool
  | [] => true
  | v :: vs => isPlain v && allPlain vs

def entriesPlain : List (Value × Value) → Bool
  | [] => true
  | (k, v) :: entries => isPlain k && isPlain v && entriesPlain entries

end

theorem entriesPlain_iff (entries : List (Value × Value)) :
    entriesPlain entries = true ↔ ∀ e ∈ entries, isPlain e.1 = true ∧ isPlain e.2 = true := by
  induction entries with
  | nil => simp [entriesPlain]
  | cons e entries ih => simp [entriesPlain, ih]

theorem entriesPlain_append (as bs : List (Value × Value)) :
    entriesPlain (as ++ bs) = (entriesPlain as && entriesPlain bs) := by
  rw [Bool.eq_iff_iff]
  simp only [entriesPlain_iff, Bool.and_eq_true, List.mem_append]
  exact ⟨fun h ↦ ⟨fun e he ↦ h e (.inl he), fun e he ↦ h e (.inr he)⟩,
    fun h e he ↦ he.elim (h.1 e) (h.2 e)⟩

/-! ## Lengths -/

theorem length_encode_integer (n : Int) :
    (encode (.integer n)).length = headSize (magnitude n) := by
  cases n <;> rw [encode, length_head, magnitude]

theorem length_encode_bytes (b : List UInt8) :
    (encode (.bytes b)).length = headSize b.length + b.length := by
  rw [encode, List.length_append, length_head]

theorem length_encode_text (s : String) :
    (encode (.text s)).length = headSize s.utf8ByteSize + s.utf8ByteSize := by
  rw [encode, List.length_append, length_head, length_utf8]

theorem length_encodeEntries (entries : List (Value × Value)) :
    (encodeEntries entries).length =
      (entries.map fun e ↦ (encode e.1).length + (encode e.2).length).sum := by
  induction entries with
  | nil => rfl
  | cons e entries ih =>
    rw [encodeEntries, List.length_append, List.length_append, ih, List.map_cons, List.sum_cons]

theorem length_encode_map (entries : List (Value × Value)) :
    (encode (.map entries)).length = headSize entries.length +
      (entries.map fun e ↦ (encode e.1).length + (encode e.2).length).sum := by
  rw [encode, List.length_append, length_head, length_encodeEntries]

/-- A map with few entries has a head of one byte. -/
theorem length_encode_small_map {entries : List (Value × Value)} (h : entries.length < 24) :
    (encode (.map entries)).length =
      1 + (entries.map fun e ↦ (encode e.1).length + (encode e.2).length).sum := by
  rw [length_encode_map, headSize, if_pos h]

theorem length_encode_integer_le (n : Int) : (encode (.integer n)).length ≤ 9 := by
  rw [length_encode_integer]
  exact headSize_le _

theorem length_encode_bytes_le {b : List UInt8} (h : b.length < 2 ^ 16) :
    (encode (.bytes b)).length ≤ b.length + 3 := by
  have hhead := headSize_le_three h
  rw [length_encode_bytes]
  omega

/-- A bound on a byte string bounds its encoding. -/
theorem length_encode_bytes_of_le {b : List UInt8} {n : Nat} (h : b.length ≤ n) :
    (encode (.bytes b)).length ≤ headSize n + n := by
  have hhead := headSize_mono h
  rw [length_encode_bytes]
  omega

theorem length_encode_text_le {s : String} (h : s.utf8ByteSize < 2 ^ 16) :
    (encode (.text s)).length ≤ s.utf8ByteSize + 3 := by
  have hhead := headSize_le_three h
  rw [length_encode_text]
  omega

end Cbor
