import Mathlib.Algebra.Group.Nat.Defs
import Mathlib.Data.List.Basic
import Mathlib.Data.Nat.Basic

/-!
# Texts

Functions of Rust's `str`, on lists of characters: splitting at the first or the last occurrence of
a character, trimming, and reading numbers.  A number is read as it is written by `Nat.repr`
(`parseDecimal_repr`), also with blanks around it (`trim_of_digits`).
-/

set_option autoImplicit false

namespace Text

/-- `str::split_once`. -/
def splitOnce (c : Char) (text : List Char) : Option (List Char × List Char) :=
  if c ∈ text then some (text.takeWhile (· ≠ c), (text.dropWhile (· ≠ c)).tail) else none

/-- What follows the last occurrence of a character. -/
def afterLast (c : Char) (text : List Char) : Option (List Char) :=
  if c ∈ text then some (text.reverse.takeWhile (· ≠ c)).reverse else none

/-- `char::is_whitespace`: the characters of Unicode with the property `White_Space`. -/
def isWhitespace (c : Char) : Bool :=
  (9 ≤ c.toNat && c.toNat ≤ 13) || (0x2000 ≤ c.toNat && c.toNat ≤ 0x200a) ||
    [0x20, 0x85, 0xa0, 0x1680, 0x2028, 0x2029, 0x202f, 0x205f, 0x3000].contains c.toNat

/-- `str::trim`. -/
def trim (text : List Char) : List Char :=
  ((text.dropWhile isWhitespace).reverse.dropWhile isWhitespace).reverse

/-- `str::split_whitespace`. -/
def splitWhitespace (text : List Char) : List (List Char) :=
  (text.splitOnP isWhitespace).filter (· ≠ [])

/-- `str::parse` for unsigned numbers of some bits: decimal digits, after a plus sign or not. -/
def parseDecimal (bits : Nat) (text : List Char) : Option Nat :=
  let digits := if text.head? = some '+' then text.tail else text
  if digits ≠ [] ∧ digits.all Char.isDigit ∧ Nat.ofDigitChars 10 digits 0 < 2 ^ bits then
    some (Nat.ofDigitChars 10 digits 0)
  else none

/-- `str::parse::<u32>`. -/
def parseU32 (text : List Char) : Option UInt32 := (parseDecimal 32 text).map UInt32.ofNat

/-- `str::parse::<u64>`. -/
def parseU64 (text : List Char) : Option UInt64 := (parseDecimal 64 text).map UInt64.ofNat

theorem splitOnce_append {c : Char} {l : List Char} (h : c ∉ l) (m : List Char) :
    splitOnce c (l ++ c :: m) = some (l, m) := by
  have hall : ∀ x ∈ l, decide (x ≠ c) = true := fun x hx ↦
    decide_eq_true fun heq ↦ h (heq ▸ hx)
  rw [splitOnce, if_pos (by simp), List.takeWhile_append_of_pos hall,
    List.dropWhile_append_of_pos hall]
  simp

theorem isDigit_of_mem_repr {n : Nat} {c : Char} (h : c ∈ n.repr.toList) : c.isDigit = true := by
  rw [Nat.toList_repr] at h
  exact Nat.isDigit_of_mem_toDigits (by decide) le_rfl h

theorem not_isWhitespace_of_isDigit {c : Char} (h : c.isDigit = true) : isWhitespace c = false := by
  simp only [Char.isDigit, ge_iff_le, Bool.and_eq_true, decide_eq_true_eq] at h
  have hlow : 48 ≤ c.toNat := h.1
  have hhigh : c.toNat ≤ 57 := h.2
  simp [isWhitespace]
  omega

theorem trim_of_digits {text : List Char} (h : ∀ c ∈ text, c.isDigit = true) :
    trim text = text := by
  have hdrop (l : List Char) (hl : ∀ c ∈ l, c.isDigit = true) : l.dropWhile isWhitespace = l := by
    cases l with
    | nil => rfl
    | cons c l =>
      rw [List.dropWhile_cons_of_neg]
      rw [not_isWhitespace_of_isDigit (hl c List.mem_cons_self)]
      exact Bool.false_ne_true
  rw [trim, hdrop text h, hdrop _ fun c hc ↦ h c (List.mem_reverse.mp hc), List.reverse_reverse]

theorem parseDecimal_repr {bits n : Nat} (hn : n < 2 ^ bits) :
    parseDecimal bits n.repr.toList = some n := by
  have hdigits : ∀ c ∈ n.repr.toList, c.isDigit = true := fun c hc ↦ isDigit_of_mem_repr hc
  have hvalue : Nat.ofDigitChars 10 n.repr.toList 0 = n := by
    rw [Nat.toList_repr, Nat.ofDigitChars_toDigits (by decide) le_rfl]
  have hne : n.repr.toList ≠ [] := by
    rw [Nat.toList_repr]
    exact Nat.toDigits_ne_nil
  have hsign : ¬ n.repr.toList.head? = some '+' := by
    intro hhead
    have hmem := List.mem_of_mem_head? hhead
    exact absurd (hdigits _ hmem) (by decide)
  rw [parseDecimal, if_neg hsign, hvalue, if_pos ⟨hne, List.all_eq_true.mpr hdigits, hn⟩]

theorem parseU32_repr (i : UInt32) : parseU32 i.toNat.repr.toList = some i := by
  rw [parseU32, parseDecimal_repr i.toNat_lt, Option.map_some, UInt32.ofNat_toNat]

end Text
