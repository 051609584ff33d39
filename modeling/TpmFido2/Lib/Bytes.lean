import Mathlib.Data.List.Basic
import Mathlib.Data.List.Lex
import Mathlib.Data.Nat.Basic
import Mathlib.Tactic.Ring
import Mathlib.Tactic.Linarith

/-!
# Byte strings

Byte strings are `List UInt8`.  This file has the two conversions every wire format of the
development is built from:

* `beBytes w n` — the last `w` bytes of the big-endian notation of `n`, with `ofBeBytes` reading
  them back (`ofBeBytes_beBytes`);
* `utf8 s` — the bytes of a text string, with `ofUtf8?` reading them back.

Fields of varying length are written with their length in front; `readPrefixed` reads one off the
front of a message, and `readPrefixed_eq_some` says that it reads exactly what was written so.

`slice?` and `sub?` are the two operations of a program on byte strings and their lengths that are
not defined everywhere.
-/

set_option autoImplicit false

namespace Bytes

/-! ## Big-endian numbers -/

/-- The big-endian notation of `n` on `w` bytes.  What does not fit is cut off at the top, as the
narrowing casts of a program do. -/
def beBytes : Nat → Nat → List UInt8
  | 0, _ => []
  | w + 1, n => UInt8.ofNat (n / 256 ^ w) :: beBytes w n

/-- The number a byte string denotes in big-endian notation. -/
def ofBeBytes (bs : List UInt8) : Nat := bs.foldl (fun acc b => acc * 256 + b.toNat) 0

@[simp] theorem length_beBytes (w n : Nat) : (beBytes w n).length = w := by
  induction w with
  | zero => rfl
  | succ w ih => rw [beBytes, List.length_cons, ih]

theorem foldl_be (bs : List UInt8) (acc : Nat) :
    bs.foldl (fun acc b => acc * 256 + b.toNat) acc = acc * 256 ^ bs.length + ofBeBytes bs := by
  induction bs generalizing acc with
  | nil => simp [ofBeBytes]
  | cons b bs ih =>
    rw [ofBeBytes, List.foldl_cons, List.foldl_cons, ih, ih, List.length_cons]
    ring

@[simp] theorem ofBeBytes_nil : ofBeBytes [] = 0 := rfl

@[simp] theorem ofBeBytes_cons (b : UInt8) (bs : List UInt8) :
    ofBeBytes (b :: bs) = b.toNat * 256 ^ bs.length + ofBeBytes bs := by
  rw [ofBeBytes, List.foldl_cons, foldl_be, Nat.zero_mul, Nat.zero_add]

theorem ofBeBytes_beBytes (w n : Nat) : ofBeBytes (beBytes w n) = n % 256 ^ w := by
  induction w with
  | zero => simp [beBytes, Nat.mod_one]
  | succ w ih =>
    have h : (UInt8.ofNat (n / 256 ^ w)).toNat = n / 256 ^ w % 256 := by simp
    rw [beBytes, ofBeBytes_cons, length_beBytes, ih, h, Nat.pow_succ, Nat.mod_mul, Nat.mul_comm,
      Nat.add_comm]

/-- A number that fits is read back unchanged. -/
theorem ofBeBytes_beBytes_of_lt {w n : Nat} (h : n < 256 ^ w) : ofBeBytes (beBytes w n) = n := by
  rw [ofBeBytes_beBytes, Nat.mod_eq_of_lt h]

theorem ofBeBytes_lt (bs : List UInt8) : ofBeBytes bs < 256 ^ bs.length := by
  induction bs with
  | nil => simp
  | cons b bs ih =>
    have hb : b.toNat < 256 := b.toNat_lt
    rw [ofBeBytes_cons, List.length_cons, Nat.pow_succ]
    nlinarith [Nat.zero_le (256 ^ bs.length)]

/-- The notations of a number on so many bytes are the same. -/
theorem ofBeBytes_inj {as bs : List UInt8} (hlength : as.length = bs.length)
    (h : ofBeBytes as = ofBeBytes bs) : as = bs := by
  induction as generalizing bs with
  | nil => exact (List.length_eq_zero_iff.mp hlength.symm).symm
  | cons a as ih =>
    cases bs with
    | nil => cases hlength
    | cons b bs =>
      have hlength' : as.length = bs.length := Nat.succ.inj hlength
      have ha := ofBeBytes_lt as
      have hb := ofBeBytes_lt bs
      rw [ofBeBytes_cons, ofBeBytes_cons, hlength'] at h
      rw [hlength'] at ha
      have hhead : a.toNat = b.toNat := by
        have hdiv := congrArg (· / 256 ^ bs.length) h
        have hpos : 0 < 256 ^ bs.length := Nat.pow_pos (by omega)
        simpa [Nat.mul_comm, Nat.mul_add_div hpos, Nat.div_eq_of_lt ha, Nat.div_eq_of_lt hb] using
          hdiv
      rw [hhead, Nat.add_left_cancel_iff] at h
      rw [UInt8.toNat_inj.mp hhead, ih hlength' h]

theorem beBytes_ofBeBytes {w : Nat} {bs : List UInt8} (h : bs.length = w) :
    beBytes w (ofBeBytes bs) = bs := by
  refine ofBeBytes_inj ((length_beBytes _ _).trans h.symm) (ofBeBytes_beBytes_of_lt ?_)
  rw [← h]
  exact ofBeBytes_lt bs

/-! ## Fields -/

/-- A field off the front of a message: its length on `w` bytes, then its content.  The content and
what follows it. -/
def readPrefixed (w : Nat) (bs : List UInt8) : Option (List UInt8 × List UInt8) :=
  if w + ofBeBytes (bs.take w) ≤ bs.length then
    some ((bs.drop w).take (ofBeBytes (bs.take w)), bs.drop (w + ofBeBytes (bs.take w)))
  else none

/-- **A field is read as it was written.** -/
theorem readPrefixed_eq_some {w : Nat} {bs field rest : List UInt8} :
    readPrefixed w bs = some (field, rest) ↔
      bs = beBytes w field.length ++ field ++ rest ∧ field.length < 256 ^ w := by
  constructor
  · intro h
    rw [readPrefixed] at h
    split at h
    · next hle =>
      cases h
      have htake : (bs.take w).length = w := by
        rw [List.length_take]
        omega
      have hlength : ((bs.drop w).take (ofBeBytes (bs.take w))).length = ofBeBytes (bs.take w) := by
        rw [List.length_take, List.length_drop]
        omega
      refine ⟨?_, ?_⟩
      · rw [hlength, beBytes_ofBeBytes htake, List.append_assoc, ← List.drop_drop,
          List.take_append_drop, List.take_append_drop]
      · rw [hlength]
        exact (ofBeBytes_lt _).trans_eq (congrArg _ htake)
    · cases h
  · rintro ⟨rfl, hlt⟩
    have htake : (beBytes w field.length ++ field ++ rest).take w = beBytes w field.length := by
      rw [List.append_assoc, List.take_left' (length_beBytes _ _)]
    have hdrop : (beBytes w field.length ++ field ++ rest).drop w = field ++ rest := by
      rw [List.append_assoc, List.drop_left' (length_beBytes _ _)]
    rw [readPrefixed, htake, ofBeBytes_beBytes_of_lt hlt, if_pos (by simp), hdrop,
      ← List.drop_drop, hdrop, List.take_left, List.drop_left]

/-! ## Order -/

/-- Byte strings in lexicographic order, as `memcmp` and the order on byte slices have it. -/
def lexLe : List UInt8 → List UInt8 → Bool
  | [], _ => true
  | _ :: _, [] => false
  | a :: as, b :: bs => a < b || (a = b && lexLe as bs)

/-- It is the order of lists of numbers. -/
theorem lexLe_iff_le (as bs : List UInt8) :
    lexLe as bs ↔ as.map UInt8.toNat ≤ bs.map UInt8.toNat := by
  rw [← not_lt]
  induction as generalizing bs with
  | nil => simp [lexLe]
  | cons a as ih =>
    cases bs with
    | nil => simp [lexLe]
    | cons b bs =>
      have hab := UInt8.toNat_inj (a := a) (b := b)
      rw [List.map_cons, List.map_cons, List.cons_lt_cons_iff, lexLe, Bool.or_eq_true,
        Bool.and_eq_true, ih, decide_eq_true_iff, decide_eq_true_iff, UInt8.lt_iff_toNat_lt]
      rcases lt_trichotomy a.toNat b.toNat with hlt | heq | hlt
      · simp [hlt, hlt.not_gt, hlt.ne']
      · simp [hab.mp heq]
      · simp [hlt, hlt.not_gt, mt hab.mpr hlt.ne']

theorem lexLe_total (as bs : List UInt8) : lexLe as bs ∨ lexLe bs as := by
  rw [lexLe_iff_le, lexLe_iff_le]
  exact le_total _ _

theorem lexLe_trans {as bs cs : List UInt8} (h : lexLe as bs) (h' : lexLe bs cs) : lexLe as cs := by
  rw [lexLe_iff_le] at h h' ⊢
  exact le_trans h h'

theorem lexLe_antisymm {as bs : List UInt8} (h : lexLe as bs) (h' : lexLe bs as) : as = bs := by
  rw [lexLe_iff_le] at h h'
  exact List.map_injective_iff.mpr (fun _ _ ↦ UInt8.toNat_inj.mp) (le_antisymm h h')

theorem not_lexLe_cons_of_lt {a b : UInt8} (h : a < b) (as bs : List UInt8) :
    ¬ lexLe (b :: bs) (a :: as) := by
  have hle : ¬ b < a := fun hba ↦ absurd (UInt8.lt_trans h hba) (UInt8.lt_irrefl a)
  have hne : b ≠ a := fun hba ↦ absurd (hba ▸ h) (UInt8.lt_irrefl a)
  simp [lexLe, hle, hne]

/-- Big-endian notation on a fixed number of bytes keeps the order, whatever comes after it. -/
theorem not_lexLe_beBytes {w m n : Nat} (h : m % 256 ^ w < n % 256 ^ w) (as bs : List UInt8) :
    ¬ lexLe (beBytes w n ++ bs) (beBytes w m ++ as) := by
  induction w with
  | zero => simp [Nat.mod_one] at h
  | succ w ih =>
    rw [beBytes, beBytes, List.cons_append, List.cons_append]
    have hbyte (k : Nat) : (UInt8.ofNat k).toNat = k % 256 := by simp
    rw [Nat.mod_pow_succ, Nat.mod_pow_succ] at h
    have hm : m % 256 ^ w < 256 ^ w := Nat.mod_lt _ (by positivity)
    have hn : n % 256 ^ w < 256 ^ w := Nat.mod_lt _ (by positivity)
    rcases lt_trichotomy (m / 256 ^ w % 256) (n / 256 ^ w % 256) with hlt | heq | hgt
    · refine not_lexLe_cons_of_lt ?_ _ _
      rw [UInt8.lt_iff_toNat_lt, hbyte, hbyte]
      exact hlt
    · have hhead : UInt8.ofNat (m / 256 ^ w) = UInt8.ofNat (n / 256 ^ w) := by
        rw [← UInt8.toNat_inj, hbyte, hbyte, heq]
      have htail : m % 256 ^ w < n % 256 ^ w := by
        rw [heq] at h
        omega
      simpa [lexLe, hhead] using ih htail
    · have hstep : 256 ^ w * (n / 256 ^ w % 256 + 1) ≤ 256 ^ w * (m / 256 ^ w % 256) :=
        Nat.mul_le_mul_left _ hgt
      rw [Nat.mul_add] at hstep
      omega

/-! ## Ranges -/

/-- `bytes[start..stop]`; `none` if that is out of range. -/
def slice? (bytes : List UInt8) (start stop : Nat) : Option (List UInt8) :=
  if start ≤ stop ∧ stop ≤ bytes.length then some ((bytes.drop start).take (stop - start))
  else none

/-- `m - n`; `none` if that is negative. -/
def sub? (m n : Nat) : Option Nat := if n ≤ m then some (m - n) else none

theorem slice?_of_le {bytes : List UInt8} {start stop : Nat} (hstart : start ≤ stop)
    (hstop : stop ≤ bytes.length) :
    slice? bytes start stop = some ((bytes.drop start).take (stop - start)) :=
  if_pos ⟨hstart, hstop⟩

theorem slice?_zero {bytes : List UInt8} {stop : Nat} (h : stop ≤ bytes.length) :
    slice? bytes 0 stop = some (bytes.take stop) := by
  rw [slice?_of_le (Nat.zero_le _) h, List.drop_zero, Nat.sub_zero]

theorem slice?_length {bytes : List UInt8} {start : Nat} (h : start ≤ bytes.length) :
    slice? bytes start bytes.length = some (bytes.drop start) := by
  rw [slice?_of_le h le_rfl, List.take_of_length_le (List.length_drop ▸ le_rfl)]

theorem sub?_of_le {m n : Nat} (h : n ≤ m) : sub? m n = some (m - n) := if_pos h

/-! ## Text -/

/-- The UTF-8 bytes of a text string. -/
def utf8 (s : String) : List UInt8 := s.toUTF8.data.toList

@[simp] theorem length_utf8 (s : String) : (utf8 s).length = s.utf8ByteSize := by
  simp [utf8]

/-- The text that a byte string is in UTF-8, if it is one. -/
def ofUtf8? (bs : List UInt8) : Option String := String.fromUTF8? ⟨bs.toArray⟩

theorem ofUtf8?_eq_some {bs : List UInt8} {s : String} : ofUtf8? bs = some s ↔ utf8 s = bs := by
  constructor
  · intro h
    rw [ofUtf8?, String.fromUTF8?] at h
    split at h
    · cases h
      rfl
    · cases h
  · rintro rfl
    have hbytes : (⟨(utf8 s).toArray⟩ : ByteArray) = s.toUTF8 := by
      rw [utf8, Array.toArray_toList]
    have hvalid : s.toUTF8.IsValidUTF8 := s.isValidUTF8
    rw [ofUtf8?, hbytes, String.fromUTF8?, dif_pos hvalid]
    rfl

theorem utf8_injective {s t : String} (h : utf8 s = utf8 t) : s = t :=
  Option.some.inj ((ofUtf8?_eq_some.mpr h).symm.trans (ofUtf8?_eq_some.mpr rfl))

end Bytes
