import TpmFido2.Lib.Der
import TpmFido2.Tpm

/-!
# Signatures are strict DER

The TPM returns the two numbers of a signature as byte strings that may have leading zeros, or be
empty.  `ecdsa_der` turns them into what verifiers read: a SEQUENCE of two INTEGERs.  It strips the
zeros, keeps one digit of a number that is nothing but zeros, and puts a zero in front of a number
that would otherwise be negative, with all lengths in one byte.

* **`ecdsaDer_strict`**: for numbers of up to 32 bytes a strict reader gets the two numbers back and
  has used up all of the signature, so signatures that are the same have the same numbers.
-/

set_option autoImplicit false

namespace TpmFido2

open Bytes Der

/-! ## The content of an INTEGER -/

/-- The content of the INTEGER that `der_integer` writes. -/
def derContent (value : List UInt8) : List UInt8 :=
  let significant := value.dropWhile (· = 0)
  let integer := if significant = [] then [0] else significant
  if integer.headD 0 &&& 0x80 ≠ 0 then 0 :: integer else integer

theorem derInteger_eq (value : List UInt8) :
    derInteger value = [0x02, UInt8.ofNat (derContent value).length] ++ derContent value := rfl

theorem and_0x80_ne_zero_iff (b : UInt8) : b &&& 0x80 ≠ 0 ↔ 128 ≤ b.toNat := by
  have h : ∀ n < 256, (UInt8.ofNat n &&& 0x80 ≠ 0 ↔ 128 ≤ n) := by decide +kernel
  have hb := h b.toNat b.toNat_lt
  rwa [UInt8.ofNat_toNat] at hb

/-- Leading zeros do not change a number. -/
theorem ofBeBytes_dropWhile (value : List UInt8) :
    ofBeBytes (value.dropWhile (· = 0)) = ofBeBytes value := by
  induction value with
  | nil => rfl
  | cons b value ih =>
    rw [List.dropWhile_cons]
    split
    · next hb =>
      have hzero : b = 0 := of_decide_eq_true hb
      rw [ih, ofBeBytes_cons, hzero, UInt8.toNat_zero, Nat.zero_mul, Nat.zero_add]
    · rfl

/-- What the content is: one zero, or a number that starts with a digit other than zero, with a zero
in front of it if its first bit is set. -/
theorem derContent_cases (value : List UInt8) :
    (derContent value = [0] ∧ ofBeBytes value = 0) ∨
      ∃ first rest, first ≠ 0 ∧ ofBeBytes value = ofBeBytes (first :: rest) ∧
        rest.length < value.length ∧
        derContent value =
          if 128 ≤ first.toNat then 0 :: first :: rest else first :: rest := by
  have hvalue := ofBeBytes_dropWhile value
  cases hsignificant : value.dropWhile (· = 0) with
  | nil =>
    rw [hsignificant] at hvalue
    refine .inl ⟨?_, hvalue.symm⟩
    rw [derContent, hsignificant]
    rfl
  | cons first rest =>
    rw [hsignificant] at hvalue
    have hfirst : first ≠ 0 := by
      intro hzero
      have hhead := List.head?_dropWhile_not (fun b : UInt8 ↦ decide (b = 0)) value
      rw [hsignificant] at hhead
      simp [hzero] at hhead
    have hlength : rest.length < value.length := by
      have hle := (List.dropWhile_sublist (fun b : UInt8 ↦ decide (b = 0)) (l := value)).length_le
      rw [hsignificant, List.length_cons] at hle
      omega
    refine .inr ⟨first, rest, hfirst, hvalue.symm, hlength, ?_⟩
    simp only [derContent, hsignificant, reduceCtorEq, if_false, List.headD_cons,
      and_0x80_ne_zero_iff]

theorem length_derContent_le (value : List UInt8) :
    (derContent value).length ≤ value.length + 1 := by
  rcases derContent_cases value with ⟨h, -⟩ | ⟨first, rest, -, -, hlength, h⟩
  · rw [h, List.length_singleton]
    omega
  · rw [h]
    split <;> simp only [List.length_cons] <;> omega

/-- **The content is minimal.** -/
theorem minimal_derContent (value : List UInt8) : Minimal (derContent value) := by
  rcases derContent_cases value with ⟨h, -⟩ | ⟨first, rest, hfirst, -, -, h⟩
  · rw [h]
    exact trivial
  · rw [h]
    split
    · next hhigh =>
      exact ⟨fun hlow ↦ absurd hlow.2 (Nat.not_lt.mpr hhigh), fun h ↦ absurd h.1 (by decide)⟩
    · next hlow =>
      cases rest with
      | nil => exact trivial
      | cons second rest =>
        refine ⟨fun h ↦ hfirst h.1, fun h ↦ hlow ?_⟩
        rw [h.1]
        decide

/-- **The content has the value of the byte string**, and is not negative. -/
theorem integerValue_derContent (value : List UInt8) :
    integerValue (derContent value) = ofBeBytes value := by
  rcases derContent_cases value with ⟨h, hzero⟩ | ⟨first, rest, -, hvalue, -, h⟩
  · rw [h, hzero]
    rfl
  · rw [h, hvalue]
    split
    · rw [integerValue, List.headD_cons, if_pos (by decide), ofBeBytes_cons, UInt8.toNat_zero,
        Nat.zero_mul, Nat.zero_add]
    · next hlow => rw [integerValue, List.headD_cons, if_pos (Nat.lt_of_not_le hlow)]

/-! ## The signature -/

theorem readInteger_derInteger {value : List UInt8} (h : value.length ≤ 32) (rest : List UInt8) :
    readInteger (derInteger value ++ rest) = some (↑(ofBeBytes value), rest) := by
  have hlength := length_derContent_le value
  rw [derInteger_eq, readInteger_short (by omega) (minimal_derContent value),
    integerValue_derContent]

theorem length_derInteger_le {value : List UInt8} (h : value.length ≤ 32) :
    (derInteger value).length ≤ 35 := by
  have hlength := length_derContent_le value
  rw [derInteger_eq, List.length_append]
  simp only [List.length_cons, List.length_nil]
  omega

/-- **A strict reader gets the numbers back.** -/
theorem readIntegers_ecdsaDer {r s : List UInt8} (hr : r.length ≤ 32) (hs : s.length ≤ 32) :
    readIntegers (ecdsaDer r s) = some (↑(ofBeBytes r), ↑(ofBeBytes s)) := by
  have hrLength := length_derInteger_le hr
  have hsLength := length_derInteger_le hs
  have hcontent : (derInteger r ++ derInteger s).length < 128 := by
    rw [List.length_append]
    omega
  have htlv : readTlv 0x30 (ecdsaDer r s) = some (derInteger r ++ derInteger s, []) := by
    have htlv := readTlv_short 0x30 hcontent []
    rwa [List.append_nil, List.length_append, ← List.append_assoc] at htlv
  have hlast : readInteger (derInteger s) = some (↑(ofBeBytes s), []) := by
    have hlast := readInteger_derInteger hs []
    rwa [List.append_nil] at hlast
  simp [readIntegers, htlv, guard, readInteger_derInteger hr, hlast]

/-- **Signatures are strict DER.**  The two numbers are read back from all of the signature, and two
pairs with one signature are the same numbers. -/
theorem ecdsaDer_strict (r s : List UInt8) (hr : r.length ≤ 32) (hs : s.length ≤ 32) :
    readIntegers (ecdsaDer r s) = some (↑(ofBeBytes r), ↑(ofBeBytes s)) ∧
      ∀ r' s' : List UInt8, r'.length ≤ 32 → s'.length ≤ 32 → ecdsaDer r' s' = ecdsaDer r s →
        ofBeBytes r' = ofBeBytes r ∧ ofBeBytes s' = ofBeBytes s := by
  refine ⟨readIntegers_ecdsaDer hr hs, fun r' s' hr' hs' h ↦ ?_⟩
  have hread := readIntegers_ecdsaDer hr' hs'
  rw [h, readIntegers_ecdsaDer hr hs] at hread
  have hpair := Prod.ext_iff.mp (Option.some.inj hread)
  exact ⟨(Int.ofNat_inj.mp hpair.1).symm, (Int.ofNat_inj.mp hpair.2).symm⟩

/-- A number with leading zeros and its first bit set, and a number without digits. -/
theorem ecdsaDer_strict_zero :
    ecdsaDer [0, 0, 200] [] = [0x30, 7, 0x02, 2, 0, 200, 0x02, 1, 0] ∧
      readIntegers (ecdsaDer [0, 0, 200] []) = some (200, 0) :=
  ⟨by decide, (ecdsaDer_strict [0, 0, 200] [] (by decide) (by decide)).1⟩

end TpmFido2
