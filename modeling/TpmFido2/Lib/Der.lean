import TpmFido2.Lib.Bytes

/-!
# Reading strict DER

A reader for the little of DER that signatures need: a SEQUENCE of two INTEGERs.  It accepts the
distinguished encoding and nothing else: lengths in the shortest form (`readLength`), integers
without an octet more than two's complement needs (`Minimal`), and nothing after the end.

A writer that stays below 128 bytes is compared with it through `readTlv_short` and
`readInteger_short`: all that is left to show then is that the content is minimal and what its value
is.
-/

set_option autoImplicit false

namespace Der

open Bytes

/-! ## The reader -/

/-- A length, and what follows it. -/
def readLength : List UInt8 → Option (Nat × List UInt8)
  | [] => none
  | first :: rest =>
    if first.toNat < 128 then some (first.toNat, rest)
    else
      let digits := rest.take (first.toNat - 128)
      -- the long form has no leading zeros, and is not for lengths that have a short form
      if first ≠ 255 ∧ digits.length = first.toNat - 128 ∧ digits.headD 0 ≠ 0 ∧
          128 ≤ ofBeBytes digits then
        some (ofBeBytes digits, rest.drop (first.toNat - 128))
      else none

/-- The content of an element with a given tag, and what follows it. -/
def readTlv (tag : UInt8) : List UInt8 → Option (List UInt8 × List UInt8)
  | [] => none
  | first :: rest => do
    guard (first = tag)
    let (length, body) ← readLength rest
    guard (length ≤ body.length)
    return (body.take length, body.drop length)

/-- The content of an INTEGER has no octet that could be left out. -/
def Minimal : List UInt8 → Prop
  | [] => False
  | [_] => True
  | first :: second :: _ =>
    ¬ (first = 0 ∧ second.toNat < 128) ∧ ¬ (first = 255 ∧ 128 ≤ second.toNat)

instance : DecidablePred Minimal := fun content ↦
  match content with
  | [] => inferInstanceAs (Decidable False)
  | [_] => inferInstanceAs (Decidable True)
  | _ :: _ :: _ => inferInstanceAs (Decidable (_ ∧ _))

/-- The value of an INTEGER, in two's complement. -/
def integerValue (content : List UInt8) : Int :=
  if (content.headD 0).toNat < 128 then ofBeBytes content
  else ofBeBytes content - 256 ^ content.length

/-- An INTEGER, and what follows it. -/
def readInteger (bs : List UInt8) : Option (Int × List UInt8) := do
  let (content, rest) ← readTlv 0x02 bs
  guard (Minimal content)
  return (integerValue content, rest)

/-- A SEQUENCE of two INTEGERs that ends with the message. -/
def readIntegers (bs : List UInt8) : Option (Int × Int) := do
  let (content, rest) ← readTlv 0x30 bs
  guard (rest = [])
  let (a, afterA) ← readInteger content
  let (b, afterB) ← readInteger afterA
  guard (afterB = [])
  return (a, b)

/-! ## Short elements -/

/-- **An element of less than 128 bytes** is read as it was written. -/
theorem readTlv_short (tag : UInt8) {content : List UInt8} (h : content.length < 128)
    (rest : List UInt8) :
    readTlv tag ([tag, UInt8.ofNat content.length] ++ content ++ rest) = some (content, rest) := by
  have hlength : (UInt8.ofNat content.length).toNat = content.length := by
    rw [UInt8.toNat_ofNat']
    exact Nat.mod_eq_of_lt (by omega)
  have hread : readLength (UInt8.ofNat content.length :: (content ++ rest)) =
      some (content.length, content ++ rest) := by
    rw [readLength, hlength, if_pos h]
  simp [readTlv, hread, guard]

theorem readInteger_short {content : List UInt8} (h : content.length < 128)
    (hminimal : Minimal content) (rest : List UInt8) :
    readInteger ([0x02, UInt8.ofNat content.length] ++ content ++ rest) =
      some (integerValue content, rest) := by
  rw [readInteger, readTlv_short 0x02 h rest]
  simp [guard, hminimal]

end Der
