import TpmFido2.Lib.Bytes

/-!
# Messages on a stream

A stream delivers bytes in pieces.  `readExact` asks again until it has as many bytes as it wants,
as `read_exact` of Rust's `std::io::Read` does; a read that gives nothing is the end of the stream.
What it returns depends only on the bytes and not on how they were cut (`readExact_eq_some`).

A message is sent with its length in front, as four bytes (`frame`).  The length is cut to 32 bits;
a message that is shorter than 4 GiB arrives (`recvMessage_frame`).
-/

set_option autoImplicit false

namespace Framing

open Bytes

/-! ## Reading from pieces -/

/-- Read `n` bytes, from what each read returns. -/
def readExact : Nat → List (List UInt8) → Option (List UInt8 × List (List UInt8))
  | 0, pieces => some ([], pieces)
  | _ + 1, [] => none
  | n + 1, piece :: pieces =>
    if piece = [] then none
    else if n + 1 < piece.length then some (piece.take (n + 1), piece.drop (n + 1) :: pieces)
    else (readExact (n + 1 - piece.length) pieces).map fun r ↦ (piece ++ r.1, r.2)

/-- Every read up to the end of the stream gives something. -/
def Flowing (pieces : List (List UInt8)) : Prop := ∀ piece ∈ pieces, piece ≠ []

theorem Flowing.tail {piece : List UInt8} {pieces : List (List UInt8)}
    (h : Flowing (piece :: pieces)) : Flowing pieces :=
  fun p hp ↦ h p (List.mem_cons_of_mem _ hp)

/-- If there are enough bytes, the first of them are read, and the others are still there.  The
induction is on the pieces, and what is still wanted gets less with each. -/
theorem readExact_eq_some {n : Nat} {pieces : List (List UInt8)} (hflow : Flowing pieces)
    (hn : n ≤ pieces.flatten.length) :
    ∃ rest, readExact n pieces = some (pieces.flatten.take n, rest) ∧
      rest.flatten = pieces.flatten.drop n ∧ Flowing rest := by
  induction pieces generalizing n with
  | nil =>
    obtain rfl : n = 0 := by simpa using hn
    exact ⟨[], rfl, rfl, hflow⟩
  | cons piece pieces ih =>
    rcases n with _ | n
    · exact ⟨piece :: pieces, rfl, rfl, hflow⟩
    have hpiece : piece ≠ [] := hflow piece List.mem_cons_self
    rw [List.flatten_cons, List.length_append] at hn
    by_cases hlong : n + 1 < piece.length
    · refine ⟨piece.drop (n + 1) :: pieces, ?_, ?_, ?_⟩
      · rw [readExact, if_neg hpiece, if_pos hlong, List.flatten_cons,
          List.take_append_of_le_length hlong.le]
      · rw [List.flatten_cons, List.flatten_cons, List.drop_append_of_le_length hlong.le]
      · intro p hp
        rcases List.mem_cons.mp hp with rfl | hp
        · simpa using hlong
        · exact hflow p (List.mem_cons_of_mem _ hp)
    · obtain ⟨rest, hread, hflat, hrest⟩ :=
        ih (n := n + 1 - piece.length) hflow.tail (by omega)
      refine ⟨rest, ?_, ?_, hrest⟩
      · rw [readExact, if_neg hpiece, if_neg hlong, hread, List.flatten_cons, List.take_append,
          List.take_of_length_le (Nat.le_of_not_lt hlong)]
        rfl
      · rw [hflat, List.flatten_cons, List.drop_append, List.drop_of_length_le
          (Nat.le_of_not_lt hlong), List.nil_append]

/-! ## Messages -/

/-- A message with its length in front. -/
def frame (data : List UInt8) : List UInt8 := beBytes 4 data.length ++ data

/-- Receive a message. -/
def recvMessage (pieces : List (List UInt8)) : Option (List UInt8) := do
  let (len, pieces) ← readExact 4 pieces
  let (data, _) ← readExact (ofBeBytes len) pieces
  return data

/-- **A message arrives**, however it is cut into pieces. -/
theorem recvMessage_frame {pieces : List (List UInt8)} {data : List UInt8} (hflow : Flowing pieces)
    (hdata : pieces.flatten = frame data) (hlt : data.length < 2 ^ 32) :
    recvMessage pieces = some data := by
  have hlength : pieces.flatten.length = 4 + data.length := by
    rw [hdata, frame, List.length_append, length_beBytes]
  have htake : pieces.flatten.take 4 = beBytes 4 data.length := by
    rw [hdata]
    exact List.take_left' (length_beBytes _ _)
  have hlen : ofBeBytes (beBytes 4 data.length) = data.length :=
    ofBeBytes_beBytes_of_lt (by omega)
  obtain ⟨rest, hread, hflat, hrest⟩ := readExact_eq_some (n := 4) hflow (by omega)
  have hbody : rest.flatten = data := by
    rw [hflat, hdata]
    exact List.drop_left' (length_beBytes _ _)
  obtain ⟨rest', hread', -, -⟩ := readExact_eq_some (n := data.length) hrest (by rw [hbody])
  rw [recvMessage, hread, htake]
  simp [hlen, hread', hbody]

end Framing
