import TpmFido2.CtapHid.Packet
import TpmFido2.Lib.Run

/-!
# CTAPHID: the two ends of the wire agree

`encodeMessage` writes packets and `receive` reads them; the two are separate loops with separate
arithmetic.  This file shows that they fit together, in three layers.

* **One packet.**  Each field a packet was written with is the field the reader sees
  (`reportCid_initPacket`, `continuationData_continuationPacket`, …).
* **One step.**  `Received` lists what a report can do to the `pending` map, and nothing else
  `handlePacket` does reaches that map (`handlePacket_pending`).  A packet of the message extends
  the part received so far by exactly its chunk (`receive_continuationPacket`).
* **A whole run.**  `Assembling` says how far a channel has got with a message.  Packets of other
  channels keep it, packets of the message advance it, and the last one hands the message over
  unchanged: `handlePacket_encodeMessage`.
-/

set_option autoImplicit false

namespace TpmFido2
namespace CtapHid

open Bytes

/-! ## Reading back a packet -/

theorem length_padReport {bytes : List UInt8} (h : bytes.length ≤ reportSize) :
    (padReport bytes).length = reportSize := by
  rw [padReport, List.length_append, List.length_replicate]
  omega

/-- The channel of a report is what its first four bytes say. -/
theorem reportCid_append (cid : UInt32) (rest : List UInt8) :
    reportCid (beBytes 4 cid.toNat ++ rest) = cid := by
  have h : cid.toNat < 256 ^ 4 := by simpa using cid.toNat_lt
  rw [reportCid, List.take_left' (length_beBytes 4 _), ofBeBytes_beBytes_of_lt h]
  simp

theorem packetType_append (cid : UInt32) (t : UInt8) (rest : List UInt8) :
    packetType (beBytes 4 cid.toNat ++ [t] ++ rest) = t := by
  simp [packetType, beBytes]

theorem initPacket_eq (cid : UInt32) (command : CtapHidCommand) (payload : List UInt8) :
    ∃ zeros, initPacket cid command payload =
      beBytes 4 cid.toNat ++ [command.byte ||| typeInit] ++
        (beBytes 2 payload.length ++ (payload.take (reportSize - 7) ++ zeros)) := by
  refine ⟨List.replicate (reportSize - (beBytes 4 cid.toNat ++ [command.byte ||| typeInit] ++
    beBytes 2 payload.length ++ payload.take (reportSize - 7)).length) 0, ?_⟩
  rw [initPacket, padReport]
  simp only [List.append_assoc]

theorem continuationPacket_eq (cid : UInt32) (sequence : UInt8) (chunk : List UInt8) :
    ∃ zeros, continuationPacket cid sequence chunk =
      beBytes 4 cid.toNat ++ [sequence] ++ (chunk ++ zeros) := by
  refine ⟨List.replicate (reportSize - (beBytes 4 cid.toNat ++ [sequence] ++ chunk).length) 0, ?_⟩
  rw [continuationPacket, padReport]
  simp only [List.append_assoc]

section
variable (cid : UInt32) (command : CtapHidCommand) (payload : List UInt8)

theorem length_initPacket : (initPacket cid command payload).length = reportSize := by
  refine length_padReport ?_
  simp only [List.length_append, length_beBytes, List.length_singleton, List.length_take]
  have : reportSize = 64 := rfl
  omega

theorem reportCid_initPacket : reportCid (initPacket cid command payload) = cid := by
  obtain ⟨zeros, h⟩ := initPacket_eq cid command payload
  rw [h, List.append_assoc, reportCid_append]

theorem packetType_initPacket :
    packetType (initPacket cid command payload) = command.byte ||| typeInit := by
  obtain ⟨zeros, h⟩ := initPacket_eq cid command payload
  rw [h, packetType_append]

theorem isInit_initPacket : IsInit (initPacket cid command payload) := by
  rw [IsInit, packetType_initPacket]
  cases command <;> decide

theorem commandId_initPacket : commandId (initPacket cid command payload) = command.byte := by
  rw [commandId, packetType_initPacket]
  cases command <;> decide

theorem declaredLen_initPacket (h : payload.length < 65536) :
    declaredLen (initPacket cid command payload) = payload.length := by
  obtain ⟨zeros, he⟩ := initPacket_eq cid command payload
  rw [declaredLen, he, List.drop_left' (by simp), List.take_left' (length_beBytes 2 _),
    ofBeBytes_beBytes_of_lt (by simpa using h)]

/-- The data field of the first packet starts with the payload; what follows is padding. -/
theorem initData_initPacket :
    ∃ zeros, initData (initPacket cid command payload) = payload.take (reportSize - 7) ++
      zeros := by
  obtain ⟨zeros, h⟩ := initPacket_eq cid command payload
  refine ⟨zeros, ?_⟩
  rw [initData, h, ← List.append_assoc, List.drop_left' (by simp)]

end

theorem fromByte_byte (command : CtapHidCommand) :
    CtapHidCommand.fromByte command.byte = some command := by
  cases command <;> decide

section
variable (cid : UInt32) (sequence : UInt8) (chunk : List UInt8)

theorem length_continuationPacket (h : chunk.length ≤ reportSize - 5) :
    (continuationPacket cid sequence chunk).length = reportSize := by
  refine length_padReport ?_
  simp only [List.length_append, length_beBytes, List.length_singleton]
  have : reportSize = 64 := rfl
  omega

theorem reportCid_continuationPacket : reportCid (continuationPacket cid sequence chunk) = cid := by
  obtain ⟨zeros, h⟩ := continuationPacket_eq cid sequence chunk
  rw [h, List.append_assoc, reportCid_append]

theorem packetType_continuationPacket :
    packetType (continuationPacket cid sequence chunk) = sequence := by
  obtain ⟨zeros, h⟩ := continuationPacket_eq cid sequence chunk
  rw [h, packetType_append]

theorem continuationData_continuationPacket :
    ∃ zeros, continuationData (continuationPacket cid sequence chunk) = chunk ++ zeros := by
  obtain ⟨zeros, h⟩ := continuationPacket_eq cid sequence chunk
  refine ⟨zeros, ?_⟩
  rw [continuationData, h, List.drop_left' (by simp)]

end

/-- A sequence number below 128 keeps the top bit clear, so the packet is a continuation. -/
theorem not_isInit_of_lt {report : List UInt8} (h : (packetType report).toNat < 128) :
    ¬ IsInit report := by
  rw [IsInit, not_not, ← UInt8.toNat_inj, UInt8.toNat_and]
  refine Nat.eq_of_testBit_eq fun i => ?_
  rw [Nat.testBit_and, show typeInit.toNat = 2 ^ 7 from rfl, Nat.testBit_two_pow]
  by_cases hi : 7 = i
  · rw [← hi, Nat.testBit_lt_two_pow h]; rfl
  · simp [hi]

/-! ## One channel at a time -/

namespace PendingMap

@[simp] theorem remove_self (pending : PendingMap) (cid : UInt32) : pending.remove cid cid = none :=
  Function.update_self ..

@[simp] theorem remove_other {pending : PendingMap} {cid c : UInt32} (h : c ≠ cid) :
    pending.remove cid c = pending c :=
  Function.update_of_ne h ..

@[simp] theorem insert_self (pending : PendingMap) (cid : UInt32) (request : PendingRequest) :
    pending.insert cid request cid = some request :=
  Function.update_self ..

@[simp] theorem insert_other {pending : PendingMap} {cid c : UInt32} (request : PendingRequest)
    (h : c ≠ cid) : pending.insert cid request c = pending c :=
  Function.update_of_ne h ..

/-- What holds of all pending requests holds of them after one was removed. -/
theorem forall_remove {P : UInt32 → PendingRequest → Prop} {pending : PendingMap}
    (h : ∀ c request, pending c = some request → P c request) (cid : UInt32) :
    ∀ c request, pending.remove cid c = some request → P c request := by
  intro c request hc
  by_cases hcid : c = cid
  · subst hcid
    rw [remove_self] at hc
    cases hc
  · rw [remove_other hcid] at hc
    exact h c request hc

/-- What holds of all pending requests and of a new one holds of them together. -/
theorem forall_insert {P : UInt32 → PendingRequest → Prop} {pending : PendingMap}
    (h : ∀ c request, pending c = some request → P c request) (cid : UInt32)
    {request : PendingRequest} (hrequest : P cid request) :
    ∀ c request', pending.insert cid request c = some request' → P c request' := by
  intro c request' hc
  by_cases hcid : c = cid
  · subst hcid
    rw [insert_self] at hc
    cases hc
    exact hrequest
  · rw [insert_other request hcid] at hc
    exact h c request' hc

end PendingMap

/-- Everything `receive` can do with a report of the right size. -/
inductive Received (report : List UInt8) (pending : PendingMap) : Verdict × PendingMap → Prop
  /-- An initialisation packet that declares too much drops what was pending. -/
  | oversized (hinit : IsInit report) (hlen : maxPayloadSize < declaredLen report) :
    Received report pending
      (.reply (errorResponse (reportCid report) .length), pending.remove (reportCid report))
  /-- An initialisation packet with an unknown command is refused and changes nothing. -/
  | unknown (hinit : IsInit report) (hlen : declaredLen report ≤ maxPayloadSize)
    (hcommand : CtapHidCommand.fromByte (commandId report) = none) :
    Received report pending (.reply (errorResponse (reportCid report) .command), pending)
  /-- A message that fits into its first packet is complete. -/
  | short (hinit : IsInit report) (command : CtapHidCommand)
    (hcommand : CtapHidCommand.fromByte (commandId report) = some command)
    (hlen : declaredLen report ≤ reportSize - 7) :
    Received report pending
      (.dispatch (reportCid report) command ((initData report).take (declaredLen report)),
        pending.remove (reportCid report))
  /-- A longer message is begun, whatever was pending. -/
  | begun (hinit : IsInit report) (command : CtapHidCommand)
    (hcommand : CtapHidCommand.fromByte (commandId report) = some command)
    (hlong : reportSize - 7 < declaredLen report) (hlen : declaredLen report ≤ maxPayloadSize) :
    Received report pending (.needMore, pending.insert (reportCid report)
      ⟨reportCid report, command, declaredLen report, initData report, 0⟩)
  /-- A continuation on an idle channel is not for us. -/
  | stray (hinit : ¬ IsInit report) (hidle : pending (reportCid report) = none) :
    Received report pending (.ignored, pending)
  /-- A continuation out of order drops the request. -/
  | disordered (hinit : ¬ IsInit report) (request : PendingRequest)
    (hbusy : pending (reportCid report) = some request)
    (hseq : request.cid ≠ reportCid report ∨ request.nextSequence ≠ packetType report) :
    Received report pending
      (.reply (errorResponse request.cid .seq), pending.remove (reportCid report))
  /-- The two lengths are the wrong way round. -/
  | underflow (hinit : ¬ IsInit report) (request : PendingRequest)
    (hbusy : pending (reportCid report) = some request) (hcid : request.cid = reportCid report)
    (hseq : request.nextSequence = packetType report)
    (hlen : request.expectedLen < request.payload.length) :
    Received report pending (.panicked, pending)
  /-- The continuation that was missing completes the request. -/
  | completed (hinit : ¬ IsInit report) (request : PendingRequest)
    (hbusy : pending (reportCid report) = some request) (hcid : request.cid = reportCid report)
    (hseq : request.nextSequence = packetType report)
    (hle : request.payload.length ≤ request.expectedLen)
    (hlast : request.expectedLen ≤ request.payload.length + (reportSize - 5)) :
    Received report pending
      (.dispatch (reportCid report) request.command (request.payload ++
          (continuationData report).take (request.expectedLen - request.payload.length)),
        pending.remove (reportCid report))
  /-- Any other expected continuation extends it. -/
  | extended (hinit : ¬ IsInit report) (request : PendingRequest)
    (hbusy : pending (reportCid report) = some request) (hcid : request.cid = reportCid report)
    (hseq : request.nextSequence = packetType report)
    (hmore : request.payload.length + (reportSize - 5) < request.expectedLen) :
    Received report pending (.needMore, pending.insert (reportCid report)
      { request with
        payload := request.payload ++ continuationData report
        nextSequence := request.nextSequence + 1 })

/-- **What a report can do**, said once: every property of the reassembly below is a case analysis
on `Received`. -/
theorem receive_received {report : List UInt8} (hsize : report.length = reportSize)
    (pending : PendingMap) : Received report pending (receive report pending) := by
  have h64 : reportSize = 64 := rfl
  have hinitData : (initData report).length = reportSize - 7 := by
    rw [initData, List.length_drop, hsize]
  have hcontData : (continuationData report).length = reportSize - 5 := by
    rw [continuationData, List.length_drop, hsize]
  rw [receive, if_neg (not_not_intro hsize)]
  by_cases hinit : IsInit report
  · rw [if_pos hinit]
    simp only [handleInitPacket]
    by_cases hlen : maxPayloadSize < declaredLen report
    · rw [if_pos hlen]
      exact .oversized hinit hlen
    · rw [if_neg hlen]
      cases hcommand : CtapHidCommand.fromByte (commandId report) with
      | none => exact .unknown hinit (Nat.le_of_not_lt hlen) hcommand
      | some command =>
        dsimp only
        by_cases hshort : declaredLen report ≤ reportSize - 7
        · rw [Nat.min_eq_left hshort, if_pos (by rw [List.length_take]; omega)]
          exact .short hinit command hcommand hshort
        · rw [Nat.min_eq_right (by omega), if_neg (by rw [List.length_take]; omega),
            List.take_of_length_le (by omega)]
          exact .begun hinit command hcommand (by omega) (Nat.le_of_not_lt hlen)
  · rw [if_neg hinit, handleContinuationPacket]
    cases hbusy : pending (reportCid report) with
    | none => exact .stray hinit hbusy
    | some request =>
      dsimp only
      by_cases hseq : request.cid ≠ reportCid report ∨ request.nextSequence ≠ packetType report
      · rw [if_pos hseq]
        exact .disordered hinit request hbusy hseq
      · rw [if_neg hseq]
        rw [not_or, not_not, not_not] at hseq
        by_cases hunder : request.expectedLen < request.payload.length
        · rw [if_pos hunder]
          exact .underflow hinit request hbusy hseq.1 hseq.2 hunder
        · rw [if_neg hunder]
          have hgrown : ∀ n, (request.payload ++ (continuationData report).take n).length =
              request.payload.length + min n (reportSize - 5) := by
            intro n
            rw [List.length_append, List.length_take, hcontData]
          by_cases hlast : request.expectedLen ≤ request.payload.length + (reportSize - 5)
          · rw [Nat.min_eq_left (by omega), if_pos (by rw [hgrown]; omega), hseq.1]
            exact .completed hinit request hbusy hseq.1 hseq.2 (by omega) hlast
          · rw [Nat.min_eq_right (by omega), if_neg (by rw [hgrown]; omega),
              List.take_of_length_le (by omega)]
            exact .extended hinit request hbusy hseq.1 hseq.2 (by omega)

theorem receive_of_length_ne {report : List UInt8} (hsize : report.length ≠ reportSize)
    (pending : PendingMap) : receive report pending = (.ignored, pending) := by
  rw [receive, if_pos hsize]

/-- A report changes what is pending on its own channel only. -/
theorem receive_pending_other {report : List UInt8} {pending : PendingMap} {c : UInt32}
    (h : c ≠ reportCid report) : (receive report pending).2 c = pending c := by
  by_cases hsize : report.length = reportSize
  · have hr := receive_received hsize pending
    generalize receive report pending = r at hr
    cases hr <;> simp [h]
  · rw [receive_of_length_ne hsize]

/-- A request is dispatched on the channel of the report that completes it, and nothing is left
pending there. -/
theorem receive_dispatch {report : List UInt8} {pending : PendingMap} {cid : UInt32}
    {command : CtapHidCommand} {payload : List UInt8}
    (h : (receive report pending).1 = .dispatch cid command payload) :
    cid = reportCid report ∧ (receive report pending).2 cid = none := by
  by_cases hsize : report.length = reportSize
  · have hr := receive_received hsize pending
    generalize receive report pending = r at hr h
    cases hr <;> cases h <;> exact ⟨rfl, PendingMap.remove_self _ _⟩
  · rw [receive_of_length_ne hsize] at h
    cases h

namespace PacketHandler

variable {A E : Type} (authn : Authn A E)

theorem respond_pending (r : Outcome Empty Response × PacketHandler A) :
    (respond r).2.pending = r.2.pending := by
  obtain ⟨o, h⟩ := r
  cases o with
  | ok response => rfl
  | error e => nomatch e
  | panicked => rfl

/-- Dispatching removes nothing that is still there: `Cancel` clears its own channel, where the
request it came in was pending. -/
theorem dispatch_pending (env : E) {cid : UInt32} (command : CtapHidCommand) (payload : List UInt8)
    {h : PacketHandler A} (hidle : h.pending cid = none) :
    (dispatch authn env cid command payload h).2.pending = h.pending := by
  cases command with
  | init => simp only [dispatch]; split <;> rfl
  | cbor => simp only [dispatch]; split <;> rfl
  | cancel =>
    funext c
    by_cases hc : c = cid
    · subst hc
      exact (PendingMap.remove_self _ _).trans hidle.symm
    · exact PendingMap.remove_other hc
  | ping => rfl
  | wink => rfl
  | error => rfl

/-- **The `pending` map is `receive`'s business alone**, whatever a report makes the authenticator
do. -/
theorem handlePacket_pending (env : E) (report : List UInt8) (h : PacketHandler A) :
    (handlePacket authn env report h).2.pending = (receive report h.pending).2 := by
  have hd := @receive_dispatch report h.pending
  rw [handlePacket]
  cases hv : receive report h.pending with
  | mk v pending =>
    rw [hv] at hd
    cases v with
    | dispatch cid command payload =>
      have hidle : pending cid = none := (hd rfl).2
      exact (respond_pending _).trans (dispatch_pending authn env command payload hidle)
    | ignored => rfl
    | reply response => rfl
    | needMore => rfl
    | panicked => rfl

theorem handlePacket_of_needMore (env : E) {report : List UInt8} {h : PacketHandler A}
    (hv : (receive report h.pending).1 = .needMore) :
    (handlePacket authn env report h).1 = .ok (some .needMore) := by
  rw [handlePacket]
  cases hr : receive report h.pending with
  | mk v pending => rw [hr] at hv; dsimp only at hv; subst hv; rfl

end PacketHandler

/-! ## One message, packet by packet -/

/-- Whether a report is addressed to a channel.  Reports of the wrong size are addressed to
nobody. -/
def OnChannel (cid : UInt32) (report : List UInt8) : Prop :=
  report.length = reportSize ∧ reportCid report = cid

instance (cid : UInt32) (report : List UInt8) : Decidable (OnChannel cid report) := by
  unfold OnChannel; infer_instance

theorem receive_not_onChannel {report : List UInt8} {pending : PendingMap} {c : UInt32}
    (hc : ¬ OnChannel c report) : (receive report pending).2 c = pending c := by
  by_cases hl : report.length = reportSize
  · exact receive_pending_other fun he => hc ⟨hl, he.symm⟩
  · rw [receive_of_length_ne hl]

/-- How far a channel has got with a message: the payload has arrived up to `offset`, and the next
packet carries number `sequence`. -/
structure Assembling (cid : UInt32) (command : CtapHidCommand) (payload : List UInt8)
    (offset : Nat) (sequence : UInt8) (state : Option PendingRequest) : Prop where
  /-- Every packet so far was full. -/
  offset_eq : offset = (reportSize - 7) + (reportSize - 5) * sequence.toNat
  /-- There is more to come. -/
  offset_lt : offset < payload.length
  /-- What the handler keeps. -/
  state_eq : state = some ⟨cid, command, payload.length, payload.take offset, sequence⟩

variable {cid : UInt32} {command : CtapHidCommand} {payload : List UInt8}

/-- **The first packet of a message.**  Whatever was pending on the channel, it starts the message
afresh; a message that fits is handed over at once. -/
theorem receive_initPacket (hlen : payload.length ≤ maxPayloadSize) (pending : PendingMap) :
    receive (initPacket cid command payload) pending =
      if payload.length ≤ reportSize - 7 then
        (.dispatch cid command payload, pending.remove cid)
      else
        (.needMore, pending.insert cid
          ⟨cid, command, payload.length, payload.take (reportSize - 7), 0⟩) := by
  have hmax : maxPayloadSize = 7609 := rfl
  have hsize : reportSize = 64 := rfl
  obtain ⟨zeros, hdata⟩ := initData_initPacket cid command payload
  have hdeclared := declaredLen_initPacket cid command payload (by omega)
  have hfirst : (initData (initPacket cid command payload)).take
      (min payload.length (reportSize - 7)) = payload.take (reportSize - 7) := by
    rw [hdata, List.take_append_of_le_length (by simp), List.take_take]
    by_cases h : payload.length ≤ reportSize - 7
    · rw [List.take_of_length_le (by omega), List.take_of_length_le h]
    · rw [show min (min payload.length (reportSize - 7)) (reportSize - 7) = reportSize - 7 by omega]
  rw [receive, if_neg (by rw [length_initPacket]; exact not_not_intro rfl),
    if_pos (isInit_initPacket cid command payload), reportCid_initPacket, commandId_initPacket]
  simp only [handleInitPacket, hdeclared, fromByte_byte, if_neg (Nat.not_lt.mpr hlen), hfirst,
    List.length_take]
  by_cases h : payload.length ≤ reportSize - 7
  · rw [if_pos h, if_pos (by omega), List.take_of_length_le h]
  · rw [if_neg h, if_neg (by omega)]

/-- **A later packet of a message.**  On a channel that waits for it, a continuation extends the
received part by its chunk, and the last one hands the message over. -/
theorem receive_continuationPacket (hlen : payload.length ≤ maxPayloadSize) {offset : Nat}
    {sequence : UInt8} {pending : PendingMap}
    (a : Assembling cid command payload offset sequence (pending cid)) :
    receive (continuationPacket cid sequence ((payload.drop offset).take
        (min (payload.length - offset) (reportSize - 5)))) pending =
      if payload.length - offset ≤ reportSize - 5 then
        (.dispatch cid command payload, pending.remove cid)
      else
        (.needMore, pending.insert cid ⟨cid, command, payload.length,
          payload.take (offset + (reportSize - 5)), sequence + 1⟩) := by
  have hmax : maxPayloadSize = 7609 := rfl
  have hsize : reportSize = 64 := rfl
  obtain ⟨hoff, hlt, hstate⟩ := a
  generalize hchunk : (payload.drop offset).take (min (payload.length - offset) (reportSize - 5)) =
    chunk
  have hlc : chunk.length = min (payload.length - offset) (reportSize - 5) := by
    rw [← hchunk, List.length_take, List.length_drop]; omega
  obtain ⟨zeros, hdata⟩ := continuationData_continuationPacket cid sequence chunk
  have hinit : ¬ IsInit (continuationPacket cid sequence chunk) := by
    refine not_isInit_of_lt ?_
    have hoff' : offset = 57 + 59 * sequence.toNat := hoff
    rw [packetType_continuationPacket]
    omega
  have htake : payload.take offset ++ chunk =
      payload.take (offset + min (payload.length - offset) (reportSize - 5)) := by
    rw [← hchunk, List.take_add]
  rw [receive, if_neg (by rw [length_continuationPacket _ _ _ (by omega)]; exact not_not_intro rfl),
    if_neg hinit, reportCid_continuationPacket, packetType_continuationPacket]
  simp only [handleContinuationPacket, hstate, ne_eq, not_true_eq_false, or_self, if_false,
    List.length_take, Nat.min_eq_left (Nat.le_of_lt hlt), hdata,
    if_neg (Nat.not_lt.mpr (Nat.le_of_lt hlt)), List.take_left' hlc, htake]
  by_cases h : payload.length - offset ≤ reportSize - 5
  · rw [if_pos h, if_pos (by omega), List.take_of_length_le (by omega)]
  · rw [if_neg h, if_neg (by omega), Nat.min_eq_right (by omega)]

theorem encodeContinuations_length (cid : UInt32) (payload : List UInt8) (fuel : Nat)
    (sequence : UInt8) : encodeContinuations cid payload fuel payload.length sequence = [] := by
  cases fuel with
  | zero => rfl
  | succ fuel => rw [encodeContinuations, if_neg (Nat.lt_irrefl _)]

/-- The chunks that are left are those of the next packet and of the packets after it. -/
theorem encodeContinuations_of_assembling {offset fuel : Nat} {sequence : UInt8}
    {state : Option PendingRequest} (a : Assembling cid command payload offset sequence state)
    (hfuel : payload.length ≤ offset + fuel) :
    ∃ fuel', payload.length ≤ offset + (reportSize - 5) + fuel' ∧
      encodeContinuations cid payload fuel offset sequence =
        continuationPacket cid sequence ((payload.drop offset).take
          (min (payload.length - offset) (reportSize - 5))) ::
        if payload.length - offset ≤ reportSize - 5 then []
        else encodeContinuations cid payload fuel' (offset + (reportSize - 5)) (sequence + 1) := by
  have hsize : reportSize = 64 := rfl
  have hlt := a.offset_lt
  cases fuel with
  | zero => omega
  | succ fuel =>
    refine ⟨fuel, by omega, ?_⟩
    rw [encodeContinuations, if_pos hlt]
    dsimp only
    congr 1
    by_cases h : payload.length - offset ≤ reportSize - 5
    · rw [if_pos h, Nat.min_eq_left h, show offset + (payload.length - offset) = payload.length by
        omega, encodeContinuations_length]
    · rw [if_neg h, Nat.min_eq_right (by omega)]

/-- After a continuation that was not the last one, the channel waits for the next. -/
theorem Assembling.next (hlen : payload.length ≤ maxPayloadSize) {offset : Nat} {sequence : UInt8}
    {state : Option PendingRequest} (a : Assembling cid command payload offset sequence state)
    (h : ¬ payload.length - offset ≤ reportSize - 5) :
    Assembling cid command payload (offset + (reportSize - 5)) (sequence + 1)
      (some ⟨cid, command, payload.length, payload.take (offset + (reportSize - 5)),
        sequence + 1⟩) := by
  have hmax : maxPayloadSize = 7609 := rfl
  have hoff : offset = 57 + 59 * sequence.toNat := a.offset_eq
  have hsize : reportSize = 64 := rfl
  have hseq : (sequence + 1).toNat = sequence.toNat + 1 := by
    rw [UInt8.toNat_add]
    have : (1 : UInt8).toNat = 1 := rfl
    omega
  refine ⟨?_, by omega, rfl⟩
  rw [hseq, hsize]
  omega

/-- What a channel expects: the packets of the message that are still to come, given what the
handler keeps for the channel. -/
inductive Expects (cid : UInt32) (command : CtapHidCommand) (payload : List UInt8) :
    Option PendingRequest → List (List UInt8) → Prop
  /-- Nothing has been sent: the state of the channel does not matter. -/
  | start (state : Option PendingRequest) :
    Expects cid command payload state (encodeMessage cid command payload)
  /-- The message is under way. -/
  | middle {state : Option PendingRequest} {offset fuel : Nat} {sequence : UInt8}
    (a : Assembling cid command payload offset sequence state)
    (hfuel : payload.length ≤ offset + fuel) :
    Expects cid command payload state (encodeContinuations cid payload fuel offset sequence)
  /-- The message is over. -/
  | done (state : Option PendingRequest) : Expects cid command payload state []

/-- **One packet of the message.**  The last one hands the message over; any other one leaves the
channel expecting the rest. -/
theorem receive_expected (hlen : payload.length ≤ maxPayloadSize) {pending : PendingMap}
    {packet : List UInt8} {rest : List (List UInt8)}
    (h : Expects cid command payload (pending cid) (packet :: rest)) :
    (rest = [] ∧ receive packet pending = (.dispatch cid command payload, pending.remove cid)) ∨
      (rest ≠ [] ∧ (receive packet pending).1 = .needMore ∧
        Expects cid command payload ((receive packet pending).2 cid) rest) := by
  have hsize : reportSize = 64 := rfl
  generalize hstate : pending cid = state at h
  generalize hall : packet :: rest = all at h
  cases h with
  | start =>
    rw [encodeMessage, List.cons.injEq] at hall
    obtain ⟨rfl, rfl⟩ := hall
    by_cases h : payload.length ≤ reportSize - 7
    · refine .inl ⟨?_, by rw [receive_initPacket hlen, if_pos h]⟩
      rw [Nat.min_eq_left h, encodeContinuations_length]
    · have a : Assembling cid command payload (reportSize - 7) 0
          (some ⟨cid, command, payload.length, payload.take (reportSize - 7), 0⟩) :=
        ⟨rfl, by omega, rfl⟩
      rw [receive_initPacket hlen, if_neg h, Nat.min_eq_right (by omega)]
      refine .inr ⟨?_, rfl, ?_⟩
      · have hfuel : payload.length ≤ (reportSize - 7) + payload.length := by omega
        obtain ⟨fuel, -, he⟩ := encodeContinuations_of_assembling a hfuel
        rw [he]
        exact List.cons_ne_nil _ _
      · dsimp only
        rw [PendingMap.insert_self]
        exact .middle a (by omega)
  | @middle offset fuel sequence a hfuel =>
    subst hstate
    obtain ⟨fuel', hfuel', he⟩ := encodeContinuations_of_assembling a hfuel
    rw [he, List.cons.injEq] at hall
    obtain ⟨rfl, rfl⟩ := hall
    rw [receive_continuationPacket hlen a]
    by_cases h : payload.length - offset ≤ reportSize - 5
    · rw [if_pos h, if_pos h]
      exact .inl ⟨rfl, rfl⟩
    · have a' := a.next hlen h
      rw [if_neg h, if_neg h]
      refine .inr ⟨?_, rfl, ?_⟩
      · obtain ⟨fuel'', -, he'⟩ := encodeContinuations_of_assembling a' hfuel'
        rw [he']
        exact List.cons_ne_nil _ _
      · dsimp only
        rw [PendingMap.insert_self]
        exact .middle a' hfuel'
  | done => cases hall

/-! ## A message among other traffic -/

section
variable {A E : Type} (authn : Authn A E)

/-- What must happen at a packet of the message, `later` being what arrives after it. -/
def Answers (cid : UInt32) (command : CtapHidCommand) (payload : List UInt8)
    (t : Run.Transition (PacketHandler A) (E × List UInt8) (Outcome Empty (Option PacketOutcome)))
    (later : List (E × List UInt8)) : Prop :=
  ((∃ input ∈ later, OnChannel cid input.2) → t.output = .ok (some .needMore)) ∧
  ((∀ input ∈ later, ¬ OnChannel cid input.2) →
    (receive t.input.2 t.before.pending).1 = .dispatch cid command payload ∧
    (t.output, t.after) = PacketHandler.respond (PacketHandler.dispatch authn t.input.1 cid command
      payload { t.before with pending := t.before.pending.remove cid }))

/-- A channel that expects the rest of a message gets it, whatever the other channels do
meanwhile.  The induction is on the reports; those of other channels leave `Expects` alone, and
`receive_expected` is the step for the others. -/
theorem answers_of_expects (hlen : payload.length ≤ maxPayloadSize) {pre post : List
    (Run.Transition (PacketHandler A) (E × List UInt8) (Outcome Empty (Option PacketOutcome)))}
    {t : Run.Transition (PacketHandler A) (E × List UInt8) (Outcome Empty (Option PacketOutcome))}
    {inputs : List (E × List UInt8)} {h : PacketHandler A} {remaining : List (List UInt8)}
    (hexp : Expects cid command payload (h.pending cid) remaining)
    (hmsg : (inputs.map Prod.snd).filter (OnChannel cid ·) = remaining)
    (ht : Run.transitions (PacketHandler.step authn) h inputs = pre ++ t :: post)
    (hcid : OnChannel cid t.input.2) :
    Answers authn cid command payload t (post.map Run.Transition.input) := by
  induction inputs generalizing h remaining pre with
  | nil => simp [Run.transitions] at ht
  | cons input inputs ih =>
    rw [Run.transitions] at ht
    by_cases hon : OnChannel cid input.2
    · rw [List.map_cons, List.filter_cons_of_pos (by simpa using hon)] at hmsg
      rw [← hmsg] at hexp
      cases pre with
      | nil =>
        rw [List.nil_append, List.cons.injEq] at ht
        obtain ⟨rfl, rfl⟩ := ht
        rw [Run.map_input_transitions]
        rcases receive_expected hlen hexp with ⟨hnil, hrec⟩ | ⟨hne, hmore, -⟩
        · refine ⟨fun hlater => ?_, fun _ => ⟨by rw [Run.transition, hrec], ?_⟩⟩
          · obtain ⟨later, hm, hl⟩ := hlater
            have := List.filter_eq_nil_iff.mp hnil later.2 (List.mem_map_of_mem hm)
            exact absurd hl (by simpa using this)
          · simp only [Run.transition, PacketHandler.step, PacketHandler.handlePacket, hrec]
        · refine ⟨fun _ => ?_, fun hl => absurd ?_ hne⟩
          · exact PacketHandler.handlePacket_of_needMore authn _ hmore
          · rw [List.filter_eq_nil_iff]
            intro report hm
            obtain ⟨later, hm', rfl⟩ := List.mem_map.mp hm
            simpa using hl later hm'
      | cons t₀ pre =>
        rw [List.cons_append, List.cons.injEq] at ht
        rcases receive_expected hlen hexp with ⟨hnil, hrec⟩ | ⟨-, hmore, hexp'⟩
        · refine ih (.done _) hnil ht.2
        · rw [← PacketHandler.handlePacket_pending authn input.1] at hexp'
          exact ih hexp' rfl ht.2
    · rw [List.map_cons, List.filter_cons_of_neg (by simpa using hon)] at hmsg
      cases pre with
      | nil =>
        rw [List.nil_append, List.cons.injEq] at ht
        obtain ⟨rfl, -⟩ := ht
        exact absurd hcid hon
      | cons t₀ pre =>
        rw [List.cons_append, List.cons.injEq] at ht
        refine ih ?_ hmsg ht.2
        rwa [PacketHandler.step, PacketHandler.handlePacket_pending, receive_not_onChannel hon]

/-- **Framing round-trips under interleaving.**  Take any run of reports in which the reports on
channel `cid` are the packets of one message, in order: any starting state, any traffic on the
other channels in between.  Then every packet of the message but the last is answered with
"need more", and the last one makes the handler dispatch exactly that message. -/
theorem handlePacket_encodeMessage (cid : UInt32) (command : CtapHidCommand) (payload : List UInt8)
    (hlen : payload.length ≤ maxPayloadSize) (h : PacketHandler A)
    (inputs : List (E × List UInt8))
    (hmsg : (inputs.map Prod.snd).filter (OnChannel cid ·) = encodeMessage cid command payload)
    {pre post : List
      (Run.Transition (PacketHandler A) (E × List UInt8) (Outcome Empty (Option PacketOutcome)))}
    {t : Run.Transition (PacketHandler A) (E × List UInt8) (Outcome Empty (Option PacketOutcome))}
    (ht : Run.transitions (PacketHandler.step authn) h inputs = pre ++ t :: post)
    (hcid : OnChannel cid t.input.2) :
    Answers authn cid command payload t (post.map Run.Transition.input) :=
  answers_of_expects authn hlen (.start _) hmsg ht hcid

/-- A 100-byte ping on channel 7, with a ping on channel 9 between its two packets. -/
theorem handlePacket_encodeMessage_ping :
    let authn : Authn Unit Unit := ⟨fun _ _ => pure [], fun a => a⟩
    let packets := encodeMessage 7 .ping (List.replicate 100 0xaa)
    let inputs := [((), packets[0]!), ((), initPacket 9 .ping [1, 2, 3]), ((), packets[1]!)]
    let run := Run.transitions (PacketHandler.step authn) (PacketHandler.new ()) inputs
    (run[0]?.map fun t => t.output) = some (.ok (some .needMore)) ∧
    (run[2]?.map fun t => (receive t.input.2 t.before.pending).1) =
      some (.dispatch 7 .ping (List.replicate 100 0xaa)) := by
  intro authn packets inputs run
  have hlen : (List.replicate 100 (0xaa : UInt8)).length ≤ maxPayloadSize := by decide
  have hmsg : (inputs.map Prod.snd).filter (OnChannel 7 ·) =
      encodeMessage 7 .ping (List.replicate 100 0xaa) := by decide +kernel
  have h0 := @handlePacket_encodeMessage _ _ authn 7 .ping (List.replicate 100 0xaa) hlen
    (PacketHandler.new ()) inputs hmsg [] _ _ rfl (by decide +kernel)
  have h2 := @handlePacket_encodeMessage _ _ authn 7 .ping (List.replicate 100 0xaa) hlen
    (PacketHandler.new ()) inputs hmsg (run.take 2) _ _ rfl (by decide +kernel)
  refine ⟨congrArg some (h0.1 ⟨((), packets[1]!), ?_, by decide +kernel⟩), ?_⟩
  · exact List.mem_cons_of_mem _ (List.mem_cons_self ..)
  · exact congrArg some (h2.2 (by intro input hm; cases hm)).1

end

end CtapHid
end TpmFido2
