import TpmFido2.Transport
import TpmFido2.Ctap2.Safety

/-!
# The daemon survives its clients

`TpmFido2.Ctap2.Safety` is about the panics that the model of the authenticator has.  This file is
about the rest of the way from a report to the answer.

* Ranges and differences.  The model cuts byte strings up with `take` and `drop`, which are defined
  everywhere; the source has `report[7..7 + first_len]`.  The functions of `Checked` are those of
  the source that have a range or a difference of lengths in them, word for word, and `none` is a
  range that is not there.  `accessesInRange` and `checked_receive` are that they never are `none`,
  and that they compute what the model has.
* The packet handler, which subtracts the length of what it has from the length it waits for.  The
  invariant is `PendingOpen`.
* The two together: `Daemon.step` is the handler with the authenticator behind it, to which
  everything else may happen between two reports.

The main result is **`survives_of_careful`**.  `client_panics` has two clients that are not careful.
-/

set_option autoImplicit false

namespace TpmFido2

open Bytes CtapHid
open Ctap2 (World Env Event Reply Sound Careful shiftedBy newAuthenticator)

/-! ## Ranges and differences -/

namespace Checked

section
variable (crates : Crates)

/-- The comparison of `validate_pin_uv_auth` and `verify_pin_uv_auth_param`. -/
def isAuthParam (key authParam message : List UInt8) : Option Bool :=
  if authParam.length ≠ 16 ∧ authParam.length ≠ 32 then some false
  else do
    let expected ← slice? (crates.hmacSha256 key message) 0 authParam.length
    return Store.constantTimeEqual expected authParam

/-- `decrypt_aes`. -/
def decryptAes (key ciphertext : List UInt8) : Option (Except Ctap2.ErrorStatus (List UInt8)) :=
  if ciphertext.length < 16 ∨ ciphertext.length % 16 ≠ 0 then some (.error .invalidParameter)
  else do
    let iv ← slice? ciphertext 0 16
    let data ← slice? ciphertext 16 ciphertext.length
    return .ok (crates.aesCbcDecrypt key iv data)

/-- `decrypt_pin`. -/
def decryptPin (key encrypted : List UInt8) : Option (Except Ctap2.ErrorStatus (List UInt8)) := do
  match ← decryptAes crates key encrypted with
  | .error e => return .error e
  | .ok decrypted =>
    match decrypted.findIdx? (· = 0) with
    | none => return .ok decrypted
    | some firstZero => do
      let padding ← slice? decrypted firstZero decrypted.length
      if padding.any (· ≠ 0) then return .error .pinPolicyViolation
      else do
        let pin ← slice? decrypted 0 firstZero
        return .ok pin

/-- The coordinates in `key_agreement_response`. -/
def coordinates (secret : List UInt8) : Option (List UInt8 × List UInt8) := do
  let x ← slice? (crates.publicKey secret) 1 33
  let y ← slice? (crates.publicKey secret) 33 65
  return (x, y)

end

/-- The check of a length in `set_pin` and `change_pin`. -/
def isBlocks (encrypted : List UInt8) : Option Bool :=
  if encrypted.length < 16 then some false
  else do
    let rest ← sub? encrypted.length 16
    return rest % 16 = 0

/-- `der_integer`. -/
def derInteger (value : List UInt8) : Option (List UInt8) := do
  let firstNonzero := (value.findIdx? (· ≠ 0)).getD value.length
  let integer ←
    if firstNonzero = value.length then some [0] else slice? value firstNonzero value.length
  let first ← integer[0]?
  let integer := if first &&& 0x80 ≠ 0 then 0 :: integer else integer
  return [0x02, UInt8.ofNat integer.length] ++ integer

/-- `PacketHandler::handle_init_packet`. -/
def handleInitPacket (cid : UInt32) (commandId : UInt8) (report : List UInt8)
    (pending : PendingMap) : Option (Verdict × PendingMap) := do
  let high ← report[5]?
  let low ← report[6]?
  let payloadLen := ofBeBytes [high, low]
  if maxPayloadSize < payloadLen then
    return (.reply (errorResponse cid .length), pending.remove cid)
  else
    match CtapHidCommand.fromByte commandId with
    | none => return (.reply (errorResponse cid .command), pending)
    | some command => do
      let firstLen := min payloadLen (reportSize - 7)
      let payload ← slice? report 7 (7 + firstLen)
      if payload.length = payloadLen then
        return (.dispatch cid command payload, pending.remove cid)
      else
        return (.needMore, pending.insert cid ⟨cid, command, payloadLen, payload, 0⟩)

/-- `PacketHandler::handle_continuation_packet`. -/
def handleContinuationPacket (cid : UInt32) (sequence : UInt8) (report : List UInt8)
    (pending : PendingMap) : Option (Verdict × PendingMap) :=
  match pending cid with
  | none => some (.ignored, pending)
  | some request =>
    if request.cid ≠ cid ∨ request.nextSequence ≠ sequence then
      some (.reply (errorResponse request.cid .seq), pending.remove cid)
    else do
      let remaining ← sub? request.expectedLen request.payload.length
      let chunkLen := min remaining (reportSize - 5)
      let chunk ← slice? report 5 (5 + chunkLen)
      let request := { request with payload := request.payload ++ chunk }
      if request.payload.length = request.expectedLen then do
        let removed ← pending.insert cid request cid
        return (.dispatch removed.cid removed.command removed.payload, pending.remove cid)
      else
        return (.needMore,
          pending.insert cid { request with nextSequence := request.nextSequence + 1 })

/-- `PacketHandler::handle_packet`, up to the call of `dispatch`. -/
def receive (report : List UInt8) (pending : PendingMap) : Option (Verdict × PendingMap) :=
  if report.length ≠ reportSize then some (.ignored, pending)
  else do
    let cid ← slice? report 0 4
    let packetType ← report[4]?
    if packetType &&& typeInit ≠ 0 then
      handleInitPacket (UInt32.ofNat (ofBeBytes cid)) (packetType &&& ~~~typeInit) report pending
    else
      handleContinuationPacket (UInt32.ofNat (ofBeBytes cid)) packetType report pending

end Checked

/-- **No access is out of range** in the functions on byte strings: with every access checked, they
compute what they compute in the model. -/
structure AccessesInRange (crates : Crates) : Prop where
  isAuthParam : ∀ key authParam message,
    Checked.isAuthParam crates key authParam message =
      some (Ctap2.isAuthParam crates key authParam message)
  decryptAes : ∀ key ciphertext,
    Checked.decryptAes crates key ciphertext = some (Ctap2.decryptAes crates key ciphertext)
  decryptPin : ∀ key encrypted,
    Checked.decryptPin crates key encrypted = some (Ctap2.decryptPin crates key encrypted)
  coordinates : ∀ secret, Checked.coordinates crates secret =
    some (((crates.publicKey secret).drop 1).take 32, ((crates.publicKey secret).drop 33).take 32)
  pinHash : ∀ pin, slice? (crates.sha256 pin) 0 16 = some ((crates.sha256 pin).take 16)
  computePinUvAuthParam : ∀ key message,
    slice? (crates.hmacSha256 key message) 0 16 = some ((crates.hmacSha256 key message).take 16)
  isBlocks : ∀ encrypted, Checked.isBlocks encrypted = some (Ctap2.isBlocks encrypted)
  derInteger : ∀ value, Checked.derInteger value = some (TpmFido2.derInteger value)

section
variable (crates : Crates)

theorem checked_isAuthParam (key authParam message : List UInt8) :
    Checked.isAuthParam crates key authParam message =
      some (Ctap2.isAuthParam crates key authParam message) := by
  rw [Checked.isAuthParam, Ctap2.isAuthParam]
  split
  · next h => simp [h.1, h.2]
  · next h =>
    have hlen : authParam.length = 16 ∨ authParam.length = 32 := by omega
    have hle : authParam.length ≤ (crates.hmacSha256 key message).length := by
      rw [crates.length_hmacSha256]
      omega
    rw [slice?_zero hle]
    simp [hlen]

theorem checked_decryptAes (key ciphertext : List UInt8) :
    Checked.decryptAes crates key ciphertext = some (Ctap2.decryptAes crates key ciphertext) := by
  rw [Checked.decryptAes, Ctap2.decryptAes]
  split
  · rfl
  · next h =>
    have hle : 16 ≤ ciphertext.length := by omega
    rw [slice?_zero hle, slice?_length hle]
    rfl

theorem checked_decryptPin (key encrypted : List UInt8) :
    Checked.decryptPin crates key encrypted = some (Ctap2.decryptPin crates key encrypted) := by
  rw [Checked.decryptPin, Ctap2.decryptPin, checked_decryptAes]
  cases Ctap2.decryptAes crates key encrypted with
  | error e => rfl
  | ok decrypted =>
    have hpin : decrypted.takeWhile (· ≠ 0) = decrypted.take (decrypted.findIdx (· = 0)) := by
      simp [List.takeWhile_eq_take_findIdx_not]
    have hle : decrypted.findIdx (· = 0) ≤ decrypted.length := List.findIdx_le_length
    change (match decrypted.findIdx? (· = 0) with
      | none => some (Except.ok decrypted)
      | some firstZero => _) = some (if (decrypted.drop (decrypted.takeWhile (· ≠ 0)).length).any
        (· ≠ 0) then _ else _)
    rw [hpin, List.length_take_of_le hle]
    cases hzero : decrypted.findIdx? (· = 0) with
    | none =>
      rw [List.findIdx?_eq_none_iff_findIdx_eq.mp hzero]
      simp
    | some firstZero =>
      obtain ⟨-, rfl⟩ := List.findIdx?_eq_some_iff_findIdx_eq.mp hzero
      simp only [slice?_length hle, slice?_zero hle, Option.bind_eq_bind, Option.bind_some]
      split <;> rfl

theorem checked_isBlocks (encrypted : List UInt8) :
    Checked.isBlocks encrypted = some (Ctap2.isBlocks encrypted) := by
  rw [Checked.isBlocks, Ctap2.isBlocks]
  split
  · next h => simp [Nat.not_le.mpr h]
  · next h =>
    have hle : 16 ≤ encrypted.length := by omega
    rw [sub?_of_le hle]
    simp [hle]

theorem checked_derInteger (value : List UInt8) :
    Checked.derInteger value = some (derInteger value) := by
  have hfirst : (value.findIdx? (· ≠ 0)).getD value.length = value.findIdx (· ≠ 0) := by
    cases h : value.findIdx? (· ≠ 0) with
    | none => exact (List.findIdx?_eq_none_iff_findIdx_eq.mp h).symm
    | some i => exact (List.findIdx?_eq_some_iff_findIdx_eq.mp h).2.symm
  have hsignificant : value.dropWhile (· = 0) = value.drop (value.findIdx (· ≠ 0)) := by
    simp [List.dropWhile_eq_drop_findIdx_not]
  have hle : value.findIdx (· ≠ 0) ≤ value.length := List.findIdx_le_length
  rw [Checked.derInteger, derInteger, hfirst, hsignificant, slice?_length hle]
  simp only [List.drop_eq_nil_iff]
  by_cases hzero : value.findIdx (· ≠ 0) = value.length
  · rw [if_pos hzero, if_pos hzero.ge]
    rfl
  · -- what is left has a first byte
    have hlt : value.findIdx (· ≠ 0) < value.length := Nat.lt_of_le_of_ne hle hzero
    rw [if_neg hzero, if_neg (Nat.not_le.mpr hlt), List.drop_eq_getElem_cons hlt]
    rfl

theorem accessesInRange : AccessesInRange crates where
  isAuthParam := checked_isAuthParam crates
  decryptAes := checked_decryptAes crates
  decryptPin := checked_decryptPin crates
  coordinates secret := by
    have hlen := crates.length_publicKey secret
    rw [Checked.coordinates, slice?_of_le (by omega) (by omega), slice?_of_le (by omega) (by omega)]
    rfl
  pinHash pin := slice?_zero (by rw [crates.length_sha256]; omega)
  computePinUvAuthParam key message := slice?_zero (by rw [crates.length_hmacSha256]; omega)
  isBlocks := checked_isBlocks
  derInteger := checked_derInteger

end

/-! ## The packet handler -/

/-- Every pending request waits for something. -/
def PendingOpen (pending : PendingMap) : Prop :=
  ∀ cid request, pending cid = some request → request.payload.length ≤ request.expectedLen

/-- **One report**: no underflow, and what is pending then waits for something, too. -/
theorem receive_open {report : List UInt8} {pending : PendingMap} (h : PendingOpen pending) :
    (receive report pending).1 ≠ .panicked ∧ PendingOpen (receive report pending).2 := by
  have h64 : reportSize = 64 := rfl
  by_cases hsize : report.length = reportSize
  · have hr := receive_received hsize pending
    generalize receive report pending = r at hr ⊢
    cases hr with
    | oversized => exact ⟨nofun, PendingMap.forall_remove h _⟩
    | unknown => exact ⟨nofun, h⟩
    | short => exact ⟨nofun, PendingMap.forall_remove h _⟩
    | begun _ _ _ hlong _ =>
      refine ⟨nofun, PendingMap.forall_insert h _ ?_⟩
      change (report.drop 7).length ≤ declaredLen report
      rw [List.length_drop]
      omega
    | stray => exact ⟨nofun, h⟩
    | disordered => exact ⟨nofun, PendingMap.forall_remove h _⟩
    | underflow _ request hbusy _ _ hlen =>
      have := h _ _ hbusy
      omega
    | completed => exact ⟨nofun, PendingMap.forall_remove h _⟩
    | extended _ request _ _ _ hmore =>
      refine ⟨nofun, PendingMap.forall_insert h _ ?_⟩
      change (request.payload ++ report.drop 5).length ≤ request.expectedLen
      rw [List.length_append, List.length_drop]
      omega
  · rw [receive_of_length_ne hsize]
    exact ⟨nofun, h⟩

theorem checked_handleInitPacket {report : List UInt8} (hsize : report.length = reportSize)
    (cid : UInt32) (commandId : UInt8) (pending : PendingMap) :
    Checked.handleInitPacket cid commandId report pending =
      some (handleInitPacket cid commandId report pending) := by
  have h64 : reportSize = 64 := rfl
  have hhigh : 5 < report.length := by omega
  have hlow : 6 < report.length := by omega
  have hlength : declaredLen report = ofBeBytes [report[5], report[6]] := by
    rw [declaredLen, List.drop_eq_getElem_cons hhigh, List.drop_eq_getElem_cons hlow]
    rfl
  have hdata : slice? report 7 (7 + min (declaredLen report) (reportSize - 7)) =
      some ((initData report).take (min (declaredLen report) (reportSize - 7))) := by
    rw [slice?_of_le (by omega) (by omega), Nat.add_sub_cancel_left]
    rfl
  rw [Checked.handleInitPacket, List.getElem?_eq_getElem hhigh, List.getElem?_eq_getElem hlow]
  simp only [Option.bind_eq_bind, Option.bind_some, ← hlength, hdata, handleInitPacket]
  split
  · rfl
  · cases CtapHidCommand.fromByte commandId with
    | none => rfl
    | some command =>
      dsimp only
      split <;> rfl

theorem checked_handleContinuationPacket {report : List UInt8} (hsize : report.length = reportSize)
    {pending : PendingMap} (h : PendingOpen pending) (cid : UInt32) (sequence : UInt8) :
    Checked.handleContinuationPacket cid sequence report pending =
      some (handleContinuationPacket cid sequence report pending) := by
  have h64 : reportSize = 64 := rfl
  rw [Checked.handleContinuationPacket, handleContinuationPacket]
  cases hbusy : pending cid with
  | none => rfl
  | some request =>
    have hopen := h _ _ hbusy
    have hdata : slice? report 5
        (5 + min (request.expectedLen - request.payload.length) (reportSize - 5)) =
          some ((continuationData report).take
            (min (request.expectedLen - request.payload.length) (reportSize - 5))) := by
      rw [slice?_of_le (by omega) (by omega), Nat.add_sub_cancel_left]
      rfl
    dsimp only
    split
    · rfl
    · rw [if_neg (Nat.not_lt.mpr hopen), sub?_of_le hopen]
      simp only [Option.bind_eq_bind, Option.bind_some, hdata, PendingMap.insert_self]
      split <;> rfl

/-- **The packet handler has no access out of range.** -/
theorem checked_receive {pending : PendingMap} (h : PendingOpen pending) (report : List UInt8) :
    Checked.receive report pending = some (receive report pending) := by
  have h64 : reportSize = 64 := rfl
  rw [Checked.receive, receive]
  split
  · rfl
  · next hsize =>
    have hsize : report.length = reportSize := not_not.mp hsize
    have htype : report[4]? = some (packetType report) := by
      rw [packetType, List.getD_eq_getElem?_getD, List.getElem?_eq_getElem (by omega)]
      rfl
    rw [slice?_zero (by omega), htype]
    simp only [Option.bind_eq_bind, Option.bind_some]
    split
    · next hinit =>
      rw [if_pos (show IsInit report from hinit)]
      exact checked_handleInitPacket hsize _ _ _
    · next hinit =>
      rw [if_neg (show ¬ IsInit report from hinit)]
      exact checked_handleContinuationPacket hsize h _ _

/-! ## The daemon -/

namespace Daemon

/-- What the daemon is given. -/
inductive Input where
  /-- A report of a client. -/
  | report (env : Env) (report : List UInt8)
  /-- Something that happens to the authenticator without the packet handler. -/
  | event (event : Event)

/-- What it answers. -/
inductive Output where
  | packet (outcome : Option PacketOutcome)
  | reply (reply : Reply)
  | panicked
deriving DecidableEq, Repr

/-- The input comes from a client. -/
def Input.isClient : Input → Bool
  | .report _ _ => true
  | .event (.cbor _ _) => true
  | .event _ => false

/-- The TPM, as the input finds it. -/
def Input.device : Input → Option TpmDevice
  | .report env _ => some env.tpm
  | .event e => e.device

/-- What the authenticator gets to see of an input. -/
def Input.seen (h : PacketHandler World) : Input → Option Event
  | .report env bytes =>
    match (receive bytes h.pending).1 with
    | .dispatch _ .cbor payload => some (.cbor env payload)
    | .dispatch _ .cancel _ => some .cancel
    | _ => none
  | .event e => some e

section
variable (crates : Crates)

/-- The packet handler with the authenticator that a step has left; a start begins with a new
one. -/
def afterEvent (h : PacketHandler World) (event : Event) (w : World) : PacketHandler World :=
  match event with
  | .start _ _ => PacketHandler.new w
  | _ => { h with authenticator := w }

/-- One step of the daemon. -/
def step (h : PacketHandler World) (input : Input) : Output × PacketHandler World :=
  match input with
  | .report env report =>
    match PacketHandler.handlePacket (ctap2Authn crates) env report h with
    | (.ok outcome, h') => (.packet outcome, h')
    | (.panicked, h') => (.panicked, h')
  | .event event =>
    match Ctap2.step crates h.authenticator event with
    | (.panicked, w) => (.panicked, afterEvent h event w)
    | (reply, w) => (.reply reply, afterEvent h event w)

/-- A step of a run of the daemon. -/
abbrev Step := Run.Transition (PacketHandler World) Input Output

/-- The steps of the daemon that starts on a store. -/
abbrev run (env : Env) (tpmPath : Option String) (s : Store) (inputs : List Input) : List Step :=
  Run.transitions (step crates) (PacketHandler.new (newAuthenticator crates env tpmPath s)) inputs

/-- **The daemon survives a step**: what a client sends is answered, the report is not read out of
range, and no shift is by the width of a word or more, which a build with overflow checks does not
survive. -/
structure Survives (t : Step) : Prop where
  returns : t.input.isClient → t.output ≠ .panicked
  accesses : ∀ env report, t.input = .report env report →
    Checked.receive report t.before.pending = some (receive report t.before.pending)
  shifts : ∀ env payload, t.input.seen t.before = some (.cbor env payload) →
    ∀ i ∈ shiftedBy crates env t.before.authenticator, i < 32

/-- What the authenticator sees of the input is careful. -/
def CarefulInput (h : PacketHandler World) (input : Input) : Prop :=
  ∀ event ∈ input.seen h, Careful crates h.authenticator event

instance (h : PacketHandler World) (input : Input) : Decidable (CarefulInput crates h input) :=
  inferInstanceAs (Decidable (∀ event ∈ input.seen h, Careful crates h.authenticator event))

/-- The invariant of the daemon. -/
structure Alive (h : PacketHandler World) : Prop where
  pending : PendingOpen h.pending
  sound : Sound crates h.authenticator

end

variable {crates : Crates} {h : PacketHandler World} {input : Input}

/-! ## One step -/

/-- **A report is an event of the authenticator, or nothing to it.** -/
theorem handlePacket_authenticator (env : Env) (report : List UInt8) (h : PacketHandler World) :
    (PacketHandler.handlePacket (ctap2Authn crates) env report h).2.authenticator =
      match (Input.report env report).seen h with
      | none => h.authenticator
      | some event => (Ctap2.step crates h.authenticator event).2 := by
  rw [PacketHandler.handlePacket, Input.seen]
  cases receive report h.pending with
  | mk verdict pending =>
    cases verdict with
    | ignored => rfl
    | reply _ => rfl
    | needMore => rfl
    | panicked => rfl
    | dispatch cid command payload =>
      cases command with
      | init =>
        simp only [PacketHandler.dispatch]
        split <;> rfl
      | ping => rfl
      | wink => rfl
      | cancel => rfl
      | error => rfl
      | cbor =>
        simp only [PacketHandler.dispatch, Ctap2.step, ctap2Authn]
        cases Ctap2.handleCbor crates env payload h.authenticator with
        | mk o w =>
          cases o with
          | ok _ => rfl
          | error e => exact e.elim
          | panicked => rfl

/-- It panics in two places: in the difference of the lengths, and in the authenticator. -/
theorem handlePacket_safe {env : Env} {report : List UInt8}
    (hreceive : (receive report h.pending).1 ≠ .panicked)
    (hcbor : ∀ payload, (Input.report env report).seen h = some (.cbor env payload) →
      Handler.Safe (Ctap2.handleCbor crates env payload) h.authenticator) :
    Handler.Safe (PacketHandler.handlePacket (ctap2Authn crates) env report) h := by
  rw [Input.seen] at hcbor
  rw [Handler.Safe, PacketHandler.handlePacket]
  cases hv : receive report h.pending with
  | mk verdict pending =>
    rw [hv] at hreceive hcbor
    cases verdict with
    | ignored => exact Outcome.ok_ne_panicked _
    | reply _ => exact Outcome.ok_ne_panicked _
    | needMore => exact Outcome.ok_ne_panicked _
    | panicked => exact absurd rfl hreceive
    | dispatch cid command payload =>
      cases command with
      | init =>
        simp only [PacketHandler.dispatch]
        split <;> exact Outcome.ok_ne_panicked _
      | ping => exact Outcome.ok_ne_panicked _
      | wink => exact Outcome.ok_ne_panicked _
      | cancel => exact Outcome.ok_ne_panicked _
      | error => exact Outcome.ok_ne_panicked _
      | cbor =>
        have hsafe := hcbor payload rfl
        rw [Handler.Safe] at hsafe
        simp only [PacketHandler.dispatch, ctap2Authn]
        cases hr : Ctap2.handleCbor crates env payload h.authenticator with
        | mk o w =>
          rw [hr] at hsafe
          cases o with
          | ok _ => exact Outcome.ok_ne_panicked _
          | error e => exact e.elim
          | panicked => exact absurd rfl hsafe

/-- **A careful step keeps the invariant.** -/
theorem Alive.step (hcrates : crates.ReadsWritable) (halive : Alive crates h)
    (hdevice : ∀ device, input.device = some device → device.CreatesPoints crates)
    (hcareful : CarefulInput crates h input) : Alive crates (step crates h input).2 := by
  cases input with
  | report env report =>
    have hnext : (Daemon.step crates h (.report env report)).2 =
        (PacketHandler.handlePacket (ctap2Authn crates) env report h).2 := by
      rw [Daemon.step]
      cases PacketHandler.handlePacket (ctap2Authn crates) env report h with
      | mk o h' =>
        cases o with
        | ok _ => rfl
        | error e => nomatch e
        | panicked => rfl
    rw [hnext]
    refine ⟨?_, ?_⟩
    · rw [PacketHandler.handlePacket_pending]
      exact (receive_open halive.pending).2
    · rw [handlePacket_authenticator]
      cases hseen : (Input.report env report).seen h with
      | none => exact halive.sound
      | some event =>
        refine Ctap2.step_sound hcrates (fun device hd ↦ hdevice device ?_) halive.sound
          (hcareful event hseen)
        -- the request is made in the environment of the report
        rw [Input.seen] at hseen
        split at hseen
        · cases hseen
          exact hd
        · cases hseen
          cases hd
        · cases hseen
  | event event =>
    have hsound := Ctap2.step_sound hcrates hdevice halive.sound (hcareful event rfl)
    have hnext : (Daemon.step crates h (.event event)).2 =
        afterEvent h event (Ctap2.step crates h.authenticator event).2 := by
      rw [Daemon.step]
      split <;> next heq => rw [heq]
    rw [hnext]
    unfold afterEvent
    split
    · refine ⟨fun _ _ hnone ↦ ?_, hsound⟩
      cases hnone
    · exact ⟨halive.pending, hsound⟩

/-- **A careful step is survived.** -/
theorem Alive.survives (halive : Alive crates h)
    (hdevice : ∀ device, input.device = some device → device.CreatesPoints crates)
    (hcareful : CarefulInput crates h input) :
    Survives crates (Run.transition (Daemon.step crates) h input) where
  returns hclient := by
    cases input with
    | report env report =>
      have hsafe : Handler.Safe (PacketHandler.handlePacket (ctap2Authn crates) env report) h :=
        handlePacket_safe (receive_open halive.pending).1 fun payload hseen ↦
          Ctap2.handleCbor_safe halive.sound (hdevice _ rfl) (hcareful _ hseen)
      rw [Handler.Safe] at hsafe
      change (Daemon.step crates h (.report env report)).1 ≠ .panicked
      rw [Daemon.step]
      split
      · rintro ⟨⟩
      · next heq => exact absurd (congrArg Prod.fst heq) hsafe
    | event event =>
      cases event with
      | cbor env payload =>
        have hsafe : Handler.Safe (Ctap2.handleCbor crates env payload) h.authenticator :=
          Ctap2.handleCbor_safe halive.sound (hdevice _ rfl) (hcareful _ rfl)
        rw [Handler.Safe] at hsafe
        change (Daemon.step crates h (.event (.cbor env payload))).1 ≠ .panicked
        rw [Daemon.step, Ctap2.step]
        cases hr : Ctap2.handleCbor crates env payload h.authenticator with
        | mk o w =>
          rw [hr] at hsafe
          cases o with
          | ok _ => rintro ⟨⟩
          | error e => exact e.elim
          | panicked => exact absurd rfl hsafe
      | _ => cases hclient
  accesses _ report _ := checked_receive halive.pending report
  shifts _ _ hseen := Ctap2.shiftedBy_lt (hcareful _ hseen).indices

/-! ## Runs -/

/-- **The daemon survives careful clients.** -/
theorem survives_of_careful (hcrates : crates.ReadsWritable) (env : Env) (tpmPath : Option String)
    (s : Store) (inputs : List Input)
    (hdevices : ∀ input ∈ inputs, ∀ device, input.device = some device →
      device.CreatesPoints crates)
    (hcareful : ∀ t ∈ run crates env tpmPath s inputs, CarefulInput crates t.before t.input) :
    AccessesInRange crates ∧ ∀ t ∈ run crates env tpmPath s inputs, Survives crates t := by
  refine ⟨accessesInRange crates, fun t ht ↦ ?_⟩
  obtain ⟨pre, post, hsplit⟩ := List.append_of_mem ht
  have hnew : Alive crates (PacketHandler.new (newAuthenticator crates env tpmPath s)) := by
    refine ⟨fun _ _ hnone ↦ ?_, Ctap2.newAuthenticator_sound hcrates env tpmPath s⟩
    cases hnone
  obtain ⟨hbefore, ⟨hdevice, hcareful⟩, heq⟩ := Run.history_invariant_before
    (H := fun _ ↦ Alive crates)
    (C := fun h input ↦ (∀ device, input.device = some device → device.CreatesPoints crates) ∧
      CarefulInput crates h input)
    hnew (fun _ cur input hcur ⟨hdevice, hcareful⟩ ↦ hcur.step hcrates hdevice hcareful)
    (fun t ht ↦ ⟨hdevices _ (Run.input_mem_of_mem_transitions ht), hcareful t ht⟩) hsplit
  rw [heq]
  exact hbefore.survives hdevice hcareful

/-! ## What clients do -/

open Ctap2 Sample

/-- The reports of a CTAP2 request. -/
def reports (env : Env) (payload : List UInt8) : List Input :=
  (requestReports 1 (env, payload)).map fun r ↦ .report r.1 r.2

/-- The packages of the runs below. -/
def clientPackages : Crates :=
  strictPackages [getKeyAgreement, Sample.setPin [49, 50, 51, 52], Sample.makeCredential "",
    Sample.getAssertion "", Sample.deleteCredential (credentialId 1)]

/-- The run of the client. -/
abbrev clientRun (inputs : List Input) : List Step :=
  run clientPackages (strictSession 1000 0) (some "") Store.fresh inputs

/-- A user registers twice and authenticates, with two assertions. -/
def clientInputs : List Input :=
  .event setPassphrase ::
    reports (strictSession 1000 1) (0x01 :: Cbor.encode (Sample.makeCredential "")) ++
    reports (strictSession 1000 2) (0x01 :: Cbor.encode (Sample.makeCredential "")) ++
    reports (strictSession 1000 0) (0x02 :: Cbor.encode (Sample.getAssertion "")) ++
    reports (strictSession 1000 0) [0x08]

/-- The same by a user with a PIN, who deletes the first credential between the assertions. -/
def deletionInputs : List Input :=
  [setPassphrase, request (strictSession 1000 0) 0x06 getKeyAgreement,
    request (strictSession 1000 0) 0x06 (Sample.setPin [49, 50, 51, 52]),
    request (strictSession 1000 1) 0x01 (Sample.makeCredential ""),
    request (strictSession 1000 2) 0x01 (Sample.makeCredential ""),
    request (strictSession 1000 0) 0x02 (Sample.getAssertion ""),
    request (strictSession 1000 0) 0x0a (Sample.deleteCredential (credentialId 1)),
    .cbor (strictSession 1000 0) [0x08]].map .event

/-- Every request of the run is answered, two assertions among them. -/
theorem survives_of_careful_client :
    (∀ t ∈ clientRun clientInputs, CarefulInput clientPackages t.before t.input) ∧
      ((clientRun clientInputs).filter
        fun t ↦ t.output matches .packet (some (.response _))).length = 4 ∧
      AccessesInRange clientPackages ∧
      ∀ t ∈ clientRun clientInputs, Survives clientPackages t := by
  obtain ⟨hcareful, hanswers⟩ : (∀ t ∈ clientRun clientInputs,
      CarefulInput clientPackages t.before t.input) ∧ ((clientRun clientInputs).filter
        fun t ↦ t.output matches .packet (some (.response _))).length = 4 := by
    decide +kernel
  have hreports (env : Env) (henv : env.tpm = strictDevice) (payload : List UInt8) :
      ∀ input ∈ reports env payload, ∀ device, input.device = some device →
        device = strictDevice := by
    intro input hinput device hdevice
    obtain ⟨r, hr, rfl⟩ := List.mem_map.mp hinput
    obtain ⟨packet, -, rfl⟩ := List.mem_map.mp hr
    cases hdevice
    exact henv
  have hdevices : ∀ input ∈ clientInputs, ∀ device, input.device = some device →
      device = strictDevice := by
    intro input hinput
    simp only [clientInputs, List.mem_append, List.mem_cons] at hinput
    rcases hinput with (((rfl | h) | h) | h) | h
    · exact nofun
    all_goals exact hreports _ rfl _ input h
  refine ⟨hcareful, hanswers, ?_⟩
  refine survives_of_careful (strictPackages_readsWritable _) _ _ _ _
    (fun input hinput device hdevice ↦ ?_) hcareful
  rw [hdevices input hinput device hdevice]
  exact strictDevice_createsPoints _

/-- **Clients that the daemon does not survive**: one asks for large blobs, and one asks for its
second assertion when the first credential has been deleted. -/
theorem client_panics :
    (¬ ∀ t ∈ clientRun (reports (strictSession 1000 0) [0x0c]), Survives clientPackages t) ∧
      ¬ ∀ t ∈ clientRun deletionInputs, Survives clientPackages t := by
  have hpanics {inputs : List Input}
      (h : ∃ t ∈ clientRun inputs, t.input.isClient ∧ t.output = .panicked) :
      ¬ ∀ t ∈ clientRun inputs, Survives clientPackages t := by
    obtain ⟨t, ht, hclient, hpanicked⟩ := h
    exact fun hall ↦ (hall t ht).returns hclient hpanicked
  exact ⟨hpanics (by decide +kernel), hpanics (by decide +kernel)⟩

end Daemon
end TpmFido2
