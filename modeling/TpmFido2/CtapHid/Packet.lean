import TpmFido2.Lib.Bytes
import TpmFido2.Lib.Handler

/-!
# CTAPHID: packets and their handler

The transport of the authenticator: `src/ctaphid.rs` over the 64-byte reports of `src/hid.rs`.  A
request or a response is a *message* — channel, command, payload — cut into one initialisation
packet and as many continuation packets as the payload needs; several channels may be in the
middle of a message at the same time.

`encodeMessage` cuts a message up, `PacketHandler.handlePacket` puts requests together and hands
each complete one to `PacketHandler.dispatch`.  The authenticator behind `dispatch` is a
parameter (`Authn`): the transport calls it in two places only and never looks at its state.

In the source `handle_init_packet` and `handle_continuation_packet` call `dispatch` in place.
Here they return a `Verdict` that says what to do with the packet, and `handlePacket` carries it
out; the effect is the same, and "this packet made the handler dispatch that request" becomes
something a theorem can say.
-/

set_option autoImplicit false

namespace TpmFido2
namespace CtapHid

open Bytes

/-! ## Constants -/

/-- `hid::REPORT_SIZE`. -/
def reportSize : Nat := 64

/-- `BROADCAST_CID`. -/
def broadcastCid : UInt32 := 0xffffffff

/-- `TYPE_INIT`: the bit that tells an initialisation packet from a continuation. -/
def typeInit : UInt8 := 0x80

def capabilityCbor : UInt8 := 0x04

def capabilityNmsg : UInt8 := 0x08

/-- `MAX_PAYLOAD_SIZE`: what one initialisation packet and 128 continuations hold. -/
def maxPayloadSize : Nat := (reportSize - 7) + 128 * (reportSize - 5)

inductive CtapHidCommand where
  | ping
  | init
  | wink
  | cbor
  | cancel
  | error
deriving DecidableEq, Repr

/-- `CtapHidCommand::from_byte`. -/
def CtapHidCommand.fromByte (b : UInt8) : Option CtapHidCommand :=
  if b = 0x01 then some .ping
  else if b = 0x06 then some .init
  else if b = 0x08 then some .wink
  else if b = 0x10 then some .cbor
  else if b = 0x11 then some .cancel
  else if b = 0x3f then some .error
  else none

/-- `CtapHidCommand::byte`. -/
def CtapHidCommand.byte : CtapHidCommand → UInt8
  | .ping => 0x01
  | .init => 0x06
  | .wink => 0x08
  | .cbor => 0x10
  | .cancel => 0x11
  | .error => 0x3f

inductive CtapHidError where
  | command
  | length
  | seq
deriving DecidableEq, Repr

def CtapHidError.code : CtapHidError → UInt8
  | .command => 0x01
  | .length => 0x03
  | .seq => 0x04

/-! ## Messages on the wire -/

/-- `Response`: a message from the authenticator to the host. -/
structure Response where
  cid : UInt32
  command : CtapHidCommand
  payload : List UInt8
deriving DecidableEq, Repr

/-- Zero bytes up to the size of a report: the arrays of the source start out as `[0u8; 64]`. -/
def padReport (bytes : List UInt8) : List UInt8 :=
  bytes ++ List.replicate (reportSize - bytes.length) 0

/-- The first packet of a message: channel, command, declared length, and the first 57 bytes. -/
def initPacket (cid : UInt32) (command : CtapHidCommand) (payload : List UInt8) : List UInt8 :=
  padReport (beBytes 4 cid.toNat ++ [command.byte ||| typeInit] ++ beBytes 2 payload.length ++
    payload.take (reportSize - 7))

/-- A later packet: channel, sequence number, and up to 59 bytes. -/
def continuationPacket (cid : UInt32) (sequence : UInt8) (chunk : List UInt8) : List UInt8 :=
  padReport (beBytes 4 cid.toNat ++ [sequence] ++ chunk)

/-- The `while offset < payload.len()` loop of `encode_message`.  Each round takes at least one
byte, so `fuel = payload.length` rounds are enough. -/
def encodeContinuations (cid : UInt32) (payload : List UInt8) :
    (fuel offset : Nat) → (sequence : UInt8) → List (List UInt8)
  | 0, _, _ => []
  | fuel + 1, offset, sequence =>
    if offset < payload.length then
      let chunkLen := min (payload.length - offset) (reportSize - 5)
      continuationPacket cid sequence ((payload.drop offset).take chunkLen) ::
        encodeContinuations cid payload fuel (offset + chunkLen) (sequence + 1)
    else []

/-- `encode_message`. -/
def encodeMessage (cid : UInt32) (command : CtapHidCommand) (payload : List UInt8) :
    List (List UInt8) :=
  initPacket cid command payload ::
    encodeContinuations cid payload payload.length (min payload.length (reportSize - 7)) 0

/-- `Response::packets`. -/
def Response.packets (r : Response) : List (List UInt8) := encodeMessage r.cid r.command r.payload

/-! ## Reading a report -/

/-- The channel a report is addressed to. -/
def reportCid (report : List UInt8) : UInt32 := UInt32.ofNat (ofBeBytes (report.take 4))

/-- The byte after the channel: command with the top bit set, or sequence number. -/
def packetType (report : List UInt8) : UInt8 := report.getD 4 0

/-- The length an initialisation packet declares. -/
def declaredLen (report : List UInt8) : Nat := ofBeBytes ((report.drop 5).take 2)

/-- The data field of an initialisation packet. -/
def initData (report : List UInt8) : List UInt8 := report.drop 7

/-- The data field of a continuation packet. -/
def continuationData (report : List UInt8) : List UInt8 := report.drop 5

/-- Whether a report is an initialisation packet. -/
def IsInit (report : List UInt8) : Prop := packetType report &&& typeInit ≠ 0

instance (report : List UInt8) : Decidable (IsInit report) := by
  unfold IsInit; infer_instance

/-- The command byte of an initialisation packet: its type byte without the top bit. -/
def commandId (report : List UInt8) : UInt8 := packetType report &&& ~~~typeInit

/-! ## Putting requests together -/

/-- `PendingRequest`: a request some of whose packets have arrived. -/
structure PendingRequest where
  cid : UInt32
  command : CtapHidCommand
  expectedLen : Nat
  payload : List UInt8
  nextSequence : UInt8
deriving DecidableEq, Repr

/-- The `pending` map. -/
abbrev PendingMap := UInt32 → Option PendingRequest

/-- `pending.remove(&cid)`. -/
def PendingMap.remove (pending : PendingMap) (cid : UInt32) : PendingMap :=
  Function.update pending cid none

/-- `pending.insert(cid, request)`. -/
def PendingMap.insert (pending : PendingMap) (cid : UInt32) (request : PendingRequest) :
    PendingMap :=
  Function.update pending cid (some request)

/-- What is to be done with a packet. -/
inductive Verdict where
  /-- Nothing: the report is not for us (`None`). -/
  | ignored
  /-- Answer at once, without looking at the request. -/
  | reply (response : Response)
  /-- Wait for the next packet (`PacketOutcome::NeedMore`). -/
  | needMore
  /-- The request is complete. -/
  | dispatch (cid : UInt32) (command : CtapHidCommand) (payload : List UInt8)
  /-- The subtraction of the two lengths underflows. -/
  | panicked
deriving DecidableEq, Repr

/-- `error`. -/
def errorResponse (cid : UInt32) (code : CtapHidError) : Response :=
  ⟨cid, .error, [code.code]⟩

/-- `PacketHandler::handle_init_packet`. -/
def handleInitPacket (cid : UInt32) (commandId : UInt8) (report : List UInt8)
    (pending : PendingMap) : Verdict × PendingMap :=
  let payloadLen := declaredLen report
  if maxPayloadSize < payloadLen then
    (.reply (errorResponse cid .length), pending.remove cid)
  else
    match CtapHidCommand.fromByte commandId with
    -- here the source returns without touching what is pending on the channel
    | none => (.reply (errorResponse cid .command), pending)
    | some command =>
      let firstLen := min payloadLen (reportSize - 7)
      let payload := (initData report).take firstLen
      if payload.length = payloadLen then
        (.dispatch cid command payload, pending.remove cid)
      else
        (.needMore, pending.insert cid ⟨cid, command, payloadLen, payload, 0⟩)

/-- `PacketHandler::handle_continuation_packet`. -/
def handleContinuationPacket (cid : UInt32) (sequence : UInt8) (report : List UInt8)
    (pending : PendingMap) : Verdict × PendingMap :=
  match pending cid with
  | none => (.ignored, pending)
  | some request =>
    if request.cid ≠ cid ∨ request.nextSequence ≠ sequence then
      (.reply (errorResponse request.cid .seq), pending.remove cid)
    else if request.expectedLen < request.payload.length then
      (.panicked, pending)
    else
      let remaining := request.expectedLen - request.payload.length
      let chunkLen := min remaining (reportSize - 5)
      let payload := request.payload ++ (continuationData report).take chunkLen
      if payload.length = request.expectedLen then
        (.dispatch request.cid request.command payload, pending.remove cid)
      else
        (.needMore, pending.insert cid
          { request with payload := payload, nextSequence := request.nextSequence + 1 })

/-- The part of `PacketHandler::handle_packet` that concerns the `pending` map alone. -/
def receive (report : List UInt8) (pending : PendingMap) : Verdict × PendingMap :=
  if report.length ≠ reportSize then
    (.ignored, pending)
  else if IsInit report then
    handleInitPacket (reportCid report) (commandId report) report pending
  else
    handleContinuationPacket (reportCid report) (packetType report) report pending

/-! ## Dispatching requests -/

/-- What the transport needs of the authenticator: `Authenticator::handle_cbor`, which in each
call sees an environment of type `E` (clock, user, storage, TPM), and
`Authenticator::cancel_pending`. -/
structure Authn (A E : Type) where
  handleCbor : E → List UInt8 → Handler A Empty (List UInt8)
  cancelPending : A → A

/-- `PacketHandler`. -/
structure PacketHandler (A : Type) where
  pending : PendingMap
  nextCid : UInt32
  authenticator : A

/-- `PacketHandler::new`, given the authenticator. -/
def PacketHandler.new {A : Type} (authenticator : A) : PacketHandler A :=
  ⟨fun _ => none, 1, authenticator⟩

/-- `PacketOutcome`. -/
inductive PacketOutcome where
  | needMore
  | response (r : Response)
deriving DecidableEq, Repr

/-- `handle_init`. -/
def handleInit (cid allocatedCid : UInt32) (payload : List UInt8) : Response :=
  if payload.length ≠ 8 then errorResponse cid .length
  else
    ⟨cid, .init, payload ++ beBytes 4 allocatedCid.toNat ++ [2] ++ [0, 1, 0] ++
      [capabilityCbor ||| capabilityNmsg]⟩

namespace PacketHandler

variable {A E : Type} (authn : Authn A E)

/-- `PacketHandler::dispatch`. -/
def dispatch (env : E) (cid : UInt32) (command : CtapHidCommand) (payload : List UInt8) :
    Handler (PacketHandler A) Empty Response := fun h =>
  match command with
  | .init =>
    if cid = broadcastCid then
      let allocated := if h.nextCid = 0 then 1 else h.nextCid
      (.ok (handleInit cid allocated payload), { h with nextCid := max (allocated + 1) 1 })
    else
      (.ok (handleInit cid cid payload), h)
  | .ping => (.ok ⟨cid, .ping, payload⟩, h)
  | .wink => (.ok ⟨cid, .wink, []⟩, h)
  | .cbor =>
    match authn.handleCbor env payload h.authenticator with
    | (.ok response, a) => (.ok ⟨cid, .cbor, response⟩, { h with authenticator := a })
    | (.panicked, a) => (.panicked, { h with authenticator := a })
  | .cancel =>
    (.ok (errorResponse cid .command),
      { h with
        pending := h.pending.remove cid
        authenticator := authn.cancelPending h.authenticator })
  | .error => (.ok (errorResponse cid .command), h)

/-- `PacketOutcome::Response(self.dispatch(..))`. -/
def respond (r : Outcome Empty Response × PacketHandler A) :
    Outcome Empty (Option PacketOutcome) × PacketHandler A :=
  match r with
  | (.ok response, h) => (.ok (some (.response response)), h)
  | (.panicked, h) => (.panicked, h)

/-- `PacketHandler::handle_packet`. -/
def handlePacket (env : E) (report : List UInt8) :
    Handler (PacketHandler A) Empty (Option PacketOutcome) := fun h =>
  match receive report h.pending with
  | (.ignored, pending) => (.ok none, { h with pending := pending })
  | (.reply response, pending) => (.ok (some (.response response)), { h with pending := pending })
  | (.needMore, pending) => (.ok (some .needMore), { h with pending := pending })
  | (.panicked, pending) => (.panicked, { h with pending := pending })
  | (.dispatch cid command payload, pending) =>
    respond (dispatch authn env cid command payload { h with pending := pending })

/-- The handler as a machine: each report arrives together with the environment its handling
sees. -/
def step (h : PacketHandler A) (input : E × List UInt8) :
    Outcome Empty (Option PacketOutcome) × PacketHandler A :=
  handlePacket authn input.1 input.2 h

end PacketHandler
end CtapHid
end TpmFido2
