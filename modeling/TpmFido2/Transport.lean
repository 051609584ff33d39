import TpmFido2.CtapHid.Framing
import TpmFido2.Ctap2.Authorisation
import TpmFido2.Ctap2.ResponseSize
import TpmFido2.Ctap2.Sample

/-!
# The authenticator behind the transport

The packet handler of `TpmFido2.CtapHid` with the authenticator of `TpmFido2.Ctap2` behind it.

A response is cut into packets like a request, but nothing checks its length: `encode_message`
counts the packets in a byte whose top bit marks initialisation packets, and the length in 16 bits.
So a response can be carried (`Carried`) if it is no longer than the longest request, and not much
longer.  `responsesCarried_of_fits` shows that all are, as long as the credentials leave room for
it; `enumerateRps_too_long` registers an RP with a long ID, which a request has room for once but a
response repeats.

`exists_response_of_requests` connects the two levels: a run of CTAP2 requests is a run of the
packets they are cut into.
-/

set_option autoImplicit false

namespace TpmFido2
namespace CtapHid

open Ctap2 (World Env WorldFits)

/-! ## The property -/

/-- The authenticator as the packet handler calls it. -/
def ctap2Authn (crates : Crates) : Authn World Env where
  handleCbor := Ctap2.handleCbor crates
  cancelPending w := { w with auth := w.auth.cancelPending }

/-- A step of the packet handler in front of the authenticator. -/
abbrev HidStep :=
  Run.Transition (PacketHandler World) (Env × List UInt8) (Outcome Empty (Option PacketOutcome))

/-- The steps of a packet handler that starts on a world. -/
abbrev hidRun (crates : Crates) (w : World) (inputs : List (Env × List UInt8)) : List HidStep :=
  Run.transitions (PacketHandler.step (ctap2Authn crates)) (PacketHandler.new w) inputs

/-- **The transport can carry a response**: it is not longer than a message, so its continuation
packets have no sequence number that would make them initialisation packets, and it declares its
length. -/
structure Carried (r : Response) : Prop where
  payload : r.payload.length ≤ maxPayloadSize
  sequence : ∀ packet ∈ r.packets.tail, (packetType packet).toNat < 0x80
  declared : ∀ packet ∈ r.packets.head?, declaredLen packet = r.payload.length

/-- Every response of the run can be carried. -/
def ResponsesCarried (crates : Crates) (w : World) (inputs : List (Env × List UInt8)) : Prop :=
  ∀ t ∈ hidRun crates w inputs, ∀ r, t.output = .ok (some (.response r)) → Carried r

/-! ## What the length is enough for -/

/-- The sequence numbers of a payload that is not too long stay below 128.  The offset of a packet
determines its number, until the payload is used up. -/
theorem packetType_encodeContinuations {cid : UInt32} {payload : List UInt8}
    (hlen : payload.length ≤ maxPayloadSize) (fuel : Nat) {offset : Nat} {sequence : UInt8}
    (hoffset : offset = payload.length ∨ offset = 57 + 59 * sequence.toNat) {packet : List UInt8}
    (hpacket : packet ∈ encodeContinuations cid payload fuel offset sequence) :
    (packetType packet).toNat < 0x80 := by
  have hmax : maxPayloadSize = 7609 := rfl
  have hsize : reportSize = 64 := rfl
  induction fuel generalizing offset sequence with
  | zero => cases hpacket
  | succ fuel ih =>
    rw [encodeContinuations] at hpacket
    split at hpacket
    · next hlt =>
      have hsequence : sequence.toNat < 128 := by omega
      have hnext : (sequence + 1).toNat = sequence.toNat + 1 := by
        rw [UInt8.toNat_add]
        have : (1 : UInt8).toNat = 1 := rfl
        omega
      rcases List.mem_cons.mp hpacket with rfl | hpacket
      · rwa [packetType_continuationPacket]
      · refine ih ?_ hpacket
        rw [hnext]
        omega
    · cases hpacket

theorem carried_of_length_le {r : Response} (h : r.payload.length ≤ maxPayloadSize) :
    Carried r where
  payload := h
  sequence packet hpacket := by
    have hsize : reportSize = 64 := rfl
    refine packetType_encodeContinuations h _ ?_ hpacket
    have hzero : (0 : UInt8).toNat = 0 := rfl
    omega
  declared packet hpacket := by
    cases hpacket
    have hmax : maxPayloadSize = 7609 := rfl
    exact declaredLen_initPacket _ _ _ (by omega)

/-! ## Requests are short -/

/-- No request that has begun is longer than a message. -/
def PendingShort (pending : PendingMap) : Prop :=
  ∀ cid request, pending cid = some request → request.expectedLen ≤ maxPayloadSize

theorem PendingShort.remove {pending : PendingMap} (h : PendingShort pending) (cid : UInt32) :
    PendingShort (pending.remove cid) :=
  PendingMap.forall_remove h cid

theorem PendingShort.insert {pending : PendingMap} (h : PendingShort pending) (cid : UInt32)
    {request : PendingRequest} (hrequest : request.expectedLen ≤ maxPayloadSize) :
    PendingShort (pending.insert cid request) :=
  PendingMap.forall_insert h cid hrequest

/-- What `receive` answers by itself is an error of one byte, and what it hands over is no longer
than a message. -/
def VerdictShort : Verdict → Prop
  | .reply response => response.payload.length = 1
  | .dispatch _ _ payload => payload.length ≤ maxPayloadSize
  | _ => True

theorem receive_short {report : List UInt8} {pending : PendingMap} (h : PendingShort pending) :
    VerdictShort (receive report pending).1 ∧ PendingShort (receive report pending).2 := by
  have hmax : maxPayloadSize = 7609 := rfl
  have h64 : reportSize = 64 := rfl
  by_cases hsize : report.length = reportSize
  · have hr := receive_received hsize pending
    generalize receive report pending = r at hr ⊢
    cases hr with
    | oversized => exact ⟨rfl, h.remove _⟩
    | unknown => exact ⟨rfl, h⟩
    | short _ _ _ hlen =>
      refine ⟨?_, h.remove _⟩
      exact (List.length_take_le _ _).trans (by omega)
    | begun _ _ _ _ hlen => exact ⟨trivial, h.insert _ hlen⟩
    | stray => exact ⟨trivial, h⟩
    | disordered => exact ⟨rfl, h.remove _⟩
    | underflow => exact ⟨trivial, h⟩
    | completed _ request hbusy _ _ hle _ =>
      refine ⟨?_, h.remove _⟩
      have hexpected := h _ _ hbusy
      have htake := List.length_take_le (request.expectedLen - request.payload.length)
        (continuationData report)
      rw [VerdictShort, List.length_append]
      omega
    | extended _ request hbusy _ _ _ => exact ⟨trivial, h.insert _ (h _ request hbusy)⟩
  · rw [receive_of_length_ne hsize]
    exact ⟨trivial, h⟩

/-! ## Responses are short -/

theorem length_handleInit (cid allocatedCid : UInt32) (payload : List UInt8) :
    (handleInit cid allocatedCid payload).payload.length ≤ 17 := by
  rw [handleInit]
  split
  · simp [errorResponse]
  · next h =>
    simp only [List.length_append, Bytes.length_beBytes, List.length_cons, List.length_nil]
    omega

/-- Dispatching a short request gives a short response. -/
theorem dispatch_short {crates : Crates} {env : Env} (hcrates : crates.WritesCbor)
    (htpm : env.tpm.IsP256) {h : PacketHandler World} (hw : WorldFits h.authenticator)
    {cid : UInt32}
    {command : CtapHidCommand} {payload : List UInt8} (hpayload : payload.length ≤ maxPayloadSize) :
    Handler.Returns (PacketHandler.dispatch (ctap2Authn crates) env cid command payload) h
      fun r ↦ r.payload.length ≤ maxPayloadSize := by
  have hmax : maxPayloadSize = 7609 := rfl
  intro response h' hr
  cases command with
  | init =>
    simp only [PacketHandler.dispatch] at hr
    split at hr
    · cases hr
      have := length_handleInit cid (if h.nextCid = 0 then 1 else h.nextCid) payload
      omega
    · cases hr
      have := length_handleInit cid cid payload
      omega
  | ping =>
    cases hr
    exact hpayload
  | wink =>
    cases hr
    exact Nat.zero_le _
  | cbor =>
    simp only [PacketHandler.dispatch] at hr
    split at hr
    · next response a hcbor =>
      cases hr
      exact Ctap2.handleCbor_short hcrates htpm hw payload response a hcbor
    · cases hr
  | cancel =>
    cases hr
    exact Nat.le_add_left 1 7608
  | error =>
    cases hr
    exact Nat.le_add_left 1 7608

/-- **One report.** -/
theorem handlePacket_short {crates : Crates} {env : Env} (hcrates : crates.WritesCbor)
    (htpm : env.tpm.IsP256) {h : PacketHandler World} (hpending : PendingShort h.pending)
    (hw : WorldFits h.authenticator) {report : List UInt8} {r : Response}
    (hr : (PacketHandler.handlePacket (ctap2Authn crates) env report h).1 =
      .ok (some (.response r))) : r.payload.length ≤ maxPayloadSize := by
  have hverdict := (@receive_short report _ hpending).1
  rw [PacketHandler.handlePacket] at hr
  cases hv : receive report h.pending with
  | mk verdict pending =>
    rw [hv] at hverdict hr
    cases verdict with
    | ignored => cases hr
    | reply response =>
      cases hr
      rw [show r.payload.length = 1 from hverdict]
      exact Nat.le_add_left 1 7608
    | needMore => cases hr
    | panicked => cases hr
    | dispatch cid command payload =>
      have hdispatch := @dispatch_short crates env hcrates htpm { h with pending := pending } hw cid
        command payload hverdict
      simp only at hr
      cases hd : PacketHandler.dispatch (ctap2Authn crates) env cid command payload
        { h with pending := pending } with
      | mk o h' =>
        rw [hd] at hr
        cases o with
        | ok response =>
          cases hr
          exact hdispatch _ h' hd
        | error e => exact e.elim
        | panicked => cases hr

/-- **Every response can be carried while the credentials leave room for it.** -/
theorem responsesCarried_of_fits {crates : Crates} (hcrates : crates.WritesCbor) (w : World)
    (inputs : List (Env × List UInt8)) (htpm : ∀ input ∈ inputs, input.1.tpm.IsP256)
    (hfits : ∀ t ∈ hidRun crates w inputs, WorldFits t.before.authenticator) :
    ResponsesCarried crates w inputs := by
  intro t ht r hr
  obtain ⟨pre, post, hrun⟩ := List.append_of_mem ht
  have hnew : PendingShort (PacketHandler.new w).pending := by
    intro cid request hnew
    cases hnew
  obtain ⟨hpending, -, htransition⟩ := Run.history_invariant_before
    (H := fun _ h ↦ PendingShort h.pending) (C := fun _ _ ↦ True) hnew
    (fun _ cur input h _ ↦ by
      rw [PacketHandler.step, PacketHandler.handlePacket_pending]
      exact (receive_short h).2) (fun _ _ ↦ trivial) hrun
  have houtput : t.output = (PacketHandler.handlePacket (ctap2Authn crates) t.input.1 t.input.2
    t.before).1 := congrArg Run.Transition.output htransition
  exact carried_of_length_le (handlePacket_short hcrates
    (htpm _ (Run.input_mem_of_mem_transitions ht)) hpending (hfits t ht) (houtput.symm.trans hr))

section
open Ctap2 Sample

theorem device_isP256 (digest : List UInt8) : (device digest).IsP256 where
  createKey _ _ _ _ _ _ h := by
    cases h
    exact ⟨Nat.zero_le _, Nat.zero_le _⟩
  sign _ _ _ _ _ _ _ h := by
    cases h
    exact ⟨Nat.zero_le _, Nat.zero_le _⟩

theorem packages_writesCbor (known : List Cbor.Value) : (packages known).WritesCbor :=
  fun _ _ ↦ rfl

end

/-! ## Requests as reports -/

section
variable {A E : Type} (authn : Authn A E)

/-- The packets of a CTAP2 request, each with the environment of the request. -/
def requestReports (cid : UInt32) (request : E × List UInt8) : List (E × List UInt8) :=
  (encodeMessage cid .cbor request.2).map fun packet ↦ (request.1, packet)

/-- The rest of the packets of a request: the last one calls the authenticator. -/
theorem final_of_expects {cid : UInt32} (env : E) {payload : List UInt8}
    (hlen : payload.length ≤ maxPayloadSize) {remaining : List (List UInt8)} {h : PacketHandler A}
    (hexpects : Expects cid .cbor payload (h.pending cid) remaining) (hne : remaining ≠ []) :
    (Run.final (PacketHandler.step authn) h (remaining.map fun packet ↦
      (env, packet))).authenticator =
        (authn.handleCbor env payload h.authenticator).2 ∧
      ∀ response, (authn.handleCbor env payload h.authenticator).1 = .ok response →
        ∃ t ∈ Run.transitions (PacketHandler.step authn) h
          (remaining.map fun packet ↦ (env, packet)),
          t.output = .ok (some (.response ⟨cid, .cbor, response⟩)) := by
  induction remaining generalizing h with
  | nil => exact absurd rfl hne
  | cons packet rest ih =>
    rcases receive_expected hlen hexpects with ⟨rfl, hreceive⟩ | ⟨hrest, hmore, hnext⟩
    · have hstep : PacketHandler.step authn h (env, packet) = PacketHandler.respond
          (PacketHandler.dispatch authn env cid .cbor payload
            { h with pending := h.pending.remove cid }) := by
        simp only [PacketHandler.step, PacketHandler.handlePacket, hreceive]
      simp only [List.map_cons, List.map_nil, Run.final, Run.transitions, List.mem_singleton,
        exists_eq_left, Run.transition, hstep, PacketHandler.dispatch]
      cases authn.handleCbor env payload h.authenticator with
      | mk o a =>
        cases o with
        | ok response =>
          refine ⟨rfl, fun r hr ↦ ?_⟩
          cases hr
          rfl
        | error e => exact e.elim
        | panicked => exact ⟨rfl, by rintro _ ⟨⟩⟩
    · have hstep : (PacketHandler.step authn h (env, packet)).2 =
          { h with pending := (receive packet h.pending).2 } := by
        simp only [PacketHandler.step, PacketHandler.handlePacket]
        cases hr : receive packet h.pending with
        | mk v pending =>
          rw [hr] at hmore
          cases v with
          | needMore => rfl
          | ignored => cases hmore
          | reply _ => cases hmore
          | dispatch _ _ _ => cases hmore
          | panicked => cases hmore
      obtain ⟨hfinal, hresponse⟩ := ih (h := { h with pending := (receive packet h.pending).2 })
        hnext hrest
      rw [List.map_cons, Run.final, Run.transitions, hstep]
      refine ⟨hfinal, fun response hr ↦ ?_⟩
      obtain ⟨t, ht, houtput⟩ := hresponse response hr
      exact ⟨t, List.mem_cons_of_mem _ ht, houtput⟩

end

/-- **From requests to reports.**  A response to the last of some CTAP2 requests is a response in
the run of the packets the requests are cut into. -/
theorem exists_response_of_requests (crates : Crates) (cid : UInt32)
    (requests : List (Env × List UInt8)) (h : PacketHandler World)
    (hlen : ∀ r ∈ requests, r.2.length ≤ maxPayloadSize) {last : Env × List UInt8}
    (hlast : last.2.length ≤ maxPayloadSize) {response : List UInt8}
    (hresponse : (Ctap2.step crates
      (Ctap2.after crates h.authenticator (requests.map fun r ↦ .cbor r.1 r.2))
      (.cbor last.1 last.2)).1 = .cbor response) :
    ∃ t ∈ Run.transitions (PacketHandler.step (ctap2Authn crates)) h
        ((requests ++ [last]).flatMap (requestReports cid)),
      t.output = .ok (some (.response ⟨cid, .cbor, response⟩)) := by
  induction requests generalizing h with
  | nil =>
    rw [List.nil_append, List.flatMap_singleton]
    refine (final_of_expects (ctap2Authn crates) last.1 hlast (.start _) (List.cons_ne_nil _ _)).2
      response ?_
    have hr : Ctap2.Reply.ofCbor (Ctap2.handleCbor crates last.1 last.2 h.authenticator).1 =
      .cbor response := hresponse
    change (Ctap2.handleCbor crates last.1 last.2 h.authenticator).1 = .ok response
    cases ho : (Ctap2.handleCbor crates last.1 last.2 h.authenticator).1 with
    | ok r =>
      rw [ho] at hr
      cases hr
      rfl
    | error e => nomatch e
    | panicked =>
      rw [ho] at hr
      cases hr
  | cons request requests ih =>
    rw [List.cons_append, List.flatMap_cons, Run.transitions_append]
    have hfirst : (Run.final (PacketHandler.step (ctap2Authn crates)) h
        (requestReports cid request)).authenticator =
          (Ctap2.handleCbor crates request.1 request.2 h.authenticator).2 :=
      (final_of_expects (ctap2Authn crates) request.1 (hlen request List.mem_cons_self) (.start _)
        (List.cons_ne_nil _ _)).1
    obtain ⟨t, ht, houtput⟩ := ih (Run.final (PacketHandler.step (ctap2Authn crates)) h
      (requestReports cid request)) (fun r hr ↦ hlen r (List.mem_cons_of_mem _ hr)) (by
        rw [hfirst]
        exact hresponse)
    exact ⟨t, List.mem_append_right _ ht, houtput⟩

/-! ## A registration and what it leads to -/

open Ctap2 Sample

/-- **Every response of a registration and an authentication can be carried.** -/
theorem responsesCarried_of_fits_assertion :
    let crates := packages [Sample.makeCredential "", Sample.getAssertion ""]
    let w := after crates (newAuthenticator crates (session 1000 0) (some "") Store.fresh)
      [setPassphrase]
    let inputs := [(session 1000 0, 0x01 :: Cbor.encode (Sample.makeCredential "")),
      (session 1000 0, 0x02 :: Cbor.encode (Sample.getAssertion ""))].flatMap (requestReports 1)
    ResponsesCarried crates w inputs ∧
      ((hidRun crates w inputs).filter
        fun t ↦ t.output matches .ok (some (.response _))).length = 2 :=
  ⟨responsesCarried_of_fits (packages_writesCbor _) _ _
    (by
      intro input hinput
      obtain ⟨request, hrequest, hinput⟩ := List.mem_flatMap.mp hinput
      obtain ⟨packet, -, rfl⟩ := List.mem_map.mp hinput
      simp only [List.mem_cons, List.not_mem_nil, or_false] at hrequest
      rcases hrequest with rfl | rfl <;> exact device_isP256 _)
    (by decide +kernel), by decide +kernel⟩

/-- The answer to enumerateRPsBegin is about one of the credentials. -/
theorem enumerateRps_reply {crates : Crates} {env : Env} {w : World} {event : Event}
    {request : Entries} (hrequest : managementRequest crates event = some (env, request, 2))
    (hok : (step crates w event).1.succeeded) :
    ∃ c ∈ w.auth.credentials, ∃ total,
      (step crates w event).1 = .cbor (encodeRpResponse crates c total) := by
  obtain ⟨payload, command, body, w₁, subCommand, response, w', rfl, hp, hauth, -, hn, hsub,
      hreply⟩ :=
    management_success hrequest hok
  cases subCommand with
  | enumerateRpsBegin =>
    obtain ⟨a, w₂, e₂, h₂⟩ := Handler.bind_ok hsub
    cases e₂
    obtain ⟨first, w₃, e₃, h₃⟩ := Handler.bind_ok h₂
    obtain ⟨_, w₄, e₄, h₄⟩ := Handler.bind_ok h₃
    obtain ⟨c, w₅, e₅, h₅⟩ := Handler.bind_ok h₄
    cases h₅
    have hc := List.mem_of_getElem? (Handler.expect_ok e₅).1
    rw [hauth.world] at hc
    exact ⟨c, hc, _, congrArg Prod.fst hreply⟩
  | _ => cases hn

/-- The list of RPs has the ID of its RP twice, and its hash. -/
theorem length_encodeRpResponse_ge {crates : Crates} (hcrates : crates.WritesCbor)
    (c : Credential) (total : Option Nat) :
    2 * c.rpId.utf8ByteSize + 32 ≤ (encodeRpResponse crates c total).length := by
  have hplain := (length_totalEntry 3 total).2.1
  rw [encodeRpResponse, length_encodeResponse hcrates (by
    simp [Cbor.isPlain, Cbor.entriesPlain, hplain]), Cbor.length_encode_map]
  simp only [List.cons_append, List.nil_append, List.map_cons, List.sum_cons,
    Cbor.length_encode_map, List.map_nil, List.sum_nil, Cbor.length_encode_text,
    Cbor.length_encode_bytes, crates.length_sha256]
  omega

/-- An RP ID of 3800 bytes. -/
def longRpId : String := String.ofList (List.replicate 3800 'a')

theorem utf8ByteSize_longRpId : longRpId.utf8ByteSize = 3800 := by
  have h (n : Nat) : (String.ofList (List.replicate n 'a')).utf8ByteSize = n := by
    induction n with
    | zero => rfl
    | succ n ih =>
      rw [List.replicate_succ, String.ofList_cons, String.utf8ByteSize_append, ih, Nat.add_comm]
      rfl
  exact h 3800

/-- enumerateRPsBegin, with the code of the sample packages. -/
def enumerateRps : Cbor.Value :=
  .map [(.integer 1, .integer 2), (.integer 3, .integer 2),
    (.integer 4, .bytes (List.replicate 16 0))]

/-- The last request of the run. -/
def longLast : Env × List UInt8 := (session 1000 0, 0x0a :: Cbor.encode enumerateRps)

/-- The requests before it: a PIN and a token, and then the registration. -/
def longRequests : List (Env × List UInt8) :=
  [(session 1000 0, 0x06 :: Cbor.encode getKeyAgreement),
    (session 1000 0, 0x06 :: Cbor.encode (Sample.setPin [49, 50, 51, 52])),
    (session 1000 0, 0x06 :: Cbor.encode getToken),
    (session 1000 1, 0x01 :: Cbor.encode (Sample.makeCredential longRpId))]

/-- The sample packages, but they know a request from its first bytes: the long RP ID need not be
computed for that. -/
def longPackages : Crates :=
  let known := [getKeyAgreement, Sample.setPin [49, 50, 51, 52], getToken,
    Sample.makeCredential longRpId, enumerateRps]
  { packages known with
    fromReader := fun b ↦ known.find? fun v ↦ (Cbor.encode v).take 5 = b.take 5 }

/-- The length of a registration but for the RP ID. -/
theorem length_makeCredential {rpId : String} (h : rpId.utf8ByteSize < 2 ^ 16) :
    (Cbor.encode (Sample.makeCredential rpId)).length ≤ rpId.utf8ByteSize + 100 := by
  have hid := Cbor.length_encode_text_le h
  have hhash : (Cbor.encode (.bytes (List.replicate 32 0))).length = 34 := by decide
  have huser : (Cbor.encode (.map [(.text "id", .bytes [])])).length = 5 := by decide
  have halgorithms : (Cbor.encode (.array [.map [(.text "type", .text "public-key"),
    (.text "alg", .integer (-7))]])).length = 23 := by decide
  have hoptions : (Cbor.encode (.map [(.text "rk", .bool true)])).length = 5 := by decide
  have hseven : (Cbor.encode (.integer 7)).length = 1 := by decide
  have hrp : (Cbor.encode (.map [(.text "id", .text rpId)])).length ≤ rpId.utf8ByteSize + 7 := by
    rw [Cbor.length_encode_small_map (by simp)]
    simp only [List.map_cons, List.map_nil, List.sum_cons, List.sum_nil, length_labels]
    omega
  rw [Sample.makeCredential, Cbor.length_encode_small_map (by simp)]
  simp only [List.map_cons, List.map_nil, List.sum_cons, List.sum_nil, length_numbers, hhash, huser,
    halgorithms, hoptions, hseven]
  omega

/-- Every request fits into a message. -/
theorem length_longRequests : ∀ r ∈ longRequests, r.2.length ≤ maxPayloadSize := by
  have hsize := utf8ByteSize_longRpId
  have hmax : maxPayloadSize = 7609 := rfl
  have hlong := length_makeCredential (show longRpId.utf8ByteSize < 2 ^ 16 by omega)
  intro r hr
  simp only [longRequests, List.mem_cons, List.not_mem_nil, or_false] at hr
  rcases hr with rfl | rfl | rfl | rfl
  · decide
  · decide +kernel
  · decide +kernel
  · rw [List.length_cons]
    omega

/-- The daemon on which the requests are made. -/
def longStart : World :=
  after longPackages (newAuthenticator longPackages (session 1000 0) (some "") Store.fresh)
    [setPassphrase]

/-- **A response that cannot be carried.**  After the registration the list of RPs is longer than
the longest message. -/
theorem enumerateRps_too_long : ¬ ResponsesCarried longPackages longStart
    ((longRequests ++ [longLast]).flatMap (requestReports 1)) := by
  intro hcarried
  obtain ⟨request, hrequest⟩ : ∃ request, managementRequest longPackages
      (.cbor longLast.1 longLast.2) = some (session 1000 0, request, 2) := ⟨_, rfl⟩
  have hids : (after longPackages longStart
      (longRequests.map fun r ↦ .cbor r.1 r.2)).auth.credentials.map Credential.rpId =
        [longRpId] := by rfl
  obtain ⟨c, hc, total, hreply⟩ := enumerateRps_reply hrequest
    (w := after longPackages longStart (longRequests.map fun r ↦ .cbor r.1 r.2))
    (by decide +kernel)
  have hid : c.rpId = longRpId := List.mem_singleton.mp (hids ▸ List.mem_map_of_mem hc)
  obtain ⟨t, ht, houtput⟩ := exists_response_of_requests longPackages 1 longRequests
    (PacketHandler.new longStart) length_longRequests
    (show longLast.2.length ≤ maxPayloadSize by decide) hreply
  have hpayload : (encodeRpResponse longPackages c total).length ≤ 7609 :=
    (hcarried t ht _ houtput).payload
  have hlength : 2 * c.rpId.utf8ByteSize + 32 ≤ (encodeRpResponse longPackages c total).length :=
    length_encodeRpResponse_ge (fun _ _ ↦ rfl) c total
  rw [hid, utf8ByteSize_longRpId] at hlength
  omega

end CtapHid
end TpmFido2
