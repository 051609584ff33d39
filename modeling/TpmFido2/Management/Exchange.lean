import TpmFido2.Lib.Framing
import TpmFido2.Management.DefaultPolicy
import TpmFido2.Management.Refusal
import TpmFido2.Management.Stale

/-!
# From a client to the store and back

The path of a management request: `send_request` sends it, `handle_client` reads it and calls
`dispatch`, and what the handler found comes back.  The handlers are those of the other modules;
here their answers become a `ManagementResponse` with the keys and texts of the source.
`send_message` and `recv_message` are `Framing.frame` and `Framing.recvMessage`.

What is in a message is the business of `ciborium` and of the code that `serde` derives (`Codec`).
Nothing is assumed of it but that it reads what it has written (`Codec.RoundTrips`); which other
bytes it takes for a request is its own affair.  A connection may do anything with the bytes
(`Connection`): it is a function of what was written to what each read gives.
`Connection.Reliable` says that they all arrive, in pieces of any size.

* `afterArrivals_eq` — whatever arrives on any number of connections, one after the other, the
  daemon does what the requests that are read from it ask for, and nothing else.
* **`sendRequest_dispatches`** — so a client with a reliable connection gets the response of
  `dispatch` for its own user and request, in the state that the requests before it have led to.
* **`passphrase_guarded`** — and the daemon passphrase changes only through a request that has the
  current one, if there is one.  This holds for any codec.

The connections of the daemon have threads of their own.  What requests do to each other when they
run at the same time is the subject of `UpdatePassphrase.lean` and `InStep.lean`.
-/

set_option autoImplicit false

namespace TpmFido2
namespace Management

open Cbor Framing
open Ctap2 (World Env)

/-! ## Messages -/

inductive ManagementRequest where
  | listCredentials
  | updatePassphrase (oldPassphrase : Option String) (newPassphrase : String)
  | updatePcrReference (passphrase : String)
  | updatePcrPolicy (passphrase : String) (pcrIndices : List UInt32)
      (credentialTarget : CredentialTarget)
  | setDefaultPcrPolicy (pcrIndices : List UInt32)

structure ManagementResponse where
  ok : Bool
  error : Option String
  result : Option Value

/-- `ciborium::into_writer` and `ciborium::from_reader`, with what `serde` derives for requests and
responses. -/
structure Codec where
  writeRequest : ManagementRequest → Option (List UInt8)
  readRequest : List UInt8 → Option ManagementRequest
  writeResponse : ManagementResponse → Option (List UInt8)
  readResponse : List UInt8 → Option ManagementResponse

/-- What was written is read as it was.  A result that is null is read as none. -/
structure Codec.RoundTrips (codec : Codec) : Prop where
  request : ∀ r data, codec.writeRequest r = some data → codec.readRequest data = some r
  response : ∀ r data, r.result ≠ some .null → codec.writeResponse r = some data →
    codec.readResponse data = some r

/-- The request can be written, and its length fits in four bytes. -/
def Codec.SendsRequest (codec : Codec) (r : ManagementRequest) : Prop :=
  ∃ data, codec.writeRequest r = some data ∧ data.length < 2 ^ 32

/-- So does a response. -/
def Codec.SendsResponse (codec : Codec) (r : ManagementResponse) : Prop :=
  ∃ data, codec.writeResponse r = some data ∧ data.length < 2 ^ 32

/-- An entry of a map. -/
def fieldEntry (name : String) (v : Value) : Value × Value := (.text name, v)

/-- `Vec<u32>`. -/
def indicesValue (indices : List UInt32) : Value :=
  .array (indices.map fun i ↦ .integer (.ofNat i.toNat))

/-! ## Responses -/

/-- What happens during a request, and the texts of the errors: of the one that ends the request,
and of those of the single credentials. -/
structure Occasion extends Circumstances where
  cause : String
  causes : Nat → String

def UpdateError.message (cause : String) (e : UpdateError) : String :=
  match e with
  | .alreadySet | .mismatch | .salt => e.text
  | _ => e.text ++ cause

def PolicyRefusal.message (cause : String) (e : PolicyRefusal) : String :=
  match e with
  | .allNotTrue => e.text
  | _ => e.text ++ cause

def PolicyError.message (cause : String) (e : PolicyError) : String :=
  match e with
  | .validation | .command => e.text ++ cause
  | _ => e.text

/-- What is said of a credential: a status, and a reason or an error. -/
structure StatusText where
  status : String
  detail : Option (String × String)

def CredentialStatus.toText (cause : String) : CredentialStatus → StatusText
  | .ok => ⟨"ok", none⟩
  | .skipped => ⟨"skipped", some ("reason", SkipReason.noRecovery.text)⟩
  | .error => ⟨"error", some ("error", cause)⟩

def PolicyStatus.toText (cause : String) : PolicyStatus → StatusText
  | .ok => ⟨"ok", none⟩
  | .skipped reason => ⟨"skipped", some ("reason", reason.text)⟩
  | .error e => ⟨"error", some ("error", e.message cause)⟩

/-- An entry of `results`. -/
def resultValue (id : List UInt8) (t : StatusText) : Value :=
  .map (fieldEntry "credential" (.text (hexEncode id)) :: fieldEntry "status" (.text t.status) ::
    (t.detail.map fun d ↦ fieldEntry d.1 (.text d.2)).toList)

/-- `results`. -/
def resultsValue {σ : Type} (toText : String → σ → StatusText) (causes : Nat → String)
    (results : List (List UInt8 × σ)) : Value :=
  .array (results.mapIdx fun n r ↦ resultValue r.1 (toText (causes n) r.2))

/-- An error and nothing else. -/
def refusal (message : String) : ManagementResponse := ⟨false, some message, none⟩

/-- A result and no error. -/
def success (entries : List (Value × Value)) : ManagementResponse :=
  ⟨true, none, some (.map entries)⟩

def UpdateResponse.toResponse (x : Occasion) : UpdateResponse → ManagementResponse
  | .refused e => refusal (e.message x.cause)
  | .updated results =>
    success [fieldEntry "status" (.text "daemon passphrase updated"),
      fieldEntry "results" (resultsValue CredentialStatus.toText x.causes results)]

def PolicyResponse.toResponse (x : Occasion) : PolicyResponse → ManagementResponse
  | .refused e => refusal (e.message x.cause)
  | .updated results =>
    success [fieldEntry "results" (resultsValue PolicyStatus.toText x.causes results)]

def DefaultPolicyResponse.toResponse (x : Occasion) : DefaultPolicyResponse → ManagementResponse
  | .error => refusal x.cause
  | .ok pcrIndices => success [fieldEntry "pcr_indices" (indicesValue pcrIndices)]

/-- `Option<bool>`. -/
def optionBool : Option Bool → Value
  | none => .null
  | some b => .bool b

/-- An entry of `credentials`. -/
def ListedCredential.toValue (c : ListedCredential) : Value :=
  .map [fieldEntry "id" (.text c.id), fieldEntry "rp_id" (.text c.rpId),
    fieldEntry "user_name" (.text c.userName), fieldEntry "discoverable" (.bool c.discoverable),
    fieldEntry "pcr_stale" (optionBool c.pcrStale)]

def listResponse (x : Occasion) : Option (List ListedCredential) → ManagementResponse
  | none => refusal x.cause
  | some credentials =>
    success [fieldEntry "credentials" (.array (credentials.map ListedCredential.toValue))]

/-! ## The daemon -/

section
variable (crates : Crates) (hash : PassphraseHash) (codec : Codec)

/-- `dispatch`. -/
def dispatch (peerUid : UInt32) (x : Occasion) (request : ManagementRequest) (w : World) :
    ManagementResponse × World :=
  match request with
  | .listCredentials =>
    let r := handleListCredentials crates peerUid (x.fault 0) x.main w
    (listResponse x r.1, r.2)
  | .updatePassphrase oldPassphrase newPassphrase =>
    let r := handleUpdatePassphrase crates hash ⟨peerUid, oldPassphrase, newPassphrase⟩
      x.toCircumstances w
    (r.1.toResponse x, r.2)
  | .updatePcrReference passphrase =>
    let r := handleUpdatePcrReference crates hash peerUid passphrase (x.fault 0) x.main w
    (r.1.toResponse x, r.2)
  | .updatePcrPolicy passphrase pcrIndices credentialTarget =>
    let r := handleUpdatePcrPolicy crates hash ⟨peerUid, passphrase, pcrIndices, credentialTarget⟩
      (x.fault 0) x.main w
    (r.1.toResponse x, r.2)
  | .setDefaultPcrPolicy pcrIndices =>
    let r := handleSetDefaultPcrPolicy crates (x.fault 0) pcrIndices w.store
    (r.1.toResponse x, { w with store := r.2 })

/-- `handle_client`: what is written to the connection, if anything. -/
def handleClient (peerUid : Option UInt32) (pieces : List (List UInt8)) (x : Occasion) (w : World) :
    Option (List UInt8) × World :=
  match peerUid, recvMessage pieces with
  | some peerUid, some data =>
    match codec.readRequest data with
    | none => ((codec.writeResponse (refusal ("invalid request: " ++ x.cause))).map frame, w)
    | some request =>
      let r := dispatch crates hash peerUid x request w
      ((codec.writeResponse r.1).map frame, r.2)
  | _, _ => (none, w)

/-! ## The client -/

/-- A connection: the user of the client as `SO_PEERCRED` has it, whether the client's writes
succeed, and what each side reads of what the other has written. -/
structure Connection where
  peerUid : Option UInt32
  writes : Bool
  toDaemon : List UInt8 → List (List UInt8)
  toClient : List UInt8 → List (List UInt8)

/-- `send_request`. -/
def sendRequest (connection : Option Connection) (x : Occasion) (request : ManagementRequest)
    (w : World) : Except String ManagementResponse × World :=
  match connection with
  | none => (.error ("connecting to daemon at \"/run/linux-tpm-fido2/management.sock\": " ++
      x.cause ++ ". Is the daemon running?"), w)
  | some c =>
    match codec.writeRequest request with
    | none => (.error ("encoding request: " ++ x.cause), w)
    | some encoded =>
      let r := handleClient crates hash codec c.peerUid (c.toDaemon (frame encoded)) x w
      if !c.writes then (.error ("sending request: " ++ x.cause), r.2)
      else
        match recvMessage (c.toClient (r.1.getD [])) with
        | none => (.error ("receiving response: " ++ x.cause), r.2)
        | some data =>
          match codec.readResponse data with
          | none => (.error ("decoding response: " ++ x.cause), r.2)
          | some response => (.ok response, r.2)

end

/-! ## The exchange -/

/-- All bytes arrive, cut in any way, and the daemon knows the user. -/
structure Connection.Reliable (c : Connection) (peerUid : UInt32) : Prop where
  peer : c.peerUid = some peerUid
  writes : c.writes = true
  toDaemon : ∀ bytes, Flowing (c.toDaemon bytes) ∧ (c.toDaemon bytes).flatten = bytes
  toClient : ∀ bytes, Flowing (c.toClient bytes) ∧ (c.toClient bytes).flatten = bytes

variable {crates : Crates} {hash : PassphraseHash} {codec : Codec} {c : Connection}
  {peerUid : UInt32} {x : Occasion} {w : World}

/-- No response has null for a result: it would be read as none. -/
theorem dispatch_result_ne_null (request : ManagementRequest) :
    (dispatch crates hash peerUid x request w).1.result ≠ some .null := by
  have hlist (r : Option (List ListedCredential)) : (listResponse x r).result ≠ some .null := by
    rcases r with _ | credentials <;> simp [listResponse, refusal, success]
  have hupdate (r : UpdateResponse) : (r.toResponse x).result ≠ some .null := by
    rcases r with e | results <;> simp [UpdateResponse.toResponse, refusal, success]
  have hpolicy (r : PolicyResponse) : (r.toResponse x).result ≠ some .null := by
    rcases r with e | results <;> simp [PolicyResponse.toResponse, refusal, success]
  have hdefault (r : DefaultPolicyResponse) : (r.toResponse x).result ≠ some .null := by
    rcases r with _ | _ <;> simp [DefaultPolicyResponse.toResponse, refusal, success]
  cases request with
  | listCredentials => exact hlist _
  | updatePassphrase oldPassphrase newPassphrase => exact hupdate _
  | updatePcrReference passphrase => exact hpolicy _
  | updatePcrPolicy passphrase pcrIndices target => exact hpolicy _
  | setDefaultPcrPolicy pcrIndices => exact hdefault _

/-- The daemon's side: the request is read as it was sent, and answered. -/
theorem handleClient_sent (hcodec : codec.RoundTrips) {request : ManagementRequest}
    {data : List UInt8} {pieces : List (List UInt8)} (hflow : Flowing pieces)
    (hpieces : pieces.flatten = frame data) (hwrite : codec.writeRequest request = some data)
    (hshort : data.length < 2 ^ 32) :
    handleClient crates hash codec (some peerUid) pieces x w =
      ((codec.writeResponse (dispatch crates hash peerUid x request w).1).map frame,
        (dispatch crates hash peerUid x request w).2) := by
  simp only [handleClient, recvMessage_frame hflow hpieces hshort,
    hcodec.request request data hwrite]

/-- The exchange over a reliable connection. -/
theorem sendRequest_eq (hcodec : codec.RoundTrips) (hc : c.Reliable peerUid)
    {request : ManagementRequest} (hrequest : codec.SendsRequest request)
    (hresponse : codec.SendsResponse (dispatch crates hash peerUid x request w).1) :
    sendRequest crates hash codec (some c) x request w =
      (.ok (dispatch crates hash peerUid x request w).1,
        (dispatch crates hash peerUid x request w).2) := by
  obtain ⟨data, hwrite, hshort⟩ := hrequest
  obtain ⟨answer, hanswer, hbrief⟩ := hresponse
  obtain ⟨hflow, hpieces⟩ := hc.toDaemon (frame data)
  obtain ⟨hback, hreturned⟩ := hc.toClient (frame answer)
  have hread := hcodec.response _ answer (dispatch_result_ne_null request) hanswer
  simp only [sendRequest, hwrite, hc.peer, hc.writes,
    handleClient_sent hcodec hflow hpieces hwrite hshort, hanswer, Option.map_some,
    Option.getD_some, recvMessage_frame hback hreturned hbrief, hread]
  rfl

/-! ## Whatever else arrives -/

/-- What arrives on a connection, from anybody. -/
structure Arrival where
  peerUid : Option UInt32
  pieces : List (List UInt8)
  x : Occasion

/-- A request as `dispatch` gets it. -/
structure Call where
  peerUid : UInt32
  x : Occasion
  request : ManagementRequest

/-- The request that arrives, if one is read. -/
def Arrival.call (codec : Codec) (a : Arrival) : Option Call := do
  let peerUid ← a.peerUid
  let data ← recvMessage a.pieces
  let request ← codec.readRequest data
  return ⟨peerUid, a.x, request⟩

variable (crates hash codec) in
/-- The daemon after some connections. -/
def afterArrivals (arrivals : List Arrival) (w : World) : World :=
  arrivals.foldl (fun w a ↦ (handleClient crates hash codec a.peerUid a.pieces a.x w).2) w

variable (crates hash) in
/-- The daemon after some requests. -/
def afterCalls (calls : List Call) (w : World) : World :=
  calls.foldl (fun w q ↦ (dispatch crates hash q.peerUid q.x q.request w).2) w

/-- One connection: a request is carried out, and anything else does nothing. -/
theorem handleClient_world (a : Arrival) (w : World) :
    (handleClient crates hash codec a.peerUid a.pieces a.x w).2 =
      afterCalls crates hash (a.call codec).toList w := by
  rcases hpeer : a.peerUid with _ | peerUid
  · simp [handleClient, Arrival.call, afterCalls, hpeer]
  rcases hdata : recvMessage a.pieces with _ | data
  · simp [handleClient, Arrival.call, afterCalls, hpeer, hdata]
  rcases hrequest : codec.readRequest data with _ | request
  · simp [handleClient, Arrival.call, afterCalls, hpeer, hdata, hrequest]
  · simp [handleClient, Arrival.call, afterCalls, hpeer, hdata, hrequest]

/-- Any number of connections, one after the other. -/
theorem afterArrivals_eq (arrivals : List Arrival) (w : World) :
    afterArrivals crates hash codec arrivals w =
      afterCalls crates hash (arrivals.filterMap (Arrival.call codec)) w := by
  induction arrivals generalizing w with
  | nil => rfl
  | cons a arrivals ih =>
    rw [afterArrivals, List.foldl_cons, handleClient_world]
    refine (ih _).trans ?_
    rw [List.filterMap_cons]
    rcases a.call codec with _ | q <;> rfl

/-- **A client is answered** as its request asks, in the state that the requests before it have
led to: what else was written to the socket, by whomever and in whatever pieces, does not matter. -/
theorem sendRequest_dispatches (hcodec : codec.RoundTrips) (arrivals : List Arrival) (w : World)
    (hc : c.Reliable peerUid) {request : ManagementRequest} (hrequest : codec.SendsRequest request)
    (hresponse : codec.SendsResponse (dispatch crates hash peerUid x request
      (afterCalls crates hash (arrivals.filterMap (Arrival.call codec)) w)).1) :
    sendRequest crates hash codec (some c) x request
        (afterArrivals crates hash codec arrivals w) =
      ((.ok (dispatch crates hash peerUid x request
        (afterCalls crates hash (arrivals.filterMap (Arrival.call codec)) w)).1),
      (dispatch crates hash peerUid x request
        (afterCalls crates hash (arrivals.filterMap (Arrival.call codec)) w)).2) := by
  rw [afterArrivals_eq]
  exact sendRequest_eq hcodec hc hrequest hresponse

namespace Sample

/-- A connection that delivers one byte at a time. -/
def bytewise (peerUid : UInt32) : Connection :=
  ⟨some peerUid, true, List.map fun b ↦ [b], List.map fun b ↦ [b]⟩

theorem bytewise_reliable (peerUid : UInt32) : (bytewise peerUid).Reliable peerUid := by
  have harrives (bytes : List UInt8) :
      Flowing (bytes.map fun b ↦ [b]) ∧ (bytes.map fun b ↦ [b]).flatten = bytes := by
    refine ⟨fun piece hpiece ↦ ?_, ?_⟩
    · obtain ⟨b, -, rfl⟩ := List.mem_map.mp hpiece
      exact List.cons_ne_nil b []
    · simp [← List.flatMap_def]
  exact ⟨rfl, rfl, harrives, harrives⟩

/-- A codec for three requests and for an empty list of credentials, that reads more than it
writes. -/
def smallCodec : Codec where
  writeRequest
    | .listCredentials => some [0]
    | .setDefaultPcrPolicy [7, 11] => some [1]
    | .updatePassphrase none "one" => some [2]
    | _ => none
  readRequest
    | [0] => some .listCredentials
    | [1] => some (.setDefaultPcrPolicy [7, 11])
    | [2] => some (.updatePassphrase none "one")
    | [3] => some (.updatePassphrase (some "one") "two")
    | _ => none
  writeResponse
    | ⟨true, none, some (.map [(.text "credentials", .array [])])⟩ => some [4]
    | _ => none
  readResponse
    | [4] => some ⟨true, none, some (.map [(.text "credentials", .array [])])⟩
    | _ => none

theorem smallCodec_roundTrips : smallCodec.RoundTrips where
  request r data h := by
    simp only [smallCodec] at h ⊢
    split at h <;> first | (cases h; rfl) | cases h
  response r data _ h := by
    simp only [smallCodec] at h ⊢
    split at h <;> first | (cases h; rfl) | cases h

/-- Nothing goes wrong, and if it did there would be a text for it. -/
def untroubled : Occasion := { smooth with cause := "broken", causes := fun _ ↦ "broken" }

/-- Somebody who writes three bytes, and then root with a new default. -/
def visitors : List Arrival :=
  [⟨some 1000, [[1, 2], [3]], untroubled⟩, ⟨some 0, (bytewise 0).toDaemon (frame [1]), untroubled⟩]

/-- Root with a first passphrase. -/
def newcomer : Arrival := ⟨some 0, (bytewise 0).toDaemon (frame [2]), untroubled⟩

end Sample

/-- Root asks for the list after two visitors, of whom one has made a request. -/
theorem sendRequest_dispatches_visitors :
    (Sample.visitors.filterMap (Arrival.call Sample.smallCodec)).length = 1 ∧
      (sendRequest Sample.crates Sample.hash Sample.smallCodec (some (Sample.bytewise 0))
        Sample.untroubled .listCredentials
        (afterArrivals Sample.crates Sample.hash Sample.smallCodec Sample.visitors
          Sample.start)).1 =
      .ok (dispatch Sample.crates Sample.hash 0 Sample.untroubled .listCredentials
        (afterCalls Sample.crates Sample.hash
          (Sample.visitors.filterMap (Arrival.call Sample.smallCodec)) Sample.start)).1 :=
  ⟨by decide +kernel, congrArg Prod.fst (sendRequest_dispatches Sample.smallCodec_roundTrips
    Sample.visitors Sample.start (Sample.bytewise_reliable 0) ⟨[0], rfl, by decide⟩
    ⟨[4], by decide +kernel, by decide⟩)⟩

/-! ## The daemon passphrase -/

/-- A list only reads. -/
theorem listCredentials_settings {main : Nat → Option Env} {n : Nat}
    {credentials : List StoredCtap2Credential} {w : World} :
    (listCredentials crates main n credentials w).2.store.daemonPassphrase =
      w.store.daemonPassphrase := by
  have hF := Ctap2.Aside.frame
  have hdigest (env : Env) (indices : List UInt32) :
      Handler.Moves Ctap2.Aside (pcrDigestCheck crates env indices) :=
    hF.bind (hF.ofOption _ _) fun _ ↦
      hF.bind (Ctap2.requireTpm_moves.mono fun _ _ h ↦ h.aside) fun _ ↦ hF.ofOption _ _
  have hstale (env : Option Env) (policy : PcrPolicyBinding) (w : World) :
      (checkPcrStale crates env policy w).2.store.daemonPassphrase =
        w.store.daemonPassphrase := by
    unfold checkPcrStale
    split
    · next indices env _ =>
      have hmoves := (hdigest env indices w).settings.daemonPassphrase
      rcases hrun : pcrDigestCheck crates env indices w with ⟨_ | _ | _, w'⟩ <;>
        simpa [hrun] using hmoves
    · rfl
  induction credentials generalizing n w with
  | nil => rfl
  | cons c credentials ih =>
    rw [listCredentials, ih]
    split
    · rfl
    · exact hstale _ _ w

/-- Neither does the loop over the policies touch the passphrase. -/
theorem updatePolicies_settings {main : Nat → Option Env} {passphrase : String} {n : Nat}
    {targets : List (List UInt8 × Option StoredCtap2Credential)} {w : World} :
    (updatePolicies crates hash main passphrase n targets w).2.store.daemonPassphrase =
      w.store.daemonPassphrase := by
  induction targets generalizing n w with
  | nil => rfl
  | cons target targets ih =>
    obtain ⟨id, _ | c⟩ := target
    · exact ih
    rw [updatePolicies]
    split
    · exact ih
    · next command _ =>
      refine ih.trans ?_
      rcases main n with _ | env
      · rfl
      · exact (Ctap2.handleTpmCommand_moves command w).settings.daemonPassphrase

variable (crates hash) in
/-- The request is to change the daemon passphrase, and it has the current one, or there is none. -/
def Call.Verified (q : Call) (w : World) : Prop :=
  ∃ old new current, q.request = .updatePassphrase old new ∧
    (Store.loadDaemonPassphrase crates (q.x.fault 0) w.store).1 = .ok current ∧
    checkOld hash ⟨q.peerUid, old, new⟩ current = .ok ()

/-- One request. -/
theorem dispatch_verified (hcrates : crates.ReadsPassphrase) {q : Call}
    (h : (dispatch crates hash q.peerUid q.x q.request w).2.store.daemonPassphrase ≠
      w.store.daemonPassphrase) : q.Verified crates hash w := by
  have hload {fault : StoreFault} {peerUid : UInt32} {t : Store}
      {o : Outcome StoreError (List StoredCtap2Credential)}
      (hrun : Store.loadCtap2Credentials crates fault (filterUid peerUid) w.store = (o, t)) :
      t.daemonPassphrase = w.store.daemonPassphrase :=
    ((Store.loadCtap2Credentials_moves _).of_eq hrun).daemonPassphrase
  obtain ⟨peerUid, x, request⟩ := q
  cases request with
  | updatePassphrase old new =>
    have hend : UpdateEnd crates hash ⟨peerUid, old, new⟩ x.toCircumstances w
        (handleUpdatePassphrase crates hash ⟨peerUid, old, new⟩ x.toCircumstances w) :=
      handleUpdatePassphrase_end hcrates _ _ w
    simp only [dispatch] at h
    generalize handleUpdatePassphrase crates hash _ x.toCircumstances w = r at hend h
    rcases hend with _ | ⟨hsaves, _, _, _⟩ | ⟨hsaves, _, _, _, _⟩
    · exact absurd rfl h
    all_goals
      obtain ⟨current, hcurrent, hcheck⟩ := hsaves.checked
      exact ⟨old, new, current, rfl, hcurrent, hcheck⟩
  | listCredentials =>
    refine absurd ?_ h
    simp only [dispatch, handleListCredentials]
    split
    · next hrun => exact listCredentials_settings.trans (hload hrun)
    · next hrun => exact hload hrun
  | updatePcrReference passphrase =>
    refine absurd ?_ h
    simp only [dispatch, handleUpdatePcrReference]
    split
    · next hrun => exact updatePolicies_settings.trans (hload hrun)
    · next hrun => exact hload hrun
  | updatePcrPolicy passphrase pcrIndices target =>
    refine absurd ?_ h
    simp only [dispatch, handleUpdatePcrPolicy]
    split
    · next hrun =>
      split
      · exact hload hrun
      · exact updatePolicies_settings.trans (hload hrun)
    · next hrun => exact hload hrun
  | setDefaultPcrPolicy pcrIndices =>
    have hF : Handler.Frame fun s t : Store ↦ t.daemonPassphrase = s.daemonPassphrase :=
      Handler.Frame.keeps _
    have hsave : Handler.Moves (fun s t : Store ↦ t.daemonPassphrase = s.daemonPassphrase)
        (Store.saveDefaultPcrPolicy crates (x.fault 0) pcrIndices) :=
      hF.bind (hF.throwIf _ _) fun _ ↦ Handler.Moves.modify fun _ ↦ rfl
    refine absurd ?_ h
    simp only [dispatch, handleSetDefaultPcrPolicy]
    split
    · next hrun => exact hsave.of_eq hrun
    · next hrun => exact hsave.of_eq hrun

/-- **Nobody changes the passphrase who does not have it.**  If it is another one after some
connections, whatever arrived on them, then one of them brought a request to change it that had the
passphrase of that moment, or there was none. -/
theorem passphrase_guarded (hcrates : crates.ReadsPassphrase) (arrivals : List Arrival) (w : World)
    (h : (afterArrivals crates hash codec arrivals w).store.daemonPassphrase ≠
      w.store.daemonPassphrase) :
    ∃ before a after q, arrivals = before ++ a :: after ∧ a.call codec = some q ∧
      q.Verified crates hash (afterArrivals crates hash codec before w) := by
  induction arrivals generalizing w with
  | nil => exact absurd rfl h
  | cons a arrivals ih =>
    by_cases hstep : (afterArrivals crates hash codec [a] w).store.daemonPassphrase =
        w.store.daemonPassphrase
    · rw [← hstep] at h
      obtain ⟨before, a', after, q, rfl, hq⟩ := ih (afterArrivals crates hash codec [a] w) h
      exact ⟨a :: before, a', after, q, rfl, hq⟩
    · rw [afterArrivals_eq, List.filterMap_cons] at hstep
      rcases hq : a.call codec with _ | q
      · simp [hq, afterCalls] at hstep
      · simp only [hq, List.filterMap_nil] at hstep
        exact ⟨[], a, arrivals, q, rfl, hq, dispatch_verified hcrates hstep⟩

/-- The first passphrase comes from the one visitor who asks for it. -/
theorem passphrase_guarded_first :
    ∃ before a after q, Sample.visitors ++ [Sample.newcomer] = before ++ a :: after ∧
      a.call Sample.smallCodec = some q ∧ q.Verified Sample.crates Sample.hash
        (afterArrivals Sample.crates Sample.hash Sample.smallCodec before Sample.start) :=
  passphrase_guarded (Ctap2.Sample.keepingPackages_readsPassphrase _) _ _ (by decide +kernel)

end Management
end TpmFido2
