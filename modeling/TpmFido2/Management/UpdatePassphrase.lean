import TpmFido2.Ctap2.Commands

/-!
# update-passphrase

`handle_update_passphrase` of `src/management.rs`, and the two threads it is about.

A request to change the daemon passphrase runs on a thread of its own.  It opens the store three
times — to check the old passphrase, to save the new one, and to list the credentials — and then
asks the main thread, one credential after the other, to change the recovery slot: only the main
thread may use the TPM.  It sends a `TpmCommand` and waits for the answer.  The main thread takes
such a message off the queue between two reports; in a registration, it opens the store four times
itself.

So the unit of interleaving is one call to the store, or one message: `UpdatePhase` says what a
request does next, `MainThread` what a registration does next, and a step of the `System` is one of
them.  What a thread does between two of these points touches nothing that is shared.  The scheduler
is the input: an `Action` says whose turn it is, and any list of actions is an interleaving.

`registration_uninterrupted` is that the steps of a registration, taken one after the other, are
`make_credential`.
-/

set_option autoImplicit false

namespace TpmFido2

/-- `RecoveryKdf::argon2id_default`. -/
def RecoveryKdf.argon2idDefault : RecoveryKdf := .argon2id 65536 3 1

/-- `tpm::recovery_passphrase_hash`: Argon2id, which comes from a package. -/
abbrev PassphraseHash := RecoveryKdf → List UInt8 → String → Option (List UInt8)

/-- A passphrase as it is stored: salt, hash and parameters. -/
abbrev Passphrase := List UInt8 × List UInt8 × RecoveryKdf

/-! ## A registration in steps -/

namespace Ctap2

open Bytes Cbor CommandM

variable (crates : Crates) (env : Env)

/-- What a registration has found out when it comes to the daemon passphrase. -/
structure Registration where
  request : MakeCredentialRequest
  options : Option Entries
  userVerified : Bool
  owner : Option UInt32

/-- `make_credential` up to the daemon passphrase. -/
def checkRegistration (body : List UInt8) : CommandM Registration := do
  let request ← Handler.ofExcept (decodeMap crates body)
  let r ← Handler.ofExcept (makeCredentialRequest request)
  let userVerified ← validatePinUvAuth crates env 0 (mapInteger request (.int 9))
    (mapBytes request (.int 8)) (r.clientDataHash ++ utf8 r.rpId) .makeCredential (some r.rpId)
  let options := mapMap request (.int 7)
  Handler.ofExcept (validateMakeCredentialOptions options)
  Handler.ofExcept (validateCredentialDescriptorList (mapArray request (.int 5)))
  let a ← auth
  Handler.throwIf (excludedCredentialExists a.credentials r.rpId (mapArray request (.int 5)))
    .credentialExcluded
  Handler.throwIf (¬ (a.session.matchesCurrent env 1 ∧ env.approve (registrationPrompt r) ∧
    a.session.matchesCurrent env 2)) .operationDenied
  pure ⟨r, options, userVerified, a.session.uid⟩

/-- `make_credential` from there to the new credential. -/
def createCredential (registration : Registration) (passphrase : Option Passphrase) :
    CommandM (Credential × List UInt8) := do
  let r := registration.request
  let tpm ← Handler.ofOption (← ensureTpm crates env) .operationDenied
  let credentialId := fillRandom 32 (env.random 0)
  let (key, policy, material) ← Handler.ofOption
    (createCredentialMaterial crates env tpm credentialId registration.owner passphrase)
    .operationDenied
  let discoverable := wantsDiscoverable registration.options
  let authData := makeAuthData crates r.rpId
    (0x41 ||| if registration.userVerified || wantsUserVerification registration.options then 0x04
      else 0) 0
    (some (credentialId, coseCredentialPublicKey key))
    (if r.credPropsRequested then some (credPropsExtension discoverable) else none)
  pure ({
    id := credentialId
    rpId := r.rpId
    discoverable := discoverable
    userId := registration.owner
    userHandle := r.userHandle
    userName := r.userName
    userDisplayName := r.userDisplayName
    key := key
    policy := some ⟨policy, StoredPcrPolicy.currentVersion⟩
    recovery := material.map RecoveryMaterial.toSlot
    signCount := 0 },
    encodeResponse crates
      (.map [(.integer 1, .text "none"), (.integer 2, .bytes authData), (.integer 3, .map [])]))

/-- The two parts, with the call to the store between them. -/
theorem prepareCredential_eq (body : List UInt8) :
    prepareCredential crates env body = (do
      let registration ← checkRegistration crates env body
      let passphrase ← store (Store.loadDaemonPassphrase crates (env.store 1))
      createCredential crates env registration passphrase.toOption.join) := by
  simp only [prepareCredential, checkRegistration, createCredential, Handler.bind_assoc]
  rfl

end Ctap2

namespace Management

open Ctap2 (World Env TpmCommand Registration)
open Ctap2.CommandM (store)

/-! ## The request -/

/-- `ManagementRequest::UpdatePassphrase`, and the peer it comes from. -/
structure UpdateRequest where
  peerUid : UInt32
  oldPassphrase : Option String
  newPassphrase : String
deriving DecidableEq, Repr

/-- `filter_uid`: root sees the credentials of everybody. -/
def filterUid (uid : UInt32) : Option UInt32 := if uid = 0 then none else some uid

/-- Why a request is refused. -/
inductive UpdateError where
  | check
  | alreadySet
  | validation
  | mismatch
  | salt
  | hash
  | save
  | credentials
deriving DecidableEq, Repr

/-- The text of the response; all but `alreadySet`, `mismatch` and `salt` end with the cause. -/
def UpdateError.text : UpdateError → String
  | .check => "failed to check daemon passphrase: "
  | .alreadySet =>
    "daemon passphrase is already set; provide the current passphrase to change it"
  | .validation => "passphrase validation error: "
  | .mismatch => "current passphrase does not match"
  | .salt => "failed to generate random salt"
  | .hash => "new passphrase hash error: "
  | .save => "failed to save daemon passphrase: "
  | .credentials => ""

/-- What the response says of a credential: `skipped` is one without a recovery slot. -/
inductive CredentialStatus where
  | skipped
  | ok
  | error
deriving DecidableEq, Repr

/-- `ManagementResponse`: an error, or what became of each credential. -/
inductive UpdateResponse where
  | refused (e : UpdateError)
  | updated (results : List (List UInt8 × CredentialStatus))
deriving DecidableEq, Repr

/-- What a request does next. -/
inductive UpdatePhase where
  /-- Check the old passphrase. -/
  | verify
  /-- Save the new passphrase. -/
  | save (new : Passphrase)
  /-- List the credentials. -/
  | snapshot (new : Passphrase)
  /-- Go on with the credentials listed. -/
  | sending (new : Passphrase) (todo : List StoredCtap2Credential)
      (results : List (List UInt8 × CredentialStatus))
  /-- Wait for the main thread to change the slot of a credential; the answer says whether it
  did. -/
  | waiting (new : Passphrase) (id : List UInt8) (todo : List StoredCtap2Credential)
      (results : List (List UInt8 × CredentialStatus)) (reply : Option Bool)
  | finished (response : UpdateResponse)
deriving DecidableEq, Repr

/-- A request and how far it has got. -/
structure UpdateThread where
  request : UpdateRequest
  phase : UpdatePhase
deriving DecidableEq, Repr

/-- Whether a call to the store or the TPM failed in a step. -/
inductive Result where
  | ok
  | failed
deriving DecidableEq, Repr

/-- The result of a call. -/
def Result.of {ε α : Type} : Outcome ε α → Result
  | .ok _ => .ok
  | .error _ => .failed
  | .panicked => .failed

/-- The result of a call that the caller looks at. -/
def Result.ofExcept {ε α : Type} : Except ε α → Result
  | .ok _ => .ok
  | .error _ => .failed

section
variable (crates : Crates) (hash : PassphraseHash)

/-- The check of the old passphrase against the stored one. -/
def checkOld (request : UpdateRequest) (current : Option Passphrase) : Except UpdateError Unit :=
  match current with
  | none => .ok ()
  | some (salt, expected, kdf) =>
    match request.oldPassphrase with
    | none => .error .alreadySet
    | some old =>
      match hash kdf salt old with
      | none => .error .validation
      | some computed => if computed ≠ expected then .error .mismatch else .ok ()

/-- The new passphrase, with a random salt; `none` is a failure of the random source. -/
def newPassphrase (request : UpdateRequest) (random : Option (Nat → UInt8)) :
    Except UpdateError Passphrase :=
  match random with
  | none => .error .salt
  | some source =>
    let salt := fillRandom 32 source
    match hash .argon2idDefault salt request.newPassphrase with
    | none => .error .hash
    | some h => .ok (salt, h, .argon2idDefault)

/-- What a step of a request leaves: whether a call failed, the request, the store, and a message
to the main thread. -/
structure ThreadStep where
  result : Result
  phase : UpdatePhase
  store : Store
  sent : Option TpmCommand

/-- The request after its first call to the store. -/
def verified (request : UpdateRequest) (random : Option (Nat → UInt8))
    (current : Option Passphrase) : UpdatePhase :=
  match checkOld hash request current, newPassphrase hash request random with
  | .error e, _ => .finished (.refused e)
  | .ok _, .error e => .finished (.refused e)
  | .ok _, .ok new => .save new

/-- `handle_update_passphrase`, up to the next point at which other threads matter. -/
def UpdateThread.step (t : UpdateThread) (fault : StoreFault) (random : Option (Nat → UInt8))
    (s : Store) : ThreadStep :=
  match t.phase with
  | .verify =>
    match Store.loadDaemonPassphrase crates fault s with
    | (.ok current, s') => ⟨.ok, verified hash t.request random current, s', none⟩
    | (_, s') => ⟨.failed, .finished (.refused .check), s', none⟩
  | .save new =>
    match Store.saveDaemonPassphrase crates fault new.1 new.2.1 new.2.2 s with
    | (.ok _, s') => ⟨.ok, .snapshot new, s', none⟩
    | (_, s') => ⟨.failed, .finished (.refused .save), s', none⟩
  | .snapshot new =>
    match Store.loadCtap2Credentials crates fault (filterUid t.request.peerUid) s with
    | (.ok credentials, s') => ⟨.ok, .sending new credentials [], s', none⟩
    | (_, s') => ⟨.failed, .finished (.refused .credentials), s', none⟩
  | .sending _ [] results => ⟨.ok, .finished (.updated results), s, none⟩
  | .sending new (c :: todo) results =>
    match c.recovery with
    | none => ⟨.ok, .sending new todo (results ++ [(c.id, .skipped)]), s, none⟩
    | some recovery =>
      ⟨.ok, .waiting new c.id todo results none, s,
        some (.passphraseChange c.id recovery.key new.2.1 new.1 new.2.2)⟩
  | .waiting _ _ _ _ none => ⟨.ok, t.phase, s, none⟩
  | .waiting new id todo results (some done) =>
    ⟨.ok, .sending new todo (results ++ [(id, if done then .ok else .error)]), s, none⟩
  | .finished _ => ⟨.ok, t.phase, s, none⟩

end

/-! ## The threads together -/

/-- What the main thread does next. -/
inductive MainThread where
  /-- Wait for a report or a message. -/
  | idle
  /-- Check a registration, and read the daemon passphrase. -/
  | checking (env : Env) (body : List UInt8)
  /-- Create the key of the new credential, with the daemon passphrase that was read. -/
  | creating (env : Env) (registration : Registration) (read : Option Passphrase)
  /-- Add the credential and save. -/
  | saving (env : Env) (read : Option Passphrase) (credential : Credential)

/-- Whether the main thread is between two reports. -/
def MainThread.isIdle : MainThread → Bool
  | .idle => true
  | _ => false

/-- The daemon: what the threads share, the main thread, the messages to it with the number of the
thread that waits for the answer, and the requests. -/
structure System where
  world : World
  main : MainThread
  queue : List (Nat × TpmCommand)
  threads : List UpdateThread

/-- The daemon before the first request. -/
def System.start (w : World) : System := ⟨w, .idle, [], []⟩

/-- Whose turn it is. -/
inductive Action where
  /-- A connection is accepted. -/
  | accept (request : UpdateRequest)
  /-- The thread of a request goes on. -/
  | thread (k : Nat) (fault : StoreFault) (random : Option (Nat → UInt8))
  /-- The main thread gets a makeCredential request. -/
  | begin (env : Env) (body : List UInt8)
  /-- The main thread goes on with it. -/
  | proceed
  /-- The main thread takes a message off the queue. -/
  | receive (env : Env)

/-- The answer to a waiting request. -/
def UpdateThread.answered (t : UpdateThread) (done : Bool) : UpdateThread :=
  match t.phase with
  | .waiting new id todo results none =>
    { t with phase := .waiting new id todo results (some done) }
  | _ => t

section
variable (crates : Crates) (hash : PassphraseHash)

/-- The main thread goes on with a registration. -/
def MainThread.step (main : MainThread) (w : World) : Result × MainThread × World :=
  match main with
  | .idle => (.ok, .idle, w)
  | .checking env body =>
    match Ctap2.checkRegistration crates env body w with
    | (.ok registration, w₁) =>
      match store (Store.loadDaemonPassphrase crates (env.store 1)) w₁ with
      | (.ok passphrase, w₂) =>
        (.ofExcept passphrase, .creating env registration passphrase.toOption.join, w₂)
      | (_, w₂) => (.failed, .idle, w₂)
    | (_, w₁) => (.ok, .idle, w₁)
  | .creating env registration read =>
    match Ctap2.createCredential crates env registration read w with
    | (.ok (credential, _), w₁) => (.ok, .saving env read credential, w₁)
    | (_, w₁) => (.failed, .idle, w₁)
  | .saving env _ credential =>
    let w₁ : World := { w with
      auth := { w.auth with credentials := w.auth.credentials ++ [credential] } }
    match store (Store.saveCtap2Credentials crates (env.store 3) w₁.auth.credentials) w₁ with
    | (.ok saved, w₂) => (.ofExcept saved, .idle, w₂)
    | (_, w₂) => (.failed, .idle, w₂)

/-- The main thread begins with a registration: `handle_cbor` up to the check for the daemon
passphrase. -/
def beginRegistration (env : Env) (body : List UInt8) (w : World) : Result × MainThread × World :=
  let w₁ : World := { w with auth := w.auth.enter .makeCredential }
  let result := Result.of (Store.loadDaemonPassphrase crates (env.store 0) w.store).1
  match Ctap2.requirePassphrase crates env .makeCredential w₁ with
  | (.ok _, w₂) => (result, .checking env body, w₂)
  | (_, w₂) => (result, .idle, w₂)

/-- One step of the daemon.  Whoever cannot go on stays where they are. -/
def System.step (sys : System) (action : Action) : Result × System :=
  match action with
  | .accept request => (.ok, { sys with threads := sys.threads ++ [⟨request, .verify⟩] })
  | .thread k fault random =>
    match sys.threads[k]? with
    | none => (.ok, sys)
    | some t =>
      let r := t.step crates hash fault random sys.world.store
      (r.result,
        { sys with
          world := { sys.world with store := r.store }
          queue := sys.queue ++ (r.sent.map fun command ↦ (k, command)).toList
          threads := sys.threads.set k { t with phase := r.phase } })
  | .begin env body =>
    match sys.main with
    | .idle =>
      let r := beginRegistration crates env body sys.world
      (r.1, { sys with main := r.2.1, world := r.2.2 })
    | _ => (.ok, sys)
  | .proceed =>
    let r := sys.main.step crates sys.world
    (r.1, { sys with main := r.2.1, world := r.2.2 })
  | .receive env =>
    match sys.main, sys.queue with
    | .idle, (k, command) :: queue =>
      let r := Ctap2.handleTpmCommand crates env command sys.world
      (.of r.1,
        { sys with
          world := r.2
          queue := queue
          threads := sys.threads.modify k (·.answered (r.1.toOption.isSome)) })
    | _, _ => (.ok, sys)

/-- A step of a run of the daemon. -/
abbrev SystemStep := Run.Transition System Action Result

/-- The steps of the daemon under a scheduler. -/
abbrev run (w : World) (actions : List Action) : List SystemStep :=
  Run.transitions (System.step crates hash) (.start w) actions

/-- The daemon after the steps of a scheduler. -/
abbrev after (w : World) (actions : List Action) : System :=
  Run.final (System.step crates hash) (.start w) actions

end

/-! ## A registration without interruption -/

/-- **The steps of a registration, one after the other, are the registration.** -/
theorem registration_uninterrupted (crates : Crates) (hash : PassphraseHash) (env : Env)
    (body : List UInt8) (sys : System) (hidle : sys.main.isIdle) :
    Run.final (System.step crates hash) sys [.begin env body, .proceed, .proceed, .proceed] =
      { sys with world := (Ctap2.step crates sys.world (.cbor env (0x01 :: body))).2 } := by
  obtain ⟨w, main, queue, threads⟩ := sys
  cases main with
  | checking _ _ => cases hidle
  | creating _ _ _ => cases hidle
  | saving _ _ _ => cases hidle
  | idle =>
    change _ = System.mk (Ctap2.respond ((Ctap2.requirePassphrase crates env .makeCredential >>=
      fun _ ↦ Ctap2.makeCredential crates env body)
        { w with auth := w.auth.enter .makeCredential })).2 .idle queue threads
    rw [Handler.bind_def]
    simp only [Run.final, System.step, beginRegistration]
    -- after an error the main thread is idle and nothing more happens
    cases Ctap2.requirePassphrase crates env .makeCredential
        { w with auth := w.auth.enter .makeCredential } with
    | mk o w₁ =>
      cases o with
      | error _ => rfl
      | panicked => rfl
      | ok _ =>
        simp only [Ctap2.makeCredential, Ctap2.prepareCredential_eq, Handler.bind_assoc,
          MainThread.step]
        rw [Handler.bind_def]
        cases Ctap2.checkRegistration crates env body w₁ with
        | mk o w₂ =>
          cases o with
          | error _ => rfl
          | panicked => rfl
          | ok registration =>
            simp only [Handler.bind_def]
            cases store (Store.loadDaemonPassphrase crates (env.store 1)) w₂ with
            | mk o w₃ =>
              cases o with
              | error _ => rfl
              | panicked => rfl
              | ok passphrase =>
                dsimp only
                cases Ctap2.createCredential crates env registration passphrase.toOption.join
                    w₃ with
                | mk o w₄ =>
                  cases o with
                  | error _ => rfl
                  | panicked => rfl
                  | ok x =>
                    obtain ⟨credential, response⟩ := x
                    simp only [Ctap2.CommandM.modifyAuth, Handler.modify, Ctap2.saveCredentials,
                      Ctap2.CommandM.auth, Handler.gets, Handler.bind_def]
                    generalize store _ _ = saved
                    obtain ⟨o, w₅⟩ := saved
                    cases o <;> rfl

end Management
end TpmFido2
