import TpmFido2.Ctap2.ClientPin
import TpmFido2.Ctap2.Credentials
import TpmFido2.Ctap2.Management
import TpmFido2.Lib.Run

/-!
# The authenticator as a machine

`Authenticator::handle_cbor` with the commands that are short, `Authenticator::new`,
`cancel_pending` and `handle_tpm_command` of `src/ctap2.rs`; and the daemon as a machine on
worlds, whose inputs are everything that can happen to it:

* a CTAP2 request or a cancellation from the transport,
* a command of the management thread for the TPM,
* the management thread writing one of its two settings,
* a start of the daemon on the store as it is,
* damage to the integrity data of the store from outside.

A command that panics ends the process.  The machine does not insist that a start comes next, so
its runs include those of the daemon and more.
-/

set_option autoImplicit false

namespace TpmFido2
namespace Ctap2

open Cbor CommandM

variable (crates : Crates) (env : Env)

/-! ## Short commands -/

/-- The loop of `reset` over the credentials: failures to delete a row are ignored.  The n-th row
is the n-th call to the store after the first. -/
def deleteAll : Nat → List Credential → CommandM Unit
  | _, [] => pure ()
  | n, c :: cs => do
    let _ ← store (Store.deleteCtap2Credential (env.store (n + 1)) c.id)
    deleteAll (n + 1) cs

/-- The part of `reset` that is about the PIN; a failure to delete the row is ignored. -/
def resetPin : CommandM Unit := do
  let a ← auth
  if a.clientPin.isSome then do
    let _ ← store (Store.deleteClientPinState (env.store 0))
    modifyAuth fun a ↦ { a with clientPin := none, keyAgreement := none, pinUvAuthToken := none }
  else pure ()

/-- `Authenticator::reset`. -/
def reset : CommandM (List UInt8) := do
  let a ← auth
  Handler.throwIf (¬ a.assertionApproved env 0 "reset") .operationDenied
  resetPin env
  deleteAll env 0 a.credentials
  modifyAuth fun a ↦ { a with credentials := [], pendingAssertion := none, management := none }
  pure (emptyResponse crates)

/-- `Authenticator::selection`. -/
def selection : CommandM (List UInt8) := do
  let a ← auth
  Handler.throwIf (¬ a.assertionApproved env 0 "selection") .operationDenied
  pure (emptyResponse crates)

/-! ## `handle_cbor` -/

/-- What every command does first: unless it may continue them, it drops the pending assertion and
the enumeration. -/
def Authenticator.enter (command : Ctap2Command) (a : Authenticator) : Authenticator :=
  { a with
    pendingAssertion :=
      if command = .getNextAssertion ∨ command = .credentialManagement then a.pendingAssertion
      else none
    management := if command = .credentialManagement then a.management else none }

/-- Whether a command is blocked until a daemon passphrase is set. -/
def Ctap2Command.needsPassphrase (command : Ctap2Command) : Bool :=
  command = .makeCredential || command = .getAssertion || command = .getNextAssertion ||
    command = .credentialManagement

/-- The check for the daemon passphrase, in a build without tests. -/
def requirePassphrase (command : Ctap2Command) : CommandM Unit :=
  if command.needsPassphrase then do
    let passphrase ← storeOrDeny (Store.loadDaemonPassphrase crates (env.store 0))
    Handler.throwIf passphrase.isNone .operationDenied
  else pure ()

/-- The inner `match` of `handle_cbor`; three of the commands are `todo!()`. -/
def runCommand (command : Ctap2Command) (body : List UInt8) : CommandM (List UInt8) :=
  match command with
  | .getInfo => do
    let a ← auth
    pure (getInfoResponse crates a.clientPin.isSome)
  | .clientPin => clientPin crates env body
  | .makeCredential => makeCredential crates env body
  | .getAssertion => getAssertion crates env body
  | .getNextAssertion => getNextAssertion crates env body
  | .credentialManagement => credentialManagement crates env body
  | .credentialManagementPreview => credentialManagement crates env body
  | .reset => reset crates env
  | .selection => selection crates env
  | .bioEnrollment => Handler.panic
  | .bioEnrollmentPreview => Handler.panic
  | .largeBlobs => Handler.panic
  | .config => Handler.panic

/-- A command that has been recognised, from the check of the passphrase on. -/
def gatedCommand (command : Ctap2Command) (body : List UInt8) : CommandM (List UInt8) := do
  requirePassphrase crates env command
  runCommand crates env command body

/-- The response to the outcome of a command: an error is its status byte. -/
def respond (r : Outcome ErrorStatus (List UInt8) × World) :
    Outcome Empty (List UInt8) × World :=
  match r with
  | (.ok response, w) => (.ok response, w)
  | (.error e, w) => (.ok [e.byte], w)
  | (.panicked, w) => (.panicked, w)

/-- The command and the body of a payload. -/
def parsePayload (payload : List UInt8) : Option (Ctap2Command × List UInt8) :=
  match payload with
  | [] => none
  | command :: body => (Ctap2Command.fromByte command).map fun c ↦ (c, body)

/-- `Authenticator::handle_cbor`. -/
def handleCbor (payload : List UInt8) : Handler World Empty (List UInt8) := fun w ↦
  match parsePayload payload with
  | none => (.ok [ErrorStatus.invalidCommand.byte], w)
  | some (command, body) =>
    respond (gatedCommand crates env command body { w with auth := w.auth.enter command })

/-- `Authenticator::cancel_pending`. -/
def Authenticator.cancelPending (a : Authenticator) : Authenticator :=
  { a with
    pendingAssertion := none
    management := none
    pinUvAuthToken := none
    keyAgreement := none }

/-! ## Start -/

/-- The authenticator `Authenticator::new` starts to build. -/
def Authenticator.initial (tpmPath : Option String) (session : SessionContext) : Authenticator :=
  ⟨tpmPath, none, session, [], none, none, none, none, none⟩

/-- The PIN state a start ends up with: an error is no PIN. -/
def loadClientPin : CommandM (Option StoredClientPinState) := do
  match ← store (Store.loadClientPinState crates (env.store 1)) with
  | .ok state => pure state
  | .error _ => pure none

/-- The loads of `Authenticator::new`. -/
def loadAll : CommandM Unit := do
  let a ← auth
  let credentials ← loadCredentialsFromDisk crates (env.store 0) a.session.uid
  modifyAuth fun a ↦ { a with credentials := credentials }
  let pin ← loadClientPin crates env
  setClientPin pin

/-- `Authenticator::new` on a store. -/
def newAuthenticator (tpmPath : Option String) (store : Store) : World :=
  (loadAll crates env ⟨store, .initial tpmPath (env.detect 0)⟩).2

/-! ## TPM commands -/

/-- `TpmCommand`. -/
inductive TpmCommand where
  | pcrPolicyUpdate (credentialId : List UInt8) (authority : TpmCredential)
      (authorityName policyRef : List UInt8)
  | passphraseChange (credentialId : List UInt8) (recoveryKey : TpmCredential)
      (newPassphraseHash newSalt : List UInt8) (newKdf : RecoveryKdf)
  | pcrDigestCheck (pcrIndices : List UInt32)
deriving DecidableEq, Repr

/-- The context, or the error of a TPM command without one. -/
def requireTpm : CommandM Tpm := do
  Handler.ofOption (← ensureTpm crates env) .operationDenied

/-- `Authenticator::handle_tpm_command`.  Its callers only see whether it failed, so there is one
error. -/
def handleTpmCommand (command : TpmCommand) : CommandM Unit :=
  match command with
  | .pcrPolicyUpdate id authority authorityName policyRef => do
    let tpm ← requireTpm crates env
    let policy ← Handler.ofOption
      (updateAuthorizedPolicy crates env.tpm tpm authority authorityName policyRef)
      .operationDenied
    storeOrDeny (Store.updateCtap2Policy (env.store 3) id
      ⟨policy, StoredPcrPolicy.currentVersion⟩)
  | .passphraseChange id recoveryKey newPassphraseHash newSalt newKdf => do
    let _ ← requireTpm crates env
    let updated ← Handler.ofOption (changeKeyAuth env.tpm recoveryKey newPassphraseHash)
      .operationDenied
    storeOrDeny (Store.updateRecoverySlot crates (env.store 3) id updated.privateArea newSalt
      newPassphraseHash newKdf)
  | .pcrDigestCheck indices => do
    let selection ← Handler.ofOption (pcrSelectionForIndices env.tpm indices) .operationDenied
    let _ ← requireTpm crates env
    let _ ← Handler.ofOption (currentPcrDigest crates env.tpm selection) .operationDenied
    pure ()

/-! ## The machine -/

/-- What can happen to the daemon. -/
inductive Event where
  /-- A CTAP2 request. -/
  | cbor (env : Env) (payload : List UInt8)
  /-- CTAPHID_CANCEL. -/
  | cancel
  /-- A command of the management thread. -/
  | tpm (env : Env) (command : TpmCommand)
  /-- The management thread sets the daemon passphrase. -/
  | setPassphrase (fault : StoreFault) (salt hash : List UInt8) (kdf : RecoveryKdf)
  /-- The management thread sets the default PCRs. -/
  | setPcrPolicy (fault : StoreFault) (indices : List UInt32)
  /-- A start of the daemon. -/
  | start (env : Env) (tpmPath : Option String)
  /-- The key file, and the integrity code of the PIN row, become something else. -/
  | damage (hmacKey pinMac : Option (List UInt8))

/-- What the daemon answers. -/
inductive Reply where
  | cbor (response : List UInt8)
  | ok
  | error
  | panicked
deriving DecidableEq, Repr

/-- The reply to a CTAP2 request. -/
def Reply.ofCbor : Outcome Empty (List UInt8) → Reply
  | .ok response => .cbor response
  | .panicked => .panicked

/-- The reply to anything else. -/
def Reply.ofUnit {ε : Type} : Outcome ε Unit → Reply
  | .ok _ => .ok
  | .error _ => .error
  | .panicked => .panicked

/-- Status 0x00. -/
def Reply.succeeded : Reply → Bool
  | .cbor (status :: _) => status = 0x00
  | _ => false

/-- The PIN row with another integrity code. -/
def ClientPinRow.withMac (row : ClientPinRow) (mac : Option (List UInt8)) : ClientPinRow :=
  { row with integrityMac := mac }

/-- One step of the daemon. -/
def step (w : World) (event : Event) : Reply × World :=
  match event with
  | .cbor env payload =>
    let r := handleCbor crates env payload w
    (Reply.ofCbor r.1, r.2)
  | .cancel => (.ok, { w with auth := w.auth.cancelPending })
  | .tpm env command =>
    let r := handleTpmCommand crates env command w
    (Reply.ofUnit r.1, r.2)
  | .setPassphrase fault salt hash kdf =>
    let r := Store.saveDaemonPassphrase crates fault salt hash kdf w.store
    (Reply.ofUnit r.1, { w with store := r.2 })
  | .setPcrPolicy fault indices =>
    let r := Store.saveDefaultPcrPolicy crates fault indices w.store
    (Reply.ofUnit r.1, { w with store := r.2 })
  | .start env tpmPath => (.ok, newAuthenticator crates env tpmPath w.store)
  | .damage hmacKey pinMac =>
    (.ok, { w with
      store := { w.store with
        hmacKey := hmacKey
        clientPin := w.store.clientPin.map (ClientPinRow.withMac · pinMac) } })

/-- A step of a run of the daemon. -/
abbrev Step := Run.Transition World Event Reply

/-- The steps of the daemon from a world. -/
abbrev run (w : World) (events : List Event) : List Step :=
  Run.transitions (step crates) w events

/-- The world the daemon is in after some events. -/
abbrev after (w : World) (events : List Event) : World := Run.final (step crates) w events

end Ctap2
end TpmFido2
