import TpmFido2.Ctap2.Response

/-!
# The authenticator and what surrounds it

`Authenticator` is the in-memory state of `src/ctap2.rs`, and a `World` is that state together
with the store it reads and writes.  A CTAP2 command is a `Handler` on worlds: what it did to
memory or to the store before it failed is not undone.

Everything a command learns from outside — the login session, the clock, the user's answer, the
random source, failures of the store, the TPM — is in an `Env`, one for each command.  A command
may ask the same thing more than once and get different answers, so the calls of a command are
numbered, in the order of the source, and each answer depends on the number.  No relation between
the answers is assumed.
-/

set_option autoImplicit false

namespace TpmFido2
namespace Ctap2

/-! ## The outside -/

/-- `SessionContext`, as far as it is compared and used: the user and the login session. -/
structure SessionContext where
  uid : Option UInt32
  sessionId : Option String
deriving DecidableEq, Repr

/-- What one command sees of the outside. -/
structure Env where
  /-- `SessionContext::detect`, call by call. -/
  detect : Nat → SessionContext
  /-- `Instant::now`, call by call, in nanoseconds. -/
  now : Nat → Nat
  /-- `approval::approve`: the answer to a prompt. -/
  approve : String → Bool
  /-- The random source, call by call. -/
  random : Nat → Nat → UInt8
  /-- `EphemeralSecret::generate`. -/
  ephemeral : List UInt8
  /-- How the calls to the store fail, call by call. -/
  store : Nat → StoreFault
  tpm : TpmDevice

/-- `Duration::from_secs`, in nanoseconds. -/
def seconds (n : Nat) : Nat := n * 1000000000

/-! ## Memory -/

structure PinUvAuthToken where
  value : List UInt8
  permissions : Ctap2PermissionFlags
  rpId : Option String
  issuedAt : Nat
deriving DecidableEq, Repr

structure ManagementState where
  rpIndexes : List Nat
  rpPosition : Nat
  credentialIndexes : List Nat
  credentialPosition : Nat
  sessionUid : Option UInt32
  createdAt : Nat
deriving DecidableEq, Repr

structure PendingAssertion where
  rpId : String
  clientDataHash : List UInt8
  credentialIndexes : List Nat
  totalCredentials : Nat
  createdAt : Nat
  sessionUid : Option UInt32
  userVerified : Bool
deriving DecidableEq, Repr

/-- `Authenticator`.  The PIN state in memory has the fields of the stored one. -/
structure Authenticator where
  tpmPath : Option String
  tpm : Option Tpm
  session : SessionContext
  credentials : List Credential
  pendingAssertion : Option PendingAssertion
  clientPin : Option StoredClientPinState
  keyAgreement : Option (List UInt8)
  pinUvAuthToken : Option PinUvAuthToken
  management : Option ManagementState
deriving DecidableEq, Repr

/-- The authenticator and its store. -/
structure World where
  store : Store
  auth : Authenticator

/-- A CTAP2 command, or a part of one. -/
abbrev CommandM := Handler World ErrorStatus

namespace CommandM

variable {α : Type}

/-- A call to the store; what to make of an error is the caller's business. -/
def store (m : StoreM α) : CommandM (Except StoreError α) :=
  Handler.zoom World.store (fun s w ↦ { w with store := s }) m

/-- A call to the store whose failure is reported as `OperationDenied`. -/
def storeOrDeny (m : StoreM α) : CommandM α := do
  match ← store m with
  | .ok a => pure a
  | .error _ => Handler.throw .operationDenied

/-- Change the authenticator. -/
def modifyAuth (f : Authenticator → Authenticator) : CommandM Unit :=
  Handler.modify fun w ↦ { w with auth := f w.auth }

/-- Read the authenticator. -/
def auth : CommandM Authenticator := Handler.gets World.auth

theorem auth_apply (w : World) : auth w = (.ok w.auth, w) := rfl

theorem modifyAuth_apply (f : Authenticator → Authenticator) (w : World) :
    modifyAuth f w = (.ok (), { w with auth := f w.auth }) := rfl

end CommandM

open CommandM

variable (crates : Crates) (env : Env)

/-! ## Session and approval -/

/-- `SessionContext::verify_matches_current`, as the n-th call to `detect`. -/
def SessionContext.matchesCurrent (session : SessionContext) (n : Nat) : Bool :=
  (env.detect n).uid = session.uid && (env.detect n).sessionId = session.sessionId

/-- `Authenticator::assertion_approved`, whose two looks at the session are calls `n` and
`n + 1`. -/
def Authenticator.assertionApproved (a : Authenticator) (n : Nat) (rpId : String) : Bool :=
  a.session.matchesCurrent env n && env.approve ("Authenticate with passkey for " ++ rpId) &&
    a.session.matchesCurrent env (n + 1)

/-! ## The TPM context -/

/-- `Authenticator::ensure_tpm`. -/
def ensureTpm : CommandM (Option Tpm) := do
  let a ← auth
  match a.tpm, a.tpmPath with
  | some tpm, _ => pure (some tpm)
  | none, none => pure none
  | none, some _ => do
    let indices ← store (Store.loadDefaultPcrPolicy crates (env.store 2))
    match Tpm.openPath env.tpm (indices.toOption.join) with
    | none => pure none
    | some tpm => do
      modifyAuth fun a ↦ { a with tpm := some tpm }
      pure (some tpm)

/-! ## Credentials on disk -/

/-- `Authenticator::load_credentials_from_disk`: an error is an empty list. -/
def loadCredentialsFromDisk (fault : StoreFault) (uid : Option UInt32) :
    CommandM (List Credential) := do
  match ← store (Store.loadCtap2Credentials crates fault uid) with
  | .ok credentials => pure (credentials.map StoredCtap2Credential.toCredential)
  | .error _ => pure []

/-- `Authenticator::save_credentials`: an error is logged and otherwise ignored. -/
def saveCredentials : CommandM Unit := do
  let a ← auth
  let _ ← store (Store.saveCtap2Credentials crates (env.store 3) a.credentials)
  pure ()

/-! ## The PIN/UV token -/

/-- What `validate_pin_uv_auth` finds out about a request. -/
inductive PinUvVerdict where
  /-- `Ok(false)`: neither protocol nor parameter were given. -/
  | absent
  /-- `Ok(true)`: the parameter is right. -/
  | verified
  /-- An error that leaves the token. -/
  | rejected (e : ErrorStatus)
  /-- An error that drops the token. -/
  | revoked
deriving DecidableEq, Repr

/-- The token, if it has not expired at the n-th look at the clock. -/
def Authenticator.liveToken (a : Authenticator) (n : Nat) : Option PinUvAuthToken :=
  a.pinUvAuthToken.filter fun token ↦ env.now n - token.issuedAt ≤ seconds 600

/-- Whether a token may be used for an operation on an RP, or on none. -/
def PinUvAuthToken.permits (token : PinUvAuthToken) (permission : Ctap2PermissionFlags)
    (rpId : Option String) : Bool :=
  token.permissions.contains permission &&
    (token.rpId = none || token.rpId = rpId)

/-- Whether `authParam` is the code of `message` under `key`, cut to 16 or to all 32 bytes. -/
def isAuthParam (key authParam message : List UInt8) : Bool :=
  (authParam.length = 16 || authParam.length = 32) &&
    Store.constantTimeEqual ((crates.hmacSha256 key message).take authParam.length) authParam

/-- The decision of `Authenticator::validate_pin_uv_auth`, which looks at the session as call
`n` and at the clock as call `0`. -/
def Authenticator.pinUvVerdict (a : Authenticator) (n : Nat) (protocol : Option Int)
    (authParam : Option (List UInt8)) (message : List UInt8) (permission : Ctap2PermissionFlags)
    (rpId : Option String) : PinUvVerdict :=
  if ¬ a.session.matchesCurrent env n then .rejected .operationDenied
  else if protocol.isNone ∧ authParam.isNone then .absent
  else
    match validatePinUvProtocol protocol, authParam with
    | .error e, _ => .rejected e
    | .ok _, none => .rejected .missingParameter
    | .ok _, some authParam =>
      match a.liveToken env 0 with
      | none => .revoked
      | some token =>
        if token.permits permission rpId && isAuthParam crates token.value authParam message then
          .verified
        else .revoked

/-- `Authenticator::validate_pin_uv_auth`. -/
def validatePinUvAuth (n : Nat) (protocol : Option Int) (authParam : Option (List UInt8))
    (message : List UInt8) (permission : Ctap2PermissionFlags) (rpId : Option String) :
    CommandM Bool := do
  let a ← auth
  match a.pinUvVerdict crates env n protocol authParam message permission rpId with
  | .absent => pure false
  | .verified => pure true
  | .rejected e => Handler.throw e
  | .revoked => do
    modifyAuth fun a ↦ { a with pinUvAuthToken := none }
    Handler.throw .pinAuthInvalid

end Ctap2
end TpmFido2
