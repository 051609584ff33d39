import TpmFido2.Ctap2.State

/-!
# authenticatorCredentialManagement

`credential_management` of `src/ctap2.rs` and its seven sub-commands.
-/

set_option autoImplicit false

namespace TpmFido2
namespace Ctap2

open Bytes Cbor CommandM

variable (crates : Crates) (env : Env)

/-- `MAX_RESIDENT_CREDENTIALS`. -/
def maxResidentCredentials : Nat := 128

/-- The sub-commands of authenticatorCredentialManagement. -/
inductive ManagementSubCommand where
  | getCredsMetadata
  | enumerateRpsBegin
  | enumerateRpsNext
  | enumerateCredentialsBegin
  | enumerateCredentialsNext
  | deleteCredential
  | updateUserInformation
deriving DecidableEq, Repr

def ManagementSubCommand.ofInteger (n : Int) : Option ManagementSubCommand :=
  if n = 1 then some .getCredsMetadata
  else if n = 2 then some .enumerateRpsBegin
  else if n = 3 then some .enumerateRpsNext
  else if n = 4 then some .enumerateCredentialsBegin
  else if n = 5 then some .enumerateCredentialsNext
  else if n = 6 then some .deleteCredential
  else if n = 7 then some .updateUserInformation
  else none

/-- `self.management = ..`. -/
def setManagement (state : Option ManagementState) : CommandM Unit :=
  modifyAuth fun a ↦ { a with management := state }

/-! ## Enumeration -/

/-- The loop of `enumerate_rps_begin`: the index of the first discoverable credential of each
RP. -/
def rpIndexes (credentials : List Credential) : List Nat :=
  (List.range credentials.length).filter fun i ↦
    (credentials[i]?).any fun c ↦
      c.discoverable && !(credentials.take i).any fun earlier ↦
        earlier.discoverable && earlier.rpId = c.rpId

/-- The loop of `enumerate_credentials_begin`: the discoverable credentials of the RP with the
given hash. -/
def credentialIndexesOf (credentials : List Credential) (rpHash : List UInt8) : List Nat :=
  (List.range credentials.length).filter fun i ↦
    (credentials[i]?).any fun c ↦ c.discoverable && crates.sha256 (utf8 c.rpId) = rpHash

/-- `Authenticator::enumerate_rps_begin`. -/
def enumerateRpsBegin : CommandM (List UInt8) := do
  let a ← auth
  let indexes := rpIndexes a.credentials
  let first ← Handler.ofOption indexes.head? .noCredentials
  setManagement (some ⟨indexes, 1, [], 0, a.session.uid, env.now 2⟩)
  let c ← Handler.expect a.credentials[first]?
  pure (encodeRpResponse crates c (some indexes.length))

/-- `Authenticator::enumerate_rps_next`. -/
def enumerateRpsNext : CommandM (List UInt8) := do
  let a ← auth
  let state ← Handler.ofOption a.management .noCredentials
  let index ← Handler.ofOption state.rpIndexes[state.rpPosition]? .noCredentials
  setManagement (some { state with rpPosition := state.rpPosition + 1 })
  let c ← Handler.expect a.credentials[index]?
  pure (encodeRpResponse crates c none)

/-- `Authenticator::enumerate_credentials_begin`. -/
def enumerateCredentialsBegin (params : Option Entries) : CommandM (List UInt8) := do
  let params ← Handler.ofOption params .missingParameter
  let rpHash ← Handler.ofOption (mapBytes params (.int 1)) .missingParameter
  Handler.throwIf (rpHash.length ≠ 32) .invalidParameter
  let a ← auth
  let indexes := credentialIndexesOf crates a.credentials rpHash
  let first ← Handler.ofOption indexes.head? .noCredentials
  setManagement (some ⟨[], 0, indexes, 1, a.session.uid, env.now 2⟩)
  let c ← Handler.expect a.credentials[first]?
  pure (encodeCredentialManagementResponse crates c (some indexes.length))

/-- `Authenticator::enumerate_credentials_next`. -/
def enumerateCredentialsNext : CommandM (List UInt8) := do
  let a ← auth
  let state ← Handler.ofOption a.management .noCredentials
  let index ← Handler.ofOption state.credentialIndexes[state.credentialPosition]? .noCredentials
  setManagement (some { state with credentialPosition := state.credentialPosition + 1 })
  let c ← Handler.expect a.credentials[index]?
  pure (encodeCredentialManagementResponse crates c none)

/-! ## Changes -/

/-- The credential ID in the descriptor of a request. -/
def descriptorId (params : Option Entries) : Except ErrorStatus (List UInt8) :=
  match (params.bind fun params ↦ mapMap params (.int 2)).bind
      fun descriptor ↦ mapBytes descriptor (.text "id") with
  | none => .error .missingParameter
  | some id => .ok id

/-- The position of the discoverable credential with an ID. -/
def discoverablePosition (credentials : List Credential) (id : List UInt8) : Option Nat :=
  credentials.findIdx? fun c ↦ c.discoverable && c.id = id

/-- `Authenticator::delete_credential`. -/
def deleteCredential (params : Option Entries) : CommandM (List UInt8) := do
  let id ← Handler.ofExcept (descriptorId params)
  let a ← auth
  let index ← Handler.ofOption (discoverablePosition a.credentials id) .noCredentials
  storeOrDeny (Store.deleteCtap2Credential (env.store 1) id)
  modifyAuth fun a ↦ { a with credentials := a.credentials.eraseIdx index, management := none }
  pure (emptyResponse crates)

/-- The credential with the user data of a request. -/
def withUser (user : Entries) (c : Credential) : Credential :=
  { c with
    userHandle := (mapBytes user (.text "id")).getD c.userHandle
    userName := mapText user (.text "name")
    userDisplayName := mapText user (.text "displayName") }

/-- The credential a request is about, by its index, and the user data to give it. -/
def locateUser (a : Authenticator) (params : Option Entries) :
    Except ErrorStatus (Nat × Entries) := do
  let id ← descriptorId params
  match params.bind fun params ↦ mapMap params (.int 3) with
  | none => .error .missingParameter
  | some user =>
    match discoverablePosition a.credentials id with
    | none => .error .noCredentials
    | some index => .ok (index, user)

/-- `Authenticator::update_user_information`. -/
def updateUserInformation (params : Option Entries) : CommandM (List UInt8) := do
  let a ← auth
  let (index, user) ← Handler.ofExcept (locateUser a params)
  modifyAuth fun a ↦ { a with credentials := a.credentials.modify index (withUser user) }
  saveCredentials crates env
  setManagement none
  pure (emptyResponse crates)

/-- getCredsMetadata. -/
def getCredsMetadata : CommandM (List UInt8) := do
  let a ← auth
  let count := (a.credentials.filter Credential.discoverable).length
  pure (encodeResponse crates (.map [(.integer 1, .integer count),
    (.integer 2, .integer (maxResidentCredentials - count : Nat))]))

/-! ## The command -/

/-- The sub-command of a request that has been authorised. -/
def managementSubCommand (subCommand : ManagementSubCommand) (params : Option Entries) :
    CommandM (List UInt8) :=
  match subCommand with
  | .getCredsMetadata => getCredsMetadata crates
  | .enumerateRpsBegin => enumerateRpsBegin crates env
  | .enumerateRpsNext => enumerateRpsNext crates
  | .enumerateCredentialsBegin => enumerateCredentialsBegin crates env params
  | .enumerateCredentialsNext => enumerateCredentialsNext crates
  | .deleteCredential => deleteCredential crates env params
  | .updateUserInformation => updateUserInformation crates env params

/-- `self.management` is dropped after 30 s, or for another user. -/
def expireManagement : CommandM Unit :=
  modifyAuth fun a ↦ { a with
    management := a.management.filter fun state ↦
      !(seconds 30 < env.now 1 - state.createdAt || state.sessionUid ≠ a.session.uid) }

/-- The checks of `credential_management` before the sub-command.  Whether the request was
verified or carried no authentication at all is not looked at. -/
def authoriseManagement (body : List UInt8) : CommandM (Int × Option Entries) := do
  let a ← auth
  Handler.throwIf (¬ a.session.matchesCurrent env 0) .operationDenied
  let request ← Handler.ofExcept (decodeMap crates body)
  let subCommand ← Handler.ofOption (mapInteger request (.int 1)) .missingParameter
  let params := mapMap request (.int 2)
  Handler.throwIf (a.clientPin.isNone) .pinNotSet
  let _ ← validatePinUvAuth crates env 1 (mapInteger request (.int 3)) (mapBytes request (.int 4))
    (managementAuthMessage crates subCommand params) .credentialManagement none
  expireManagement env
  pure (subCommand, params)

/-- `Authenticator::credential_management`. -/
def credentialManagement (body : List UInt8) : CommandM (List UInt8) := do
  let (n, params) ← authoriseManagement crates env body
  let subCommand ← Handler.ofOption (ManagementSubCommand.ofInteger n) .invalidCommand
  managementSubCommand crates env subCommand params

end Ctap2
end TpmFido2
