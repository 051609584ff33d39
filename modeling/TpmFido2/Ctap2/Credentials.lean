import TpmFido2.Ctap2.State

/-!
# Registration and authentication

authenticatorMakeCredential, authenticatorGetAssertion and authenticatorGetNextAssertion.

A registration is cut in two: `prepareCredential` does everything up to the point where the new
credential exists, without touching the credentials, and `makeCredential` adds it and saves.  The
two assertion commands end in the same steps — build the authenticator data with the next counter,
sign, write the counter to the store, then to memory — which are `releaseAssertion`; what it
returns is the assertion before it is encoded.
-/

set_option autoImplicit false

namespace TpmFido2
namespace Ctap2

open Bytes Cbor CommandM

variable (crates : Crates) (env : Env)

/-! ## Registration -/

/-- `excluded_credential_exists`. -/
def excludedCredentialExists (credentials : List Credential) (rpId : String)
    (excludeList : Option (List Value)) : Bool :=
  match excludeList with
  | none => false
  | some list => credentials.any fun c ↦ c.rpId = rpId && credentialDescriptorListContains list c.id

/-- What a registration request asks for. -/
structure MakeCredentialRequest where
  clientDataHash : List UInt8
  rpId : String
  rpName : Option String
  userHandle : List UInt8
  userName : Option String
  userDisplayName : Option String
  credPropsRequested : Bool

/-- The first part of a registration request, up to the check of its authentication. -/
def makeCredentialRequest (request : Entries) : Except ErrorStatus MakeCredentialRequest :=
  match mapBytes request (.int 1) with
  | none => .error .missingParameter
  | some clientDataHash => do
    validateClientDataHash clientDataHash
    match mapMap request (.int 2), mapMap request (.int 3), mapArray request (.int 4) with
    | some rp, some user, some params => do
      validateAttestationConveyance (mapText request (.int 8))
      if ¬ params.any supportsEs256 then .error .unsupportedAlgorithm
      else
        match mapText rp (.text "id"), mapBytes user (.text "id") with
        | some rpId, some userHandle =>
          .ok {
            clientDataHash := clientDataHash
            rpId := rpId
            rpName := mapText rp (.text "name")
            userHandle := userHandle
            userName := mapText user (.text "name")
            userDisplayName := mapText user (.text "displayName")
            credPropsRequested := (mapMap request (.int 6)).any fun extensions ↦
              mapBool extensions (.text "credProps") = some true }
        | _, _ => .error .missingParameter
    | _, _, _ => .error .missingParameter

/-- Whether the options ask for a discoverable credential. -/
def wantsDiscoverable (options : Option Entries) : Bool :=
  options.bind (mapBool · (.text "rk")) = some true ||
    options.bind (mapBool · (.text "requireResidentKey")) = some true ||
    (options.bind (mapText · (.text "residentKey"))).any (· ≠ "discouraged")

/-- Whether the options ask for user verification. -/
def wantsUserVerification (options : Option Entries) : Bool :=
  options.bind (mapBool · (.text "uv")) = some true

/-- The prompt of a registration. -/
def registrationPrompt (r : MakeCredentialRequest) : String :=
  "Register a new passkey for " ++ displayRpLabel r.rpName r.rpId ++ " as " ++
    (r.userDisplayName.or r.userName).getD "unknown user"

/-- `store::StoredRecoverySlot` of fresh recovery material. -/
def RecoveryMaterial.toSlot (m : RecoveryMaterial) : StoredRecoverySlot :=
  ⟨m.label, m.passphraseSalt, m.passphraseHash, m.kdf, m.key⟩

/-- The recovery material of a new credential: none without a daemon passphrase.  The outer `none`
is a failure of the TPM. -/
def recoveryMaterialFor (passphrase : Option (List UInt8 × List UInt8 × RecoveryKdf)) :
    Option (Option RecoveryMaterial) :=
  match passphrase with
  | none => some none
  | some (salt, hash, kdf) =>
    (createRecoveryMaterialWithHash crates env.tpm none salt hash kdf).map some

/-- The policy of a new credential: bound to the current PCR values, and with recovery material
authorised by the recovery key. -/
def policyFor (tpm : Tpm) (credentialId : List UInt8) (owner : Option UInt32)
    (material : Option RecoveryMaterial) : Option PcrPolicyBinding := do
  let policy ← createSecureBootPolicy crates env.tpm tpm
  match material with
  | none => return policy
  | some material =>
    createAuthorizedPolicy crates env.tpm tpm policy material.key
      (credentialPolicyRef crates credentialId owner)

/-- The key, policy and recovery slot of a new credential. -/
def createCredentialMaterial (tpm : Tpm) (credentialId : List UInt8) (owner : Option UInt32)
    (passphrase : Option (List UInt8 × List UInt8 × RecoveryKdf)) :
    Option (TpmCredential × PcrPolicyBinding × Option RecoveryMaterial) := do
  let material ← recoveryMaterialFor crates env passphrase
  let policy ← policyFor crates env tpm credentialId owner material
  let key ← createCredentialKey env.tpm (some policy) none
  return (key, policy, material)

/-- Everything `make_credential` does before it adds the credential: the credential, and the
response. -/
def prepareCredential (body : List UInt8) : CommandM (Credential × List UInt8) := do
  let request ← Handler.ofExcept (decodeMap crates body)
  let r ← Handler.ofExcept (makeCredentialRequest request)
  let userVerified ← validatePinUvAuth crates env 0 (mapInteger request (.int 9))
    (mapBytes request (.int 8)) (r.clientDataHash ++ utf8 r.rpId) .makeCredential (some r.rpId)
  let options := mapMap request (.int 7)
  Handler.ofExcept (validateMakeCredentialOptions options)
  Handler.ofExcept (validateCredentialDescriptorList (mapArray request (.int 5)))
  let a ← auth
  Handler.throwIf (excludedCredentialExists a.credentials r.rpId (mapArray request (.int 5)))
    .credentialExcluded
  Handler.throwIf (¬ (a.session.matchesCurrent env 1 ∧ env.approve (registrationPrompt r) ∧
    a.session.matchesCurrent env 2)) .operationDenied
  let passphrase ← store (Store.loadDaemonPassphrase crates (env.store 1))
  let tpm ← Handler.ofOption (← ensureTpm crates env) .operationDenied
  let credentialId := fillRandom 32 (env.random 0)
  let (key, policy, material) ← Handler.ofOption
    (createCredentialMaterial crates env tpm credentialId a.session.uid passphrase.toOption.join)
    .operationDenied
  let discoverable := wantsDiscoverable options
  let authData := makeAuthData crates r.rpId
    (0x41 ||| if userVerified || wantsUserVerification options then 0x04 else 0) 0
    (some (credentialId, coseCredentialPublicKey key))
    (if r.credPropsRequested then some (credPropsExtension discoverable) else none)
  pure ({
    id := credentialId
    rpId := r.rpId
    discoverable := discoverable
    userId := a.session.uid
    userHandle := r.userHandle
    userName := r.userName
    userDisplayName := r.userDisplayName
    key := key
    policy := some ⟨policy, StoredPcrPolicy.currentVersion⟩
    recovery := material.map RecoveryMaterial.toSlot
    signCount := 0 },
    encodeResponse crates
      (.map [(.integer 1, .text "none"), (.integer 2, .bytes authData), (.integer 3, .map [])]))

/-- `Authenticator::make_credential`. -/
def makeCredential (body : List UInt8) : CommandM (List UInt8) := do
  let (credential, response) ← prepareCredential crates env body
  modifyAuth fun a ↦ { a with credentials := a.credentials ++ [credential] }
  saveCredentials crates env
  pure response

/-! ## Signing -/

/-- `u32::saturating_add(1)`. -/
def saturatingSucc (n : UInt32) : UInt32 := if n = 0xffffffff then n else n + 1

/-- `sign_credential`, in a build without tests. -/
def signCredential (key : TpmCredential) (policy : Option StoredPcrPolicy)
    (authority : Option StoredRecoverySlot) (signedData : List UInt8) : CommandM (List UInt8) := do
  Handler.throwIf (policy.any fun p ↦ ¬ StoredPcrPolicy.isVersionSupported p.policyVersion)
    .operationDenied
  let tpm ← Handler.ofOption (← ensureTpm crates env) .operationDenied
  Handler.ofOption (signDigestWithPolicy env.tpm tpm key
    (policy.map StoredPcrPolicy.toPcrPolicyBinding) (authority.map StoredRecoverySlot.key)
    (crates.sha256 signedData)) .operationDenied

/-- An assertion, before it is encoded. -/
structure Assertion where
  credential : Credential
  signCount : UInt32
  userVerified : Bool
  signature : List UInt8

/-- The authenticator data of an assertion. -/
def Assertion.authData (x : Assertion) : List UInt8 :=
  makeAuthData crates x.credential.rpId (0x01 ||| if x.userVerified then 0x04 else 0) x.signCount
    none none

/-- The response with an assertion. -/
def Assertion.response (x : Assertion) (totalCredentials : Nat) : List UInt8 :=
  encodeAssertionResponse crates x.credential.id (x.authData crates) x.signature
    (userEntity x.credential x.userVerified) totalCredentials

/-- The end of both assertion commands, on the credential at an index: sign with the next counter,
and let the assertion out only when the store has it. -/
def releaseAssertion (index : Nat) (clientDataHash : List UInt8) (userVerified : Bool) :
    CommandM Assertion := do
  let a ← auth
  let credential ← Handler.expect a.credentials[index]?
  let signCount := saturatingSucc credential.signCount
  let authData := makeAuthData crates credential.rpId (0x01 ||| if userVerified then 0x04 else 0)
    signCount none none
  let signature ← signCredential crates env credential.key credential.policy credential.recovery
    (authData ++ clientDataHash)
  storeOrDeny (Store.updateCtap2SignCount (env.store 3) credential.id signCount)
  modifyAuth fun a ↦ { a with
    credentials := a.credentials.modify index fun c ↦ { c with signCount := signCount } }
  pure ⟨credential, signCount, userVerified, signature⟩

/-! ## Assertions -/

/-- Whether a credential matches the RP and the allow list of a request. -/
def matchesRequest (rpId : String) (allowList : Option (List Value)) (c : Credential) : Bool :=
  c.rpId = rpId &&
    match allowList with
    | some (entry :: list) => allowListAllows (some (entry :: list)) c.id
    | _ => c.discoverable

/-- `matching_credential_indexes`. -/
def matchingCredentialIndexes (credentials : List Credential) (rpId : String)
    (allowList : Option (List Value)) : List Nat :=
  (List.range credentials.length).filter fun i ↦
    (credentials[i]?).any (matchesRequest rpId allowList)

/-- What an assertion request asks for. -/
structure GetAssertionRequest where
  rpId : String
  clientDataHash : List UInt8

/-- The first part of an assertion request, up to the check of its authentication. -/
def getAssertionRequest (request : Entries) : Except ErrorStatus GetAssertionRequest :=
  match mapText request (.int 1), mapBytes request (.int 2) with
  | some rpId, some clientDataHash => do
    validateClientDataHash clientDataHash
    return ⟨rpId, clientDataHash⟩
  | _, _ => .error .missingParameter

/-- `if self.tpm_path.is_some()`: the daemon reads the credentials again before it looks for the
ones that match. -/
def reloadCredentials : CommandM Unit := do
  let a ← auth
  if a.tpmPath.isSome then do
    let credentials ← loadCredentialsFromDisk crates (env.store 1) a.session.uid
    modifyAuth fun a ↦ { a with credentials := credentials }
  else pure ()

/-- `get_assertion` up to the choice of the credential: the request, whether the user is verified,
and all indexes that match, the first one apart. -/
def selectAssertion (body : List UInt8) :
    CommandM (GetAssertionRequest × Bool × Nat × List Nat) := do
  let request ← Handler.ofExcept (decodeMap crates body)
  let r ← Handler.ofExcept (getAssertionRequest request)
  let userVerified ← validatePinUvAuth crates env 0 (mapInteger request (.int 7))
    (mapBytes request (.int 6)) r.clientDataHash .getAssertion (some r.rpId)
  let allowList := mapArray request (.int 3)
  let options := mapMap request (.int 5)
  Handler.ofExcept (validateGetAssertionOptions options)
  Handler.ofExcept (validateCredentialDescriptorList allowList)
  reloadCredentials crates env
  let a ← auth
  match matchingCredentialIndexes a.credentials r.rpId allowList with
  | [] => Handler.throw .noCredentials
  | first :: remaining => do
    Handler.throwIf (¬ a.assertionApproved env 1 r.rpId) .operationDenied
    pure (r, userVerified || wantsUserVerification options, first, remaining)

/-- The pending assertion for the indexes that remain. -/
def pendingFor (pending : PendingAssertion) (remaining : List Nat) : Option PendingAssertion :=
  if remaining.isEmpty then none else some { pending with credentialIndexes := remaining }

/-- `get_assertion`: the assertion, and how many credentials matched. -/
def getAssertionReleased (body : List UInt8) : CommandM (Assertion × Nat) := do
  let (r, userVerified, first, remaining) ← selectAssertion crates env body
  let total := remaining.length + 1
  modifyAuth fun a ↦ { a with
    pendingAssertion := pendingFor
      ⟨r.rpId, r.clientDataHash, [], total, env.now 1, a.session.uid, userVerified⟩ remaining }
  let assertion ← releaseAssertion crates env first r.clientDataHash userVerified
  pure (assertion, total)

/-- `Authenticator::get_assertion`. -/
def getAssertion (body : List UInt8) : CommandM (List UInt8) := do
  let (assertion, total) ← getAssertionReleased crates env body
  pure (assertion.response crates total)

/-- `get_next_assertion`: the assertion. -/
def getNextAssertionReleased (body : List UInt8) : CommandM Assertion := do
  Handler.throwIf (body ≠ []) .invalidCbor
  let a ← auth
  let pending ← Handler.ofOption a.pendingAssertion .noCredentials
  -- `pending_assertion.take()`
  modifyAuth fun a ↦ { a with pendingAssertion := none }
  Handler.throwIf (seconds 30 < env.now 0 - pending.createdAt ∨
    pending.sessionUid ≠ a.session.uid ∨ ¬ a.session.matchesCurrent env 0) .operationDenied
  match pending.credentialIndexes with
  | [] => Handler.throw .noCredentials
  | index :: remaining => do
    modifyAuth fun a ↦ { a with pendingAssertion := pendingFor pending remaining }
    releaseAssertion crates env index pending.clientDataHash pending.userVerified

/-- `Authenticator::get_next_assertion`. -/
def getNextAssertion (body : List UInt8) : CommandM (List UInt8) := do
  let assertion ← getNextAssertionReleased crates env body
  pure (assertion.response crates 0)

end Ctap2
end TpmFido2
