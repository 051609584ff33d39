import TpmFido2.Ctap2.State

/-!
# authenticatorClientPIN

`client_pin` of `src/ctap2.rs` and what it calls: setting and changing the PIN, and the two ways
to a token.

The PIN itself is compared in one place, `authenticatePin`.  Everything a request must get right
before that point — lengths, key agreement, authentication of the request, decryption — depends on
the request and on memory only; `changePinRequest` and `tokenRequest` are those parts of
`change_pin` and `get_pin_uv_auth_token`, and return the PIN hash that is then compared.
-/

set_option autoImplicit false

namespace TpmFido2
namespace Ctap2

open Bytes Cbor CommandM

variable (crates : Crates) (env : Env)

/-- `PIN_RETRIES`. -/
def pinRetries : Nat := 8

/-! ## Sub-commands -/

/-- The sub-commands of authenticatorClientPIN. -/
inductive ClientPinSubCommand where
  | getRetries
  | getKeyAgreement
  | setPin
  | changePin
  | getPinUvAuthToken
  | getPinUvAuthTokenUsingUv
deriving DecidableEq, Repr

def ClientPinSubCommand.ofInteger (n : Int) : Option ClientPinSubCommand :=
  if n = 1 then some .getRetries
  else if n = 2 then some .getKeyAgreement
  else if n = 3 then some .setPin
  else if n = 4 then some .changePin
  else if n = 6 ∨ n = 9 then some .getPinUvAuthToken
  else if n = 10 then some .getPinUvAuthTokenUsingUv
  else none

/-! ## Key agreement -/

/-- `parse_key_agreement`: the coordinates of the platform's key. -/
def parseKeyAgreement (map : Entries) : Except ErrorStatus (List UInt8 × List UInt8) :=
  match mapInteger map (.int 1), mapInteger map (.int 3), mapInteger map (.int (-1)),
    mapBytes map (.int (-2)), mapBytes map (.int (-3)) with
  | some kty, some alg, some crv, some x, some y =>
    if kty = 2 ∧ alg = -25 ∧ crv = 1 ∧ x.length = 32 ∧ y.length = 32 ∧ crates.isPoint x y then
      .ok (x, y)
    else .error .invalidParameter
  | _, _, _, _, _ => .error .invalidParameter

/-- `derive_protocol2_keys`: the AES key and the HMAC key. -/
def deriveProtocol2Keys (sharedSecret : List UInt8) : List UInt8 × List UInt8 :=
  let salt := List.replicate 32 (0 : UInt8)
  (crates.hkdf salt sharedSecret (utf8 "CTAP2 AES key"),
    crates.hkdf salt sharedSecret (utf8 "CTAP2 HMAC key"))

/-- `Authenticator::pin_uv_keys`. -/
def Authenticator.pinUvKeys (a : Authenticator) (keyAgreement : Option Entries) :
    Except ErrorStatus (List UInt8 × List UInt8) :=
  match keyAgreement with
  | none => .error .missingParameter
  | some clientKey => do
    let (x, y) ← parseKeyAgreement crates clientKey
    match a.keyAgreement with
    | none => .error .invalidCommand
    | some secret => .ok (deriveProtocol2Keys crates (crates.diffieHellman secret x y))

/-! ## Decryption and checks -/

/-- `verify_pin_uv_auth_param`. -/
def verifyPinUvAuthParam (hmacKey authParam message : List UInt8) : Except ErrorStatus Unit :=
  if isAuthParam crates hmacKey authParam message then .ok () else .error .pinAuthInvalid

/-- `encrypt_aes`, for a plaintext that is not empty and a whole number of blocks. -/
def encryptAes (key iv plaintext : List UInt8) : List UInt8 :=
  iv ++ crates.aesCbcEncrypt key iv plaintext

/-- `decrypt_aes`. -/
def decryptAes (key ciphertext : List UInt8) : Except ErrorStatus (List UInt8) :=
  if ciphertext.length < 16 ∨ ciphertext.length % 16 ≠ 0 then .error .invalidParameter
  else .ok (crates.aesCbcDecrypt key (ciphertext.take 16) (ciphertext.drop 16))

/-- `decrypt_pin`: the plaintext up to its zero padding. -/
def decryptPin (key encrypted : List UInt8) : Except ErrorStatus (List UInt8) := do
  let decrypted ← decryptAes crates key encrypted
  let pin := decrypted.takeWhile (· ≠ 0)
  if (decrypted.drop pin.length).any (· ≠ 0) then .error .pinPolicyViolation else .ok pin

/-- `decrypt_pin_hash`. -/
def decryptPinHash (key encrypted : List UInt8) : Except ErrorStatus (List UInt8) := do
  let decrypted ← decryptAes crates key encrypted
  if decrypted.length ≠ 16 then .error .invalidParameter else .ok decrypted

/-- `validate_new_pin`. -/
def validateNewPin (pin : List UInt8) : Except ErrorStatus Unit :=
  if pin.length < 4 ∨ 63 < pin.length ∨ pin.contains 0 then .error .pinPolicyViolation else .ok ()

/-- The length check on an encrypted parameter: an initialisation vector and whole blocks. -/
def isBlocks (encrypted : List UInt8) : Bool :=
  16 ≤ encrypted.length && (encrypted.length - 16) % 16 = 0

/-- `pin_verifier`. -/
def pinVerifier (salt pinHash : List UInt8) : List UInt8 := crates.pbkdf2 pinHash salt

/-- The state of a new PIN, with the salt it is given. -/
def newPinState (salt newPin : List UInt8) : StoredClientPinState :=
  ⟨salt, pinVerifier crates salt ((crates.sha256 newPin).take 16), pinRetries⟩

/-! ## The PIN -/

/-- `Authenticator::persist_client_pin`, as the n-th call to the store. -/
def persistClientPin (n : Nat) (state : StoredClientPinState) : CommandM Unit :=
  storeOrDeny (Store.saveClientPinState crates (env.store n) state)

/-- `self.client_pin = ..`. -/
def setClientPin (state : Option StoredClientPinState) : CommandM Unit :=
  modifyAuth fun a ↦ { a with clientPin := state }

/-- Whether a PIN hash is the right one. -/
def pinMatches (pin : StoredClientPinState) (pinHash : List UInt8) : Bool :=
  Store.constantTimeEqual (pinVerifier crates pin.pinSalt pinHash) pin.pinVerifier

/-- `Authenticator::authenticate_pin`. -/
def authenticatePin (pinHash : List UInt8) : CommandM Unit := do
  Handler.throwIf (pinHash.length ≠ 16) .invalidParameter
  let a ← auth
  match a.clientPin with
  | none => Handler.throw .pinNotSet
  | some pin => do
    Handler.throwIf (pin.retries = 0) .pinBlocked
    if pinMatches crates pin pinHash then
      if pin.retries ≠ pinRetries then do
        setClientPin (some { pin with retries := pinRetries })
        persistClientPin crates env 0 { pin with retries := pinRetries }
      else pure ()
    else do
      setClientPin (some { pin with retries := pin.retries - 1 })
      persistClientPin crates env 0 { pin with retries := pin.retries - 1 }
      Handler.throw (if pin.retries - 1 = 0 then .pinBlocked else .pinInvalid)

/-- The checks of `set_pin`: they leave the new PIN. -/
def setPinRequest (a : Authenticator) (keyAgreement : Option Entries)
    (newPinEnc pinUvAuthParam : List UInt8) : Except ErrorStatus (List UInt8) := do
  if a.clientPin.isSome then .error .invalidCommand
  else if ¬ isBlocks newPinEnc then .error .invalidParameter
  else
    let (aesKey, hmacKey) ← a.pinUvKeys crates keyAgreement
    verifyPinUvAuthParam crates hmacKey pinUvAuthParam newPinEnc
    let newPin ← decryptPin crates aesKey newPinEnc
    validateNewPin newPin
    return newPin

/-- `Authenticator::set_pin`. -/
def setPin (keyAgreement : Option Entries) (newPinEnc pinUvAuthParam : List UInt8) :
    CommandM (List UInt8) := do
  let a ← auth
  let newPin ← Handler.ofExcept (setPinRequest crates a keyAgreement newPinEnc pinUvAuthParam)
  let state := newPinState crates (fillRandom 32 (env.random 0)) newPin
  persistClientPin crates env 1 state
  setClientPin (some state)
  pure (emptyResponse crates)

/-- The checks of `change_pin` before the PIN is compared: they leave the new PIN and the hash of
the current one. -/
def changePinRequest (a : Authenticator) (keyAgreement : Option Entries)
    (newPinEnc pinHashEnc pinUvAuthParam : List UInt8) :
    Except ErrorStatus (List UInt8 × List UInt8) := do
  if a.clientPin.isNone then .error .pinNotSet
  else if ¬ isBlocks newPinEnc ∨ ¬ isBlocks pinHashEnc then .error .invalidParameter
  else
    let (aesKey, hmacKey) ← a.pinUvKeys crates keyAgreement
    verifyPinUvAuthParam crates hmacKey pinUvAuthParam (newPinEnc ++ pinHashEnc)
    let newPin ← decryptPin crates aesKey newPinEnc
    validateNewPin newPin
    let pinHash ← decryptPinHash crates aesKey pinHashEnc
    return (newPin, pinHash)

/-- `Authenticator::change_pin`. -/
def changePin (keyAgreement : Option Entries) (newPinEnc pinHashEnc pinUvAuthParam : List UInt8) :
    CommandM (List UInt8) := do
  let a ← auth
  let (newPin, pinHash) ← Handler.ofExcept
    (changePinRequest crates a keyAgreement newPinEnc pinHashEnc pinUvAuthParam)
  authenticatePin crates env pinHash
  let state := newPinState crates (fillRandom 32 (env.random 0)) newPin
  persistClientPin crates env 1 state
  setClientPin (some state)
  pure (emptyResponse crates)

/-! ## Tokens -/

/-- The check on the permissions a token is asked for. -/
def validatePermissions (permissions : Ctap2PermissionFlags) (rpId : Option String) :
    Except ErrorStatus Unit :=
  if permissions.isEmpty then .error .invalidParameter
  else if permissions.contains .getAssertion ∧ rpId.isNone then .error .invalidParameter
  else .ok ()

/-- The end of both token sub-commands: a fresh token, remembered and sent encrypted. -/
def issueToken (aesKey macKey : List UInt8) (permissions : Ctap2PermissionFlags)
    (rpId : Option String) : CommandM (List UInt8) := do
  let token := fillRandom 32 (env.random 0)
  modifyAuth fun a ↦ { a with pinUvAuthToken := some ⟨token, permissions, rpId, env.now 0⟩ }
  let encryptedToken := encryptAes crates aesKey (fillRandom 16 (env.random 1)) token
  let pinUvAuthParam := (crates.hmacSha256 macKey encryptedToken).take 16
  pure (encodeResponse crates
    (.map [(.integer 2, .bytes encryptedToken), (.integer 3, .bytes pinUvAuthParam)]))

/-- The checks of `get_pin_uv_auth_token` before the PIN is compared: they leave the two keys and
the PIN hash. -/
def tokenRequest (a : Authenticator) (keyAgreement : Option Entries) (pinHashEnc : List UInt8)
    (permissions : Ctap2PermissionFlags) (rpId : Option String) :
    Except ErrorStatus ((List UInt8 × List UInt8) × List UInt8) := do
  validatePermissions permissions rpId
  let (aesKey, macKey) ← a.pinUvKeys crates keyAgreement
  let pinHash ← decryptPinHash crates aesKey pinHashEnc
  return ((aesKey, macKey), pinHash)

/-- `Authenticator::get_pin_uv_auth_token`. -/
def getPinUvAuthToken (keyAgreement : Option Entries) (pinHashEnc : List UInt8)
    (permissions : Ctap2PermissionFlags) (rpId : Option String) : CommandM (List UInt8) := do
  let a ← auth
  let ((aesKey, macKey), pinHash) ←
    Handler.ofExcept (tokenRequest crates a keyAgreement pinHashEnc permissions rpId)
  authenticatePin crates env pinHash
  issueToken crates env aesKey macKey permissions rpId

/-- `Authenticator::get_pin_uv_auth_token_using_uv`. -/
def getPinUvAuthTokenUsingUv (keyAgreement : Option Entries) (permissions : Ctap2PermissionFlags)
    (rpId : Option String) : CommandM (List UInt8) := do
  Handler.ofExcept (validatePermissions permissions rpId)
  let a ← auth
  Handler.throwIf (¬ (a.session.matchesCurrent env 0 ∧
    env.approve "Verify identity for a FIDO2 operation" ∧ a.session.matchesCurrent env 1))
    .operationDenied
  let (aesKey, macKey) ← Handler.ofExcept (a.pinUvKeys crates keyAgreement)
  issueToken crates env aesKey macKey permissions rpId

/-! ## The command -/

/-- The parameters of a sub-command: those of the nested map at key 4 if there is one, and
otherwise those of the request itself, under other keys. -/
def pinParameter {α : Type} (read : Entries → MapKey → Option α) (request : Entries)
    (nested flat : Int) : Option α :=
  match mapMap request (.int 4) with
  | some params => read params (.int nested)
  | none => read request (.int flat)

/-- The permissions a request asks for. -/
def pinPermissions (request : Entries) : Option Ctap2PermissionFlags :=
  (pinParameter mapInteger request 2 9).bind Ctap2PermissionFlags.ofInteger

/-- The new PIN, encrypted, of setPIN and changePIN. -/
def newPinEncOf (request : Entries) : Option (List UInt8) := pinParameter mapBytes request 1 5

/-- The authentication of setPIN. -/
def setPinParamOf (request : Entries) : Option (List UInt8) := pinParameter mapBytes request 2 4

/-- The hash of the current PIN, encrypted, of changePIN. -/
def changePinHashEncOf (request : Entries) : Option (List UInt8) :=
  pinParameter mapBytes request 2 6

/-- The authentication of changePIN. -/
def changePinParamOf (request : Entries) : Option (List UInt8) := pinParameter mapBytes request 3 4

/-- The hash of the PIN, encrypted, of a token request. -/
def tokenPinHashEncOf (request : Entries) : Option (List UInt8) :=
  pinParameter mapBytes request 1 6

/-- The RP a token is asked for. -/
def tokenRpIdOf (request : Entries) : Option String := pinParameter mapText request 3 10

/-- The sub-command with a request that has been read. -/
def clientPinSubCommand (subCommand : ClientPinSubCommand) (request : Entries) :
    CommandM (List UInt8) := do
  let keyAgreement := mapMap request (.int 3)
  match subCommand with
  | .getRetries => do
    Handler.throwIf ((mapValue request (.int 3)).isSome ∨ (mapValue request (.int 4)).isSome)
      .invalidParameter
    let a ← auth
    let retries := (a.clientPin.map StoredClientPinState.retries).getD pinRetries
    pure (encodeResponse crates (.map [(.integer 3, .integer retries)]))
  | .getKeyAgreement => do
    Handler.throwIf ((mapValue request (.int 3)).isSome ∨ (mapValue request (.int 4)).isSome)
      .invalidParameter
    modifyAuth fun a ↦ { a with keyAgreement := some env.ephemeral }
    pure (keyAgreementResponse crates env.ephemeral)
  | .setPin => do
    let newPinEnc ← Handler.ofOption (newPinEncOf request) .missingParameter
    let pinUvAuthParam ← Handler.ofOption (setPinParamOf request) .missingParameter
    setPin crates env keyAgreement newPinEnc pinUvAuthParam
  | .changePin => do
    let newPinEnc ← Handler.ofOption (newPinEncOf request) .missingParameter
    let pinHashEnc ← Handler.ofOption (changePinHashEncOf request) .missingParameter
    let pinUvAuthParam ← Handler.ofOption (changePinParamOf request) .missingParameter
    changePin crates env keyAgreement newPinEnc pinHashEnc pinUvAuthParam
  | .getPinUvAuthToken => do
    let pinHashEnc ← Handler.ofOption (tokenPinHashEncOf request) .missingParameter
    let permissions ← Handler.ofOption (pinPermissions request) .missingParameter
    getPinUvAuthToken crates env keyAgreement pinHashEnc permissions (tokenRpIdOf request)
  | .getPinUvAuthTokenUsingUv => do
    let permissions ← Handler.ofOption (pinPermissions request) .missingParameter
    getPinUvAuthTokenUsingUv crates env keyAgreement permissions (tokenRpIdOf request)

/-- Reading a clientPIN request: the protocol, then the sub-command. -/
def clientPinRequest (body : List UInt8) : Except ErrorStatus (ClientPinSubCommand × Entries) := do
  let request ← decodeMap crates body
  validatePinUvProtocol (mapInteger request (.int 1))
  match mapInteger request (.int 2) with
  | none => .error .missingParameter
  | some n =>
    match ClientPinSubCommand.ofInteger n with
    | none => .error .invalidCommand
    | some subCommand => .ok (subCommand, request)

/-- `Authenticator::client_pin`. -/
def clientPin (body : List UInt8) : CommandM (List UInt8) := do
  let (subCommand, request) ← Handler.ofExcept (clientPinRequest crates body)
  clientPinSubCommand crates env subCommand request

end Ctap2
end TpmFido2
