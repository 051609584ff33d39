import TpmFido2.Ctap2.Request
import TpmFido2.Store.Database

/-!
# CTAP2 responses

The encoders of `src/ctap2.rs`: authenticator data, COSE keys, and the CBOR map of each response.
Every map is brought into canonical order — entries by the bytes of their keys — before it is
written.
-/

set_option autoImplicit false

namespace TpmFido2
namespace Ctap2

open Bytes Cbor

variable (crates : Crates)

/-! ## Canonical order -/

/-- The order `canonicalize_value` sorts by, on entries with their `canonical_key_bytes`. -/
def keyLe (a b : Value × Value) : Prop :=
  lexLe (crates.intoWriter a.1) (crates.intoWriter b.1) = true

instance : DecidableRel (keyLe crates) := fun _ _ ↦ inferInstanceAs (Decidable (_ = true))

mutual

/-- `canonicalize_value`. -/
def canonicalizeValue : Value → Value
  | .array vs => .array (canonicalizeAll vs)
  | .map entries => .map ((canonicalizeEntries entries).insertionSort (keyLe crates))
  | .integer n => .integer n
  | .bytes b => .bytes b
  | .float bits => .float bits
  | .text s => .text s
  | .bool b => .bool b
  | .null => .null
  | .tag number v => .tag number v

/-- The items of an array, each made canonical. -/
def canonicalizeAll : List Value → List Value
  | [] => []
  | v :: vs => canonicalizeValue v :: canonicalizeAll vs

/-- The entries of a map, each value made canonical; keys stay as they are. -/
def canonicalizeEntries : List (Value × Value) → List (Value × Value)
  | [] => []
  | (k, v) :: entries => (k, canonicalizeValue v) :: canonicalizeEntries entries

end

/-- `encode_response`. -/
def encodeResponse (response : Value) : List UInt8 :=
  0x00 :: crates.intoWriter (canonicalizeValue crates response)

/-- `management_auth_message`. -/
def managementAuthMessage (subCommand : Int) (params : Option Entries) : List UInt8 :=
  UInt8.ofInt subCommand :: match params with
    | none => []
    | some params => crates.intoWriter (canonicalizeValue crates (.map params))

/-! ## Keys and authenticator data -/

/-- `AAGUID`. -/
def aaguid : List UInt8 :=
  [0x6c, 0x74, 0x70, 0x6d, 0xf1, 0xd0, 0x42, 0x00, 0x80, 0x01, 0x54, 0x50, 0x4d, 0x46, 0x49, 0x44]

/-- A COSE key on P-256 for the given algorithm. -/
def coseKey (algorithm : Int) (x y : List UInt8) : Value :=
  .map [(.integer 1, .integer 2), (.integer 3, .integer algorithm), (.integer (-1), .integer 1),
    (.integer (-2), .bytes x), (.integer (-3), .bytes y)]

/-- `cose_public_key_coordinates`. -/
def cosePublicKeyCoordinates (x y : List UInt8) : Value := coseKey coseAlgEs256 x y

/-- `cose_key_agreement_coordinates`. -/
def coseKeyAgreementCoordinates (x y : List UInt8) : Value := coseKey (-25) x y

/-- `cose_credential_public_key`. -/
def coseCredentialPublicKey (key : TpmCredential) : Value :=
  cosePublicKeyCoordinates key.publicKeyX key.publicKeyY

/-- `make_auth_data`. -/
def makeAuthData (rpId : String) (flags : UInt8) (signCount : UInt32)
    (attestedCredentialData : Option (List UInt8 × Value)) (extensions : Option Value) :
    List UInt8 :=
  crates.sha256 (utf8 rpId) ++ [flags ||| if extensions.isSome then 0x80 else 0x00] ++
    beBytes 4 signCount.toNat ++
    (match attestedCredentialData with
      | none => []
      | some (credentialId, publicKey) =>
        aaguid ++ beBytes 2 credentialId.length ++ credentialId ++ crates.intoWriter publicKey) ++
    (match extensions with
      | none => []
      | some extensions => crates.intoWriter extensions)

/-- `cred_props_extension`. -/
def credPropsExtension (discoverable : Bool) : Value :=
  .map [(.text "credProps", .map [(.text "rk", .bool discoverable)])]

/-! ## Responses -/

/-- The empty success response. -/
def emptyResponse : List UInt8 := encodeResponse crates (.map [])

/-- `get_info_response`. -/
def getInfoResponse (clientPin : Bool) : List UInt8 :=
  encodeResponse crates (.map [
    (.integer 1, .array [.text "FIDO_2_1", .text "FIDO_2_0"]),
    (.integer 2, .array [.text "credProps"]),
    (.integer 3, .bytes aaguid),
    (.integer 4, .map [(.text "plat", .bool false), (.text "rk", .bool true),
      (.text "up", .bool true), (.text "uv", .bool false), (.text "clientPin", .bool clientPin),
      (.text "pinUvAuthToken", .bool true), (.text "credMgmt", .bool true)]),
    (.integer 6, .array [.integer pinUvAuthProtocol]),
    (.integer 5, .integer 1200),
    (.integer 9, .array [.text "usb"]),
    (.integer 10, .array [.map [(.text "type", .text "public-key"),
      (.text "alg", .integer coseAlgEs256)]])])

/-- `key_agreement_response`. -/
def keyAgreementResponse (secret : List UInt8) : List UInt8 :=
  let publicKey := crates.publicKey secret
  encodeResponse crates (.map [(.integer 1, coseKeyAgreementCoordinates
    ((publicKey.drop 1).take 32) ((publicKey.drop 33).take 32))])

/-- An entry that is there only for a value. -/
def optionalEntry (key : Value) (value : Option Value) : Entries :=
  match value with
  | none => []
  | some value => [(key, value)]

/-- The user entity of a response: the handle, and the names if they are to be told. -/
def userEntity (c : Credential) (withNames : Bool) : Entries :=
  [(.text "id", .bytes c.userHandle)] ++
    if withNames then
      optionalEntry (.text "name") (c.userName.map .text) ++
        optionalEntry (.text "displayName") (c.userDisplayName.map .text)
    else []

/-- A public-key credential descriptor. -/
def credentialDescriptor (id : List UInt8) : Value :=
  .map [(.text "type", .text "public-key"), (.text "id", .bytes id)]

/-- The entry with a total, in the responses that have one. -/
def totalEntry (key : Int) (total : Option Nat) : Entries :=
  optionalEntry (.integer key) (total.map fun n ↦ .integer n)

/-- `encode_rp_response`: the RP ID serves as the name, too. -/
def encodeRpResponse (c : Credential) (total : Option Nat) : List UInt8 :=
  encodeResponse crates (.map ([
    (.integer 1, .map [(.text "id", .text c.rpId), (.text "name", .text c.rpId)]),
    (.integer 2, .bytes (crates.sha256 (utf8 c.rpId)))] ++ totalEntry 3 total))

/-- `encode_credential_management_response`. -/
def encodeCredentialManagementResponse (c : Credential) (total : Option Nat) : List UInt8 :=
  encodeResponse crates (.map ([
    (.integer 1, .map (userEntity c true)),
    (.integer 2, credentialDescriptor c.id),
    (.integer 3, coseCredentialPublicKey c.key)] ++ totalEntry 4 total))

/-- `encode_assertion_response`. -/
def encodeAssertionResponse (credentialId authData signature : List UInt8) (user : Entries)
    (totalCredentials : Nat) : List UInt8 :=
  encodeResponse crates (.map ([
    (.integer 1, credentialDescriptor credentialId),
    (.integer 2, .bytes authData),
    (.integer 3, .bytes signature),
    (.integer 4, .map user)] ++
      totalEntry 5 (if 1 < totalCredentials then some totalCredentials else none)))

end Ctap2
end TpmFido2
