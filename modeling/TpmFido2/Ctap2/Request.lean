import TpmFido2.Crates

/-!
# CTAP2 requests

How `src/ctap2.rs` reads a request: the command byte, the CBOR map behind it, the typed look-ups
into that map, and the checks on a request that need nothing but the request.
-/

set_option autoImplicit false

namespace TpmFido2
namespace Ctap2

open Cbor

/-! ## Commands and errors -/

inductive Ctap2Command where
  | makeCredential
  | getAssertion
  | getInfo
  | clientPin
  | getNextAssertion
  | reset
  | credentialManagement
  | selection
  | bioEnrollment
  | largeBlobs
  | config
  | bioEnrollmentPreview
  | credentialManagementPreview
deriving DecidableEq, Repr

/-- `Ctap2Command::try_from`. -/
def Ctap2Command.fromByte (b : UInt8) : Option Ctap2Command :=
  if b = 0x01 then some .makeCredential
  else if b = 0x02 then some .getAssertion
  else if b = 0x04 then some .getInfo
  else if b = 0x06 then some .clientPin
  else if b = 0x07 then some .reset
  else if b = 0x08 then some .getNextAssertion
  else if b = 0x09 then some .bioEnrollment
  else if b = 0x0a then some .credentialManagement
  else if b = 0x0b then some .selection
  else if b = 0x0c then some .largeBlobs
  else if b = 0x0d then some .config
  else if b = 0x40 then some .bioEnrollmentPreview
  else if b = 0x41 then some .credentialManagementPreview
  else none

inductive ErrorStatus where
  | invalidCommand
  | invalidParameter
  | invalidCbor
  | missingParameter
  | credentialExcluded
  | unsupportedAlgorithm
  | operationDenied
  | unsupportedOption
  | noCredentials
  | pinInvalid
  | pinBlocked
  | pinAuthInvalid
  | pinNotSet
  | pinPolicyViolation
deriving DecidableEq, Repr

def ErrorStatus.byte : ErrorStatus → UInt8
  | .invalidCommand => 0x01
  | .invalidParameter => 0x02
  | .invalidCbor => 0x12
  | .missingParameter => 0x14
  | .credentialExcluded => 0x19
  | .unsupportedAlgorithm => 0x26
  | .operationDenied => 0x27
  | .unsupportedOption => 0x2b
  | .noCredentials => 0x2e
  | .pinInvalid => 0x31
  | .pinBlocked => 0x32
  | .pinAuthInvalid => 0x33
  | .pinNotSet => 0x35
  | .pinPolicyViolation => 0x37

/-- No error is reported as success. -/
theorem ErrorStatus.byte_ne_zero (e : ErrorStatus) : e.byte ≠ 0x00 := by
  cases e <;> decide

/-! ## Looking into a request -/

/-- The entries of a CBOR map, in the order they came in. -/
abbrev Entries := List (Value × Value)

/-- `MapKey`: the two kinds of key a request is asked for. -/
inductive MapKey where
  | int (n : Int)
  | text (s : String)
deriving DecidableEq, Repr

/-- `MapKey::matches`. -/
def MapKey.isKey (key : MapKey) (value : Value) : Bool :=
  match key with
  | .int n => value.asInteger = some n
  | .text s => value.asText = some s

/-- `map_value`: the value of the first entry with the key. -/
def mapValue (map : Entries) (key : MapKey) : Option Value :=
  map.findSome? fun (candidate, value) ↦ if key.isKey candidate then some value else none

/-- `map_bytes`. -/
def mapBytes (map : Entries) (key : MapKey) : Option (List UInt8) :=
  (mapValue map key).bind Value.asBytes

/-- `map_integer`. -/
def mapInteger (map : Entries) (key : MapKey) : Option Int :=
  (mapValue map key).bind Value.asInteger

/-- `map_text`. -/
def mapText (map : Entries) (key : MapKey) : Option String :=
  (mapValue map key).bind Value.asText

/-- `map_bool`. -/
def mapBool (map : Entries) (key : MapKey) : Option Bool :=
  (mapValue map key).bind Value.asBool

/-- `map_array`. -/
def mapArray (map : Entries) (key : MapKey) : Option (List Value) :=
  (mapValue map key).bind Value.asArray

/-- `map_map`. -/
def mapMap (map : Entries) (key : MapKey) : Option Entries :=
  (mapValue map key).bind Value.asMap

/-- `decode_map`. -/
def decodeMap (crates : Crates) (body : List UInt8) : Except ErrorStatus Entries :=
  match crates.fromReader body with
  | some (.map map) => .ok map
  | _ => .error .invalidCbor

/-! ## Permissions -/

/-- `Ctap2PermissionFlags`. -/
structure Ctap2PermissionFlags where
  bits : UInt8
deriving DecidableEq, Repr

namespace Ctap2PermissionFlags

def makeCredential : Ctap2PermissionFlags := ⟨0x01⟩

def getAssertion : Ctap2PermissionFlags := ⟨0x02⟩

def credentialManagement : Ctap2PermissionFlags := ⟨0x04⟩

/-- `Ctap2PermissionFlags::from_bits`: `none` for a bit that has no name. -/
def fromBits (bits : UInt8) : Option Ctap2PermissionFlags :=
  if bits &&& 0x07 = bits then some ⟨bits⟩ else none

def isEmpty (flags : Ctap2PermissionFlags) : Bool := flags.bits = 0

def contains (flags other : Ctap2PermissionFlags) : Bool := flags.bits &&& other.bits = other.bits

/-- The permissions of a token request: an integer that is a byte with named bits only. -/
def ofInteger (n : Int) : Option Ctap2PermissionFlags :=
  if 0 ≤ n ∧ n < 256 then fromBits (UInt8.ofNat n.toNat) else none

end Ctap2PermissionFlags

/-! ## Checks -/

/-- `PIN_UV_AUTH_PROTOCOL`. -/
def pinUvAuthProtocol : Nat := 2

/-- `validate_pin_uv_protocol`; an integer that is no `u64` counts as missing. -/
def validatePinUvProtocol (protocol : Option Int) : Except ErrorStatus Unit :=
  match protocol with
  | none => .error .missingParameter
  | some n =>
    if n < 0 ∨ 2 ^ 64 ≤ n then .error .missingParameter
    else if n = pinUvAuthProtocol then .ok ()
    else .error .invalidParameter

/-- `validate_client_data_hash`. -/
def validateClientDataHash (clientDataHash : List UInt8) : Except ErrorStatus Unit :=
  if clientDataHash.length ≠ 32 then .error .invalidCbor else .ok ()

/-- `COSE_ALG_ES256`. -/
def coseAlgEs256 : Int := -7

/-- `supports_es256`. -/
def supportsEs256 (value : Value) : Bool :=
  match value with
  | .map map =>
    mapText map (.text "type") = some "public-key" &&
      mapInteger map (.text "alg") = some coseAlgEs256
  | _ => false

/-- `validate_common_options`. -/
def validateCommonOptions (options : Option Entries) (rejectUserPresenceFalse : Bool) :
    Except ErrorStatus Unit :=
  match options with
  | none => .ok ()
  | some options =>
    if mapBool options (.text "up") = some false ∧ rejectUserPresenceFalse ∧
        mapBool options (.text "uv") ≠ some true then
      .error .unsupportedOption
    else .ok ()

/-- `validate_resident_key_options`. -/
def validateResidentKeyOptions (options : Option Entries) : Except ErrorStatus Unit :=
  match options.bind fun options ↦ mapText options (.text "residentKey") with
  | none => .ok ()
  | some residentKey =>
    if residentKey ∈ ["discouraged", "preferred", "required"] then .ok () else .error .invalidCbor

/-- `validate_make_credential_options`. -/
def validateMakeCredentialOptions (options : Option Entries) : Except ErrorStatus Unit := do
  validateCommonOptions options false
  validateResidentKeyOptions options

/-- `validate_get_assertion_options`. -/
def validateGetAssertionOptions (options : Option Entries) : Except ErrorStatus Unit :=
  validateCommonOptions options false

/-- `validate_attestation_conveyance`. -/
def validateAttestationConveyance (attestation : Option String) : Except ErrorStatus Unit :=
  match attestation with
  | none => .ok ()
  | some attestation =>
    if attestation ∈ ["none", "indirect", "direct", "enterprise"] then .ok ()
    else .error .invalidCbor

/-- Whether a list entry is a descriptor `validate_credential_descriptor_list` accepts. -/
def isCredentialDescriptor (entry : Value) : Bool :=
  match entry with
  | .map map =>
    mapText map (.text "type") = some "public-key" && (mapBytes map (.text "id")).isSome
  | _ => false

/-- `validate_credential_descriptor_list`. -/
def validateCredentialDescriptorList (list : Option (List Value)) : Except ErrorStatus Unit :=
  match list with
  | none => .ok ()
  | some list => if list.all isCredentialDescriptor then .ok () else .error .invalidCbor

/-- `credential_descriptor_list_contains`. -/
def credentialDescriptorListContains (list : List Value) (credentialId : List UInt8) : Bool :=
  list.any fun entry ↦
    match entry with
    | .map map =>
      mapText map (.text "type") = some "public-key" &&
        mapBytes map (.text "id") = some credentialId
    | _ => false

/-- `allow_list_allows`. -/
def allowListAllows (allowList : Option (List Value)) (credentialId : List UInt8) : Bool :=
  match allowList with
  | none => true
  | some [] => true
  | some list => credentialDescriptorListContains list credentialId

/-- `display_rp_label`. -/
def displayRpLabel (rpName : Option String) (rpId : String) : String :=
  match rpName with
  | none => rpId
  | some name => if name ≠ rpId then name ++ " (" ++ rpId ++ ")" else rpId

end Ctap2
end TpmFido2
