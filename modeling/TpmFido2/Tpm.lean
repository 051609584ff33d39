import TpmFido2.Crates

/-!
# The TPM wrapper

`src/tpm.rs` as far as the authenticator uses it: the key material it hands around, the policies
it builds, and the DER form of the signatures it returns.

What the chip answers is not modelled.  A `TpmDevice` is one possible behaviour of the device
during one command — which attempt to open it succeeds, what each command on it returns — and
every theorem is about all of them.  The functions here do what the wrapper does around those
answers.
-/

set_option autoImplicit false

namespace TpmFido2

open Bytes

/-- `RecoveryKdf`. -/
inductive RecoveryKdf where
  | argon2id (memoryKib iterations parallelism : UInt32)
deriving DecidableEq, Repr

/-- `TpmCredential`, and `StoredTpmKey`, which has the same fields. -/
structure TpmCredential where
  privateArea : List UInt8
  publicArea : List UInt8
  publicKeyX : List UInt8
  publicKeyY : List UInt8
  authValue : Option (List UInt8)
deriving DecidableEq, Repr

/-- `PcrPolicyBinding`. -/
structure PcrPolicyBinding where
  selection : String
  digest : List UInt8
  policyRef : Option (List UInt8)
  authorityName : Option (List UInt8)
  authoritySignature : Option (List UInt8)
deriving DecidableEq, Repr

/-- `RecoveryMaterial`. -/
structure RecoveryMaterial where
  label : Option String
  passphraseSalt : List UInt8
  passphraseHash : List UInt8
  kdf : RecoveryKdf
  key : TpmCredential
  authorityName : List UInt8

/-- `Tpm`: an open context with the PCRs new policies are bound to. -/
structure Tpm where
  pcrSelectionList : List UInt32
  pcrSelectionName : String
deriving DecidableEq, Repr

/-- The answers of the device during one command. -/
structure TpmDevice where
  /-- Whether the n-th attempt to open the device succeeds. -/
  opens : Nat → Bool
  /-- Whether `PcrSlot::try_from` knows a slot. -/
  isPcrSlot : UInt32 → Bool
  /-- Whether `PcrSelectionListBuilder::build` makes a list of these slots of the SHA-256 bank. -/
  buildsSelection : List UInt32 → Bool
  /-- Creating a signing key under a policy digest and an auth value: private area, public area
  and the coordinates of the public point. -/
  createKey : Option (List UInt8) → Option (List UInt8) →
    Option (List UInt8 × List UInt8 × List UInt8 × List UInt8)
  /-- Unmarshalling a public area and marshalling it again. -/
  remarshalPublic : List UInt8 → Option (List UInt8)
  /-- `pcr_read`: values of selected PCRs, as many of them as one answer holds. -/
  pcrRead : List UInt32 → Option (List (List UInt8))
  /-- The digest of a trial session after `policy_pcr` with a selection and a PCR digest. -/
  policyPcr : List UInt32 → List UInt8 → Option (List UInt8)
  /-- Loading an authority key and signing a digest with it. -/
  signWithAuthority : TpmCredential → List UInt8 → Option (List UInt8)
  /-- The name of an authority key that was loaded. -/
  readName : TpmCredential → Option (List UInt8)
  /-- The digest of a trial session after `policy_pcr` and `policy_authorize`, with the approved
  digest, the policy reference, the authority's name and its signature. -/
  policyAuthorize : List UInt32 → List UInt8 → List UInt8 → List UInt8 → List UInt8 →
    Option (List UInt8)
  /-- Signing a digest with a credential key under a policy and an authority: `r` and `s`. -/
  sign : Tpm → TpmCredential → Option PcrPolicyBinding → Option TpmCredential → List UInt8 →
    Option (List UInt8 × List UInt8)
  /-- `object_change_auth`: the new private area. -/
  objectChangeAuth : TpmCredential → List UInt8 → Option (List UInt8)

/-- The public keys that the device creates are points of P-256. -/
def TpmDevice.CreatesPoints (crates : Crates) (device : TpmDevice) : Prop :=
  ∀ digest authValue privateArea publicArea x y,
    device.createKey digest authValue = some (privateArea, publicArea, x, y) →
      crates.isPoint x y = true ∧ x.length = 32 ∧ y.length = 32

/-! ## Opening the device -/

/-- `pcr_selection_for_indices`.  A release build shifts by the index modulo the word size.  A
`PcrSelectionList` that could be built is given by the slots it was built of. -/
def pcrSelectionForIndices (device : TpmDevice) (indices : List UInt32) : Option (List UInt32) :=
  let slots := indices.map fun i ↦ (1 : UInt32) <<< i
  if slots.all device.isPcrSlot then
    if device.buildsSelection slots then some slots else none
  else none

/-- `default_pcr_selection`. -/
def defaultPcrSelection (device : TpmDevice) (indices : Option (List UInt32)) :
    Option (List UInt32 × String) := do
  let indices := indices.getD [7]
  let name := "sha256:" ++ String.intercalate "," (indices.map fun i ↦ toString i.toNat)
  let selection ← pcrSelectionForIndices device indices
  return (selection, name)

/-- The hundred calls to `Tpm::open` that `ensure_tpm` makes. -/
def Tpm.openPath (device : TpmDevice) (indices : Option (List UInt32)) : Option Tpm :=
  if (List.range 100).any device.opens then
    (defaultPcrSelection device indices).map fun s ↦ ⟨s.1, s.2⟩
  else none

/-! ## Keys and policies -/

section
variable (crates : Crates) (device : TpmDevice)

/-- `public_name`. -/
def publicName (publicArea : List UInt8) : Option (List UInt8) :=
  (device.remarshalPublic publicArea).map fun encoded ↦ [0x00, 0x0b] ++ crates.sha256 encoded

/-- `credential_policy_ref`. -/
def credentialPolicyRef (credentialId : List UInt8) (ownerUid : Option UInt32) : List UInt8 :=
  crates.sha256 (utf8 "linux-tpm-fido2/pcr-policy/v1" ++ credentialId ++
    beBytes 4 (ownerUid.getD 0).toNat)

/-- `Tpm::current_pcr_digest`. -/
def currentPcrDigest (selection : List UInt32) : Option (List UInt8) :=
  (device.pcrRead selection).map fun digests ↦ crates.sha256 digests.flatten

/-- `Tpm::policy_with_ref_hash`. -/
def policyWithRefHash (policyDigest policyRef : List UInt8) : List UInt8 :=
  crates.sha256 (policyDigest ++ policyRef)

/-- `Tpm::create_credential_key_with_policy_and_auth`. -/
def createCredentialKey (policy : Option PcrPolicyBinding) (authValue : Option (List UInt8)) :
    Option TpmCredential :=
  (device.createKey (policy.map PcrPolicyBinding.digest) authValue).map
    fun (privateArea, publicArea, x, y) ↦ ⟨privateArea, publicArea, x, y, authValue⟩

/-- `Tpm::create_recovery_material_with_hash`. -/
def createRecoveryMaterialWithHash (label : Option String) (salt hash : List UInt8)
    (kdf : RecoveryKdf) : Option RecoveryMaterial := do
  let key ← createCredentialKey device none (some hash)
  let authorityName ← publicName crates device key.publicArea
  return ⟨label, salt, hash, kdf, key, authorityName⟩

/-- `Tpm::create_secure_boot_policy`. -/
def createSecureBootPolicy (tpm : Tpm) : Option PcrPolicyBinding := do
  let current ← currentPcrDigest crates device tpm.pcrSelectionList
  let digest ← device.policyPcr tpm.pcrSelectionList current
  return ⟨tpm.pcrSelectionName, digest, none, none, none⟩

/-- `Tpm::create_authorized_policy`, with `sign_recovery_policy`. -/
def createAuthorizedPolicy (tpm : Tpm) (approved : PcrPolicyBinding) (authority : TpmCredential)
    (policyRef : List UInt8) : Option PcrPolicyBinding := do
  guard (approved.digest.length = 32)
  let signature ←
    device.signWithAuthority authority (policyWithRefHash crates approved.digest policyRef)
  let authorityName ← device.readName authority
  let digest ←
    device.policyAuthorize tpm.pcrSelectionList approved.digest policyRef authorityName signature
  return ⟨approved.selection, digest, some policyRef, some authorityName, some signature⟩

/-- `Tpm::update_authorized_policy`. -/
def updateAuthorizedPolicy (tpm : Tpm) (authority : TpmCredential)
    (authorityName policyRef : List UInt8) : Option PcrPolicyBinding := do
  let current ← currentPcrDigest crates device tpm.pcrSelectionList
  let approved ← device.policyPcr tpm.pcrSelectionList current
  let signature ← device.signWithAuthority authority (policyWithRefHash crates approved policyRef)
  let digest ←
    device.policyAuthorize tpm.pcrSelectionList approved policyRef authorityName signature
  return ⟨tpm.pcrSelectionName, digest, some policyRef, some authorityName, some signature⟩

/-- `Tpm::change_key_auth`. -/
def changeKeyAuth (credential : TpmCredential) (newAuthValue : List UInt8) :
    Option TpmCredential :=
  (device.objectChangeAuth credential newAuthValue).map fun privateArea ↦
    { credential with privateArea := privateArea, authValue := some newAuthValue }

end

/-! ## Signatures -/

/-- `der_integer`. -/
def derInteger (value : List UInt8) : List UInt8 :=
  let significant := value.dropWhile (· = 0)
  let integer := if significant = [] then [0] else significant
  let integer := if integer.headD 0 &&& 0x80 ≠ 0 then 0 :: integer else integer
  [0x02, UInt8.ofNat integer.length] ++ integer

/-- `ecdsa_der`. -/
def ecdsaDer (r s : List UInt8) : List UInt8 :=
  let r := derInteger r
  let s := derInteger s
  [0x30, UInt8.ofNat (r.length + s.length)] ++ r ++ s

/-- `Tpm::sign_digest_with_policy`. -/
def signDigestWithPolicy (device : TpmDevice) (tpm : Tpm) (credential : TpmCredential)
    (policy : Option PcrPolicyBinding) (authority : Option TpmCredential) (digest : List UInt8) :
    Option (List UInt8) := do
  guard (digest.length = 32)
  let (r, s) ← device.sign tpm credential policy authority digest
  return ecdsaDer r s

end TpmFido2
