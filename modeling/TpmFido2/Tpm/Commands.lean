import TpmFido2.Lib.Handler
import TpmFido2.Tpm

/-!
# The TPM wrapper, command by command

`Tpm.lean` has of each function of `src/tpm.rs` what it asks the device and what it makes of the
answers.  Here are the functions with every command they send, in the order in which they send
them: which handle is loaded where and flushed where, on which path, and which session a policy
command goes to.

A `Context` is what the functions call of `tss_esapi`.  It is a parameter, with a state of any kind:
the same functions are run against a device that only keeps count of its handles, and against one
that computes policy digests and signatures.  The n-th call to a command within one function has
`n` as its first argument, so that a device can answer each of them as it likes.  Flushing always
works.

The conversions of `tss_esapi` are here where they can fail.  A digest, an auth value and a nonce
have at most 64 bytes (`fits`); what the wrapper has hashed itself always fits.
-/

set_option autoImplicit false

namespace TpmFido2

/-- How a command is authorised: by the null session, by the auth value set for the object, or by
a policy session. -/
inductive Authorization where
  | null
  | password
  | policy (session : Nat)

/-- The kinds of policy session. -/
inductive SessionType where
  | trial
  | policy
deriving DecidableEq

/-- `tss_esapi::Context`, as far as the wrapper uses it.  Handles are numbers, a signature is its
two parts, and a ticket is whatever the device makes of it. -/
structure Context (σ : Type) where
  /-- Whether `Private::try_from` takes the bytes. -/
  isPrivate : List UInt8 → Bool
  /-- Whether `Public::unmarshall` takes the bytes. -/
  isPublic : List UInt8 → Bool
  /-- Whether `Name::try_from` takes the bytes. -/
  isName : List UInt8 → Bool
  marshalSignature : List UInt8 × List UInt8 → List UInt8
  unmarshalSignature : List UInt8 → Option (List UInt8 × List UInt8)
  pcrRead : List UInt32 → Handler σ Unit (List (List UInt8))
  /-- The storage parent. -/
  createPrimary : Nat → Handler σ Unit Nat
  /-- A signing key under a parent, with a policy digest, with or without `userWithAuth`, and with
  an auth value: private area, public area, and the coordinates of the public point. -/
  create : Nat → Option (List UInt8) → Bool → Option (List UInt8) →
    Handler σ Unit (List UInt8 × List UInt8 × List UInt8 × List UInt8)
  load : Nat → (parent : Nat) → List UInt8 → List UInt8 → Handler σ Unit Nat
  trSetAuth : Nat → (object : Nat) → List UInt8 → Handler σ Unit Unit
  /-- The name of a loaded object. -/
  readPublic : Nat → Handler σ Unit (List UInt8)
  sign : Authorization → (key : Nat) → List UInt8 → Handler σ Unit (List UInt8 × List UInt8)
  verifySignature : (key : Nat) → List UInt8 → List UInt8 × List UInt8 →
    Handler σ Unit (List UInt8)
  startAuthSession : Nat → SessionType → Handler σ Unit Nat
  policyPcr : Nat → (session : Nat) → List UInt8 → List UInt32 → Handler σ Unit Unit
  policyGetDigest : Nat → (session : Nat) → Handler σ Unit (List UInt8)
  /-- With the approved policy, the policy reference, the name of the authority and the ticket. -/
  policyAuthorize : (session : Nat) → List UInt8 → List UInt8 → List UInt8 → List UInt8 →
    Handler σ Unit Unit
  /-- With `CommandCode::Sign`. -/
  policyCommandCode : (session : Nat) → Handler σ Unit Unit
  objectChangeAuth : (object parent : Nat) → List UInt8 → Handler σ Unit (List UInt8)
  flushContext : Nat → σ → σ

/-- `Digest::try_from`, `Auth::try_from` and `Nonce::try_from` take the bytes. -/
def fits (b : List UInt8) : Prop := b.length ≤ 64

instance (b : List UInt8) : Decidable (fits b) := inferInstanceAs (Decidable (_ ≤ _))

namespace Tpm

open Handler

section
variable {σ : Type} (context : Context σ) (crates : Crates)

/-- `flush_context`. -/
def flush (handle : Nat) : Handler σ Unit Unit := modify (context.flushContext handle)

/-! ## Keys -/

/-- A key is converted and loaded. -/
def loadKey (n parent : Nat) (key : TpmCredential) : Handler σ Unit Nat := do
  throwIf (¬ context.isPrivate key.privateArea) ()
  throwIf (¬ context.isPublic key.publicArea) ()
  context.load n parent key.privateArea key.publicArea

/-- `if let Some(auth_value) = &key.auth_value { .. }`. -/
def setAuthValue (n object : Nat) (authValue : Option (List UInt8)) : Handler σ Unit Unit :=
  match authValue with
  | none => pure ()
  | some value => do
    throwIf (¬ fits value) ()
    context.trSetAuth n object value

/-- `Tpm::create_credential_key_with_policy_and_auth`. -/
def createCredentialKeyWithPolicyAndAuth (policy : Option PcrPolicyBinding)
    (authValue : Option (List UInt8)) : Handler σ Unit TpmCredential := do
  let parent ← context.createPrimary 0
  -- `signing_key_public` converts the policy digest
  throwIf (∃ digest ∈ policy.map PcrPolicyBinding.digest, ¬ fits digest) ()
  throwIf (∃ value ∈ authValue, ¬ fits value) ()
  let key ← attempt
    (context.create parent (policy.map PcrPolicyBinding.digest) authValue.isSome authValue)
  flush context parent
  let key ← ofExcept key
  return ⟨key.1, key.2.1, key.2.2.1, key.2.2.2, authValue⟩

/-- `Tpm::create_credential_key_with_policy`. -/
def createCredentialKeyWithPolicy (policy : Option PcrPolicyBinding) :
    Handler σ Unit TpmCredential := createCredentialKeyWithPolicyAndAuth context policy none

/-- `Tpm::create_recovery_material_with_hash`; the name is that of `public_name`. -/
def createRecoveryMaterialWithHash (publicName : List UInt8 → Option (List UInt8))
    (label : Option String) (salt hash : List UInt8) (kdf : RecoveryKdf) :
    Handler σ Unit RecoveryMaterial := do
  let key ← createCredentialKeyWithPolicyAndAuth context none (some hash)
  let authorityName ← ofOption (publicName key.publicArea) ()
  return ⟨label, salt, hash, kdf, key, authorityName⟩

/-- `Tpm::change_key_auth`. -/
def changeKeyAuth (credential : TpmCredential) (newAuthValue : List UInt8) :
    Handler σ Unit TpmCredential := do
  let parent ← context.createPrimary 0
  let key ← loadKey context 0 parent credential
  setAuthValue context 0 key credential.authValue
  throwIf (¬ fits newAuthValue) ()
  let newPrivate ← context.objectChangeAuth key parent newAuthValue
  flush context key
  flush context parent
  return { credential with privateArea := newPrivate, authValue := some newAuthValue }

/-! ## Policies -/

/-- `Tpm::current_pcr_digest`. -/
def currentPcrDigest (selection : List UInt32) : Handler σ Unit (List UInt8) := do
  let digests ← context.pcrRead selection
  return crates.sha256 digests.flatten

/-- `Tpm::create_secure_boot_policy`. -/
def createSecureBootPolicy (tpm : Tpm) : Handler σ Unit PcrPolicyBinding := do
  let current ← currentPcrDigest context crates tpm.pcrSelectionList
  let session ← context.startAuthSession 0 .trial
  context.policyPcr 0 session current tpm.pcrSelectionList
  let digest ← context.policyGetDigest 0 session
  flush context session
  return ⟨tpm.pcrSelectionName, digest, none, none, none⟩

/-- `Tpm::sign_recovery_policy`. -/
def signRecoveryPolicy (authority : TpmCredential) (approvedPolicy policyRef : List UInt8) :
    Handler σ Unit (List UInt8) := do
  throwIf (approvedPolicy.length ≠ 32) ()
  let parent ← context.createPrimary 0
  let key ← loadKey context 0 parent authority
  setAuthValue context 0 key authority.authValue
  let signature ← context.sign .password key (policyWithRefHash crates approvedPolicy policyRef)
  flush context key
  flush context parent
  return context.marshalSignature signature

/-- `Tpm::create_authorized_policy`. -/
def createAuthorizedPolicy (tpm : Tpm) (approved : PcrPolicyBinding) (authority : TpmCredential)
    (policyRef : List UInt8) : Handler σ Unit PcrPolicyBinding := do
  let toSign := policyWithRefHash crates approved.digest policyRef
  let signatureBytes ← signRecoveryPolicy context crates authority approved.digest policyRef
  let signature ← ofOption (context.unmarshalSignature signatureBytes) ()
  let parent ← context.createPrimary 1
  let key ← loadKey context 1 parent authority
  let authorityName ← context.readPublic key
  setAuthValue context 1 key authority.authValue
  let ticket ← context.verifySignature key toSign signature
  flush context parent
  let current ← currentPcrDigest context crates tpm.pcrSelectionList
  let session ← context.startAuthSession 0 .trial
  context.policyPcr 0 session current tpm.pcrSelectionList
  throwIf (¬ fits policyRef) ()
  context.policyAuthorize session approved.digest policyRef authorityName ticket
  flush context key
  context.policyCommandCode session
  let digest ← context.policyGetDigest 0 session
  flush context session
  return ⟨approved.selection, digest, some policyRef, some authorityName, some signatureBytes⟩

/-- `Tpm::update_authorized_policy`. -/
def updateAuthorizedPolicy (tpm : Tpm) (authority : TpmCredential)
    (authorityName policyRef : List UInt8) : Handler σ Unit PcrPolicyBinding := do
  let current ← currentPcrDigest context crates tpm.pcrSelectionList
  let trial ← context.startAuthSession 0 .trial
  context.policyPcr 0 trial current tpm.pcrSelectionList
  let approved ← context.policyGetDigest 0 trial
  flush context trial
  let toSign := policyWithRefHash crates approved policyRef
  let parent ← context.createPrimary 0
  let key ← loadKey context 0 parent authority
  setAuthValue context 0 key authority.authValue
  let signature ← context.sign .password key toSign
  let ticket ← context.verifySignature key toSign signature
  flush context key
  let session ← context.startAuthSession 1 .trial
  context.policyPcr 1 session current tpm.pcrSelectionList
  throwIf (¬ fits policyRef) ()
  throwIf (¬ context.isName authorityName) ()
  context.policyAuthorize session approved policyRef authorityName ticket
  context.policyCommandCode session
  let digest ← context.policyGetDigest 1 session
  flush context session
  flush context parent
  return ⟨tpm.pcrSelectionName, digest, some policyRef, some authorityName,
    some (context.marshalSignature signature)⟩

/-! ## Signing -/

/-- The branch of `sign_digest_with_policy` for a policy that an authority has approved. -/
def signAuthorized (tpm : Tpm) (parent key : Nat) (authority : TpmCredential)
    (policyRef authorityName authoritySignature digest : List UInt8) :
    Handler σ Unit (List UInt8 × List UInt8) := do
  let current ← currentPcrDigest context crates tpm.pcrSelectionList
  let session ← context.startAuthSession 0 .policy
  guarded (context.flushContext session) do
    context.policyPcr 0 session current tpm.pcrSelectionList
    let approved ← context.policyGetDigest 0 session
    let authorityKey ← loadKey context 1 parent authority
    guarded (context.flushContext authorityKey) do
      let actualName ← context.readPublic authorityKey
      throwIf (actualName ≠ authorityName) ()
      setAuthValue context 0 authorityKey authority.authValue
      let signature ← ofOption (context.unmarshalSignature authoritySignature) ()
      let ticket ← context.verifySignature authorityKey
        (policyWithRefHash crates approved policyRef) signature
      throwIf (¬ fits policyRef) ()
      context.policyAuthorize session approved policyRef actualName ticket
      context.policyCommandCode session
      context.sign (.policy session) key digest

/-- The branch for a policy that is not authorised by anyone. -/
def signPlain (tpm : Tpm) (key : Nat) (digest : List UInt8) :
    Handler σ Unit (List UInt8 × List UInt8) := do
  let current ← currentPcrDigest context crates tpm.pcrSelectionList
  let session ← context.startAuthSession 0 .policy
  guarded (context.flushContext session) do
    context.policyPcr 0 session current tpm.pcrSelectionList
    context.sign (.policy session) key digest

/-- The three branches. -/
def signLoaded (tpm : Tpm) (parent key : Nat) (policy : Option PcrPolicyBinding)
    (authority : Option TpmCredential) (digest : List UInt8) :
    Handler σ Unit (List UInt8 × List UInt8) :=
  match policy with
  | none => context.sign .null key digest
  | some policy =>
    match authority, policy.policyRef, policy.authorityName, policy.authoritySignature with
    | some authority, some policyRef, some authorityName, some authoritySignature =>
      signAuthorized context crates tpm parent key authority policyRef authorityName
        authoritySignature digest
    | _, _, _, _ => signPlain context crates tpm key digest

/-- `Tpm::sign_digest_with_policy`. -/
def signDigestWithPolicy (tpm : Tpm) (credential : TpmCredential)
    (policy : Option PcrPolicyBinding) (authority : Option TpmCredential) (digest : List UInt8) :
    Handler σ Unit (List UInt8) := do
  throwIf (digest.length ≠ 32) ()
  let parent ← context.createPrimary 0
  guarded (context.flushContext parent) do
    let key ← loadKey context 0 parent credential
    guarded (context.flushContext key) do
      let signature ← signLoaded context crates tpm parent key policy authority digest
      return ecdsaDer signature.1 signature.2

end

end Tpm
end TpmFido2
