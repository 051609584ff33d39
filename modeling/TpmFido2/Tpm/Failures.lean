import TpmFido2.Lib.Command
import TpmFido2.Tpm.Commands

/-!
# The wrapper on two contexts

The functions of the wrapper are made of calls to a context and of nothing else that has an effect.
So a relation between handlers that goes along with the ways handlers are put together holds between
a function on one context and the same function on another as soon as it holds between the calls of
the two (`Context.Related`).  Each function is gone through once here, and every later fact of the
kind is one about calls: that a chip which fails more often returns nothing else, or that no
function changes a PCR.
-/

set_option autoImplicit false

namespace TpmFido2

open Handler

variable {σ : Type}

/-- The calls of two contexts are related, and their conversions are the same. -/
structure Context.Related (P : ∀ α : Type, Handler σ Unit α → Handler σ Unit α → Prop)
    (x y : Context σ) : Prop where
  isPrivate : x.isPrivate = y.isPrivate
  isPublic : x.isPublic = y.isPublic
  isName : x.isName = y.isName
  marshalSignature : x.marshalSignature = y.marshalSignature
  unmarshalSignature : x.unmarshalSignature = y.unmarshalSignature
  flushContext : x.flushContext = y.flushContext
  flushes : ∀ handle, P Unit (modify (y.flushContext handle)) (modify (y.flushContext handle))
  pcrRead : ∀ slots, P _ (x.pcrRead slots) (y.pcrRead slots)
  createPrimary : ∀ n, P _ (x.createPrimary n) (y.createPrimary n)
  create : ∀ parent digest userWithAuth authValue,
    P _ (x.create parent digest userWithAuth authValue)
      (y.create parent digest userWithAuth authValue)
  load : ∀ n parent privateArea publicArea,
    P _ (x.load n parent privateArea publicArea) (y.load n parent privateArea publicArea)
  trSetAuth : ∀ n object authValue, P _ (x.trSetAuth n object authValue)
    (y.trSetAuth n object authValue)
  readPublic : ∀ object, P _ (x.readPublic object) (y.readPublic object)
  sign : ∀ authorization key digest,
    P _ (x.sign authorization key digest) (y.sign authorization key digest)
  verifySignature : ∀ key digest signature,
    P _ (x.verifySignature key digest signature) (y.verifySignature key digest signature)
  startAuthSession : ∀ n kind, P _ (x.startAuthSession n kind) (y.startAuthSession n kind)
  policyPcr : ∀ n session digest slots,
    P _ (x.policyPcr n session digest slots) (y.policyPcr n session digest slots)
  policyGetDigest : ∀ n session, P _ (x.policyGetDigest n session) (y.policyGetDigest n session)
  policyAuthorize : ∀ session approved policyRef name ticket,
    P _ (x.policyAuthorize session approved policyRef name ticket)
      (y.policyAuthorize session approved policyRef name ticket)
  policyCommandCode : ∀ session, P _ (x.policyCommandCode session) (y.policyCommandCode session)
  objectChangeAuth : ∀ object parent authValue,
    P _ (x.objectChangeAuth object parent authValue) (y.objectChangeAuth object parent authValue)

namespace Context.Related

variable {P : ∀ α : Type, Handler σ Unit α → Handler σ Unit α → Prop} (hP : Compatible P)
  {x y : Context σ} (h : Context.Related P x y) (crates : Crates) (tpm : Tpm)
include hP h

/-! ## Parts of functions -/

omit hP in
theorem flush (handle : Nat) : P _ (Tpm.flush x handle) (Tpm.flush y handle) := by
  rw [Tpm.flush, h.flushContext]
  exact h.flushes handle

theorem loadKey (n parent : Nat) (key : TpmCredential) :
    P _ (Tpm.loadKey x n parent key) (Tpm.loadKey y n parent key) := by
  rw [Tpm.loadKey, Tpm.loadKey, h.isPrivate, h.isPublic]
  exact hP.bind (hP.throwIf _ _) fun _ ↦ hP.bind (hP.throwIf _ _) fun _ ↦ h.load _ _ _ _

theorem setAuthValue (n object : Nat) (authValue : Option (List UInt8)) :
    P _ (Tpm.setAuthValue x n object authValue) (Tpm.setAuthValue y n object authValue) := by
  cases authValue with
  | none => exact hP.pure ()
  | some value => exact hP.bind (hP.throwIf _ _) fun _ ↦ h.trSetAuth _ _ _

theorem currentPcrDigest (slots : List UInt32) :
    P _ (Tpm.currentPcrDigest x crates slots) (Tpm.currentPcrDigest y crates slots) :=
  hP.bind (h.pcrRead slots) fun _ ↦ hP.pure _

/-! ## The functions -/

theorem createCredentialKeyWithPolicyAndAuth (policy : Option PcrPolicyBinding)
    (authValue : Option (List UInt8)) :
    P _ (Tpm.createCredentialKeyWithPolicyAndAuth x policy authValue)
      (Tpm.createCredentialKeyWithPolicyAndAuth y policy authValue) := by
  rw [Tpm.createCredentialKeyWithPolicyAndAuth, Tpm.createCredentialKeyWithPolicyAndAuth]
  refine hP.bind (h.createPrimary _) fun parent ↦ hP.bind (hP.throwIf _ _) fun _ ↦ ?_
  refine hP.bind (hP.throwIf _ _) fun _ ↦ ?_
  rw [Tpm.flush, Tpm.flush, h.flushContext]
  exact hP.attempt (h.flushes parent) (h.create _ _ _ _) fun _ ↦ hP.pure _

theorem createRecoveryMaterialWithHash (publicName : List UInt8 → Option (List UInt8))
    (label : Option String) (salt hash : List UInt8) (kdf : RecoveryKdf) :
    P _ (Tpm.createRecoveryMaterialWithHash x publicName label salt hash kdf)
      (Tpm.createRecoveryMaterialWithHash y publicName label salt hash kdf) :=
  hP.bind (h.createCredentialKeyWithPolicyAndAuth hP _ _) fun _ ↦
    hP.bind (hP.ofOption _ _) fun _ ↦ hP.pure _

theorem createSecureBootPolicy :
    P _ (Tpm.createSecureBootPolicy x crates tpm) (Tpm.createSecureBootPolicy y crates tpm) := by
  refine hP.bind (h.currentPcrDigest hP crates _) fun _ ↦ hP.bind (h.startAuthSession _ _) fun _ ↦
    ?_
  refine hP.bind (h.policyPcr _ _ _ _) fun _ ↦ hP.bind (h.policyGetDigest _ _) fun _ ↦ ?_
  exact hP.bind (h.flush _) fun _ ↦ hP.pure _

theorem signRecoveryPolicy (authority : TpmCredential) (approvedPolicy policyRef : List UInt8) :
    P _ (Tpm.signRecoveryPolicy x crates authority approvedPolicy policyRef)
      (Tpm.signRecoveryPolicy y crates authority approvedPolicy policyRef) := by
  rw [Tpm.signRecoveryPolicy, Tpm.signRecoveryPolicy, h.marshalSignature]
  refine hP.bind (hP.throwIf _ _) fun _ ↦ hP.bind (h.createPrimary _) fun _ ↦ ?_
  refine hP.bind (h.loadKey hP _ _ _) fun _ ↦ hP.bind (h.setAuthValue hP _ _ _) fun _ ↦ ?_
  refine hP.bind (h.sign _ _ _) fun _ ↦ ?_
  exact hP.bind (h.flush _) fun _ ↦ hP.bind (h.flush _) fun _ ↦ hP.pure _

theorem createAuthorizedPolicy (approved : PcrPolicyBinding) (authority : TpmCredential)
    (policyRef : List UInt8) :
    P _ (Tpm.createAuthorizedPolicy x crates tpm approved authority policyRef)
      (Tpm.createAuthorizedPolicy y crates tpm approved authority policyRef) := by
  rw [Tpm.createAuthorizedPolicy, Tpm.createAuthorizedPolicy, h.unmarshalSignature]
  refine hP.bind (h.signRecoveryPolicy hP crates _ _ _) fun _ ↦ hP.bind (hP.ofOption _ _) fun _ ↦ ?_
  refine hP.bind (h.createPrimary _) fun _ ↦ hP.bind (h.loadKey hP _ _ _) fun _ ↦ ?_
  refine hP.bind (h.readPublic _) fun _ ↦ hP.bind (h.setAuthValue hP _ _ _) fun _ ↦ ?_
  refine hP.bind (h.verifySignature _ _ _) fun _ ↦ hP.bind (h.flush _) fun _ ↦ ?_
  refine hP.bind (h.currentPcrDigest hP crates _) fun _ ↦ hP.bind (h.startAuthSession _ _) fun _ ↦
    ?_
  refine hP.bind (h.policyPcr _ _ _ _) fun _ ↦ hP.bind (hP.throwIf _ _) fun _ ↦ ?_
  refine hP.bind (h.policyAuthorize _ _ _ _ _) fun _ ↦ hP.bind (h.flush _) fun _ ↦ ?_
  refine hP.bind (h.policyCommandCode _) fun _ ↦ hP.bind (h.policyGetDigest _ _) fun _ ↦ ?_
  exact hP.bind (h.flush _) fun _ ↦ hP.pure _

theorem updateAuthorizedPolicy (authority : TpmCredential) (authorityName policyRef : List UInt8) :
    P _ (Tpm.updateAuthorizedPolicy x crates tpm authority authorityName policyRef)
      (Tpm.updateAuthorizedPolicy y crates tpm authority authorityName policyRef) := by
  rw [Tpm.updateAuthorizedPolicy, Tpm.updateAuthorizedPolicy, h.isName, h.marshalSignature]
  refine hP.bind (h.currentPcrDigest hP crates _) fun _ ↦ hP.bind (h.startAuthSession _ _) fun _ ↦
    ?_
  refine hP.bind (h.policyPcr _ _ _ _) fun _ ↦ hP.bind (h.policyGetDigest _ _) fun _ ↦ ?_
  refine hP.bind (h.flush _) fun _ ↦ hP.bind (h.createPrimary _) fun _ ↦ ?_
  refine hP.bind (h.loadKey hP _ _ _) fun _ ↦ hP.bind (h.setAuthValue hP _ _ _) fun _ ↦ ?_
  refine hP.bind (h.sign _ _ _) fun _ ↦ hP.bind (h.verifySignature _ _ _) fun _ ↦ ?_
  refine hP.bind (h.flush _) fun _ ↦ hP.bind (h.startAuthSession _ _) fun _ ↦ ?_
  refine hP.bind (h.policyPcr _ _ _ _) fun _ ↦ hP.bind (hP.throwIf _ _) fun _ ↦ ?_
  refine hP.bind (hP.throwIf _ _) fun _ ↦ hP.bind (h.policyAuthorize _ _ _ _ _) fun _ ↦ ?_
  refine hP.bind (h.policyCommandCode _) fun _ ↦ hP.bind (h.policyGetDigest _ _) fun _ ↦ ?_
  exact hP.bind (h.flush _) fun _ ↦ hP.bind (h.flush _) fun _ ↦ hP.pure _

theorem changeKeyAuth (credential : TpmCredential) (newAuthValue : List UInt8) :
    P _ (Tpm.changeKeyAuth x credential newAuthValue) (Tpm.changeKeyAuth y credential
      newAuthValue) := by
  refine hP.bind (h.createPrimary _) fun _ ↦ hP.bind (h.loadKey hP _ _ _) fun _ ↦ ?_
  refine hP.bind (h.setAuthValue hP _ _ _) fun _ ↦ hP.bind (hP.throwIf _ _) fun _ ↦ ?_
  refine hP.bind (h.objectChangeAuth _ _ _) fun _ ↦ ?_
  exact hP.bind (h.flush _) fun _ ↦ hP.bind (h.flush _) fun _ ↦ hP.pure _

theorem signAuthorized (parent key : Nat) (authority : TpmCredential)
    (policyRef authorityName authoritySignature digest : List UInt8) :
    P _ (Tpm.signAuthorized x crates tpm parent key authority policyRef authorityName
        authoritySignature digest)
      (Tpm.signAuthorized y crates tpm parent key authority policyRef authorityName
        authoritySignature digest) := by
  rw [Tpm.signAuthorized, Tpm.signAuthorized, h.flushContext, h.unmarshalSignature]
  refine hP.bind (h.currentPcrDigest hP crates _) fun _ ↦ ?_
  refine hP.bind (h.startAuthSession _ _) fun _ ↦ hP.guarded (h.flushes _) ?_
  refine hP.bind (h.policyPcr _ _ _ _) fun _ ↦ hP.bind (h.policyGetDigest _ _) fun _ ↦ ?_
  refine hP.bind (h.loadKey hP _ _ _) fun _ ↦ hP.guarded (h.flushes _) ?_
  refine hP.bind (h.readPublic _) fun _ ↦ hP.bind (hP.throwIf _ _) fun _ ↦ ?_
  refine hP.bind (h.setAuthValue hP _ _ _) fun _ ↦ hP.bind (hP.ofOption _ _) fun _ ↦ ?_
  refine hP.bind (h.verifySignature _ _ _) fun _ ↦ hP.bind (hP.throwIf _ _) fun _ ↦ ?_
  refine hP.bind (h.policyAuthorize _ _ _ _ _) fun _ ↦ ?_
  exact hP.bind (h.policyCommandCode _) fun _ ↦ h.sign _ _ _

theorem signPlain (key : Nat) (digest : List UInt8) :
    P _ (Tpm.signPlain x crates tpm key digest) (Tpm.signPlain y crates tpm key digest) := by
  rw [Tpm.signPlain, Tpm.signPlain, h.flushContext]
  refine hP.bind (h.currentPcrDigest hP crates _) fun _ ↦ ?_
  refine hP.bind (h.startAuthSession _ _) fun _ ↦ hP.guarded (h.flushes _) ?_
  exact hP.bind (h.policyPcr _ _ _ _) fun _ ↦ h.sign _ _ _

theorem signLoaded (parent key : Nat) (policy : Option PcrPolicyBinding)
    (authority : Option TpmCredential) (digest : List UInt8) :
    P _ (Tpm.signLoaded x crates tpm parent key policy authority digest)
      (Tpm.signLoaded y crates tpm parent key policy authority digest) := by
  cases policy with
  | none => exact h.sign _ _ _
  | some policy =>
    obtain ⟨selection, digest', policyRef, authorityName, authoritySignature⟩ := policy
    unfold Tpm.signLoaded
    dsimp only
    split
    · exact h.signAuthorized hP crates tpm _ _ _ _ _ _ _
    · exact h.signPlain hP crates tpm _ _

theorem signDigestWithPolicy (credential : TpmCredential) (policy : Option PcrPolicyBinding)
    (authority : Option TpmCredential) (digest : List UInt8) :
    P _ (Tpm.signDigestWithPolicy x crates tpm credential policy authority digest)
      (Tpm.signDigestWithPolicy y crates tpm credential policy authority digest) := by
  rw [Tpm.signDigestWithPolicy, Tpm.signDigestWithPolicy, h.flushContext]
  refine hP.bind (hP.throwIf _ _) fun _ ↦ ?_
  refine hP.bind (h.createPrimary _) fun _ ↦ hP.guarded (h.flushes _) ?_
  refine hP.bind (h.loadKey hP _ _ _) fun _ ↦ hP.guarded (h.flushes _) ?_
  exact hP.bind (h.signLoaded hP crates tpm _ _ _ _ _) fun _ ↦ hP.pure _

end Context.Related
end TpmFido2
