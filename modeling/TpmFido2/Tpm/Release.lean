import TpmFido2.Lib.Pool
import TpmFido2.Tpm.Commands
import TpmFido2.Ctap2.Sample

/-!
# What a TPM operation leaves loaded

A transient object or a session that is loaded stays so until it is flushed, and there is room for
only a few.  The functions of the wrapper load several of each, and between the first load and the
last flush every second line can return an error.

Here the device does nothing but keep the pool of what is loaded (`Answers.context`): which calls
work is up to it, and so is what they answer.  Of the eight functions one,
`sign_digest_with_policy`, has a guard on everything it loads.  The others flush by hand, on the
path on which nothing fails.

* `signDigestWithPolicy_restores` — what is guarded is released, whatever fails.
* **`releases_iff`** — for each function, the pool is as it was exactly if nothing fails while
  something is loaded.

`stranded` has a failure for each of the seven that leaves something behind.
-/

set_option autoImplicit false

namespace TpmFido2
namespace Tpm

open Handler Pool

/-! ## A device that keeps count -/

/-- The calls that may fail. -/
inductive Call where
  | pcrRead
  | createPrimary
  | create
  | load
  | trSetAuth
  | readPublic
  | sign
  | verifySignature
  | startAuthSession
  | policyPcr
  | policyGetDigest
  | policyAuthorize
  | policyCommandCode
  | objectChangeAuth
deriving DecidableEq

/-- What a device answers during one function: which calls work, and what they return. -/
structure Answers where
  /-- Whether the n-th call works. -/
  works : Call → Nat → Bool
  isPrivate : List UInt8 → Bool
  isPublic : List UInt8 → Bool
  isName : List UInt8 → Bool
  marshalSignature : List UInt8 × List UInt8 → List UInt8
  unmarshalSignature : List UInt8 → Option (List UInt8 × List UInt8)
  pcrs : List (List UInt8)
  key : List UInt8 × List UInt8 × List UInt8 × List UInt8
  name : List UInt8
  signature : List UInt8 × List UInt8
  ticket : List UInt8
  digest : Nat → List UInt8
  privateArea : List UInt8

/-- The device with these answers.  Its state is the pool of handles that are loaded. -/
def Answers.context (a : Answers) : Context (Finset Nat) where
  isPrivate := a.isPrivate
  isPublic := a.isPublic
  isName := a.isName
  marshalSignature := a.marshalSignature
  unmarshalSignature := a.unmarshalSignature
  pcrRead _ := call (a.works .pcrRead 0) () a.pcrs
  createPrimary n := acquire (a.works .createPrimary n) ()
  create _ _ _ _ := call (a.works .create 0) () a.key
  load n _ _ _ := acquire (a.works .load n) ()
  trSetAuth n _ _ := call (a.works .trSetAuth n) () ()
  readPublic _ := call (a.works .readPublic 0) () a.name
  sign _ _ _ := call (a.works .sign 0) () a.signature
  verifySignature _ _ _ := call (a.works .verifySignature 0) () a.ticket
  startAuthSession n _ := acquire (a.works .startAuthSession n) ()
  policyPcr n _ _ _ := call (a.works .policyPcr n) () ()
  policyGetDigest n _ := call (a.works .policyGetDigest n) () (a.digest n)
  policyAuthorize _ _ _ _ _ := call (a.works .policyAuthorize 0) () ()
  policyCommandCode _ := call (a.works .policyCommandCode 0) () ()
  objectChangeAuth _ _ _ := call (a.works .objectChangeAuth 0) () a.privateArea
  flushContext := release

/-! ## The operations -/

/-- The eight functions, with their arguments. -/
inductive Operation where
  | createCredentialKeyWithPolicy (policy : Option PcrPolicyBinding)
  | createRecoveryMaterialWithHash (publicName : List UInt8 → Option (List UInt8))
    (label : Option String) (salt hash : List UInt8) (kdf : RecoveryKdf)
  | createSecureBootPolicy
  | signRecoveryPolicy (authority : TpmCredential) (approvedPolicy policyRef : List UInt8)
  | createAuthorizedPolicy (approved : PcrPolicyBinding) (authority : TpmCredential)
    (policyRef : List UInt8)
  | updateAuthorizedPolicy (authority : TpmCredential) (authorityName policyRef : List UInt8)
  | signDigestWithPolicy (credential : TpmCredential) (policy : Option PcrPolicyBinding)
    (authority : Option TpmCredential) (digest : List UInt8)
  | changeKeyAuth (credential : TpmCredential) (newAuthValue : List UInt8)

section
variable (crates : Crates) (tpm : Tpm) (a : Answers)

/-- What is loaded when an operation returns, whatever it returns. -/
def Operation.leaves (op : Operation) (s : Finset Nat) : Finset Nat :=
  match op with
  | .createCredentialKeyWithPolicy policy =>
    (Tpm.createCredentialKeyWithPolicy a.context policy s).2
  | .createRecoveryMaterialWithHash publicName label salt hash kdf =>
    (Tpm.createRecoveryMaterialWithHash a.context publicName label salt hash kdf s).2
  | .createSecureBootPolicy => (Tpm.createSecureBootPolicy a.context crates tpm s).2
  | .signRecoveryPolicy authority approvedPolicy policyRef =>
    (Tpm.signRecoveryPolicy a.context crates authority approvedPolicy policyRef s).2
  | .createAuthorizedPolicy approved authority policyRef =>
    (Tpm.createAuthorizedPolicy a.context crates tpm approved authority policyRef s).2
  | .updateAuthorizedPolicy authority authorityName policyRef =>
    (Tpm.updateAuthorizedPolicy a.context crates tpm authority authorityName policyRef s).2
  | .signDigestWithPolicy credential policy authority digest =>
    (Tpm.signDigestWithPolicy a.context crates tpm credential policy authority digest s).2
  | .changeKeyAuth credential newAuthValue =>
    (Tpm.changeKeyAuth a.context credential newAuthValue s).2

/-- The n-th key that an operation loads can be loaded. -/
def Answers.loads (n : Nat) (key : TpmCredential) : Bool :=
  a.isPrivate key.privateArea && a.isPublic key.publicArea && a.works .load n

/-- The auth value of the n-th key, if it has one, can be set. -/
def Answers.setsAuth (n : Nat) (authValue : Option (List UInt8)) : Bool :=
  authValue.all fun value ↦ decide (fits value) && a.works .trSetAuth n

/-- `sign_recovery_policy` gets from its first load to its last flush. -/
def Answers.signsRecoveryPolicy (authority : TpmCredential) : Bool :=
  a.loads 0 authority && a.setsAuth 0 authority.authValue && a.works .sign 0

/-- `create_authorized_policy` gets from the load of the authority to its last flush. -/
def Answers.authorizes (authority : TpmCredential) (policyRef : List UInt8) : Bool :=
  a.loads 1 authority && a.works .readPublic 0 && a.setsAuth 1 authority.authValue &&
    a.works .verifySignature 0 && a.works .pcrRead 0 && a.works .startAuthSession 0 &&
    a.works .policyPcr 0 && decide (fits policyRef) && a.works .policyAuthorize 0 &&
    a.works .policyCommandCode 0 && a.works .policyGetDigest 0

/-- `update_authorized_policy` gets from the load of the authority to its last flush. -/
def Answers.reauthorizes (authority : TpmCredential) (authorityName policyRef : List UInt8) :
    Bool :=
  a.loads 0 authority && a.setsAuth 0 authority.authValue && a.works .sign 0 &&
    a.works .verifySignature 0 && a.works .startAuthSession 1 && a.works .policyPcr 1 &&
    decide (fits policyRef) && a.isName authorityName && a.works .policyAuthorize 0 &&
    a.works .policyCommandCode 0 && a.works .policyGetDigest 1

/-- Nothing fails while something is loaded that has no guard. -/
def Operation.Undisturbed (op : Operation) : Prop :=
  match op with
  | .createCredentialKeyWithPolicy policy => a.works .createPrimary 0 →
      ∀ digest ∈ policy.map PcrPolicyBinding.digest, fits digest
  | .createRecoveryMaterialWithHash _ _ _ hash _ => a.works .createPrimary 0 → fits hash
  | .createSecureBootPolicy => a.works .pcrRead 0 → a.works .startAuthSession 0 →
      a.works .policyPcr 0 ∧ a.works .policyGetDigest 0
  | .signRecoveryPolicy authority approvedPolicy _ => approvedPolicy.length = 32 →
      a.works .createPrimary 0 → a.signsRecoveryPolicy authority
  | .createAuthorizedPolicy approved authority policyRef => approved.digest.length = 32 →
      a.works .createPrimary 0 → a.signsRecoveryPolicy authority ∧
        ((a.unmarshalSignature (a.marshalSignature a.signature)).isSome →
          a.works .createPrimary 1 → a.authorizes authority policyRef)
  | .updateAuthorizedPolicy authority authorityName policyRef => a.works .pcrRead 0 →
      a.works .startAuthSession 0 → (a.works .policyPcr 0 ∧ a.works .policyGetDigest 0) ∧
        (a.works .createPrimary 0 → a.reauthorizes authority authorityName policyRef)
  | .signDigestWithPolicy _ _ _ _ => True
  | .changeKeyAuth credential newAuthValue => a.works .createPrimary 0 →
      a.loads 0 credential ∧ a.setsAuth 0 credential.authValue ∧ fits newAuthValue ∧
        a.works .objectChangeAuth 0

end

variable {crates : Crates} {tpm : Tpm} {a : Answers} {s t : Finset Nat} {β : Type}

/-! ## Guarded operations -/

theorem restores_setAuthValue (n object : Nat) (authValue : Option (List UInt8)) :
    Restores (setAuthValue a.context n object authValue) := by
  cases authValue with
  | none => exact .pure ()
  | some value => exact .bind (.throwIf _ _) fun _ ↦ .call _ _ _

theorem restores_currentPcrDigest (selection : List UInt32) :
    Restores (currentPcrDigest a.context crates selection) :=
  .bind (.call _ _ _) fun _ ↦ .pure _

/-- A key that is loaded under a guard. -/
theorem restores_loadKey_guarded (n parent : Nat) (key : TpmCredential)
    {f : Nat → Handler (Finset Nat) Unit β} (hf : ∀ h, Restores (f h)) :
    Restores (loadKey a.context n parent key >>= fun h ↦
      guarded (a.context.flushContext h) (f h)) := by
  rw [loadKey, bind_assoc]
  refine .bind (.throwIf _ _) fun _ ↦ ?_
  rw [bind_assoc]
  exact .bind (.throwIf _ _) fun _ ↦ .acquire_guarded _ _ hf

theorem restores_signAuthorized (parent key : Nat) (authority : TpmCredential)
    (policyRef authorityName authoritySignature digest : List UInt8) :
    Restores (signAuthorized a.context crates tpm parent key authority policyRef authorityName
      authoritySignature digest) := by
  refine .bind (restores_currentPcrDigest _) fun _ ↦ .acquire_guarded _ _ fun session ↦ ?_
  refine .bind (.call _ _ _) fun _ ↦ .bind (.call _ _ _) fun approved ↦ ?_
  refine restores_loadKey_guarded _ _ _ fun authorityKey ↦ ?_
  refine .bind (.call _ _ _) fun actualName ↦ .bind (.throwIf _ _) fun _ ↦ ?_
  refine .bind (restores_setAuthValue _ _ _) fun _ ↦ .bind (.ofOption _ _) fun signature ↦ ?_
  refine .bind (.call _ _ _) fun ticket ↦ .bind (.throwIf _ _) fun _ ↦ ?_
  exact .bind (.call _ _ _) fun _ ↦ .bind (.call _ _ _) fun _ ↦ .call _ _ _

theorem restores_signPlain (key : Nat) (digest : List UInt8) :
    Restores (signPlain a.context crates tpm key digest) := by
  refine .bind (restores_currentPcrDigest _) fun _ ↦ .acquire_guarded _ _ fun session ↦ ?_
  exact .bind (.call _ _ _) fun _ ↦ .call _ _ _

theorem restores_signLoaded (parent key : Nat) (policy : Option PcrPolicyBinding)
    (authority : Option TpmCredential) (digest : List UInt8) :
    Restores (signLoaded a.context crates tpm parent key policy authority digest) := by
  unfold signLoaded
  split
  · exact .call _ _ _
  · split
    · exact restores_signAuthorized _ _ _ _ _ _ _
    · exact restores_signPlain _ _

/-- **Signing releases what it loads**, whatever fails. -/
theorem signDigestWithPolicy_restores (credential : TpmCredential)
    (policy : Option PcrPolicyBinding) (authority : Option TpmCredential) (digest : List UInt8) :
    Restores (signDigestWithPolicy a.context crates tpm credential policy authority digest) := by
  refine .bind (.throwIf _ _) fun _ ↦ .acquire_guarded _ _ fun parent ↦ ?_
  refine restores_loadKey_guarded _ _ _ fun key ↦ ?_
  exact .bind (restores_signLoaded _ _ _ _ _) fun _ ↦ .pure _

/-! ## Operations that flush by hand -/

theorem flush_bind {handle : Nat} {k : Unit → Handler (Finset Nat) Unit β} :
    ((flush a.context handle >>= k) s).2 = (k () (release handle s)).2 := rfl

theorem loadKey_bind_held {n parent : Nat} {key : TpmCredential}
    {g : Nat → Handler (Finset Nat) Unit β} (h : s ≠ t) :
    ((loadKey a.context n parent key >>= g) s).2 = t ↔
      a.loads n key ∧ (g (fresh s) (grow s)).2 = t := by
  have hload : loadKey a.context n parent key >>= g =
      (throwIf (¬ a.isPrivate key.privateArea) () >>= fun _ ↦
        throwIf (¬ a.isPublic key.publicArea) () >>= fun _ ↦
          acquire (a.works .load n) () >>= g) := by
    rw [loadKey, bind_assoc]
    congr 1
    funext _
    exact bind_assoc _ _ _
  rw [hload, throwIf_bind_held h, throwIf_bind_held h, acquire_bind_held h, Answers.loads]
  simp only [not_not, Bool.and_eq_true, and_assoc]

theorem setAuthValue_bind_held {n object : Nat} {authValue : Option (List UInt8)}
    {k : Unit → Handler (Finset Nat) Unit β} (h : s ≠ t) :
    ((setAuthValue a.context n object authValue >>= k) s).2 = t ↔
      a.setsAuth n authValue ∧ (k () s).2 = t := by
  cases authValue with
  | none => exact ⟨fun hs ↦ ⟨rfl, hs⟩, fun hboth ↦ hboth.2⟩
  | some value =>
    rw [setAuthValue, bind_assoc, throwIf_bind_held h, not_not, Answers.setsAuth, Option.all_some,
      Bool.and_eq_true, decide_eq_true_eq, and_assoc]
    exact and_congr_right fun _ ↦ call_bind_held h

theorem currentPcrDigest_bind {selection : List UInt32}
    {f : List UInt8 → Handler (Finset Nat) Unit β} :
    ((currentPcrDigest a.context crates selection >>= f) s).2 = s ↔
      (a.works .pcrRead 0 → (f (crates.sha256 a.pcrs.flatten) s).2 = s) := by
  rw [currentPcrDigest, bind_assoc]
  exact call_bind

theorem currentPcrDigest_bind_held {selection : List UInt32}
    {f : List UInt8 → Handler (Finset Nat) Unit β} (h : s ≠ t) :
    ((currentPcrDigest a.context crates selection >>= f) s).2 = t ↔
      a.works .pcrRead 0 ∧ (f (crates.sha256 a.pcrs.flatten) s).2 = t := by
  rw [currentPcrDigest, bind_assoc]
  exact call_bind_held h

/-- The storage parent, and then a key under it. -/
theorem held (s : Finset Nat) : grow s ≠ s ∧ grow (grow s) ≠ s :=
  ⟨grow_ne subset_rfl, grow_ne (subset_grow s)⟩

theorem release_both (s : Finset Nat) :
    release (fresh s) (release (fresh (grow s)) (grow (grow s))) = s := by
  rw [release_fresh, release_fresh]

theorem createSecureBootPolicy_releases :
    (createSecureBootPolicy a.context crates tpm s).2 = s ↔
      Operation.createSecureBootPolicy.Undisturbed a := by
  refine currentPcrDigest_bind.trans (imp_congr_right fun _ ↦ ?_)
  refine acquire_bind.trans (imp_congr_right fun _ ↦ ?_)
  refine (call_bind_held (held s).1).trans (and_congr_right fun _ ↦ ?_)
  refine (call_bind_held (held s).1).trans (and_iff_left ?_)
  exact release_fresh s

theorem changeKeyAuth_releases (credential : TpmCredential) (newAuthValue : List UInt8) :
    (changeKeyAuth a.context credential newAuthValue s).2 = s ↔
      (Operation.changeKeyAuth credential newAuthValue).Undisturbed a := by
  refine acquire_bind.trans (imp_congr_right fun _ ↦ ?_)
  refine (loadKey_bind_held (held s).1).trans (and_congr_right fun _ ↦ ?_)
  refine (setAuthValue_bind_held (held s).2).trans (and_congr_right fun _ ↦ ?_)
  refine (throwIf_bind_held (held s).2).trans (and_congr not_not ?_)
  refine (call_bind_held (held s).2).trans (and_iff_left ?_)
  exact release_both s

/-- What comes before the flush of the storage parent must not fail; the creation of the key is
after the conversions, and its failure is looked at after the flush. -/
theorem createCredentialKey_releases (policy : Option PcrPolicyBinding)
    (authValue : Option (List UInt8)) :
    (createCredentialKeyWithPolicyAndAuth a.context policy authValue s).2 = s ↔
      (a.works .createPrimary 0 → (∀ digest ∈ policy.map PcrPolicyBinding.digest, fits digest) ∧
        ∀ value ∈ authValue, fits value) := by
  refine acquire_bind.trans (imp_congr_right fun _ ↦ ?_)
  refine (throwIf_bind_held (held s).1).trans (and_congr (by push Not; rfl) ?_)
  refine (throwIf_bind_held (held s).1).trans ((and_iff_left ?_).trans (by push Not; rfl))
  obtain ⟨key, hkey⟩ : ∃ key, (attempt (call (a.works .create 0) () a.key) :
      Handler _ Unit (Except Unit _)) (grow s) = (.ok key, grow s) := by
    cases a.works .create 0 with
    | true => exact ⟨.ok a.key, rfl⟩
    | false => exact ⟨.error (), rfl⟩
  refine (congrArg Prod.snd (bind_of_ok _ hkey)).trans ?_
  change ((ofExcept key >>= _) (release (fresh s) (grow s))).2 = s
  rw [release_fresh]
  cases key <;> rfl

theorem signRecoveryPolicy_bind {authority : TpmCredential} {approvedPolicy policyRef : List UInt8}
    {f : List UInt8 → Handler (Finset Nat) Unit β} :
    ((signRecoveryPolicy a.context crates authority approvedPolicy policyRef >>= f) s).2 = s ↔
      (approvedPolicy.length = 32 → a.works .createPrimary 0 → a.signsRecoveryPolicy authority ∧
        (f (a.marshalSignature a.signature) s).2 = s) := by
  simp only [signRecoveryPolicy, Answers.signsRecoveryPolicy, bind_assoc, Bool.and_eq_true,
    and_assoc]
  refine throwIf_bind.trans (imp_congr not_not ?_)
  refine acquire_bind.trans (imp_congr_right fun _ ↦ ?_)
  refine (loadKey_bind_held (held s).1).trans (and_congr_right fun _ ↦ ?_)
  refine (setAuthValue_bind_held (held s).2).trans (and_congr_right fun _ ↦ ?_)
  refine (call_bind_held (held s).2).trans (and_congr_right fun _ ↦ ?_)
  change (f _ (release _ (release _ _))).2 = s ↔ _
  rw [release_both]
  exact Iff.rfl

/-- Past the signature the storage parent, the authority and the session are loaded, and they are
flushed in that order. -/
theorem createAuthorizedPolicy_releases (approved : PcrPolicyBinding) (authority : TpmCredential)
    (policyRef : List UInt8) :
    (createAuthorizedPolicy a.context crates tpm approved authority policyRef s).2 = s ↔
      (Operation.createAuthorizedPolicy approved authority policyRef).Undisturbed a := by
  have hnew : fresh (grow s) ∉ s := fun h ↦ fresh_notMem _ (subset_grow s h)
  -- what is loaded: the authority without its parent, with the session, and the session alone
  have hkey : release (fresh s) (grow (grow s)) = insert (fresh (grow s)) s := by
    rw [release_grow (mem_grow s), release_fresh]
  have hkeyed : insert (fresh (grow s)) s ≠ s := Finset.insert_ne_self.mpr hnew
  have hboth : grow (insert (fresh (grow s)) s) ≠ s := grow_ne (Finset.subset_insert _ _)
  obtain ⟨session, hsession⟩ : ∃ h, h = fresh (insert (fresh (grow s)) s) := ⟨_, rfl⟩
  have hnotMem : session ∉ s := fun h ↦
    fresh_notMem _ (Finset.mem_insert_of_mem (hsession ▸ h))
  have halone : release (fresh (grow s)) (grow (insert (fresh (grow s)) s)) = insert session s := by
    rw [release_grow (Finset.mem_insert_self _ _), release, Finset.erase_insert hnew, hsession]
  have hsessioned : insert session s ≠ s := Finset.insert_ne_self.mpr hnotMem
  refine signRecoveryPolicy_bind.trans
    (imp_congr_right fun _ ↦ imp_congr_right fun _ ↦ and_congr_right fun _ ↦ ?_)
  change ((ofOption (a.unmarshalSignature (a.marshalSignature a.signature)) () >>= _) s).2 = s ↔ _
  cases a.unmarshalSignature (a.marshalSignature a.signature) with
  | none => exact ⟨fun _ h ↦ absurd h Bool.false_ne_true, fun _ ↦ rfl⟩
  | some signature =>
    simp only [Answers.authorizes, Bool.and_eq_true, and_assoc]
    refine Iff.trans ?_ (forall_prop_of_true (show (some signature).isSome from rfl)).symm
    refine acquire_bind.trans (imp_congr_right fun _ ↦ ?_)
    refine (loadKey_bind_held (held s).1).trans (and_congr_right fun _ ↦ ?_)
    refine (call_bind_held (held s).2).trans (and_congr_right fun _ ↦ ?_)
    refine (setAuthValue_bind_held (held s).2).trans (and_congr_right fun _ ↦ ?_)
    refine (call_bind_held (held s).2).trans (and_congr_right fun _ ↦ ?_)
    rw [flush_bind, hkey]
    refine (currentPcrDigest_bind_held hkeyed).trans (and_congr_right fun _ ↦ ?_)
    refine (acquire_bind_held hkeyed).trans (and_congr_right fun _ ↦ ?_)
    refine (call_bind_held hboth).trans (and_congr_right fun _ ↦ ?_)
    refine (throwIf_bind_held hboth).trans (and_congr (by rw [not_not, decide_eq_true_eq]) ?_)
    refine (call_bind_held hboth).trans (and_congr_right fun _ ↦ ?_)
    rw [flush_bind, halone, ← hsession]
    refine (call_bind_held hsessioned).trans (and_congr_right fun _ ↦ ?_)
    refine (call_bind_held hsessioned).trans (and_iff_left ?_)
    exact Finset.erase_insert hnotMem

/-- The first session is flushed before anything else is loaded. -/
theorem updateAuthorizedPolicy_releases (authority : TpmCredential)
    (authorityName policyRef : List UInt8) :
    (updateAuthorizedPolicy a.context crates tpm authority authorityName policyRef s).2 = s ↔
      (Operation.updateAuthorizedPolicy authority authorityName policyRef).Undisturbed a := by
  simp only [Operation.Undisturbed, Answers.reauthorizes, Bool.and_eq_true, and_assoc]
  refine currentPcrDigest_bind.trans (imp_congr_right fun _ ↦ ?_)
  refine acquire_bind.trans (imp_congr_right fun _ ↦ ?_)
  refine (call_bind_held (held s).1).trans (and_congr_right fun _ ↦ ?_)
  refine (call_bind_held (held s).1).trans (and_congr_right fun _ ↦ ?_)
  rw [flush_bind, release_fresh]
  refine acquire_bind.trans (imp_congr_right fun _ ↦ ?_)
  refine (loadKey_bind_held (held s).1).trans (and_congr_right fun _ ↦ ?_)
  refine (setAuthValue_bind_held (held s).2).trans (and_congr_right fun _ ↦ ?_)
  refine (call_bind_held (held s).2).trans (and_congr_right fun _ ↦ ?_)
  refine (call_bind_held (held s).2).trans (and_congr_right fun _ ↦ ?_)
  rw [flush_bind, release_fresh]
  refine (acquire_bind_held (held s).1).trans (and_congr_right fun _ ↦ ?_)
  refine (call_bind_held (held s).2).trans (and_congr_right fun _ ↦ ?_)
  refine (throwIf_bind_held (held s).2).trans (and_congr (by rw [not_not, decide_eq_true_eq]) ?_)
  refine (throwIf_bind_held (held s).2).trans (and_congr not_not ?_)
  refine (call_bind_held (held s).2).trans (and_congr_right fun _ ↦ ?_)
  refine (call_bind_held (held s).2).trans (and_congr_right fun _ ↦ ?_)
  refine (call_bind_held (held s).2).trans (and_iff_left ?_)
  exact release_both s

/-- **What an operation loads is released** exactly if nothing fails while it is loaded, but for
signing, which releases it always. -/
theorem releases_iff (crates : Crates) (tpm : Tpm) (a : Answers) (op : Operation)
    (s : Finset Nat) : op.leaves crates tpm a s = s ↔ op.Undisturbed a := by
  cases op with
  | createCredentialKeyWithPolicy policy =>
    refine (createCredentialKey_releases policy none).trans (imp_congr_right fun _ ↦ ?_)
    exact and_iff_left (by simp)
  | createRecoveryMaterialWithHash publicName label salt hash kdf =>
    have hlast : (createRecoveryMaterialWithHash a.context publicName label salt hash kdf s).2 =
        (createCredentialKeyWithPolicyAndAuth a.context none (some hash) s).2 :=
      bind_snd fun key _ ↦ by cases publicName key.publicArea <;> rfl
    change (createRecoveryMaterialWithHash a.context publicName label salt hash kdf s).2 = s ↔ _
    rw [hlast, createCredentialKey_releases]
    exact imp_congr_right fun _ ↦ by simp
  | createSecureBootPolicy => exact createSecureBootPolicy_releases
  | signRecoveryPolicy authority approvedPolicy policyRef =>
    have hbind : ((signRecoveryPolicy a.context crates authority approvedPolicy policyRef >>=
      fun b ↦ pure b) s).2 = s ↔ _ := signRecoveryPolicy_bind
    rw [bind_snd fun _ _ ↦ rfl] at hbind
    refine hbind.trans (imp_congr_right fun _ ↦ imp_congr_right fun _ ↦ and_iff_left rfl)
  | createAuthorizedPolicy approved authority policyRef =>
    exact createAuthorizedPolicy_releases approved authority policyRef
  | updateAuthorizedPolicy authority authorityName policyRef =>
    exact updateAuthorizedPolicy_releases authority authorityName policyRef
  | signDigestWithPolicy credential policy authority digest =>
    exact iff_of_true (signDigestWithPolicy_restores credential policy authority digest s) trivial
  | changeKeyAuth credential newAuthValue => exact changeKeyAuth_releases credential newAuthValue

namespace Sample

/-- A device on which one call fails. -/
def failingAt (c : Call) (n : Nat) : Answers where
  works c' n' := ¬ (c' = c ∧ n' = n)
  isPrivate _ := true
  isPublic _ := true
  isName _ := true
  marshalSignature x := x.1 ++ x.2
  unmarshalSignature _ := some ([], [])
  pcrs := []
  key := ([], [], [], [])
  name := []
  signature := ([], [])
  ticket := []
  digest _ := List.replicate 32 0
  privateArea := []

/-- An authority, and a policy it has approved. -/
def authority : TpmCredential := ⟨[], [], [], [], some []⟩

def approved : PcrPolicyBinding := ⟨"sha256:7", List.replicate 32 0, none, none, none⟩

end Sample

open Sample in
/-- **What is left behind**, by each of the operations that flush by hand.  For the first two the
device does not fail: they get an argument that is too long. -/
theorem stranded :
    [ (.createCredentialKeyWithPolicy (some ⟨"", List.replicate 65 0, none, none, none⟩),
        failingAt .sign 0),
      (.createRecoveryMaterialWithHash some none [] (List.replicate 65 0) (.argon2id 1 1 1),
        failingAt .sign 0),
      (.createSecureBootPolicy, failingAt .policyPcr 0),
      (.signRecoveryPolicy authority approved.digest [], failingAt .load 0),
      (.createAuthorizedPolicy approved authority [], failingAt .policyAuthorize 0),
      (.updateAuthorizedPolicy authority [] [], failingAt .sign 0),
      (.changeKeyAuth authority [], failingAt .objectChangeAuth 0) ].Forall fun x ↦
      Operation.leaves (Ctap2.Sample.packages []) ⟨[128], "sha256:7"⟩ x.2 x.1 ∅ ≠ ∅ := by
  decide +kernel

end Tpm
end TpmFido2
