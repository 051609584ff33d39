import TpmFido2.Lib.Run
import TpmFido2.Tpm.Enrolment
import TpmFido2.Tpm.Sample

/-!
# Registration, update and signing

Three functions of the wrapper build the same policy in three ways: registration in a trial session
from which the key's policy is taken, an update in a trial session whose digest is only returned,
and signing in a session that the chip checks against the key.  A difference in the order of the
commands, in the name of the authority, in the reference or in what was signed would leave a
credential that cannot be used, or one that can be used in the wrong state of the machine.

The machine here is a chip and the credentials made on it; its actions are changes of the PCRs,
registrations with and without a recovery key, updates, changes of the auth value of a recovery key,
and signatures, each made of the commands that the wrapper sends, with any of them failing.
`policies_match` is about every sequence of these: **every update returns the digest that the key
was created with, and a credential signs exactly if the PCRs are those of its registration or of its
latest update — provided that no more than eight PCRs are selected.**  One action keeps every
credential in order (`step_sound`), and for one in order the paths match (`updatesMatch_of_sound`,
`signingMatches_of_sound`).

With nine PCRs or more `current_pcr_digest` gets eight values, takes no notice of the selection that
comes with them, and hashes those.  A trial session accepts that digest, so that the registration
goes through; a session for signing does not, and the credential never signs
(`neverSigns_of_sound`, `nine_pcrs_never_sign`).
-/

set_option autoImplicit false

namespace TpmFido2
namespace Approval

open Handler Tpm2 Chip

/-! ## The machine -/

/-- A chip and the credentials whose keys it has made. -/
structure Machine where
  device : State
  credentials : List Enrolled

/-- What can happen. -/
inductive Action where
  | changePcrs (pcrs : Nat → List UInt8)
  | register (conditions : Nat → Conditions) (id : List UInt8) (owner : Option UInt32)
    (passphrase : Option (List UInt8 × List UInt8 × RecoveryKdf))
  | update (c : Conditions) (index : Nat)
  | changeAuth (c : Conditions) (index : Nat) (newAuthValue : List UInt8)
  | sign (c : Conditions) (index : Nat) (digest : List UInt8)

section
variable {crates : Crates} (chip : Chip crates) (tpm : Tpm)

/-- `public_name`. -/
def publicName (publicArea : List UInt8) : Option (List UInt8) :=
  if chip.isPublic publicArea then some (chip.scheme.name publicArea) else none

/-- The recovery material of a new credential. -/
def recoveryMaterial (c : Conditions)
    (passphrase : Option (List UInt8 × List UInt8 × RecoveryKdf)) :
    Handler State Unit (Option RecoveryMaterial) :=
  match passphrase with
  | none => pure none
  | some (salt, passphraseHash, kdf) => do
    let material ← Tpm.createRecoveryMaterialWithHash (chip.context c) (publicName chip) none salt
      passphraseHash kdf
    pure (some material)

/-- The policy of a new credential, given the one for the current PCRs. -/
def authorize (c : Conditions) (id : List UInt8) (owner : Option UInt32) (policy : PcrPolicyBinding)
    (material : Option RecoveryMaterial) : Handler State Unit PcrPolicyBinding :=
  match material with
  | none => pure policy
  | some material => Tpm.createAuthorizedPolicy (chip.context c) crates tpm policy material.key
      (credentialPolicyRef crates id owner)

/-- What `make_credential` does with the TPM. -/
def enrol (conditions : Nat → Conditions) (id : List UInt8) (owner : Option UInt32)
    (passphrase : Option (List UInt8 × List UInt8 × RecoveryKdf)) :
    Handler State Unit (TpmCredential × PcrPolicyBinding × Option RecoveryMaterial) := do
  let material ← recoveryMaterial chip (conditions 0) passphrase
  let policy ← Tpm.createSecureBootPolicy (chip.context (conditions 1)) crates tpm
  let policy ← authorize chip tpm (conditions 2) id owner policy material
  let key ← Tpm.createCredentialKeyWithPolicy (chip.context (conditions 3)) (some policy)
  return (key, policy, material)

/-- A new approval of a credential, with what is stored of the last one. -/
def reapprove (c : Conditions) (e : Enrolled) : Handler State Unit PcrPolicyBinding :=
  match e.authority, e.policy.policyRef, e.policy.authorityName with
  | some authority, some policyRef, some authorityName =>
    Tpm.updateAuthorizedPolicy (chip.context c) crates tpm authority authorityName policyRef
  | _, _, _ => throw ()

/-- Another auth value for the recovery key of a credential. -/
def rekey (c : Conditions) (e : Enrolled) (newAuthValue : List UInt8) :
    Handler State Unit TpmCredential :=
  match e.authority with
  | some authority => Tpm.changeKeyAuth (chip.context c) authority newAuthValue
  | none => throw ()

/-- Signing with a credential. -/
def signWith (c : Conditions) (e : Enrolled) (digest : List UInt8) :
    Handler State Unit (List UInt8) :=
  Tpm.signDigestWithPolicy (chip.context c) crates tpm e.key (some e.policy) e.authority digest

/-- The machine after something was done to the device, with other credentials if it succeeded. -/
def Machine.proceed {α : Type} (m : Machine) (h : Handler State Unit α)
    (f : α → List Enrolled) : Machine :=
  match h m.device with
  | (.ok a, device) => ⟨device, f a⟩
  | (_, device) => ⟨device, m.credentials⟩

/-- Something is done with a credential. -/
def Machine.with {α : Type} (m : Machine) (index : Nat) (h : Enrolled → Handler State Unit α)
    (f : Enrolled → α → Enrolled) : Machine :=
  match m.credentials[index]? with
  | none => m
  | some e => m.proceed (h e) fun a ↦ m.credentials.set index (f e a)

/-- One action. -/
def step (m : Machine) (action : Action) : Unit × Machine :=
  let current := pcrDigest crates tpm.pcrSelectionList m.device.pcrs
  match action with
  | .changePcrs pcrs => ((), { m with device := { m.device with pcrs := pcrs } })
  | .register conditions id owner passphrase =>
    ((), m.proceed (enrol chip tpm conditions id owner passphrase) fun made ↦
      m.credentials ++ [⟨id, owner, made.1, made.2.1, made.2.2.map RecoveryMaterial.key,
        made.2.1.digest, current⟩])
  | .update c index =>
    ((), m.with index (reapprove chip tpm c) fun e policy ↦
      { e with policy := policy, approvedFor := current })
  | .changeAuth c index newAuthValue =>
    ((), m.with index (fun e ↦ rekey chip c e newAuthValue) fun e authority ↦
      { e with authority := some authority })
  | .sign c index digest => ((), m.with index (fun e ↦ signWith chip tpm c e digest) fun e _ ↦ e)

/-- **Updates match the registration** of a credential. -/
structure UpdatesMatch (device : State) (e : Enrolled) : Prop where
  /-- Where nothing fails, a credential with a recovery key can be approved again. -/
  updates : ∀ c : Conditions, e.authority.isSome →
    (value (reapprove chip tpm c.calm e) device).isSome
  /-- Every approval returns the digest that the key was created with. -/
  sameDigest : ∀ c policy, value (reapprove chip tpm c e) device = some policy →
    policy.digest = e.created

/-- **Signing matches the registration and the updates** of a credential. -/
structure SigningMatches (device : State) (e : Enrolled) : Prop where
  /-- Where nothing else fails, signing succeeds exactly if the PCRs are those that were approved.
  -/
  signs : ∀ (c : Conditions) digest, digest.length = 32 →
    ((value (signWith chip tpm c.calm e digest) device).isSome ↔
      pcrDigest crates tpm.pcrSelectionList device.pcrs = e.approvedFor)
  /-- And whatever fails, it does not succeed otherwise. -/
  signsOnly : ∀ c digest, (value (signWith chip tpm c e digest) device).isSome →
    pcrDigest crates tpm.pcrSelectionList device.pcrs = e.approvedFor

/-- Signing with a credential does not succeed, whatever the PCRs are and whether something fails or
not. -/
def NeverSigns (device : State) (e : Enrolled) : Prop :=
  ∀ c digest, value (signWith chip tpm c e digest) device = none

end

variable {crates : Crates} {chip : Chip crates} {tpm : Tpm} {s : State} {c : Conditions}
  {e : Enrolled}

/-! ## Functions that may fail -/

section
variable {policy : PcrPolicyBinding} {key : TpmCredential} (host : TpmDevice)

theorem createSecureBootPolicy_value
    (h : value (Tpm.createSecureBootPolicy (chip.context c) crates tpm) s = some policy) :
    policy = ⟨tpm.pcrSelectionName,
      pcrPolicy crates tpm.pcrSelectionList (pcrDigest crates tpm.pcrSelectionList s.pcrs),
        none, none,
      none⟩ := by
  have hcalm := ((chip.context_within c).createSecureBootPolicy Within.compatible crates tpm).value
    h
  rw [value_createSecureBootPolicy (Ctap2.Sample.device []), createSecureBootPolicy_device] at hcalm
  cases hcalm
  rfl

theorem createCredentialKey_value {binding : Option PcrPolicyBinding}
    {authValue : Option (List UInt8)}
    (h : value (Tpm.createCredentialKeyWithPolicyAndAuth (chip.context c) binding authValue) s =
      some key) : createCredentialKey (chip.device host c s.pcrs) binding authValue = some key := by
  rw [← value_createCredentialKey host]
  exact ((chip.context_within c).createCredentialKeyWithPolicyAndAuth Within.compatible binding
    authValue).value h

theorem createAuthorizedPolicy_value {approved : PcrPolicyBinding} {authority : TpmCredential}
    {policyRef : List UInt8} {k : Key} (hk : chip.authorityIn authority = some k)
    (hfits : fits policyRef)
    (happroved : approved.digest = pcrPolicy crates tpm.pcrSelectionList
      (pcrDigest crates tpm.pcrSelectionList s.pcrs))
    (h : value (Tpm.createAuthorizedPolicy (chip.context c) crates tpm approved authority policyRef)
      s = some policy) :
    policy = ⟨approved.selection, authorizedPolicy crates (chip.scheme.name k.publicArea) policyRef,
      some policyRef, some (chip.scheme.name k.publicArea), some (chip.marshalSignature
        (chip.scheme.sign k.secret (policyWithRefHash crates approved.digest policyRef)
          c.nonce))⟩ := by
  have hlength : approved.digest.length = 32 := happroved ▸ length_pcrPolicy _ _
  have hcalm := ((chip.context_within c).createAuthorizedPolicy Within.compatible crates tpm
    approved authority policyRef).value h
  rw [value_createAuthorizedPolicy (Ctap2.Sample.device []) _ _ _ happroved,
    createAuthorizedPolicy_device hk hlength hfits] at hcalm
  cases hcalm
  rfl

theorem updateAuthorizedPolicy_value {authority : TpmCredential} {policyRef : List UInt8} {k : Key}
    (hk : chip.authorityIn authority = some k) (hfits : fits policyRef) :
    value (Tpm.updateAuthorizedPolicy (chip.context c.calm) crates tpm authority
        (chip.scheme.name k.publicArea) policyRef) s =
      some ⟨tpm.pcrSelectionName, authorizedPolicy crates (chip.scheme.name k.publicArea) policyRef,
        some policyRef, some (chip.scheme.name k.publicArea), some (chip.marshalSignature
          (chip.scheme.sign k.secret (policyWithRefHash crates
            (pcrPolicy crates tpm.pcrSelectionList
            (pcrDigest crates tpm.pcrSelectionList s.pcrs)) policyRef) c.nonce))⟩ := by
  obtain ⟨hkey, -⟩ := authorityIn_eq_some.mp hk
  rw [value_updateAuthorizedPolicy (Ctap2.Sample.device []), updateAuthorizedPolicy_device hk hfits]
  intro k' hk'
  cases hkey.symm.trans hk'
  rfl

end

/-! ## Registration -/

/-- The recovery key of a new credential can be used. -/
theorem recoveryMaterial_value {passphrase : Option (List UInt8 × List UInt8 × RecoveryKdf)}
    {material : Option RecoveryMaterial}
    (h : value (recoveryMaterial chip c passphrase) s = some material) :
    ∀ m ∈ material, ∃ k, chip.authorityIn m.key = some k := by
  rcases passphrase with - | ⟨salt, passphraseHash, kdf⟩
  · cases h
    rintro _ ⟨⟩
  · obtain ⟨made, hmade, h⟩ := value_bind_eq_some h
    cases h
    obtain ⟨key, hkey, hmade⟩ := value_bind_eq_some hmade
    rw [value_ofOption_bind] at hmade
    obtain ⟨name, -, hmade⟩ := Option.bind_eq_some_iff.mp hmade
    cases hmade
    rintro _ ⟨⟩
    exact authorityIn_createCredentialKey (createCredentialKey_value (Ctap2.Sample.device []) hkey)

theorem recoveryMaterial_samePcrs (chip : Chip crates) (c : Conditions)
    (passphrase : Option (List UInt8 × List UInt8 × RecoveryKdf)) :
    Moves SamePcrs (recoveryMaterial chip c passphrase) := by
  rcases passphrase with - | ⟨salt, passphraseHash, kdf⟩
  · exact samePcrs_frame.pure _
  · exact samePcrs_frame.bind ((chip.context_samePcrs c).createRecoveryMaterialWithHash
      samePcrs_frame.compatible _ _ _ _ _) fun _ ↦ samePcrs_frame.pure _

theorem authorize_samePcrs (chip : Chip crates) (tpm : Tpm) (c : Conditions) (id : List UInt8)
    (owner : Option UInt32) (policy : PcrPolicyBinding) (material : Option RecoveryMaterial) :
    Moves SamePcrs (authorize chip tpm c id owner policy material) := by
  cases material with
  | none => exact samePcrs_frame.pure _
  | some material =>
    exact (chip.context_samePcrs c).createAuthorizedPolicy samePcrs_frame.compatible crates
      tpm _ _ _

/-- **A new credential** is approved for the PCRs of the moment. -/
theorem sound_of_enrol {conditions : Nat → Conditions} {id : List UInt8} {owner : Option UInt32}
    {passphrase : Option (List UInt8 × List UInt8 × RecoveryKdf)} {key : TpmCredential}
    {policy : PcrPolicyBinding} {material : Option RecoveryMaterial}
    (h : value (enrol chip tpm conditions id owner passphrase) s = some (key, policy, material)) :
    Enrolled.Sound chip tpm.pcrSelectionList ⟨id, owner, key, policy,
      material.map RecoveryMaterial.key, policy.digest,
      pcrDigest crates tpm.pcrSelectionList s.pcrs⟩ := by
  obtain ⟨material', hmaterial, h⟩ := value_bind_eq_some h
  have hsame₁ : _ = s.pcrs := recoveryMaterial_samePcrs chip (conditions 0) passphrase s
  generalize (recoveryMaterial chip (conditions 0) passphrase s).2 = s₁ at h hsame₁
  obtain ⟨plain, hplain, h⟩ := value_bind_eq_some h
  have hsame₂ : _ = s₁.pcrs := (chip.context_samePcrs (conditions 1)).createSecureBootPolicy
    samePcrs_frame.compatible crates tpm s₁
  generalize (Tpm.createSecureBootPolicy (chip.context (conditions 1)) crates tpm s₁).2 = s₂
    at h hsame₂
  have hplain := createSecureBootPolicy_value hplain
  obtain ⟨policy', hpolicy, h⟩ := value_bind_eq_some h
  have hsame₃ : _ = s₂.pcrs :=
    authorize_samePcrs chip tpm (conditions 2) id owner plain material' s₂
  generalize (authorize chip tpm (conditions 2) id owner plain material' s₂).2 = s₃ at h hsame₃
  obtain ⟨key', hkey, h⟩ := value_bind_eq_some h
  cases h
  refine Enrolled.sound_of_created (createCredentialKey_value (Ctap2.Sample.device []) hkey)
    (length_pcrDigest _) ?_
  rw [← hsame₁]
  cases material with
  | none =>
    cases hpolicy
    exact .plain rfl (by rw [hplain])
  | some m =>
    obtain ⟨k, hk⟩ := recoveryMaterial_value hmaterial m rfl
    rw [authorize] at hpolicy
    have hdigest : plain.digest = pcrPolicy crates tpm.pcrSelectionList
        (pcrDigest crates tpm.pcrSelectionList s₂.pcrs) := by
      rw [hplain, hsame₂]
    have hmade := createAuthorizedPolicy_value hk (fits_credentialPolicyRef _ _ _) hdigest hpolicy
    rw [hdigest, hsame₂] at hmade
    subst hmade
    exact .signed rfl hk rfl rfl rfl rfl

/-! ## Later operations -/

/-- **A new approval** returns the digest that the key was created with, and is one for the PCRs of
the moment. -/
theorem sound_of_reapprove (h : e.Sound chip tpm.pcrSelectionList) {policy : PcrPolicyBinding}
    (hpolicy : value (reapprove chip tpm c e) s = some policy) :
    policy.digest = e.created ∧ Enrolled.Sound chip tpm.pcrSelectionList
      { e with
        policy := policy, approvedFor := pcrDigest crates tpm.pcrSelectionList s.pcrs } := by
  unfold reapprove at hpolicy
  split at hpolicy
  · next authority policyRef authorityName hauthority href hname =>
    have hcalm := ((chip.context_within c).updateAuthorizedPolicy Within.compatible crates tpm _ _
      _).value hpolicy
    rw [value_updateAuthorizedPolicy (Ctap2.Sample.device [])
      _ _ _ (h.name_of_keyIn hauthority hname)]
      at hcalm
    exact h.update hauthority hname href hcalm
  · cases hpolicy

theorem reapprove_isSome (h : e.Sound chip tpm.pcrSelectionList)
    (hrecovery : e.authority.isSome) : (value (reapprove chip tpm c.calm e) s).isSome := by
  cases h.approved with
  | plain hauthority _ =>
    rw [hauthority] at hrecovery
    cases hrecovery
  | signed hauthority hk href hname _ _ =>
    unfold reapprove
    rw [hauthority, href, hname]
    dsimp only
    rw [updateAuthorizedPolicy_value hk (fits_credentialPolicyRef _ _ _)]
    rfl

theorem sound_of_rekey {slots : List UInt32} (h : e.Sound chip slots)
    {newAuthValue : List UInt8} {authority : TpmCredential}
    (hrekey : value (rekey chip c e newAuthValue) s = some authority) :
    Enrolled.Sound chip slots { e with authority := some authority } := by
  unfold rekey at hrekey
  split at hrekey
  · next authority' hauthority =>
    have hcalm := ((chip.context_within c).changeKeyAuth Within.compatible _ _).value hrekey
    rw [value_changeKeyAuth (Ctap2.Sample.device [])] at hcalm
    exact h.changeKeyAuth hauthority hcalm
  · cases hrekey

theorem updatesMatch_of_sound (h : e.Sound chip tpm.pcrSelectionList) (device : State) :
    UpdatesMatch chip tpm device e :=
  ⟨fun _ ↦ reapprove_isSome h, fun _ _ hpolicy ↦ (sound_of_reapprove h hpolicy).1⟩

/-- What signing returns although something fails, it returns where nothing does; and what is signed
has 32 bytes. -/
theorem signWith_calm {der digest : List UInt8}
    (h : value (signWith chip tpm c e digest) s = some der) :
    value (signWith chip tpm c.calm e digest) s = some der ∧ digest.length = 32 := by
  have hcalm : value (signWith chip tpm c.calm e digest) s = some der :=
    ((chip.context_within c).signDigestWithPolicy Within.compatible crates tpm _ _ _ _).value h
  refine ⟨hcalm, ?_⟩
  by_contra hdigest
  rw [signWith, value_signDigestWithPolicy (Ctap2.Sample.device []), signDigestWithPolicy] at hcalm
  simp [hdigest, guard] at hcalm

/-- A credential in order signs exactly if the PCRs are those that were approved, and the chip takes
their digest. -/
theorem signWith_isSome_iff (hinj : InjectiveInParts crates.sha256)
    (h : e.Sound chip tpm.pcrSelectionList) (c : Conditions) {digest : List UInt8}
    (hdigest : digest.length = 32) :
    (value (signWith chip tpm c.calm e digest) s).isSome ↔
      PassesPcrs crates tpm.pcrSelectionList s.pcrs ∧
        pcrDigest crates tpm.pcrSelectionList s.pcrs = e.approvedFor := by
  rw [signWith, value_signDigestWithPolicy (Ctap2.Sample.device []), h.signs_iff hinj hdigest]
  refine and_congr_right fun _ ↦ ⟨?_, fun hsame ↦ by rw [hsame]⟩
  exact pcrPolicy_injective hinj _ (length_pcrDigest _) h.length

/-- **Signing matches** for a credential in order, if one read returns the whole selection. -/
theorem signingMatches_of_sound (hinj : InjectiveInParts crates.sha256)
    (h : e.Sound chip tpm.pcrSelectionList) (hread : ReadAtOnce (selects tpm.pcrSelectionList))
    (device : State) : SigningMatches chip tpm device e := by
  have hpasses : PassesPcrs crates tpm.pcrSelectionList device.pcrs :=
    passesPcrs_of_readAtOnce hread _
  refine ⟨fun c digest hdigest ↦ ?_, fun c digest hsome ↦ ?_⟩
  · rw [signWith_isSome_iff hinj h c hdigest]
    exact and_iff_right hpasses
  · obtain ⟨der, hder⟩ := Option.isSome_iff_exists.mp hsome
    obtain ⟨hcalm, hdigest⟩ := signWith_calm hder
    exact ((signWith_isSome_iff hinj h c hdigest).mp (by rw [hcalm]; rfl)).2

/-- **A credential in order never signs** if one read does not return the whole selection. -/
theorem neverSigns_of_sound (hinj : InjectiveInParts crates.sha256)
    (h : e.Sound chip tpm.pcrSelectionList) (hread : ¬ ReadAtOnce (selects tpm.pcrSelectionList))
    {device : State} (hapart : ReadsApart crates tpm.pcrSelectionList device.pcrs) :
    NeverSigns chip tpm device e := by
  intro c digest
  by_contra hsigns
  obtain ⟨der, hder⟩ := Option.ne_none_iff_exists'.mp hsigns
  obtain ⟨hcalm, hdigest⟩ := signWith_calm hder
  have hpasses := ((signWith_isSome_iff hinj h c hdigest).mp (by rw [hcalm]; rfl)).1
  exact hread ((passesPcrs_iff hapart).mp hpasses)

/-! ## Runs -/

theorem Machine.proceed_cases {α : Type} (m : Machine) (h : Handler State Unit α)
    (f : α → List Enrolled) :
    (m.proceed h f).credentials = m.credentials ∨
      ∃ a, value h m.device = some a ∧ (m.proceed h f).credentials = f a := by
  rw [Machine.proceed, value]
  cases h m.device with
  | mk o device =>
    cases o with
    | ok a => exact .inr ⟨a, rfl, rfl⟩
    | error _ => exact .inl rfl
    | panicked => exact .inl rfl

/-- What holds of all credentials holds of them after one was changed, if it holds of that one. -/
theorem Machine.forall_with {α : Type} {P : Enrolled → Prop} (m : Machine) (index : Nat)
    (h : Enrolled → Handler State Unit α) (f : Enrolled → α → Enrolled)
    (hm : ∀ e ∈ m.credentials, P e)
    (hf : ∀ e a, P e → value (h e) m.device = some a → P (f e a)) :
    ∀ e ∈ (m.with index h f).credentials, P e := by
  rw [Machine.with]
  cases hindex : m.credentials[index]? with
  | none => exact hm
  | some e =>
    have he := hm e (List.mem_of_getElem? hindex)
    rcases m.proceed_cases (h e) fun a ↦ m.credentials.set index (f e a) with hsame | ⟨a, ha, hset⟩
    · rw [hsame]
      exact hm
    · rw [hset]
      intro e' he'
      rcases List.mem_or_eq_of_mem_set he' with he' | rfl
      · exact hm e' he'
      · exact hf e a he ha

/-- Every action keeps the credentials in order. -/
theorem step_sound (m : Machine) (action : Action)
    (h : ∀ e ∈ m.credentials, e.Sound chip tpm.pcrSelectionList) :
    ∀ e ∈ (step chip tpm m action).2.credentials, e.Sound chip tpm.pcrSelectionList := by
  cases action with
  | changePcrs pcrs => exact h
  | register conditions id owner passphrase =>
    rcases m.proceed_cases (enrol chip tpm conditions id owner passphrase) fun made ↦
      m.credentials ++ [⟨id, owner, made.1, made.2.1, made.2.2.map RecoveryMaterial.key,
        made.2.1.digest, pcrDigest crates tpm.pcrSelectionList m.device.pcrs⟩] with
      hsame | ⟨made, hmade, hadded⟩
    · intro e he
      exact h e (hsame ▸ he)
    · intro e he
      rcases List.mem_append.mp (hadded ▸ he) with he | he
      · exact h e he
      · cases List.mem_singleton.mp he
        exact sound_of_enrol hmade
  | update c index =>
    exact m.forall_with index _ _ h fun e policy he hpolicy ↦ (sound_of_reapprove he hpolicy).2
  | changeAuth c index newAuthValue =>
    exact m.forall_with index _ _ h fun e authority he hrekey ↦ sound_of_rekey he hrekey
  | sign c index digest => exact m.forall_with index _ _ h fun e _ he _ ↦ he

/-- **The policies of the three paths match**, for every credential, after any sequence of changes
of the PCRs, registrations, updates, changes of auth values and signatures, whatever fails: updates
always, and signing if one read returns the whole selection.  If it does not, no credential ever
signs. -/
theorem policies_match (hinj : InjectiveInParts crates.sha256) (chip : Chip crates) (tpm : Tpm)
    (device : State) (actions : List Action) :
    let m := Run.final (step chip tpm) ⟨device, []⟩ actions
    ∀ e ∈ m.credentials, UpdatesMatch chip tpm m.device e ∧
      (ReadAtOnce (selects tpm.pcrSelectionList) → SigningMatches chip tpm m.device e) ∧
      (¬ ReadAtOnce (selects tpm.pcrSelectionList) →
        ReadsApart crates tpm.pcrSelectionList m.device.pcrs → NeverSigns chip tpm m.device e) := by
  have hsound : ∀ e ∈ (Run.final (step chip tpm) ⟨device, []⟩ actions).credentials,
      e.Sound chip tpm.pcrSelectionList :=
    Run.state_invariant (I := fun m ↦ ∀ e ∈ m.credentials, e.Sound chip tpm.pcrSelectionList)
      (C := fun _ _ ↦ True) (by rintro _ ⟨⟩) (fun m action h _ ↦ step_sound m action h) actions
      fun _ _ ↦ trivial
  exact fun e he ↦ ⟨updatesMatch_of_sound (hsound e he) _,
    fun hread ↦ signingMatches_of_sound hinj (hsound e he) hread _,
    fun hread hapart ↦ neverSigns_of_sound hinj (hsound e he) hread hapart⟩

namespace Sample

open SampleChip

/-- Two registrations, the second with a recovery key, and after a change of the PCRs a new approval
of the second. -/
def approvals : List Action :=
  [.register (fun _ ↦ conditions [1]) [10] none none,
    .register (fun _ ↦ conditions [2]) [11] (some 1000)
      (some ([3], List.replicate 32 4, ⟨8, 1, 1⟩)),
    .changePcrs fun i ↦ List.replicate 32 (UInt8.ofNat (i * i + 5)),
    .update (conditions [6]) 1]

/-- A context for the PCRs up to a number. -/
def upTo (n : Nat) : Tpm :=
  ⟨(List.range (n + 1)).map fun i ↦ (1 : UInt32) <<< UInt32.ofNat i, "sha256"⟩

/-- The machine after them. -/
def approved (tpm : Tpm) : Machine :=
  Run.final (step (SampleChip.chip []) tpm) ⟨started 0, []⟩ approvals

/-- Whether a credential is approved for the PCRs as they are, and whether it signs. -/
def standing (tpm : Tpm) : List (Bool × Bool) :=
  (approved tpm).credentials.map fun e ↦
    (decide (pcrDigest (SampleChip.hashingPackages []) tpm.pcrSelectionList
      (approved tpm).device.pcrs = e.approvedFor),
    (value (signWith (SampleChip.chip []) tpm (conditions [7]) e (List.replicate 32 1))
      (approved tpm).device).isSome)

end Sample

/-- There are credentials to which this applies: of the two, one is approved for the PCRs as they
are. -/
theorem approved_credentials_match :
    Sample.standing (Sample.upTo 7) = [(false, false), (true, true)] ∧
    ∀ e ∈ (Sample.approved (Sample.upTo 7)).credentials,
      UpdatesMatch (SampleChip.chip []) (Sample.upTo 7) (Sample.approved (Sample.upTo 7)).device e ∧
      SigningMatches (SampleChip.chip []) (Sample.upTo 7) (Sample.approved (Sample.upTo 7)).device
        e :=
  ⟨by decide +kernel, fun e he ↦
    have h := policies_match SampleChip.injectiveInParts_blockSum (SampleChip.chip [])
      (Sample.upTo 7) (SampleChip.started 0) Sample.approvals e he
    ⟨h.1, h.2.1 (by decide)⟩⟩

/-- **With nine PCRs nothing can be signed.**  The second credential has just been approved for the
PCRs as they are. -/
theorem nine_pcrs_never_sign :
    Sample.standing (Sample.upTo 8) = [(false, false), (true, false)] := by
  decide +kernel

end Approval
end TpmFido2
