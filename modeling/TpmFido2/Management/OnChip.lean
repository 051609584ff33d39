import TpmFido2.Management.UpdatePolicy
import TpmFido2.Tpm.Enrolment
import TpmFido2.Tpm.Sample

/-!
# Credentials of the daemon on a chip

What the daemon keeps of a credential comes from three functions of the wrapper: a registration, an
update of its policy, and a change of the auth value of its recovery key.  `Written` is a history of
these, on one chip, under whatever PCRs and in whatever contexts; its parameters are the PCRs that
the last context to write the policy was opened for, and the values the PCRs had then.

Everything kept fits together (`Written.sound`), the policy names the PCRs it was written for
(`Written.selection`), and a registration starts such a history (`written_of_prepareCredential`).
So signing in a context for some PCRs succeeds exactly if the policy for the values that these have
is the policy for the values that those had, and the chip takes their digest (`Written.signs_iff`).
-/

set_option autoImplicit false

namespace TpmFido2
namespace Management

open Handler Tpm2 Chip
open Ctap2 (World Env currentTpm)

variable {crates : Crates} {chip : Chip crates}

/-- The PCRs that are selected in a context opened for some numbers. -/
def slotsFor (indices : List UInt32) : List UInt32 := (Tpm.ofIndices indices).pcrSelectionList

/-- The policy for the values of PCRs. -/
def policyNow (crates : Crates) (indices : List UInt32) (pcrs : Nat → List UInt8) : List UInt8 :=
  pcrPolicy crates (slotsFor indices) (pcrDigest crates (slotsFor indices) pcrs)

/-- What `TPM2_PolicyPCR` hashes. -/
def policyMessage (crates : Crates) (indices : List UInt32) (pcrs : Nat → List UInt8) :
    List UInt8 :=
  emptyDigest ++ [0x00, 0x00, 0x01, 0x7f] ++ marshalSelection (selects (slotsFor indices)) ++
    pcrDigest crates (slotsFor indices) pcrs

theorem policyNow_eq (indices : List UInt32) (pcrs : Nat → List UInt8) :
    policyNow crates indices pcrs = crates.sha256 (policyMessage crates indices pcrs) := rfl

/-- How the parts of a credential were made, by functions of the wrapper on a chip: the PCRs that
its policy was last written for, the values that these had, and the parts. -/
inductive Written (chip : Chip crates) : List UInt32 → (Nat → List UInt8) → Enrolled → Prop where
  /-- By a registration. -/
  | registered {env : Env} {host : TpmDevice} {c : Conditions} {pcrs : Nat → List UInt8}
    {indices : List UInt32} {id : List UInt8} {owner : Option UInt32}
    {passphrase : Option (List UInt8 × List UInt8 × RecoveryKdf)} {key : TpmCredential}
    {policy : PcrPolicyBinding} {material : Option RecoveryMaterial}
    (device : env.tpm = chip.device host c pcrs)
    (created : Ctap2.createCredentialMaterial crates env (.ofIndices indices) id owner passphrase =
      some (key, policy, material)) :
    Written chip indices pcrs ⟨id, owner, key, policy, material.map RecoveryMaterial.key,
      policy.digest, pcrDigest crates (slotsFor indices) pcrs⟩
  /-- By an update of the policy. -/
  | updated {indices indices' : List UInt32} {pcrs pcrs' : Nat → List UInt8} {e : Enrolled}
    {host : TpmDevice} {c : Conditions} {authority : TpmCredential}
    {authorityName policyRef : List UInt8} {policy : PcrPolicyBinding}
    (before : Written chip indices pcrs e) (hauthority : e.authority = some authority)
    (hname : e.policy.authorityName = some authorityName)
    (href : e.policy.policyRef = some policyRef)
    (update : updateAuthorizedPolicy crates (chip.device host c pcrs') (.ofIndices indices')
      authority authorityName policyRef = some policy) :
    Written chip indices' pcrs' { e with
      policy := policy, approvedFor := pcrDigest crates (slotsFor indices') pcrs' }
  /-- By a change of the auth value of the recovery key. -/
  | rekeyed {indices : List UInt32} {pcrs pcrs' : Nat → List UInt8} {e : Enrolled}
    {host : TpmDevice} {c : Conditions} {authority authority' : TpmCredential}
    {newAuthValue : List UInt8} (before : Written chip indices pcrs e)
    (hauthority : e.authority = some authority)
    (change : changeKeyAuth (chip.device host c pcrs') authority newAuthValue = some authority') :
    Written chip indices pcrs { e with authority := some authority' }

/-! ## What a history leaves -/

section
variable {env : Env} {host : TpmDevice} {c : Conditions} {pcrs : Nat → List UInt8} {tpm : Tpm}
  {id : List UInt8} {owner : Option UInt32}
  {passphrase : Option (List UInt8 × List UInt8 × RecoveryKdf)} {key : TpmCredential}
  {policy : PcrPolicyBinding} {material : Option RecoveryMaterial}

/-- The recovery key of a new credential can be used. -/
theorem authorityIn_recoveryMaterialFor (hdevice : env.tpm = chip.device host c pcrs)
    (h : Ctap2.recoveryMaterialFor crates env passphrase = some material) :
    ∀ m ∈ material, ∃ k, chip.authorityIn m.key = some k := by
  rcases passphrase with - | ⟨salt, passphraseHash, kdf⟩
  · cases h
    rintro _ ⟨⟩
  · obtain ⟨made, hmade, rfl⟩ := Option.map_eq_some_iff.mp h
    rw [hdevice] at hmade
    obtain ⟨key, hkey, hmade⟩ := Option.bind_eq_some_iff.mp hmade
    obtain ⟨name, -, hmade⟩ := Option.bind_eq_some_iff.mp hmade
    cases hmade
    rintro _ ⟨⟩
    exact authorityIn_createCredentialKey hkey

/-- The parts of a new credential fit together, and its policy has the name of the selection. -/
theorem createCredentialMaterial_sound (hdevice : env.tpm = chip.device host c pcrs)
    (h : Ctap2.createCredentialMaterial crates env tpm id owner passphrase =
      some (key, policy, material)) :
    policy.selection = tpm.pcrSelectionName ∧
      Enrolled.Sound chip tpm.pcrSelectionList ⟨id, owner, key, policy,
        material.map RecoveryMaterial.key, policy.digest,
        pcrDigest crates tpm.pcrSelectionList pcrs⟩ := by
  obtain ⟨material', hmaterial, h⟩ := Option.bind_eq_some_iff.mp h
  obtain ⟨policy', hpolicy, h⟩ := Option.bind_eq_some_iff.mp h
  obtain ⟨key', hkey, h⟩ := Option.bind_eq_some_iff.mp h
  cases h
  have husable := authorityIn_recoveryMaterialFor hdevice hmaterial
  rw [Ctap2.policyFor, hdevice, createSecureBootPolicy_device] at hpolicy
  rw [hdevice] at hkey
  cases material with
  | none =>
    cases hpolicy
    exact ⟨rfl, Enrolled.sound_of_created hkey (length_pcrDigest _) (.plain rfl rfl)⟩
  | some m =>
    obtain ⟨k, hk⟩ := husable m rfl
    have hmade := (createAuthorizedPolicy_device hk (length_pcrPolicy _ _)
      (fits_credentialPolicyRef crates id owner)).symm.trans hpolicy
    cases hmade
    exact ⟨rfl, Enrolled.sound_of_created hkey (length_pcrDigest _)
      (.signed rfl hk rfl rfl rfl rfl)⟩

end

/-- An updated policy has the name of the selection. -/
theorem updateAuthorizedPolicy_selection {device : TpmDevice} {tpm : Tpm}
    {authority : TpmCredential}
    {authorityName policyRef : List UInt8} {policy : PcrPolicyBinding}
    (h : updateAuthorizedPolicy crates device tpm authority authorityName policyRef = some policy) :
    policy.selection = tpm.pcrSelectionName := by
  obtain ⟨current, -, h⟩ := Option.bind_eq_some_iff.mp h
  obtain ⟨approved, -, h⟩ := Option.bind_eq_some_iff.mp h
  obtain ⟨signature, -, h⟩ := Option.bind_eq_some_iff.mp h
  obtain ⟨digest, -, h⟩ := Option.bind_eq_some_iff.mp h
  cases h
  rfl

namespace Written
variable {indices : List UInt32} {pcrs : Nat → List UInt8} {e : Enrolled}

/-- **Everything that is kept fits together.** -/
theorem sound (h : Written chip indices pcrs e) : e.Sound chip (slotsFor indices) := by
  induction h with
  | registered hdevice hcreated => exact (createCredentialMaterial_sound hdevice hcreated).2
  | updated _ hauthority hname href hupdate ih => exact (ih.update hauthority hname href hupdate).2
  | rekeyed _ hauthority hchange ih => exact ih.changeKeyAuth hauthority hchange

theorem approvedFor (h : Written chip indices pcrs e) :
    e.approvedFor = pcrDigest crates (slotsFor indices) pcrs := by
  induction h with
  | registered => rfl
  | updated => rfl
  | rekeyed _ _ _ ih => exact ih

/-- The policy names the PCRs that it was written for. -/
theorem selection (h : Written chip indices pcrs e) :
    e.policy.selection = selectionName indices := by
  induction h with
  | registered hdevice hcreated => exact (createCredentialMaterial_sound hdevice hcreated).1
  | updated _ _ _ _ hupdate _ => exact updateAuthorizedPolicy_selection hupdate
  | rekeyed _ _ _ ih => exact ih

/-- **Signing** with a context for some PCRs succeeds exactly if the policy for their values is the
one that was approved, and the chip takes their digest. -/
theorem signs_iff (hinj : InjectiveInParts crates.sha256) (h : Written chip indices pcrs e)
    (host : TpmDevice) (c : Conditions) (indices' : List UInt32) (pcrs' : Nat → List UInt8)
    {digest : List UInt8} (hdigest : digest.length = 32) :
    (signDigestWithPolicy (chip.device host c pcrs') (.ofIndices indices') e.key (some e.policy)
        e.authority digest).isSome ↔ PassesPcrs crates (slotsFor indices') pcrs' ∧
          policyNow crates indices' pcrs' = policyNow crates indices pcrs := by
  rw [h.sound.signs_iff hinj hdigest, h.approvedFor]
  rfl

end Written

/-! ## The daemon -/

/-- A credential of the daemon has the parts given. -/
structure Keeps (c : Credential) (e : Enrolled) : Prop where
  id : c.id = e.id
  owner : c.userId = e.owner
  key : c.key = e.key
  policy : c.policy = some ⟨e.policy, StoredPcrPolicy.currentVersion⟩
  authority : c.recovery.map StoredRecoverySlot.key = e.authority

section
variable {env : Env} {w w' : World} {c : Credential}

/-- **A registration** starts a history. -/
theorem written_of_prepareCredential {host : TpmDevice} {conditions : Conditions}
    {pcrs : Nat → List UInt8} {indices : List UInt32} {body response : List UInt8}
    (hdevice : env.tpm = chip.device host conditions pcrs)
    (htpm : currentTpm crates env w = some (.ofIndices indices))
    (h : Ctap2.prepareCredential crates env body w = (.ok (c, response), w')) :
    ∃ e, Written chip indices pcrs e ∧ Keeps c e := by
  obtain ⟨w₁, tpm, policy, material, hopened, hmaterial, hpolicy, hrecovery, -⟩ :=
    Ctap2.prepareCredential_opened h
  rw [Ctap2.ensureTpm_apply, htpm] at hopened
  cases hopened
  refine ⟨_, .registered hdevice hmaterial, rfl, rfl, rfl, hpolicy, ?_⟩
  rw [hrecovery, Option.map_map]
  rfl

theorem Keeps.selection {e : Enrolled} (h : Keeps c e) {indices : List UInt32}
    {pcrs : Nat → List UInt8} (hwritten : Written chip indices pcrs e) :
    c.policy.map (fun p ↦ p.selection) = some (selectionName indices) := by
  rw [h.policy, ← hwritten.selection]
  rfl

/-- Signing with a credential of the daemon. -/
theorem Keeps.signCredential_iff {e : Enrolled} (h : Keeps c e) (env : Env) (w : World)
    (data : List UInt8) :
    (Ctap2.signCredential crates env c.key c.policy c.recovery data w).1.toOption.isSome ↔
      ∃ tpm, currentTpm crates env w = some tpm ∧ (signDigestWithPolicy env.tpm tpm e.key
        (some e.policy) e.authority (crates.sha256 data)).isSome := by
  have hversion : ¬ c.policy.any fun p ↦ ¬ StoredPcrPolicy.isVersionSupported p.policyVersion := by
    rw [h.policy]
    simp [StoredPcrPolicy.isVersionSupported, StoredPcrPolicy.currentVersion]
  rw [Ctap2.signCredential, bind_of_ok _ (throwIf_of_not hversion w),
    bind_of_ok _ (Ctap2.ensureTpm_apply crates env w), h.key, h.policy, h.authority]
  cases currentTpm crates env w with
  | none => exact ⟨by rintro ⟨⟩, by rintro ⟨_, ⟨⟩, _⟩⟩
  | some tpm =>
    rw [bind_of_ok _ (show ofOption (some tpm) _ _ = _ from rfl)]
    dsimp only [Option.map_some]
    cases hsigns : signDigestWithPolicy env.tpm tpm e.key (some e.policy) e.authority
      (crates.sha256 data) with
    | none => simp [ofOption, Handler.throw, Outcome.toOption, hsigns]
    | some signature => simp [ofOption, Outcome.toOption, hsigns]

end

/-! ## A daemon on the sample chip -/

namespace Sample

open Ctap2.Sample

/-- What a user sees on the sample chip. -/
def onChip (random : UInt8) : Env :=
  { session 1000 random with
    tpm := (SampleChip.chip [makeCredential "a", getAssertion "a"]).device (device [])
      (SampleChip.conditions [random]) (SampleChip.started 0).pcrs }

/-- The packages. -/
abbrev chipPackages : Crates :=
  SampleChip.hashingPackages [makeCredential "a", getAssertion "a"]

/-- The daemon on a fresh store, so with the usual default. -/
def onFreshStore : World := Ctap2.newAuthenticator chipPackages (onChip 0) (some "") Store.fresh

/-- The same with a passphrase. -/
def withPassphrase : World := Ctap2.after chipPackages onFreshStore [setPassphrase]

/-- A registration then. -/
def prepared : Outcome Ctap2.ErrorStatus (Credential × List UInt8) × World :=
  Ctap2.prepareCredential chipPackages (onChip 1) (Cbor.encode (makeCredential "a")) withPassphrase

theorem withPassphrase_tpm :
    currentTpm chipPackages (onChip 1) withPassphrase = some (.ofIndices [7]) := by
  decide +kernel

/-- The same with a credential. -/
def withCredential : World :=
  Ctap2.after chipPackages onFreshStore
    [setPassphrase, Ctap2.Sample.request (onChip 1) 0x01 (makeCredential "a")]

end Sample

end Management
end TpmFido2
