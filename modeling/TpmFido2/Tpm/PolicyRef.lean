import TpmFido2.Tpm.Enrolment
import TpmFido2.Tpm.Sample

/-!
# What an approval is for

A recovery key approves a PCR policy for one credential of one user: it signs the hash of the policy
digest and the *policy reference*, and the reference is the hash of a label, the id of the
credential and the uid of its owner.  Neither hash is over fields with lengths in front.  In the
reference the id is between a label that is always the same and a uid that always has four bytes; in
what is signed, a digest has 32 bytes.  So both messages can be taken apart again
(`refMessage_inj`).

`approval_bound` says what follows for the hashes, for a signature that the TPM has made and is then
asked to verify, and for signing as a whole: **an approval is good for one credential, one owner and
one policy.**  SHA-256 is taken to have no collision among the four messages that are hashed.
-/

set_option autoImplicit false

namespace TpmFido2
namespace Approval

open Handler Tpm2 Chip Bytes

/-! ## Messages -/

/-- What `credential_policy_ref` hashes. -/
def refMessage (credentialId : List UInt8) (ownerUid : Option UInt32) : List UInt8 :=
  utf8 "linux-tpm-fido2/pcr-policy/v1" ++ credentialId ++ beBytes 4 (ownerUid.getD 0).toNat

/-- What an approval is for. -/
structure Subject where
  policyDigest : List UInt8
  credentialId : List UInt8
  ownerUid : Option UInt32

namespace Subject
variable (crates : Crates) (x y : Subject)

/-- The policy reference. -/
def policyRef : List UInt8 := credentialPolicyRef crates x.credentialId x.ownerUid

/-- What is signed, and what a signature is verified for. -/
def signed : List UInt8 := policyWithRefHash crates x.policyDigest (x.policyRef crates)

/-- The messages that are hashed. -/
def messages : Set (List UInt8) :=
  {refMessage x.credentialId x.ownerUid, x.policyDigest ++ x.policyRef crates}

/-- The same policy, credential and owner; no owner is the same as root. -/
def Same : Prop :=
  x.policyDigest = y.policyDigest ∧ x.credentialId = y.credentialId ∧
    x.ownerUid.getD 0 = y.ownerUid.getD 0

end Subject

variable {crates : Crates} {x y : Subject}

theorem refMessage_inj {c₁ c₂ : List UInt8} {u₁ u₂ : Option UInt32} :
    refMessage c₁ u₁ = refMessage c₂ u₂ ↔ c₁ = c₂ ∧ u₁.getD 0 = u₂.getD 0 := by
  constructor
  · intro h
    obtain ⟨hid, howner⟩ := List.append_inj' h (by simp)
    refine ⟨List.append_cancel_left hid, UInt32.toNat_inj.mp ?_⟩
    have hlt : ∀ u : UInt32, u.toNat < 256 ^ 4 := fun u ↦ u.toNat_lt
    rw [← ofBeBytes_beBytes_of_lt (hlt (u₁.getD 0)), howner, ofBeBytes_beBytes_of_lt (hlt _)]
  · rintro ⟨rfl, howner⟩
    rw [refMessage, howner, refMessage]

/-- **What is signed tells what it is for.** -/
theorem Subject.signed_inj (hx : x.policyDigest.length = 32) (hy : y.policyDigest.length = 32)
    (hinj : Set.InjOn crates.sha256 (x.messages crates ∪ y.messages crates)) :
    x.signed crates = y.signed crates ↔ x.Same y := by
  constructor
  · intro h
    have hmessage : x.policyDigest ++ x.policyRef crates = y.policyDigest ++ y.policyRef crates :=
      hinj (.inl (.inr rfl)) (.inr (.inr rfl)) h
    obtain ⟨hdigest, href⟩ := List.append_inj hmessage (hx.trans hy.symm)
    have hsubject := refMessage_inj.mp (hinj (.inl (.inl rfl)) (.inr (.inl rfl)) href)
    exact ⟨hdigest, hsubject⟩
  · rintro ⟨hdigest, hsubject⟩
    have href : x.policyRef crates = y.policyRef crates :=
      congrArg crates.sha256 (refMessage_inj.mpr hsubject)
    rw [Subject.signed, hdigest, href, Subject.signed]

/-! ## Signatures -/

variable {chip : Chip crates} {s : State} {c : Conditions}

/-- A stored signature is one of the key that was used. -/
theorem signRecoveryPolicy_value {authority : TpmCredential}
    {approved policyRef stored : List UInt8}
    (happroved : approved.length = 32)
    (h : value (Tpm.signRecoveryPolicy (chip.context c) crates authority approved policyRef) s =
      some stored) :
    ∃ k : Key, stored = chip.marshalSignature
      (chip.scheme.sign k.secret (policyWithRefHash crates approved policyRef) c.nonce) := by
  have hcalm := ((chip.context_within c).signRecoveryPolicy Within.compatible crates authority
    approved policyRef).value h
  rw [value_signRecoveryPolicy (Ctap2.Sample.device []) authority policyRef happroved] at hcalm
  obtain ⟨k, -, rfl⟩ := Option.map_eq_some_iff.mp hcalm
  exact ⟨k, rfl⟩

/-- A signature is verified for nothing else than what was signed. -/
theorem eq_of_approves {k : Key} {secret digest nonce approved policyRef : List UInt8}
    (h : chip.approves k approved policyRef
      (chip.marshalSignature (chip.scheme.sign secret digest nonce))) :
    policyWithRefHash crates approved policyRef = digest := by
  rw [approves, chip.unmarshal_marshal, Option.any_some] at h
  exact ((chip.lawful.verify_sign _ _ _ _ _).mp h).2

theorem eq_of_verifySignature {key : Nat} {secret digest digest' nonce ticket : List UInt8}
    (h : value ((chip.context c).verifySignature key digest'
      (chip.scheme.sign secret digest nonce)) s = some ticket) : digest' = digest := by
  have hcalm : value (perform true () (chip.scheme.verifySignature key digest'
      (chip.scheme.sign secret digest nonce))) s = some ticket :=
    ((chip.context_within c).verifySignature _ _ _).value h
  rw [value_perform] at hcalm
  obtain ⟨p, hp, -⟩ := Option.map_eq_some_iff.mp hcalm
  obtain ⟨k, -, hp⟩ := Option.bind_eq_some_iff.mp hp
  obtain ⟨hverify, -⟩ := Option.ite_none_right_eq_some.mp hp
  exact ((chip.lawful.verify_sign _ _ _ _ _).mp hverify).2

/-- Signing with the approval of an authority succeeds only if the approval is verified for the
policy of the moment. -/
theorem approves_of_signs {tpm : Tpm} {credential authority : TpmCredential}
    {policy : PcrPolicyBinding} {policyRef authorityName stored digest : List UInt8}
    (href : policy.policyRef = some policyRef) (hname : policy.authorityName = some authorityName)
    (hstored : policy.authoritySignature = some stored)
    (h : (value (Tpm.signDigestWithPolicy (chip.context c) crates tpm credential (some policy)
      (some authority) digest) s).isSome) :
    ∃ k, chip.approves k (pcrPolicy crates tpm.pcrSelectionList
      (pcrDigest crates tpm.pcrSelectionList s.pcrs)) policyRef stored := by
  obtain ⟨der, hder⟩ := Option.isSome_iff_exists.mp h
  have hcalm := ((chip.context_within c).signDigestWithPolicy Within.compatible crates tpm
    credential (some policy) (some authority) digest).value hder
  rw [value_signDigestWithPolicy (Ctap2.Sample.device [])] at hcalm
  obtain ⟨-, -, hcalm⟩ := Option.bind_eq_some_iff.mp hcalm
  obtain ⟨signature, hsignature, -⟩ := Option.bind_eq_some_iff.mp hcalm
  obtain ⟨k, -, hsignature⟩ := Option.bind_eq_some_iff.mp hsignature
  obtain ⟨⟨-, hsession⟩, -⟩ := Option.ite_none_right_eq_some.mp hsignature
  rw [chip.sessionPolicy_some href hname hstored] at hsession
  obtain ⟨k', -, hsession⟩ := Option.bind_eq_some_iff.mp hsession
  obtain ⟨hall, -⟩ := Option.ite_none_right_eq_some.mp hsession
  exact ⟨k', hall.2.2.1⟩

/-- **An approval for one subject is one for another** only if they are the same. -/
structure ApprovalBound (crates : Crates) (x y : Subject) : Prop where
  /-- What is signed for the one is what is verified for the other only if they are the same. -/
  signed : x.signed crates = y.signed crates ↔ x.Same y
  /-- A signature that the recovery authority made for the one is verified for the other, with
  whichever key is loaded, only if they are the same. -/
  verified : ∀ (chip : Chip crates) c s authority stored,
    value (Tpm.signRecoveryPolicy (chip.context c) crates authority x.policyDigest
      (x.policyRef crates)) s = some stored →
    ∀ c' s' key signature, chip.unmarshalSignature stored = some signature →
      (value ((chip.context c').verifySignature key (y.signed crates) signature) s').isSome →
        x.Same y
  /-- Where it is stored with the reference of the other, and the PCRs have the policy of the other,
  signing succeeds only if they are the same. -/
  signs : ∀ (chip : Chip crates) c s authority stored,
    value (Tpm.signRecoveryPolicy (chip.context c) crates authority x.policyDigest
      (x.policyRef crates)) s = some stored →
    ∀ c' s' tpm credential authority' (policy : PcrPolicyBinding) digest,
      policy.policyRef = some (y.policyRef crates) → policy.authorityName.isSome →
      policy.authoritySignature = some stored →
      pcrPolicy crates tpm.pcrSelectionList (pcrDigest crates tpm.pcrSelectionList s'.pcrs) =
        y.policyDigest →
      (value (Tpm.signDigestWithPolicy (chip.context c') crates tpm credential (some policy)
        (some authority') digest) s').isSome → x.Same y

/-- **No approval can be used for another credential, owner or policy.** -/
theorem approval_bound (hx : x.policyDigest.length = 32) (hy : y.policyDigest.length = 32)
    (hinj : Set.InjOn crates.sha256 (x.messages crates ∪ y.messages crates)) :
    ApprovalBound crates x y := by
  have hsigned := Subject.signed_inj hx hy hinj
  refine ⟨hsigned, ?_, ?_⟩
  · intro chip c s authority stored hstored c' s' key signature hsignature hverified
    obtain ⟨k, rfl⟩ := signRecoveryPolicy_value hx hstored
    cases (chip.unmarshal_marshal _).symm.trans hsignature
    obtain ⟨ticket, hticket⟩ := Option.isSome_iff_exists.mp hverified
    exact hsigned.mp (eq_of_verifySignature hticket).symm
  · intro chip c s authority stored hstored c' s' tpm credential authority' policy digest href hname
      hsignature hpcrs hsigns
    obtain ⟨k, rfl⟩ := signRecoveryPolicy_value hx hstored
    obtain ⟨authorityName, hname⟩ := Option.isSome_iff_exists.mp hname
    obtain ⟨k', happroves⟩ := approves_of_signs href hname hsignature hsigns
    rw [hpcrs] at happroves
    exact hsigned.mp (eq_of_approves happroves).symm

namespace Sample

open SampleChip

/-- Two credentials of one user, approved for the same PCRs. -/
def subject (id : UInt8) : Subject := ⟨List.replicate 32 1, [id], some 1000⟩

/-- Nothing that is hashed for the two has the same hash as anything else. -/
theorem injOn_subjects : Set.InjOn (hashingPackages []).sha256
    ((subject 1).messages (hashingPackages []) ∪ (subject 2).messages (hashingPackages [])) := by
  have hnodup : ([refMessage [1] (some 1000), List.replicate 32 1 ++ (subject 1).policyRef
      (hashingPackages []), refMessage [2] (some 1000), List.replicate 32 1 ++ (subject 2).policyRef
      (hashingPackages [])].map (hashingPackages []).sha256).Nodup := by decide +kernel
  refine fun a ha b hb ↦ List.inj_on_of_nodup_map hnodup ?_ ?_
  · rcases ha with (rfl | rfl) | (rfl | rfl) <;> simp [subject]
  · rcases hb with (rfl | rfl) | (rfl | rfl) <;> simp [subject]

/-- A recovery key made on the chip that is to approve them. -/
def authority : TpmCredential :=
  ⟨scheme.protect (publicOf [5] ⟨[], true⟩) [5] [6], publicOf [5] ⟨[], true⟩, [], [], some [6]⟩

end Sample

/-- The authority does approve, and what it signs for one credential is not an approval for the
other. -/
theorem approval_bound_credentials :
    (value (Tpm.signRecoveryPolicy ((SampleChip.chip []).context (SampleChip.conditions []))
      (SampleChip.hashingPackages []) Sample.authority (Sample.subject 1).policyDigest
      ((Sample.subject 1).policyRef (SampleChip.hashingPackages [])))
        (SampleChip.started 0)).isSome ∧
    ApprovalBound (SampleChip.hashingPackages []) (Sample.subject 1) (Sample.subject 2) :=
  ⟨by decide +kernel, approval_bound rfl rfl Sample.injOn_subjects⟩

end Approval
end TpmFido2
