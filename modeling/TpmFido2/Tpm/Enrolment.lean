import TpmFido2.Tpm.Chip

/-!
# Credentials and their approvals

A credential's key is created with a policy, and the chip signs with it in a session whose digest is
that policy.  The policy is either the one for the PCRs of the moment, or one that leaves the choice
of the PCRs to signatures of a recovery key.  `Enrolled` is what is kept of a credential, together
with two facts that nobody keeps: the policy its key was created with, and the PCR digest it was
last approved for.  `Enrolled.Sound` says that everything kept fits these two.

The result is `Enrolled.Sound.signs_iff`: whichever PCRs a context selects, signing succeeds exactly
if the policy for their values is the approved one and the chip takes the digest of what was read.
This needs that a change of one block of 32 bytes changes a hash (`InjectiveInParts`); the hash of a
message of any length to 32 bytes cannot be injective.

The chip takes the digest if one read returns the whole selection.  It returns eight PCRs at most,
and the wrapper reads once; so with more of them the digest is one of something else, unless two
messages of different lengths have the same hash (`passesPcrs_iff`).
-/

set_option autoImplicit false

namespace TpmFido2

open Handler Tpm2 Chip

/-! ## Credentials -/

/-- What the wrapper keeps of a credential, with two facts about its past. -/
structure Enrolled where
  id : List UInt8
  owner : Option UInt32
  key : TpmCredential
  policy : PcrPolicyBinding
  authority : Option TpmCredential
  /-- The policy digest that the key was created with. -/
  created : List UInt8
  /-- The PCR digest in force at the registration, or at the latest update that succeeded. -/
  approvedFor : List UInt8

section
variable {crates : Crates} (chip : Chip crates) (slots : List UInt32)

/-- How the PCRs of a selection were approved for a credential. -/
inductive Approved (e : Enrolled) : Prop where
  /-- By the policy of the key itself. -/
  | plain (hauthority : e.authority = none)
    (created : e.created = pcrPolicy crates slots e.approvedFor)
  /-- By a signature of the recovery key. -/
  | signed {authority : TpmCredential} {k : Key} {nonce : List UInt8}
    (hauthority : e.authority = some authority) (key : chip.authorityIn authority = some k)
    (policyRef : e.policy.policyRef = some (credentialPolicyRef crates e.id e.owner))
    (authorityName : e.policy.authorityName = some (chip.scheme.name k.publicArea))
    (authoritySignature : e.policy.authoritySignature = some (chip.marshalSignature
      (chip.scheme.sign k.secret (policyWithRefHash crates (pcrPolicy crates slots e.approvedFor)
        (credentialPolicyRef crates e.id e.owner)) nonce)))
    (created : e.created = authorizedPolicy crates (chip.scheme.name k.publicArea)
      (credentialPolicyRef crates e.id e.owner))

/-- Everything that was made for the credential fits together. -/
structure Enrolled.Sound (e : Enrolled) : Prop where
  key : ∃ k, chip.keyIn e.key = some k ∧ k.template.authPolicy = e.created
  digest : e.policy.digest = e.created
  length : e.approvedFor.length = 32
  approved : Approved chip slots e

end

variable {crates : Crates} {chip : Chip crates} {tpm : Tpm} {c : Conditions} {host : TpmDevice}
  {pcrs : Nat → List UInt8}

/-! ## Keys -/

theorem keyIn_generate (seed authValue x y : List UInt8) (template : Template)
    (kept : Option (List UInt8)) :
    chip.keyIn ⟨chip.scheme.protect (chip.scheme.generate seed template).2
        (chip.scheme.generate seed template).1 authValue, (chip.scheme.generate seed template).2, x,
          y,
        kept⟩ =
      some ⟨(chip.scheme.generate seed template).2, template,
        (chip.scheme.generate seed template).1, authValue, []⟩ := by
  rw [keyIn, if_pos ⟨chip.isPrivate_protect _ _ _, chip.isPublic_generate _ _⟩]
  exact Scheme.openKey_generate chip.lawful seed authValue template

theorem authorityIn_eq_some {key : TpmCredential} {k : Key} :
    chip.authorityIn key = some k ↔ chip.keyIn key = some k ∧ fitsAuth key.authValue ∧
      Key.Authorized { k with hostAuth := key.authValue.getD k.hostAuth } := by
  rw [authorityIn, Option.bind_eq_some_iff]
  constructor
  · rintro ⟨k', hk, h⟩
    split at h
    · next hfits =>
      split at h
      · next hauth =>
        cases h
        exact ⟨hk, hfits, hauth⟩
      · cases h
    · cases h
  · rintro ⟨hk, hfits, hauth⟩
    exact ⟨k, hk, by rw [if_pos hfits, if_pos hauth]⟩

/-- A new key can be loaded. -/
theorem keyIn_createCredentialKey {policy : Option PcrPolicyBinding}
    {authValue : Option (List UInt8)} {key : TpmCredential}
    (h : createCredentialKey (chip.device host c pcrs) policy authValue = some key) :
    ∃ k, chip.keyIn key = some k ∧ key.authValue = authValue ∧ fitsAuth authValue ∧
      k.template = ⟨(policy.map PcrPolicyBinding.digest).getD [], authValue.isSome⟩ ∧
      k.authValue = authValue.getD [] := by
  rw [createCredentialKey, device] at h
  dsimp only at h
  split at h
  · next hfits =>
    cases h
    exact ⟨_, keyIn_generate _ _ _ _ _ _, rfl, hfits.2, rfl, rfl⟩
  · cases h

/-- A new recovery key can be used. -/
theorem authorityIn_createCredentialKey {authValue : List UInt8} {key : TpmCredential}
    (h : createCredentialKey (chip.device host c pcrs) none (some authValue) = some key) :
    ∃ k, chip.authorityIn key = some k := by
  obtain ⟨k, hk, hkept, hfits, htemplate, hauth⟩ := keyIn_createCredentialKey h
  refine ⟨k, authorityIn_eq_some.mpr ⟨hk, hkept ▸ hfits, ?_, ?_⟩⟩
  · exact congrArg Template.userWithAuth htemplate
  · rw [hkept, hauth]
    rfl

/-- A recovery key with another auth value is the same key. -/
theorem authorityIn_changeKeyAuth {key key' : TpmCredential} {newAuthValue : List UInt8} {k : Key}
    (h : changeKeyAuth (chip.device host c pcrs) key newAuthValue = some key')
    (hk : chip.authorityIn key = some k) :
    ∃ k', chip.authorityIn key' = some k' ∧ k'.publicArea = k.publicArea ∧
      k'.secret = k.secret := by
  obtain ⟨hkey, -, huser, -⟩ := authorityIn_eq_some.mp hk
  rw [changeKeyAuth, device] at h
  dsimp only at h
  rw [hk, Option.bind_some] at h
  split at h
  · next hfits =>
    cases h
    rw [keyIn] at hkey
    split at hkey
    · next hconverts =>
      have hopen := Scheme.openKey_protect chip.lawful hkey newAuthValue
      obtain ⟨publicArea, template, secret, authValue, hostAuth⟩ := k
      obtain ⟨rfl, -⟩ := Scheme.paired_of_openKey chip.lawful hkey
      refine ⟨⟨key.publicArea, template, secret, newAuthValue, hostAuth⟩,
        authorityIn_eq_some.mpr ⟨?_, ?_, huser, rfl⟩, rfl, rfl⟩
      · rw [keyIn, if_pos ⟨chip.isPrivate_protect _ _ _, hconverts.2⟩]
        exact hopen
      · rintro _ ⟨⟩
        exact hfits
    · cases hkey
  · cases h

/-! ## Policies -/

theorem fits_credentialPolicyRef (crates : Crates) (id : List UInt8) (owner : Option UInt32) :
    fits (credentialPolicyRef crates id owner) := by
  rw [fits, credentialPolicyRef, crates.length_sha256]
  decide

theorem createSecureBootPolicy_device :
    createSecureBootPolicy crates (chip.device host c pcrs) tpm = some ⟨tpm.pcrSelectionName,
      pcrPolicy crates tpm.pcrSelectionList (pcrDigest crates tpm.pcrSelectionList pcrs),
        none, none,
      none⟩ := rfl

/-- The approval of a policy. -/
theorem createAuthorizedPolicy_device {approved : PcrPolicyBinding} {authority : TpmCredential}
    {policyRef : List UInt8} {k : Key} (hk : chip.authorityIn authority = some k)
    (hlength : approved.digest.length = 32) (hfits : fits policyRef) :
    createAuthorizedPolicy crates (chip.device host c pcrs) tpm approved authority policyRef =
      some ⟨approved.selection, authorizedPolicy crates (chip.scheme.name k.publicArea) policyRef,
        some policyRef, some (chip.scheme.name k.publicArea), some (chip.marshalSignature
          (chip.scheme.sign k.secret (policyWithRefHash crates approved.digest policyRef)
            c.nonce))⟩ := by
  obtain ⟨hkey, -⟩ := authorityIn_eq_some.mp hk
  simp [createAuthorizedPolicy, device, hk, hkey, hlength, hfits, chip.isName_name, guard]

theorem updateAuthorizedPolicy_device {authority : TpmCredential} {policyRef : List UInt8} {k : Key}
    (hk : chip.authorityIn authority = some k) (hfits : fits policyRef) :
    updateAuthorizedPolicy crates (chip.device host c pcrs) tpm authority
        (chip.scheme.name k.publicArea) policyRef =
      some ⟨tpm.pcrSelectionName, authorizedPolicy crates (chip.scheme.name k.publicArea) policyRef,
        some policyRef, some (chip.scheme.name k.publicArea), some (chip.marshalSignature
          (chip.scheme.sign k.secret (policyWithRefHash crates
            (pcrPolicy crates tpm.pcrSelectionList
            (pcrDigest crates tpm.pcrSelectionList pcrs)) policyRef) c.nonce))⟩ := by
  simp [updateAuthorizedPolicy, TpmFido2.currentPcrDigest, device, hk, hfits, chip.isName_name,
    pcrDigest]

/-- A credential whose key was created with the policy that was approved. -/
theorem Enrolled.sound_of_created {slots : List UInt32} {id approvedFor : List UInt8}
    {owner : Option UInt32} {key : TpmCredential} {policy : PcrPolicyBinding}
    {authority : Option TpmCredential}
    (hkey : createCredentialKey (chip.device host c pcrs) (some policy) none = some key)
    (hlength : approvedFor.length = 32)
    (happroved : Approved chip slots
      ⟨id, owner, key, policy, authority, policy.digest, approvedFor⟩) :
    Enrolled.Sound chip slots ⟨id, owner, key, policy, authority, policy.digest, approvedFor⟩ := by
  obtain ⟨k, hk, -, -, htemplate, -⟩ := keyIn_createCredentialKey hkey
  exact ⟨⟨k, hk, congrArg Template.authPolicy htemplate⟩, rfl, hlength, happroved⟩

theorem length_pcrDigest (slots : List UInt32) : (pcrDigest crates slots pcrs).length = 32 :=
  crates.length_sha256 _

section
variable {slots : List UInt32} {e : Enrolled} {authority : TpmCredential}

/-- The name that is kept is that of the recovery key. -/
theorem Enrolled.Sound.name_of_keyIn (h : e.Sound chip slots)
    (hauthority : e.authority = some authority) {authorityName : List UInt8}
    (hname : e.policy.authorityName = some authorityName) (k : Key)
    (hk : chip.keyIn authority = some k) : authorityName = chip.scheme.name k.publicArea := by
  cases h.approved with
  | plain hnone _ => cases hnone.symm.trans hauthority
  | signed hauthority' hk' _ hname' _ _ =>
    cases hauthority'.symm.trans hauthority
    cases hname'.symm.trans hname
    cases (authorityIn_eq_some.mp hk').1.symm.trans hk
    rfl

/-- **An update** returns the digest that the key was created with, and is an approval for the PCRs
of the moment that the context selects, whichever the credential was approved for before. -/
theorem Enrolled.Sound.update (h : e.Sound chip slots) (hauthority : e.authority = some authority)
    {authorityName policyRef : List UInt8} (hname : e.policy.authorityName = some authorityName)
    (href : e.policy.policyRef = some policyRef) {policy : PcrPolicyBinding}
    (hpolicy : updateAuthorizedPolicy crates (chip.device host c pcrs) tpm authority authorityName
      policyRef = some policy) :
    policy.digest = e.created ∧ Enrolled.Sound chip tpm.pcrSelectionList
      { e with
        policy := policy, approvedFor := pcrDigest crates tpm.pcrSelectionList pcrs } := by
  cases h.approved with
  | plain hnone _ => cases hnone.symm.trans hauthority
  | signed hauthority' hk href' hname' _ hcreated =>
    cases hauthority'.symm.trans hauthority
    cases href'.symm.trans href
    cases hname'.symm.trans hname
    rw [updateAuthorizedPolicy_device hk (fits_credentialPolicyRef _ _ _)] at hpolicy
    cases hpolicy
    refine ⟨hcreated.symm, h.key, hcreated.symm, length_pcrDigest _, ?_⟩
    exact .signed hauthority hk rfl rfl rfl hcreated

/-- The recovery key gets another auth value. -/
theorem Enrolled.Sound.changeKeyAuth (h : e.Sound chip slots)
    (hauthority : e.authority = some authority) {newAuthValue : List UInt8}
    {authority' : TpmCredential}
    (hchange : TpmFido2.changeKeyAuth (chip.device host c pcrs) authority newAuthValue =
      some authority') :
    Enrolled.Sound chip slots { e with authority := some authority' } := by
  refine ⟨h.key, h.digest, h.length, ?_⟩
  cases h.approved with
  | plain hnone _ => cases hnone.symm.trans hauthority
  | signed hauthority' hk href hname hsignature hcreated =>
    cases hauthority'.symm.trans hauthority
    obtain ⟨k', hk', hpublic, hsecret⟩ := authorityIn_changeKeyAuth hchange hk
    rw [← hpublic] at hname hcreated
    rw [← hsecret] at hsignature
    exact .signed rfl hk' href hname hsignature hcreated

end

/-! ## Signing -/

theorem pcrPolicy_injective (hinj : InjectiveInParts crates.sha256) (slots : List UInt32)
    {a b : List UInt8} (ha : a.length = 32) (hb : b.length = 32)
    (h : pcrPolicy crates slots a = pcrPolicy crates slots b) : a = b :=
  extendPcr_injective hinj ha hb h

/-- A signature over a policy approves that policy. -/
theorem approves_sign (hinj : InjectiveInParts crates.sha256) {key : TpmCredential} {k : Key}
    (hk : chip.keyIn key = some k) (slots slots' : List UInt32) (current approved : List UInt8)
    (policyRef nonce : List UInt8) :
    chip.approves k (pcrPolicy crates slots' current) policyRef (chip.marshalSignature
        (chip.scheme.sign k.secret (policyWithRefHash crates (pcrPolicy crates slots approved)
          policyRef) nonce)) = true ↔
      pcrPolicy crates slots' current = pcrPolicy crates slots approved := by
  rw [approves, chip.unmarshal_marshal, Option.any_some]
  constructor
  · intro h
    have hsame := ((chip.lawful.verify_sign _ _ _ _ _).mp h).2
    refine hinj [] policyRef _ _ (length_pcrPolicy _ _) (length_pcrPolicy _ _) ?_
    exact hsame
  · intro h
    rw [h]
    exact verify_own hk _ _

/-- What was read and the whole selection do not have the same hash by accident; a PCR of the
SHA-256 bank has 32 bytes. -/
structure ReadsApart (crates : Crates) (slots : List UInt32) (pcrs : Nat → List UInt8) : Prop where
  length : ∀ i, (pcrs i).length = 32
  digests : Set.InjOn crates.sha256 {((readPcrs (selects slots)).map pcrs).flatten,
    ((selectedPcrs (selects slots)).map pcrs).flatten}

/-- **The chip takes the digest exactly if one read returns the whole selection.** -/
theorem passesPcrs_iff {slots : List UInt32} (h : ReadsApart crates slots pcrs) :
    PassesPcrs crates slots pcrs ↔ ReadAtOnce (selects slots) := by
  refine ⟨fun hpasses ↦ ?_, fun hread ↦ passesPcrs_of_readAtOnce hread pcrs⟩
  have hvalues := congrArg List.length (h.digests (.inl rfl) (.inr rfl) hpasses)
  have hlength (l : List Nat) : ((l.map pcrs).flatten).length = 32 * l.length := by
    simp [List.length_flatten, Function.comp_def, h.length, Nat.mul_comm]
  rw [hlength, hlength, readPcrs, List.length_take] at hvalues
  rw [ReadAtOnce]
  omega

/-- **Signing succeeds exactly if the policy of the moment is the one that was approved**, with
whatever selection of PCRs it is tried, and the chip takes the digest of the PCRs. -/
theorem Enrolled.Sound.signs_iff (hinj : InjectiveInParts crates.sha256) {slots : List UInt32}
    {e : Enrolled} (h : e.Sound chip slots) {digest : List UInt8} (hdigest : digest.length = 32) :
    (signDigestWithPolicy (chip.device host c pcrs) tpm e.key (some e.policy) e.authority
        digest).isSome ↔
      PassesPcrs crates tpm.pcrSelectionList pcrs ∧
        pcrPolicy crates tpm.pcrSelectionList (pcrDigest crates tpm.pcrSelectionList pcrs) =
          pcrPolicy crates slots e.approvedFor := by
  obtain ⟨k, hk, hpolicy⟩ := h.key
  have hsession : (signDigestWithPolicy (chip.device host c pcrs) tpm e.key (some e.policy)
      e.authority digest).isSome ↔ PassesPcrs crates tpm.pcrSelectionList pcrs ∧
      chip.sessionPolicy tpm.pcrSelectionList pcrs e.policy e.authority = some e.created := by
    rw [← hpolicy]
    simp only [signDigestWithPolicy, device, signature, hk, hdigest, Option.bind_some, guard,
      if_true, Option.bind_eq_bind, Option.pure_def]
    split
    · next h => exact ⟨fun _ ↦ h, fun _ ↦ rfl⟩
    · next h => exact ⟨by rintro ⟨⟩, fun h' ↦ absurd h' h⟩
  rw [hsession]
  refine and_congr_right fun _ ↦ ?_
  cases h.approved with
  | plain hauthority created =>
    rw [hauthority, created, chip.sessionPolicy_none, Option.some.injEq]
  | signed hauthority key policyRef authorityName authoritySignature created =>
    obtain ⟨hkey, hfits, -⟩ := authorityIn_eq_some.mp key
    have happroves := approves_sign hinj hkey slots tpm.pcrSelectionList
      (pcrDigest crates tpm.pcrSelectionList pcrs) e.approvedFor
      (credentialPolicyRef crates e.id e.owner)
    rw [hauthority, created, chip.sessionPolicy_some policyRef authorityName authoritySignature,
      hkey, Option.bind_some]
    constructor
    · intro h
      split at h
      · next hall => exact (happroves _).mp hall.2.2.1
      · cases h
    · intro h
      rw [if_pos ⟨rfl, hfits, (happroves _).mpr h, fits_credentialPolicyRef _ _ _⟩]

end TpmFido2
