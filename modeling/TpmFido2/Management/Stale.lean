import TpmFido2.Management.OnChip

/-!
# list-credentials

`handle_list_credentials` tells of each credential whether its PCR policy is stale.  For this
`check_pcr_stale` has the main thread compute the digest of the PCRs in the stored selection, and
compares it with the digest that is stored with the policy.

But the digest of a policy is not a digest of PCRs.  It is what a policy session ends up with, a
hash of another kind of message: with the code of a command and the selection in it, or with the
name of an authority and a reference.  A message of PCR values is a number of blocks of 32 bytes
long, and those are not (`digestMessage_ne_values`).  So short of a collision the two digests
differ, and every policy is reported stale.

**`pcrStale_truthful_iff`** — what is reported is true exactly if the PCRs do not have the values
that were approved; and where one read returns all of the selected PCRs, having these values is what
signing takes.  `approved_is_stale` is a credential that has just been registered.
-/

set_option autoImplicit false

namespace TpmFido2
namespace Management

open Handler Tpm2 Chip
open Ctap2 (World Env CommandM TpmCommand)

/-! ## The request -/

section
variable (crates : Crates)

/-- `TpmCommand::PcrDigestCheck`, with the digest that is sent back. -/
def pcrDigestCheck (env : Env) (indices : List UInt32) : CommandM (List UInt8) := do
  let selection ← ofOption (pcrSelectionForIndices env.tpm indices) .operationDenied
  let _ ← Ctap2.requireTpm crates env
  ofOption (currentPcrDigest crates env.tpm selection) .operationDenied

/-- It is the command of the main thread. -/
theorem handleTpmCommand_pcrDigestCheck (env : Env) (indices : List UInt32) :
    Ctap2.handleTpmCommand crates env (.pcrDigestCheck indices) =
      (pcrDigestCheck crates env indices >>= fun _ ↦ pure ()) := by
  simp only [Ctap2.handleTpmCommand, pcrDigestCheck, bind_assoc]

/-- `check_pcr_stale`; without an environment the message does not get to the main thread. -/
def checkPcrStale (env : Option Env) (policy : PcrPolicyBinding) (w : World) :
    Option Bool × World :=
  match pcrIndicesFromSelection policy.selection, env with
  | some indices, some env =>
    match pcrDigestCheck crates env indices w with
    | (.ok digest, w') => (some (digest ≠ policy.digest), w')
    | (_, w') => (none, w')
  | _, _ => (none, w)

/-- `hex::encode`. -/
def hexEncode (b : List UInt8) : String :=
  String.ofList (b.flatMap fun x ↦ [Nat.digitChar (x.toNat / 16), Nat.digitChar (x.toNat % 16)])

/-- What the response says of a credential. -/
structure ListedCredential where
  id : String
  rpId : String
  userName : String
  discoverable : Bool
  pcrStale : Option Bool
deriving DecidableEq

/-- The loop over the credentials: what the message about the n-th finds is `main n`. -/
def listCredentials (main : Nat → Option Env) :
    Nat → List StoredCtap2Credential → World → List ListedCredential × World
  | _, [], w => ([], w)
  | n, c :: credentials, w =>
    let checked := match c.policy with
      | none => (none, w)
      | some policy => checkPcrStale crates (main n) policy.toPcrPolicyBinding w
    let r := listCredentials main (n + 1) credentials checked.2
    (⟨hexEncode c.id, c.rpId, c.userName.getD "", c.discoverable, checked.1⟩ :: r.1, r.2)

/-- `handle_list_credentials`. -/
def handleListCredentials (peerUid : UInt32) (fault : StoreFault) (main : Nat → Option Env)
    (w : World) : Option (List ListedCredential) × World :=
  match Store.loadCtap2Credentials crates fault (filterUid peerUid) w.store with
  | (.ok credentials, s) =>
    let r := listCredentials crates main 0 credentials { w with store := s }
    (some r.1, r.2)
  | (_, s) => (none, { w with store := s })

end

variable {crates : Crates} {chip : Chip crates} {indices : List UInt32}
  {pcrs pcrs' : Nat → List UInt8} {e : Enrolled}

/-! ## Values and digests -/

/-- The values of PCRs that are read and hashed. -/
def valuesOf (indices : List UInt32) (pcrs : Nat → List UInt8) : List UInt8 :=
  ((readPcrs (selects (slotsFor indices))).map pcrs).flatten

/-- The selected PCRs, read or not, have the same values. -/
def SameValues (indices : List UInt32) (pcrs pcrs' : Nat → List UInt8) : Prop :=
  ∀ i ∈ selectedPcrs (selects (slotsFor indices)), pcrs' i = pcrs i

/-- What the digest of a policy is the hash of. -/
def digestMessage (crates : Crates) (indices : List UInt32) (pcrs : Nat → List UInt8)
    (e : Enrolled) :
    List UInt8 :=
  match e.authority with
  | none => policyMessage crates indices pcrs
  | some _ => authorizedDigest crates.sha256 (e.policy.authorityName.getD [])
      (e.policy.policyRef.getD []) ++ [0x00, 0x00, 0x01, 0x6c] ++ signCode

theorem Written.digest_eq (h : Written chip indices pcrs e) :
    e.policy.digest = crates.sha256 (digestMessage crates indices pcrs e) := by
  rw [h.sound.digest]
  unfold digestMessage
  cases h.sound.approved with
  | plain hauthority hcreated => rw [hauthority, hcreated, h.approvedFor]; rfl
  | signed hauthority _ href hname _ hcreated => rw [hauthority, hcreated, href, hname]; rfl

theorem dvd_length_valuesOf (hlength : ∀ i, (pcrs i).length = 32) :
    32 ∣ (valuesOf indices pcrs).length := by
  simp [valuesOf, List.length_flatten, Function.comp_def, hlength]

/-- The message of a policy digest is not one of PCR values. -/
theorem digestMessage_ne_values (hlength : ∀ i, (pcrs' i).length = 32) :
    valuesOf indices pcrs' ≠ digestMessage crates indices pcrs e := by
  intro h
  have hdvd : 32 ∣ (valuesOf indices pcrs').length := dvd_length_valuesOf hlength
  rw [h] at hdvd
  unfold digestMessage at hdvd
  split at hdvd
  · simp [policyMessage, emptyDigest, marshalSelection, pcrDigest, crates.length_sha256] at hdvd
  · simp [authorizedDigest, signCode, crates.length_sha256] at hdvd

/-- A digest of PCRs tells which values they have, if all were read. -/
theorem pcrDigest_eq_iff (hread : ReadAtOnce (selects (slotsFor indices)))
    (hlength : ∀ i, (pcrs i).length = 32)
    (hlength' : ∀ i, (pcrs' i).length = 32) (hapart : Set.InjOn crates.sha256
      {valuesOf indices pcrs', valuesOf indices pcrs, digestMessage crates indices pcrs e}) :
    pcrDigest crates (slotsFor indices) pcrs' = pcrDigest crates (slotsFor indices) pcrs ↔
      SameValues indices pcrs pcrs' := by
  rw [SameValues, ← readPcrs_of_readAtOnce hread]
  constructor
  · intro h
    exact List.flatten_map_inj hlength' hlength (hapart (.inl rfl) (.inr (.inl rfl)) h)
  · intro h
    rw [pcrDigest, pcrDigest, List.map_congr_left h]

/-! ## What is reported -/

/-- What is reported of a policy compares the digest of the PCRs with the digest of the policy. -/
theorem checkPcrStale_eq {env : Option Env} {policy : PcrPolicyBinding} {w : World} {b : Bool}
    (hselection : policy.selection = selectionName indices)
    (hdevice : ∀ x, env = some x → ∃ host conditions, x.tpm = chip.device host conditions pcrs')
    (h : (checkPcrStale crates env policy w).1 = some b) :
    b = decide (pcrDigest crates (slotsFor indices) pcrs' ≠ policy.digest) := by
  unfold checkPcrStale at h
  split at h
  · next read x hread =>
    obtain ⟨host, conditions, hx⟩ := hdevice x rfl
    have hindices : read = indices := by
      rw [hselection] at hread
      by_cases hempty : indices = []
      · rw [hempty, pcrIndicesFromSelection_name_nil] at hread
        cases hread
      · rw [pcrIndicesFromSelection_name hempty] at hread
        exact (Option.some.inj hread).symm
    subst hindices
    split at h
    · next digest w' hcheck =>
      obtain ⟨slots, w₁, hslots, hcheck⟩ := bind_ok hcheck
      obtain ⟨tpm, w₂, -, hcheck⟩ := bind_ok hcheck
      obtain ⟨-, -, rfl⟩ := pcrSelectionForIndices_eq_some.mp (ofOption_ok hslots).1
      have hdigest := (ofOption_ok hcheck).1
      rw [hx] at hdigest
      rw [← Option.some.inj h, ← Option.some.inj hdigest]
      rfl
    · cases h
  · cases h

/-- `list-credentials` reports of a credential that its policy is stale, or that it is not. -/
def ReportsStale (crates : Crates) (peerUid : UInt32) (fault : StoreFault) (main : Nat → Option Env)
    (w : World) (c : StoredCtap2Credential) (b : Bool) : Prop :=
  ∃ credentials listed, ∃ k : Nat, ∃ x : ListedCredential,
    (Store.loadCtap2Credentials crates fault (filterUid peerUid) w.store).1 = .ok credentials ∧
    credentials[k]? = some c ∧ (handleListCredentials crates peerUid fault main w).1 = some listed ∧
    listed[k]? = some x ∧ x.pcrStale = some b

theorem listCredentials_reports {main : Nat → Option Env} {n k : Nat}
    {credentials : List StoredCtap2Credential} {w : World} {c : StoredCtap2Credential}
    {policy : StoredPcrPolicy} {x : ListedCredential} (hc : credentials[k]? = some c)
    (hpolicy : c.policy = some policy)
    (hx : (listCredentials crates main n credentials w).1[k]? = some x) :
    ∃ w', x.pcrStale =
      (checkPcrStale crates (main (n + k)) policy.toPcrPolicyBinding w').1 := by
  induction credentials generalizing n k w with
  | nil => cases hc
  | cons c' credentials ih =>
    cases k with
    | zero =>
      cases hc
      cases hx
      refine ⟨w, ?_⟩
      rw [hpolicy]
      rfl
    | succ k =>
      obtain ⟨w', hw'⟩ := ih hc hx
      refine ⟨w', ?_⟩
      rwa [Nat.add_assoc, Nat.add_comm 1 k] at hw'

theorem handleListCredentials_reports {peerUid : UInt32} {fault : StoreFault}
    {main : Nat → Option Env} {w : World} {credentials : List StoredCtap2Credential} {k : Nat}
    {c : StoredCtap2Credential} {policy : StoredPcrPolicy} {listed : List ListedCredential}
    {x : ListedCredential}
    (hload : (Store.loadCtap2Credentials crates fault (filterUid peerUid) w.store).1 =
      .ok credentials) (hc : credentials[k]? = some c) (hpolicy : c.policy = some policy)
    (hlisted : (handleListCredentials crates peerUid fault main w).1 = some listed)
    (hx : listed[k]? = some x) :
    ∃ w', x.pcrStale = (checkPcrStale crates (main (0 + k)) policy.toPcrPolicyBinding w').1 := by
  unfold handleListCredentials at hlisted
  split at hlisted
  · next credentials' s hload' =>
    rw [hload'] at hload
    cases hload
    cases hlisted
    exact listCredentials_reports hc hpolicy hx
  · cases hlisted

/-- **The report is true exactly if the PCRs do not have the values that were approved**, for every
credential whose policy was written by a registration or an update.  That they do have these values
is what signing with the credential takes, if one read returns all of them. -/
theorem pcrStale_truthful_iff (hinj : InjectiveInParts crates.sha256)
    (h : Written chip indices pcrs e)
    (hlength : ∀ i, (pcrs i).length = 32) (hlength' : ∀ i, (pcrs' i).length = 32)
    (hapart : Set.InjOn crates.sha256
      {valuesOf indices pcrs', valuesOf indices pcrs, digestMessage crates indices pcrs e})
    {c : StoredCtap2Credential} (hkeeps : Keeps c.toCredential e) {peerUid : UInt32}
    {fault : StoreFault} {main : Nat → Option Env} {w : World}
    (hmain : ∀ n env, main n = some env →
      ∃ host conditions, env.tpm = chip.device host conditions pcrs') {b : Bool}
    (hreport : ReportsStale crates peerUid fault main w c b) :
    ((b = false ↔ SameValues indices pcrs pcrs') ↔ ¬ SameValues indices pcrs pcrs') ∧
    (ReadAtOnce (selects (slotsFor indices)) → ∀ host conditions digest, digest.length = 32 →
      ((signDigestWithPolicy (chip.device host conditions pcrs') (.ofIndices indices) c.key
        (c.policy.map StoredPcrPolicy.toPcrPolicyBinding) (c.recovery.map StoredRecoverySlot.key)
        digest).isSome ↔ SameValues indices pcrs pcrs')) := by
  refine ⟨?_, ?_⟩
  · obtain ⟨credentials, listed, k, x, hload, hc, hlisted, hx, hb⟩ := hreport
    have hstale : b = true := by
      obtain ⟨w', hw'⟩ := handleListCredentials_reports hload hc hkeeps.policy hlisted hx
      rw [checkPcrStale_eq h.selection (hmain _) (hw'.symm.trans hb), decide_eq_true_eq,
        h.digest_eq]
      exact fun heq ↦ digestMessage_ne_values hlength' (hapart (.inl rfl) (.inr (.inr rfl)) heq)
    rw [hstale]
    simp
  · intro hread host conditions digest hdigest
    rw [hkeeps.key, hkeeps.policy, hkeeps.authority]
    refine (h.signs_iff hinj host conditions indices pcrs' hdigest).trans ?_
    rw [and_iff_right (passesPcrs_of_readAtOnce hread pcrs'),
      ← pcrDigest_eq_iff hread hlength hlength' hapart]
    constructor
    · exact pcrPolicy_injective hinj _ (length_pcrDigest _) (length_pcrDigest _)
    · intro hsame
      rw [policyNow, policyNow, hsame]

namespace Sample

open Ctap2.Sample

/-- What the user sees once the PCRs have other values. -/
def rebooted : Env :=
  { onChip 3 with
    tpm := (SampleChip.chip [makeCredential "a", getAssertion "a"]).device (device [])
      (SampleChip.conditions [3]) (SampleChip.started 1).pcrs }

/-- `list-credentials`, with nothing changed or with other values of the PCRs. -/
def list (env : Env) : Option (List ListedCredential) :=
  (handleListCredentials chipPackages 1000 noFault (fun _ ↦ some env) withCredential).1

/-- The credentials that it loads. -/
def loaded : Outcome StoreError (List StoredCtap2Credential) :=
  (Store.loadCtap2Credentials chipPackages noFault (filterUid 1000) withCredential.store).1

end Sample

/-- The credential that is loaded is the one that was registered, and the digest of its policy is
not that of the PCRs, neither then nor later. -/
theorem Sample.registered_loaded :
    ∃ c e, Sample.loaded = .ok [c] ∧ Keeps c.toCredential e ∧
      Written (SampleChip.chip [Ctap2.Sample.makeCredential "a", Ctap2.Sample.getAssertion "a"]) [7]
        (SampleChip.started 0).pcrs e ∧
      ([valuesOf [7] (SampleChip.started 1).pcrs, valuesOf [7] (SampleChip.started 0).pcrs,
        digestMessage Sample.chipPackages [7] (SampleChip.started 0).pcrs e].map
          Sample.chipPackages.sha256).Nodup := by
  have hrun : (Sample.prepared.1.toOption.bind fun r ↦ Sample.loaded.toOption.bind fun l ↦
      r.1.policy.map fun p ↦ decide (l.map StoredCtap2Credential.toCredential = [r.1] ∧
        [Sample.chipPackages.sha256 (valuesOf [7] (SampleChip.started 1).pcrs),
          Sample.chipPackages.sha256 (valuesOf [7] (SampleChip.started 0).pcrs), p.digest].Nodup)) =
      some true := by
    decide +kernel
  obtain ⟨⟨c₀, response⟩, hprepared, hrun⟩ := Option.bind_eq_some_iff.mp hrun
  obtain ⟨l, hloaded, hrun⟩ := Option.bind_eq_some_iff.mp hrun
  obtain ⟨p, hpolicy, hrun⟩ := Option.map_eq_some_iff.mp hrun
  obtain ⟨hl, hnodup⟩ := of_decide_eq_true hrun
  obtain ⟨c, rfl, rfl⟩ := List.map_eq_singleton_iff.mp hl
  have hprepared := Outcome.pair_eq_ok hprepared
  rw [Sample.prepared] at hprepared
  obtain ⟨e, hwritten, hkeeps⟩ :=
    written_of_prepareCredential rfl Sample.withPassphrase_tpm hprepared
  refine ⟨c, e, Outcome.eq_ok hloaded, hkeeps, hwritten, ?_⟩
  rw [hkeeps.policy] at hpolicy
  cases hpolicy
  rw [hwritten.digest_eq] at hnodup
  exact hnodup

/-- Once the PCRs have other values, what is reported is true. -/
theorem pcrStale_truthful_rebooted :
    ∃ c e, ReportsStale Sample.chipPackages 1000 Ctap2.Sample.noFault (fun _ ↦ some Sample.rebooted)
        Sample.withCredential c true ∧ Keeps c.toCredential e ∧
      ((true = false ↔ SameValues [7] (SampleChip.started 0).pcrs (SampleChip.started 1).pcrs) ↔
        ¬ SameValues [7] (SampleChip.started 0).pcrs (SampleChip.started 1).pcrs) ∧
      ∀ host conditions digest, digest.length = 32 →
        ((signDigestWithPolicy ((SampleChip.chip [Ctap2.Sample.makeCredential "a",
          Ctap2.Sample.getAssertion "a"]).device host conditions (SampleChip.started 1).pcrs)
          (.ofIndices [7]) c.key (c.policy.map StoredPcrPolicy.toPcrPolicyBinding)
          (c.recovery.map StoredRecoverySlot.key) digest).isSome ↔
            SameValues [7] (SampleChip.started 0).pcrs (SampleChip.started 1).pcrs) := by
  obtain ⟨c, e, hloaded, hkeeps, hwritten, hnodup⟩ := Sample.registered_loaded
  have hlisted : (Sample.list Sample.rebooted).any (fun l ↦
      (l[0]?).any fun x ↦ x.pcrStale = some true) := by
    decide +kernel
  obtain ⟨listed, hlisted, hx⟩ := (Option.any_eq_true _ _).mp hlisted
  obtain ⟨x, hx, hstale⟩ := (Option.any_eq_true _ _).mp hx
  have hreport : ReportsStale Sample.chipPackages 1000 Ctap2.Sample.noFault
      (fun _ ↦ some Sample.rebooted) Sample.withCredential c true :=
    ⟨[c], listed, 0, x, hloaded, rfl, hlisted, hx, of_decide_eq_true hstale⟩
  have hmain : ∀ (n : Nat) env, some Sample.rebooted = some env → ∃ host conditions, env.tpm =
      (SampleChip.chip [Ctap2.Sample.makeCredential "a", Ctap2.Sample.getAssertion "a"]).device host
        conditions (SampleChip.started 1).pcrs := by
    rintro n _ ⟨⟩
    exact ⟨_, _, rfl⟩
  have hlength : ∀ b i, ((SampleChip.started b).pcrs i).length = 32 := fun b i ↦
    List.length_replicate
  have hapart : Set.InjOn Sample.chipPackages.sha256
      {valuesOf [7] (SampleChip.started 1).pcrs, valuesOf [7] (SampleChip.started 0).pcrs,
        digestMessage Sample.chipPackages [7] (SampleChip.started 0).pcrs e} := by
    refine fun a ha b hb ↦ List.inj_on_of_nodup_map hnodup ?_ ?_
    · simpa using ha
    · simpa using hb
  have htruthful := pcrStale_truthful_iff SampleChip.injectiveInParts_blockSum hwritten
    (hlength 0) (hlength 1) hapart hkeeps hmain hreport
  exact ⟨c, e, hreport, hkeeps, htruthful.1, htruthful.2 (by decide)⟩

/-- **A credential that has just been registered is stale**, and can be used. -/
theorem approved_is_stale :
    (Sample.list (Sample.onChip 3)).map (fun l ↦ l.map ListedCredential.pcrStale) =
      some [some true] ∧
    (Ctap2.step Sample.chipPackages Sample.withCredential
      (Ctap2.Sample.request (Sample.onChip 2) 0x02
      (Ctap2.Sample.getAssertion "a"))).1.succeeded := by
  -- in one go, so that the registration is computed only once
  decide +kernel

end Management
end TpmFido2
