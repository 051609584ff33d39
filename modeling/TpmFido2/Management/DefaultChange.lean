import TpmFido2.Ctap2.PinEffects
import TpmFido2.Management.OnChip

/-!
# Credentials and a change of the default

The plan for the command line says of `set-default-pcr-policy` that it is about new credentials, and
of `update-pcr-reference` that it approves the current values of the PCRs that a credential is bound
to.  A credential has a selection of its own in the store, as a string.  But nobody who signs or
approves reads it: `sign_digest_with_policy` and `update_authorized_policy` take the selection of
the TPM context, and `Tpm::open` takes that from the default.

So a credential is registered in a context for some PCRs, the default is set to others, the daemon
is started again, and the PCRs have the values they had.  `default_governs` says what becomes of the
credential:

* signing with it succeeds exactly if the new default selects the same PCRs, no more than eight;
* if `update-pcr-reference` reports it `ok`, it is still bound to the PCRs of its own selection
  exactly if the new default is the same list.

`default_locks_out` is a credential for PCR 7 that cannot be used any more once the default is PCR
11, though no PCR has changed.
-/

set_option autoImplicit false

namespace TpmFido2
namespace Management

open Handler Tpm2 Chip
open Ctap2 (World Env currentTpm)

variable {crates : Crates} {chip : Chip crates} {indices indices' : List UInt32}
  {pcrs : Nat → List UInt8} {c : Credential} {w : World}

/-! ## Selections -/

/-- Two lists of numbers select the same PCRs. -/
def SameSelection (indices indices' : List UInt32) : Prop :=
  ∀ i < 24, selects (slotsFor indices') i = selects (slotsFor indices) i

/-- A policy for PCRs tells which PCRs it is for. -/
theorem policyNow_inj (hapart : Set.InjOn crates.sha256
      {policyMessage crates indices pcrs, policyMessage crates indices' pcrs}) :
    policyNow crates indices' pcrs = policyNow crates indices pcrs ↔
      SameSelection indices indices' := by
  constructor
  · intro h
    have hmessage : policyMessage crates indices' pcrs = policyMessage crates indices pcrs :=
      hapart (.inr rfl) (.inl rfl) h
    obtain ⟨hselection, -⟩ := List.append_inj' hmessage
      ((length_pcrDigest _).trans (length_pcrDigest _).symm)
    exact marshalSelection_inj.mp (List.append_cancel_left hselection)
  · intro h
    rw [policyNow_eq, policyNow_eq, policyMessage, policyMessage, marshalSelection_inj.mpr h,
      pcrDigest, pcrDigest, readPcrs, readPcrs, selectedPcrs_congr h]

/-! ## The situation -/

/-- A registration has made the credential, in a context for some PCRs and with the values that they
had. -/
def RegisteredFor (chip : Chip crates) (indices : List UInt32) (pcrs : Nat → List UInt8)
    (c : Credential) : Prop :=
  ∃ env host conditions body w response w', env.tpm = chip.device host conditions pcrs ∧
    currentTpm crates env w = some (.ofIndices indices) ∧
    Ctap2.prepareCredential crates env body w = (.ok (c, response), w')

/-- `set-default-pcr-policy` has taken the numbers, and the daemon was started again. -/
def StartedWith (crates : Crates) (indices : List UInt32) (w : World) : Prop :=
  ∃ fault s s' env path,
    handleSetDefaultPcrPolicy crates fault indices s = (.ok indices, s') ∧
      w = Ctap2.newAuthenticator crates env (some path) s'

theorem startedWith_after {fault : StoreFault} {env : Env} {path : String}
    (h : (handleSetDefaultPcrPolicy crates fault indices w.store).1 = .ok indices) :
    StartedWith crates indices
      (Ctap2.after crates w [.setPcrPolicy fault indices, .start env (some path)]) := by
  refine ⟨fault, w.store, _, env, path, Prod.ext h rfl, ?_⟩
  exact congrArg (Ctap2.newAuthenticator crates env (some path))
    (step_setPcrPolicy crates fault indices w)

/-- Whatever context such a daemon opens is for the new numbers. -/
theorem currentTpm_startedWith
    (hcodec : crates.readIndices (crates.writeIndices indices) = some indices)
    (h : StartedWith crates indices w) {env : Env} (hio : ¬ (env.store 2).io) :
    currentTpm crates env w = Tpm.openPath env.tpm (some indices) := by
  obtain ⟨fault, s, s', env', path, hset, rfl⟩ := h
  obtain ⟨cs, pin, t, heq, htables, -⟩ := Ctap2.newAuthenticator_pin crates env' (some path) s'
  have hload := loadDefaultPcrPolicy_saved hcodec hset hio
  have hsame : (Store.loadDefaultPcrPolicy crates (env.store 2) t).1 = .ok (some indices) := by
    rw [Store.loadDefaultPcrPolicy_congr htables.defaultPcrPolicy, hload]
  rw [heq, currentTpm]
  dsimp only [Ctap2.Authenticator.initial]
  rw [hsame]
  rfl

/-- The library makes a selection of the PCRs. -/
def Selectable (device : TpmDevice) (indices : List UInt32) : Prop :=
  (∀ i ∈ indices, device.isPcrSlot ((1 : UInt32) <<< i) = true) ∧ device.Builds indices

/-- A device that can be opened is opened for PCRs that the library makes a selection of. -/
theorem openPath_eq_some_iff {device : TpmDevice} (hopens : (List.range 100).any device.opens)
    {tpm : Tpm} : Tpm.openPath device (some indices) = some tpm ↔
      Selectable device indices ∧ .ofIndices indices = tpm := by
  rw [Tpm.openPath, if_pos hopens, defaultPcrSelection_eq, Option.map_map, Option.map_eq_some_iff]
  constructor
  · rintro ⟨slots, hslots, rfl⟩
    obtain ⟨hall, hbuilds, rfl⟩ := pcrSelectionForIndices_eq_some.mp hslots
    exact ⟨⟨hall, hbuilds⟩, rfl⟩
  · rintro ⟨⟨hall, hbuilds⟩, rfl⟩
    exact ⟨_, pcrSelectionForIndices_eq_some.mpr ⟨hall, hbuilds, rfl⟩, rfl⟩

/-! ## Signing -/

/-- What signing takes besides the right values of the PCRs: the default can be read, and the device
can be opened. -/
structure Attends (env : Env) : Prop where
  readable : ¬ (env.store 2).io
  opens : (List.range 100).any env.tpm.opens

theorem signs_startedWith_iff (hinj : InjectiveInParts crates.sha256)
    (hcodec : crates.readIndices (crates.writeIndices indices') = some indices')
    (hapart : Set.InjOn crates.sha256
      {policyMessage crates indices pcrs, policyMessage crates indices' pcrs})
    (hreads : ReadsApart crates (slotsFor indices') pcrs)
    (hc : RegisteredFor chip indices pcrs c) (hw : StartedWith crates indices' w) {env : Env}
    {host : TpmDevice} {conditions : Conditions} (data : List UInt8)
    (hdevice : env.tpm = chip.device host conditions pcrs) (hattends : Attends env) :
    (Ctap2.signCredential crates env c.key c.policy c.recovery data w).1.toOption.isSome ↔
      Selectable env.tpm indices' ∧ SameSelection indices indices' ∧
        ReadAtOnce (selects (slotsFor indices')) := by
  obtain ⟨_, _, _, _, _, _, _, hdevice₀, htpm₀, hprepared⟩ := hc
  obtain ⟨e, hwritten, hkeeps⟩ := written_of_prepareCredential hdevice₀ htpm₀ hprepared
  have hsigns := hwritten.signs_iff hinj host conditions indices' pcrs (crates.length_sha256 data)
  rw [policyNow_inj hapart, passesPcrs_iff hreads, and_comm, ← hdevice] at hsigns
  rw [hkeeps.signCredential_iff, currentTpm_startedWith hcodec hw hattends.readable]
  constructor
  · rintro ⟨tpm, htpm, hsome⟩
    obtain ⟨hselectable, rfl⟩ := (openPath_eq_some_iff hattends.opens).mp htpm
    exact ⟨hselectable, hsigns.mp hsome⟩
  · rintro ⟨hselectable, hsame⟩
    exact ⟨_, (openPath_eq_some_iff hattends.opens).mpr ⟨hselectable, rfl⟩, hsigns.mpr hsame⟩

/-! ## Updates -/

/-- A credential is approved again for PCRs, and its selection is the one it had. -/
structure KeptSelection (crates : Crates) (main : Nat → Option Env) (c : Credential)
    (indices : List UInt32) (authority : TpmCredential) (columns : PolicyColumns) : Prop where
  named : columns.policySelection = c.policy.map fun p ↦ p.selection
  approved : ∃ n env policyRef current approved signature, main n = some env ∧
    currentPcrDigest crates env.tpm (slotsFor indices) = some current ∧
    env.tpm.policyPcr (slotsFor indices) current = some approved ∧
    env.tpm.signWithAuthority authority (policyWithRefHash crates approved policyRef) =
      some signature ∧
    columns.policyRef = some policyRef ∧ columns.authoritySignature = some signature

theorem context_startedWith
    (hcodec : crates.readIndices (crates.writeIndices indices) = some indices)
    (h : StartedWith crates indices w) {main : Nat → Option Env}
    (hmain : ∀ n env, main n = some env → ¬ (env.store 2).io) {n : Nat} {tpm : Tpm}
    (hcontext : context crates main w n = some tpm) : tpm = .ofIndices indices := by
  induction n with
  | zero =>
    obtain ⟨_, _, s, env, path, -, rfl⟩ := h
    obtain ⟨cs, pin, t, heq, -⟩ := Ctap2.newAuthenticator_pin crates env (some path) s
    rw [context, heq] at hcontext
    cases hcontext
  | succ n ih =>
    rw [context, Option.or_eq_some_iff] at hcontext
    rcases hcontext with hcontext | ⟨-, hcontext⟩
    · exact ih hcontext
    · obtain ⟨env, henv, hcontext⟩ := Option.bind_eq_some_iff.mp hcontext
      rw [currentTpm_startedWith hcodec h (hmain n env henv)] at hcontext
      exact Tpm.opened_of_openPath hcontext

theorem Reapproved.keptSelection_iff {main : Nat → Option Env} {authority : TpmCredential}
    {columns : PolicyColumns} (h : Reapproved crates main w (.ofIndices indices') authority columns)
    (hc : c.policy.map (fun p ↦ p.selection) = some (selectionName indices)) :
    KeptSelection crates main c indices authority columns ↔ indices' = indices := by
  obtain ⟨n, env, authorityName, policyRef, policy, hmain, hpolicy, rfl⟩ := h.made
  have hselection := updateAuthorizedPolicy_selection hpolicy
  constructor
  · intro hkept
    have hnamed : policy.selection = selectionName indices :=
      Option.some.inj (hkept.named.trans hc)
    exact selectionName_injective (hselection.symm.trans hnamed)
  · rintro rfl
    refine ⟨?_, ?_⟩
    · rw [hc]
      exact congrArg some hselection
    · obtain ⟨current, hcurrent, hpolicy⟩ := Option.bind_eq_some_iff.mp hpolicy
      obtain ⟨approved, happroved, hpolicy⟩ := Option.bind_eq_some_iff.mp hpolicy
      obtain ⟨signature, hsignature, hpolicy⟩ := Option.bind_eq_some_iff.mp hpolicy
      obtain ⟨digest, -, hpolicy⟩ := Option.bind_eq_some_iff.mp hpolicy
      cases hpolicy
      exact ⟨n, env, policyRef, current, approved, signature, hmain, hcurrent, happroved,
        hsignature, rfl, rfl⟩

/-- What `update-pcr-reference` does to a credential that it reports `ok`. -/
theorem updatePcrReference_ok (hash : PassphraseHash) (peerUid : UInt32) (passphrase : String)
    (fault : StoreFault) (main : Nat → Option Env) (w : World) (id : List UInt8)
    (hok : (handleUpdatePcrReference crates hash peerUid passphrase fault main w).1.ReportsOk id) :
    ∃ credentials x slot tpm columns,
      (Store.loadCtap2Credentials crates fault (filterUid peerUid) w.store).1 = .ok credentials ∧
      (x ∈ credentials ∧ x.id = id ∧ x.recovery = some slot) ∧
      policyOf (handleUpdatePcrReference crates hash peerUid passphrase fault main w).2.store id =
        some columns ∧ Reapproved crates main w tpm slot.key columns := by
  have hsame : Store.SameTables w.store (Store.loadCtap2Credentials crates fault
      (filterUid peerUid) w.store).2 := Store.loadCtap2Credentials_moves _ w.store
  unfold handleUpdatePcrReference at hok ⊢
  generalize Store.loadCtap2Credentials crates fault (filterUid peerUid) w.store = loaded
    at hsame hok ⊢
  obtain ⟨o, s⟩ := loaded
  cases o with
  | error e => exact absurd hok List.not_mem_nil
  | panicked => exact absurd hok List.not_mem_nil
  | ok credentials =>
    have hreached : Reached crates main w 0 _ := reached_loaded hsame
    have hlooped := updatePolicies_looped hreached hash passphrase
      (credentials.map fun c ↦ (c.id, some c))
    obtain ⟨x, slot, tpm, columns, hx, hslot, hpolicy, hreapproved⟩ := hlooped.ok id hok
    obtain ⟨x', hmem, heq⟩ := List.mem_map.mp hx
    cases heq
    exact ⟨credentials, x, slot, tpm, columns, rfl, ⟨hmem, rfl, hslot⟩, hpolicy, hreapproved⟩

/-! ## The property -/

/-- What becomes of a credential that was registered for some PCRs, when the default is set to
others and the daemon is started again, while the PCRs have the values they had. -/
structure DefaultGoverns (chip : Chip crates) (indices indices' : List UInt32)
    (pcrs : Nat → List UInt8) (c : Credential) (w : World) : Prop where
  /-- Signing with it succeeds exactly if the default can be selected, and selects the same PCRs,
  as many as one read returns. -/
  signs : ∀ env host conditions data, env.tpm = chip.device host conditions pcrs → Attends env →
    ((Ctap2.signCredential crates env c.key c.policy c.recovery data w).1.toOption.isSome ↔
      Selectable env.tpm indices' ∧ SameSelection indices indices' ∧
        ReadAtOnce (selects (slotsFor indices')))
  /-- Where `update-pcr-reference` reports it `ok`, it is approved for its own selection exactly if
  the default is this selection. -/
  reapproves : ∀ hash peerUid passphrase fault (main : Nat → Option Env),
    (∀ n env, main n = some env → ¬ (env.store 2).io) →
    let r := handleUpdatePcrReference crates hash peerUid passphrase fault main w
    r.1.ReportsOk c.id → ∃ credentials x slot columns,
      (Store.loadCtap2Credentials crates fault (filterUid peerUid) w.store).1 = .ok credentials ∧
      (x ∈ credentials ∧ x.id = c.id ∧ x.recovery = some slot) ∧
      policyOf r.2.store c.id = some columns ∧
      (KeptSelection crates main c indices slot.key columns ↔ indices' = indices)
  /-- New credentials are bound to the default. -/
  registers : ∀ env host conditions pcrs' body c' response w',
    env.tpm = chip.device host conditions pcrs' → ¬ (env.store 2).io →
    Ctap2.prepareCredential crates env body w = (.ok (c', response), w') →
    c'.policy.map (fun p ↦ p.selection) = some (selectionName indices')

/-- **The default governs**, and not the selection of the credential. -/
theorem default_governs (hinj : InjectiveInParts crates.sha256)
    (hcodec : crates.readIndices (crates.writeIndices indices') = some indices')
    (hapart : Set.InjOn crates.sha256
      {policyMessage crates indices pcrs, policyMessage crates indices' pcrs})
    (hreads : ReadsApart crates (slotsFor indices') pcrs)
    (hc : RegisteredFor chip indices pcrs c) (hw : StartedWith crates indices' w) :
    DefaultGoverns chip indices indices' pcrs c w := by
  refine ⟨fun env host conditions data hdevice hattends ↦
    signs_startedWith_iff hinj hcodec hapart hreads hc hw data hdevice hattends, ?_, ?_⟩
  · intro hash peerUid passphrase fault main hmain r hok
    obtain ⟨credentials, x, slot, tpm, columns, hload, hx, hpolicy, hreapproved⟩ :=
      updatePcrReference_ok hash peerUid passphrase fault main w c.id hok
    obtain ⟨n, hcontext⟩ := hreapproved.opened
    obtain rfl := context_startedWith hcodec hw hmain hcontext
    obtain ⟨_, _, _, _, _, _, _, hdevice₀, htpm₀, hprepared⟩ := hc
    obtain ⟨e, hwritten, hkeeps⟩ := written_of_prepareCredential hdevice₀ htpm₀ hprepared
    exact ⟨credentials, x, slot, columns, hload, hx, hpolicy,
      hreapproved.keptSelection_iff (hkeeps.selection hwritten)⟩
  · intro env host conditions pcrs' body c' response w' hdevice hio hprepared
    obtain ⟨_, tpm, _, _, hopened, -⟩ := Ctap2.prepareCredential_opened hprepared
    rw [Ctap2.ensureTpm_apply] at hopened
    have htpm : currentTpm crates env w = some tpm := Outcome.ok.inj (Prod.mk.inj hopened).1
    rw [currentTpm_startedWith hcodec hw hio] at htpm
    obtain rfl := Tpm.opened_of_openPath htpm
    rw [← currentTpm_startedWith hcodec hw hio] at htpm
    obtain ⟨e, hwritten, hkeeps⟩ := written_of_prepareCredential hdevice htpm hprepared
    exact hkeeps.selection hwritten

namespace Sample

open Ctap2.Sample

/-- The default is set, and the daemon is started again. -/
def restarted (indices : List UInt32) : World :=
  Ctap2.after chipPackages withCredential
    [.setPcrPolicy noFault indices, .start (onChip 0) (some "")]

/-- The answer to an authentication then. -/
def authenticate (indices : List UInt32) : Ctap2.Reply :=
  (Ctap2.step chipPackages (restarted indices)
    (Ctap2.Sample.request (onChip 2) 0x02 (getAssertion "a"))).1

/-- `update-pcr-reference` then. -/
def updateReference (indices : List UInt32) : PolicyResponse × World :=
  handleUpdatePcrReference chipPackages constantHash 1000 "" noFault (fun _ ↦ some (onChip 3))
    (restarted indices)

end Sample

theorem Sample.registeredFor_seven :
    ∃ c, RegisteredFor (SampleChip.chip [Ctap2.Sample.makeCredential "a",
      Ctap2.Sample.getAssertion "a"]) [7] (SampleChip.started 0).pcrs c := by
  have hsome : Sample.prepared.1.toOption.isSome := by
    decide +kernel
  obtain ⟨r, hr⟩ := Option.isSome_iff_exists.mp hsome
  have hprepared := Outcome.pair_eq_ok hr
  rw [Sample.prepared] at hprepared
  exact ⟨r.1, Sample.onChip 1, _, _, _, Sample.withPassphrase, r.2, _, rfl,
    Sample.withPassphrase_tpm, hprepared⟩

/-- The policies for PCR 7 and for PCR 11 are different. -/
theorem Sample.injOn_policyMessages : Set.InjOn Sample.chipPackages.sha256
    {policyMessage Sample.chipPackages [7] (SampleChip.started 0).pcrs,
      policyMessage Sample.chipPackages [11] (SampleChip.started 0).pcrs} := by
  have hne : Sample.chipPackages.sha256
      (policyMessage Sample.chipPackages [7] (SampleChip.started 0).pcrs) ≠
        Sample.chipPackages.sha256
          (policyMessage Sample.chipPackages [11] (SampleChip.started 0).pcrs) := by
    decide +kernel
  rintro a (rfl | rfl) b (rfl | rfl) h
  · rfl
  · exact absurd h hne
  · exact absurd h.symm hne
  · rfl

theorem Sample.readsApart_eleven :
    ReadsApart Sample.chipPackages (slotsFor [11]) (SampleChip.started 0).pcrs where
  length _ := List.length_replicate
  digests := by
    -- one PCR is read, and one is selected
    have hread : readPcrs (selects (slotsFor [11])) = selectedPcrs (selects (slotsFor [11])) :=
      readPcrs_of_readAtOnce (by decide)
    rw [hread, Set.pair_eq_singleton]
    exact Set.injOn_singleton _ _

/-- A credential for PCR 7, and PCR 11 as the default. -/
theorem default_governs_eleven :
    ∃ c, RegisteredFor (SampleChip.chip [Ctap2.Sample.makeCredential "a",
        Ctap2.Sample.getAssertion "a"]) [7] (SampleChip.started 0).pcrs c ∧
      DefaultGoverns (SampleChip.chip [Ctap2.Sample.makeCredential "a",
        Ctap2.Sample.getAssertion "a"]) [7] [11] (SampleChip.started 0).pcrs c
        (Sample.restarted [11]) := by
  obtain ⟨c, hc⟩ := Sample.registeredFor_seven
  have hset : ∀ s, (handleSetDefaultPcrPolicy Sample.chipPackages Ctap2.Sample.noFault [11] s).1 =
      .ok [11] := by
    intro s
    rfl
  have hw : StartedWith Sample.chipPackages [11] (Sample.restarted [11]) := by
    rw [Sample.restarted]
    exact startedWith_after (hset _)
  exact ⟨c, hc, default_governs SampleChip.injectiveInParts_blockSum (by decide)
    Sample.injOn_policyMessages Sample.readsApart_eleven hc hw⟩

/-- **Another default locks a credential out.**  The credential is registered with the usual
default, PCR 7, and no PCR ever changes.  Once the default is PCR 11 and the daemon was started
again, an authentication is denied; with the old default it succeeds.  And `update-pcr-reference`
binds the credential to PCR 11. -/
theorem default_locks_out :
    (Sample.authenticate [7]).succeeded ∧ Sample.authenticate [11] = .cbor [0x27] ∧
    (Sample.withCredential.auth.credentials.map fun c ↦ c.policy.map fun p ↦ p.selection) =
      [some "sha256:7"] ∧
    (Sample.updateReference [11]).1 = .updated [(Ctap2.Sample.credentialId 1, .ok)] ∧
    (policyOf (Sample.updateReference [11]).2.store (Ctap2.Sample.credentialId 1)).bind
      PolicyColumns.policySelection = some "sha256:11" := by
  -- in one go, so that the registration is computed only once
  decide +kernel

end Management
end TpmFido2
