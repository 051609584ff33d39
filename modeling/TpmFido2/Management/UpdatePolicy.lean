import TpmFido2.Ctap2.NextAssertions
import TpmFido2.Management.Selection
import TpmFido2.Management.UpdatePassphrase
import TpmFido2.Store.Refinement

/-!
# update-pcr-policy

`handle_update_pcr_policy` of `src/management.rs`, from its first line to its last, with nobody in
between: the credentials are loaded, the targets are looked up in the list, and for each of them the
main thread is asked to have the current PCR values approved and to store the new policy.
`handle_update_pcr_reference` has the same loop over all credentials.

The request has the PCRs to bind to.  The handler does not look at them — its parameter is called
`_pcr_indices` — and neither the command nor `update_authorized_policy` has a place for them.  What
the policy is bound to is the selection of the TPM context, which was chosen when the context was
opened (`context`).

* `updatePolicies_looped` — a credential that is reported `ok` has a policy for the selection of the
  context, and all others have the policy they had.
* **`asAsked_iff`** — so a credential that is reported `ok` is bound to the PCRs asked for exactly
  if the context was opened for these.

`asked_for_eleven` is a request for PCR 11 that is answered with `ok`, to a daemon with the usual
default.
-/

set_option autoImplicit false

namespace TpmFido2

/-- A TPM context as `Tpm::open` makes it, for PCRs of the numbers given. -/
def Tpm.ofIndices (indices : List UInt32) : Tpm :=
  ⟨indices.map fun i ↦ (1 : UInt32) <<< i, selectionName indices⟩

/-- The fields of `Tpm` are private, and `Tpm::open` is the only function that makes one. -/
def Tpm.Opened (tpm : Tpm) : Prop := ∃ indices, tpm = .ofIndices indices

theorem Tpm.opened_of_openPath {device : TpmDevice} {indices : Option (List UInt32)} {tpm : Tpm}
    (h : Tpm.openPath device indices = some tpm) : tpm = .ofIndices (indices.getD [7]) := by
  rw [Tpm.openPath] at h
  split at h
  · obtain ⟨⟨slots, name⟩, hselection, rfl⟩ := Option.map_eq_some_iff.mp h
    obtain ⟨slots', hslots, heq⟩ := Option.bind_eq_some_iff.mp hselection
    cases heq
    rw [← (pcrSelectionForIndices_eq_some.mp hslots).2.2]
    rfl
  · cases h

namespace Management

open Ctap2 (World Env TpmCommand ErrorStatus currentTpm)
open Store (policyColumns)
open Handler

/-! ## The requests -/

/-- `CredentialTarget`. -/
inductive CredentialTarget where
  | all (all : Bool)
  | ids (credentialIds : List String)

/-- `ManagementRequest::UpdatePcrPolicy`, and the peer it comes from. -/
structure PolicyRequest where
  peerUid : UInt32
  passphrase : String
  pcrIndices : List UInt32
  credentialTarget : CredentialTarget

/-- Why a request is refused. -/
inductive PolicyRefusal where
  | credentials
  | allNotTrue
  | invalidHex
deriving DecidableEq

/-- Why a credential is skipped. -/
inductive SkipReason where
  | notFound
  | noPolicy
  | noRecovery
deriving DecidableEq

/-- What is wrong with a credential. -/
inductive PolicyError where
  | noPolicyRef
  | noAuthorityName
  | validation
  | mismatch
  | command
deriving DecidableEq

/-- The texts of the response; those of `validation` and `command` end with, or are, the cause. -/
def PolicyRefusal.text : PolicyRefusal → String
  | .credentials => ""
  | .allNotTrue => "--all must be explicitly set to true"
  | .invalidHex => "invalid hex credential ID: "

def SkipReason.text : SkipReason → String
  | .notFound => "credential not found"
  | .noPolicy => "no PCR policy"
  | .noRecovery => "no recovery slot"

def PolicyError.text : PolicyError → String
  | .noPolicyRef => "credential has no policyRef"
  | .noAuthorityName => "credential has no authority name"
  | .validation => "passphrase validation error: "
  | .mismatch => "recovery passphrase does not match"
  | .command => ""

/-- What the response says of a credential. -/
inductive PolicyStatus where
  | ok
  | skipped (reason : SkipReason)
  | error (error : PolicyError)
deriving DecidableEq

/-- `ManagementResponse`: an error, or what became of each credential. -/
inductive PolicyResponse where
  | refused (e : PolicyRefusal)
  | updated (results : List (List UInt8 × PolicyStatus))
deriving DecidableEq

/-- The value of a hexadecimal digit. -/
def hexDigit (c : Char) : Option UInt8 :=
  if '0' ≤ c ∧ c ≤ '9' then some (UInt8.ofNat (c.toNat - 48))
  else if 'a' ≤ c ∧ c ≤ 'f' then some (UInt8.ofNat (c.toNat - 87))
  else if 'A' ≤ c ∧ c ≤ 'F' then some (UInt8.ofNat (c.toNat - 55))
  else none

/-- `hex::decode`. -/
def hexDecode : List Char → Option (List UInt8)
  | [] => some []
  | [_] => none
  | high :: low :: text => do
    let high ← hexDigit high
    let low ← hexDigit low
    let bytes ← hexDecode text
    return (16 * high + low) :: bytes

/-- The credentials a request is about. -/
def CredentialTarget.resolve (credentials : List StoredCtap2Credential) :
    CredentialTarget → Except PolicyRefusal (List (List UInt8))
  | .all true => .ok (credentials.map (·.id))
  | .all false => .error .allNotTrue
  | .ids credentialIds =>
    match credentialIds.mapM fun text ↦ hexDecode text.toList with
    | some decoded => .ok decoded
    | none => .error .invalidHex

section
variable (crates : Crates) (hash : PassphraseHash)

/-- The checks of the loop on one credential, and the command for the main thread. -/
def policyCommand (passphrase : String) (id : List UInt8) (c : StoredCtap2Credential) :
    Except PolicyStatus TpmCommand :=
  match c.policy with
  | none => .error (.skipped .noPolicy)
  | some policy =>
    match c.recovery with
    | none => .error (.skipped .noRecovery)
    | some recovery =>
      match policy.policyRef with
      | none => .error (.error .noPolicyRef)
      | some policyRef =>
        match policy.authorityName with
        | none => .error (.error .noAuthorityName)
        | some authorityName =>
          match hash recovery.kdf recovery.passphraseSalt passphrase with
          | none => .error (.error .validation)
          | some computed =>
            if computed ≠ recovery.passphraseHash then .error (.error .mismatch)
            else .ok (.pcrPolicyUpdate id recovery.key authorityName policyRef)

/-- A message to the main thread, and what the request makes of the answer; without an environment
the message does not get there. -/
def sendCommand (env : Option Env) (command : TpmCommand) (w : World) : PolicyStatus × World :=
  match env with
  | none => (.error .command, w)
  | some env =>
    let r := Ctap2.handleTpmCommand crates env command w
    (if r.1.toOption.isSome then .ok else .error .command, r.2)

/-- The loop over the targets: what the n-th message finds is `main n`. -/
def updatePolicies (main : Nat → Option Env) (passphrase : String) :
    Nat → List (List UInt8 × Option StoredCtap2Credential) → World →
      List (List UInt8 × PolicyStatus) × World
  | _, [], w => ([], w)
  | n, (id, none) :: targets, w =>
    let r := updatePolicies main passphrase n targets w
    ((id, .skipped .notFound) :: r.1, r.2)
  | n, (id, some c) :: targets, w =>
    match policyCommand hash passphrase id c with
    | .error status =>
      let r := updatePolicies main passphrase n targets w
      ((id, status) :: r.1, r.2)
    | .ok command =>
      let sent := sendCommand crates (main n) command w
      let r := updatePolicies main passphrase (n + 1) targets sent.2
      ((id, sent.1) :: r.1, r.2)

/-- `handle_update_pcr_policy`. -/
def handleUpdatePcrPolicy (request : PolicyRequest) (fault : StoreFault) (main : Nat → Option Env)
    (w : World) : PolicyResponse × World :=
  match Store.loadCtap2Credentials crates fault (filterUid request.peerUid) w.store with
  | (.ok credentials, s) =>
    match request.credentialTarget.resolve credentials with
    | .error e => (.refused e, { w with store := s })
    | .ok ids =>
      let r := updatePolicies crates hash main request.passphrase 0
        (ids.map fun id ↦ (id, credentials.find? fun c ↦ c.id = id)) { w with store := s }
      (.updated r.1, r.2)
  | (_, s) => (.refused .credentials, { w with store := s })

/-- `handle_update_pcr_reference`. -/
def handleUpdatePcrReference (peerUid : UInt32) (passphrase : String) (fault : StoreFault)
    (main : Nat → Option Env) (w : World) : PolicyResponse × World :=
  match Store.loadCtap2Credentials crates fault (filterUid peerUid) w.store with
  | (.ok credentials, s) =>
    let r := updatePolicies crates hash main passphrase 0
      (credentials.map fun c ↦ (c.id, some c)) { w with store := s }
    (.updated r.1, r.2)
  | (_, s) => (.refused .credentials, { w with store := s })

/-! ## The property -/

/-- The policy columns of a credential. -/
def policyOf (s : Store) (id : List UInt8) : Option PolicyColumns :=
  ((s.credentials.find id).bind (·.primary)).map (·.policy)

/-- What a response says of the credentials. -/
def PolicyResponse.results : PolicyResponse → List (List UInt8 × PolicyStatus)
  | .refused _ => []
  | .updated results => results

/-- A credential is reported `ok`. -/
def PolicyResponse.ReportsOk (r : PolicyResponse) (id : List UInt8) : Prop := (id, .ok) ∈ r.results

/-- The TPM context of the daemon once the first `n` messages have been handled: the one that is
open, or the one that the first message opens for which that works. -/
def context (main : Nat → Option Env) (w : World) : Nat → Option Tpm
  | 0 => w.auth.tpm
  | n + 1 => (context main w n).or ((main n).bind fun env ↦ currentTpm crates env w)

/-- A context was opened for the PCRs given, and these are numbers of PCRs. -/
def OpenedFor (indices : List UInt32) (tpm : Tpm) : Prop :=
  ∃ opened, tpm = .ofIndices opened ∧ (∀ i, i ∈ opened ↔ i ∈ indices) ∧ ∀ i ∈ indices, i < 32

/-- A policy is bound to the PCRs asked for: its selection names them, and what its signature
approves is the policy for the values of exactly these. -/
structure AsAsked (main : Nat → Option Env) (indices : List UInt32) (authority : TpmCredential)
    (columns : PolicyColumns) : Prop where
  named : ∃ named, columns.policySelection = some (selectionName named) ∧
    ∀ i, i ∈ named ↔ i ∈ indices
  approved : ∃ n env selection policyRef current approved signature, main n = some env ∧
    (∀ i, Selects selection i ↔ i ∈ indices) ∧
    currentPcrDigest crates env.tpm selection = some current ∧
    env.tpm.policyPcr selection current = some approved ∧
    env.tpm.signWithAuthority authority (policyWithRefHash crates approved policyRef) =
      some signature ∧
    columns.policyRef = some policyRef ∧ columns.authoritySignature = some signature

/-- The columns of a policy that the main thread has made and stored, in a context and with an
authority. -/
structure Reapproved (main : Nat → Option Env) (w : World) (tpm : Tpm) (authority : TpmCredential)
    (columns : PolicyColumns) : Prop where
  opened : ∃ n, context crates main w n = some tpm
  made : ∃ n env authorityName policyRef policy, main n = some env ∧
    updateAuthorizedPolicy crates env.tpm tpm authority authorityName policyRef = some policy ∧
    columns = policyColumns (some ⟨policy, StoredPcrPolicy.currentVersion⟩)

end

variable {crates : Crates} {main : Nat → Option Env} {w w₀ : World}
  {env : Env} {id : List UInt8} {n : Nat} {tpm : Tpm}

/-! ## One message -/

/-- The daemon with a TPM context, if there is one. -/
def withTpm (tpm : Option Tpm) (w : World) : World := { w with auth := { w.auth with tpm := tpm } }

/-- The store with another policy for a credential. -/
def storedPolicy (id : List UInt8) (policy : StoredPcrPolicy) (s : Store) : Store :=
  { s with
    credentials := s.credentials.update id (Store.withPolicy policy)
      (Store.credentialId_withPolicy policy) }

/-- A command for a policy opens the context, and stores the policy or nothing. -/
theorem pcrPolicyUpdate_cases (crates : Crates) (env : Env) (id : List UInt8)
    (authority : TpmCredential) (authorityName policyRef : List UInt8) (w : World) :
    (∃ o : Outcome ErrorStatus Unit, o.toOption = none ∧ Ctap2.handleTpmCommand crates env
        (.pcrPolicyUpdate id authority authorityName policyRef) w =
          (o, withTpm (currentTpm crates env w) w)) ∨
      ∃ tpm policy row, currentTpm crates env w = some tpm ∧
        updateAuthorizedPolicy crates env.tpm tpm authority authorityName policyRef = some policy ∧
        (row ∈ w.store.credentials.rows ∧ row.credentialId = id ∧ row.primary.isSome) ∧
        Ctap2.handleTpmCommand crates env
          (.pcrPolicyUpdate id authority authorityName policyRef) w =
            (.ok (), { withTpm (some tpm) w with
              store := storedPolicy id ⟨policy, StoredPcrPolicy.currentVersion⟩ w.store }) := by
  have hrequire : Ctap2.requireTpm crates env w =
      ofOption (currentTpm crates env w) .operationDenied
        (withTpm (currentTpm crates env w) w) := by
    rw [Ctap2.requireTpm, bind_of_ok _ (Ctap2.ensureTpm_apply crates env w)]
    rfl
  rw [Ctap2.handleTpmCommand]
  cases hopened : currentTpm crates env w with
  | none =>
    rw [hopened] at hrequire
    exact .inl ⟨_, rfl, bind_of_error _ hrequire⟩
  | some tpm =>
    rw [hopened] at hrequire
    rw [bind_of_ok _ hrequire]
    cases hpolicy : updateAuthorizedPolicy crates env.tpm tpm authority authorityName policyRef with
    | none => exact .inl ⟨_, rfl, rfl⟩
    | some policy =>
      change (∃ o : Outcome ErrorStatus Unit, o.toOption = none ∧
        Ctap2.CommandM.storeOrDeny _ (withTpm (some tpm) w) = _) ∨ _
      rcases Store.updateRow_cases (env.store 3) id (fun row ↦ row.primary.isSome)
        (Store.withPolicy ⟨policy, StoredPcrPolicy.currentVersion⟩)
        (Store.credentialId_withPolicy _) w.store with ⟨e, he⟩ | ⟨row, hrow, hid, hprimary, he⟩
      · exact .inl ⟨_, rfl, Ctap2.CommandM.storeOrDeny_of_error he⟩
      · exact .inr ⟨tpm, policy, row, rfl, hpolicy, ⟨hrow, hid, hprimary⟩,
          Ctap2.CommandM.storeOrDeny_of_ok he⟩

/-! ## The context -/

theorem context_of_some (h : context crates main w n = some tpm) (k : Nat) :
    context crates main w (n + k) = some tpm := by
  induction k with
  | zero => exact h
  | succ k ih => rw [← Nat.add_assoc, context, ih, Option.some_or]

/-- There is one context. -/
theorem context_unique {m : Nat} {tpm' : Tpm} (h : context crates main w n = some tpm)
    (h' : context crates main w m = some tpm') : tpm = tpm' := by
  have hsum := context_of_some h m
  rw [Nat.add_comm, context_of_some h' n] at hsum
  exact (Option.some.inj hsum).symm

theorem currentTpm_of_tpm (h : w.auth.tpm = some tpm) (env : Env) :
    currentTpm crates env w = some tpm := by
  rw [currentTpm, h]

/-- What the loop has done so far to the daemon: the context is that of the first `n` messages, and
of the store only the credentials have changed. -/
structure Reached (crates : Crates) (main : Nat → Option Env) (w₀ : World) (n : Nat) (w : World) :
    Prop where
  tpm : w.auth.tpm = context crates main w₀ n
  path : w.auth.tpmPath = w₀.auth.tpmPath
  default : w.store.defaultPcrPolicy = w₀.store.defaultPcrPolicy

/-- The context of a message. -/
theorem Reached.currentTpm (h : Reached crates main w₀ n w) (hmain : main n = some env) :
    Ctap2.currentTpm crates env w = context crates main w₀ (n + 1) := by
  rw [context, hmain, Option.bind_some, ← h.tpm]
  cases htpm : w.auth.tpm with
  | some tpm => rw [currentTpm_of_tpm htpm, Option.some_or]
  | none =>
    -- no message has opened a context, so none was open at the start
    have hstart : w₀.auth.tpm = none := by
      cases hzero : w₀.auth.tpm with
      | none => rfl
      | some tpm =>
        have hfirst : context crates main w₀ 0 = some tpm := hzero
        have hlater := context_of_some hfirst n
        rw [Nat.zero_add, ← h.tpm, htpm] at hlater
        cases hlater
    rw [Option.none_or, Ctap2.currentTpm, Ctap2.currentTpm, htpm, hstart, h.path,
      Store.loadDefaultPcrPolicy_congr h.default]

/-! ## The loop -/

theorem policyOf_storedPolicy_self {s : Store} {row : CredentialRow} {policy : StoredPcrPolicy}
    (hrow : row ∈ s.credentials.rows) (hid : row.credentialId = id)
    (hprimary : row.primary.isSome) :
    policyOf (storedPolicy id policy s) id = some (policyColumns (some policy)) := by
  obtain ⟨slot, hslot⟩ := Option.isSome_iff_exists.mp hprimary
  rw [policyOf, storedPolicy, Table.update_eq_alter, Table.find_alter_self,
    (Table.find_eq_some_iff _ _ _).mpr ⟨hrow, hid⟩]
  change ((Store.withPolicy policy row).primary).map (·.policy) = _
  rw [Store.withPolicy, hslot]
  rfl

theorem policyOf_storedPolicy_of_ne {s : Store} {policy : StoredPcrPolicy} {id' : List UInt8}
    (h : id' ≠ id) : policyOf (storedPolicy id policy s) id' = policyOf s id' := by
  rw [policyOf, storedPolicy, Table.update_eq_alter, Table.find_alter_of_ne _ _ h, policyOf]

/-- What a message about a credential does. -/
structure Sent (crates : Crates) (main : Nat → Option Env) (w₀ w : World) (id : List UInt8)
    (authority : TpmCredential) (n : Nat) (r : PolicyStatus × World) : Prop where
  reached : Reached crates main w₀ (n + 1) r.2
  done : r.1 = .ok → ∃ tpm columns, policyOf r.2.store id = some columns ∧
    Reapproved crates main w₀ tpm authority columns
  failed : r.1 ≠ .ok → policyOf r.2.store id = policyOf w.store id
  others : ∀ id', id' ≠ id → policyOf r.2.store id' = policyOf w.store id'

theorem sendCommand_sent (h : Reached crates main w₀ n w) (authority : TpmCredential)
    (authorityName policyRef : List UInt8) :
    Sent crates main w₀ w id authority n (sendCommand crates (main n)
      (.pcrPolicyUpdate id authority authorityName policyRef) w) := by
  cases hmain : main n with
  | none =>
    refine ⟨⟨?_, h.path, h.default⟩, (fun hok ↦ by cases hok), fun _ ↦ rfl, fun _ _ ↦ rfl⟩
    rw [context, hmain, Option.bind_none, Option.or_none]
    exact h.tpm
  | some env =>
    have hcontext := h.currentTpm hmain
    rw [sendCommand]
    rcases pcrPolicyUpdate_cases crates env id authority authorityName policyRef w with
      ⟨o, ho, he⟩ | ⟨tpm, policy, row, htpm, hpolicy, ⟨hrow, hid, hprimary⟩, he⟩
    · rw [he, ho]
      refine ⟨⟨hcontext, h.path, h.default⟩, (fun hok ↦ by cases hok), fun _ ↦ rfl, fun _ _ ↦ rfl⟩
    · rw [he]
      rw [hcontext] at htpm
      refine ⟨⟨htpm.symm, h.path, h.default⟩, fun _ ↦ ⟨tpm, _,
        policyOf_storedPolicy_self hrow hid hprimary, ⟨n + 1, htpm⟩, n, env, _, _, policy, hmain,
          hpolicy,
        rfl⟩, fun hne ↦ absurd rfl hne, fun id' hne ↦ policyOf_storedPolicy_of_ne hne⟩

/-- The checks end in a status other than `ok`, or in a command with the recovery key. -/
theorem policyCommand_cases (hash : PassphraseHash) (passphrase : String) (id : List UInt8)
    (c : StoredCtap2Credential) :
    (∃ status, status ≠ .ok ∧ policyCommand hash passphrase id c = .error status) ∨
      ∃ slot authorityName policyRef, c.recovery = some slot ∧
        policyCommand hash passphrase id c =
          .ok (.pcrPolicyUpdate id slot.key authorityName policyRef) := by
  unfold policyCommand
  split
  · exact .inl ⟨_, by rintro ⟨⟩, rfl⟩
  · split
    · exact .inl ⟨_, by rintro ⟨⟩, rfl⟩
    · next slot hslot =>
      split
      · exact .inl ⟨_, by rintro ⟨⟩, rfl⟩
      · split
        · exact .inl ⟨_, by rintro ⟨⟩, rfl⟩
        · split
          · exact .inl ⟨_, by rintro ⟨⟩, rfl⟩
          · split
            · exact .inl ⟨_, by rintro ⟨⟩, rfl⟩
            · exact .inr ⟨slot, _, _, hslot, rfl⟩

/-- What the loop does over some targets: a credential that is reported `ok` has been approved
again, and the others have the policy they had. -/
structure Looped (crates : Crates) (main : Nat → Option Env) (w₀ w : World)
    (targets : List (List UInt8 × Option StoredCtap2Credential))
    (r : List (List UInt8 × PolicyStatus) × World) : Prop where
  ok : ∀ id, (id, .ok) ∈ r.1 → ∃ c slot tpm columns, (id, some c) ∈ targets ∧
    c.recovery = some slot ∧ policyOf r.2.store id = some columns ∧
    Reapproved crates main w₀ tpm slot.key columns
  kept : ∀ id, (id, .ok) ∉ r.1 → policyOf r.2.store id = policyOf w.store id

section
variable {targets : List (List UInt8 × Option StoredCtap2Credential)}
  {target : List UInt8 × Option StoredCtap2Credential}
  {r : List (List UInt8 × PolicyStatus) × World}

/-- A target that is only reported. -/
theorem Looped.report (h : Looped crates main w₀ w targets r) {status : PolicyStatus}
    (hstatus : status ≠ .ok) :
    Looped crates main w₀ w (target :: targets) ((target.1, status) :: r.1, r.2) where
  ok id hid := by
    rcases List.mem_cons.mp hid with heq | hmem
    · cases heq
      exact absurd rfl hstatus
    · obtain ⟨c, slot, tpm, columns, hc, hrest⟩ := h.ok id hmem
      exact ⟨c, slot, tpm, columns, List.mem_cons_of_mem _ hc, hrest⟩
  kept id hid := h.kept id fun hmem ↦ hid (List.mem_cons_of_mem _ hmem)

/-- A target with a message: what counts is the last one about a credential. -/
theorem Looped.send {c : StoredCtap2Credential} {slot : StoredRecoverySlot}
    {sent : PolicyStatus × World} (hslot : c.recovery = some slot)
    (hsent : Sent crates main w₀ w id slot.key n sent)
    (h : Looped crates main w₀ sent.2 targets r) :
    Looped crates main w₀ w ((id, some c) :: targets) ((id, sent.1) :: r.1, r.2) where
  ok id' hid := by
    by_cases hlater : (id', .ok) ∈ r.1
    · obtain ⟨c', slot', tpm, columns, hc, hrest⟩ := h.ok id' hlater
      exact ⟨c', slot', tpm, columns, List.mem_cons_of_mem _ hc, hrest⟩
    · rcases List.mem_cons.mp hid with heq | hmem
      · obtain ⟨rfl, hok⟩ := Prod.mk.inj heq
        obtain ⟨tpm, columns, hpolicy, hreapproved⟩ := hsent.done hok.symm
        exact ⟨c, slot, tpm, columns, List.mem_cons_self, hslot,
          (h.kept id' hlater).trans hpolicy, hreapproved⟩
      · exact absurd hmem hlater
  kept id' hid := by
    rw [h.kept id' fun hmem ↦ hid (List.mem_cons_of_mem _ hmem)]
    by_cases heq : id' = id
    · subst heq
      refine hsent.failed fun hok ↦ hid ?_
      rw [hok]
      exact List.mem_cons_self
    · exact hsent.others id' heq

end

/-- **What the loop does.** -/
theorem updatePolicies_looped (h : Reached crates main w₀ n w) (hash : PassphraseHash)
    (passphrase : String) (targets : List (List UInt8 × Option StoredCtap2Credential)) :
    Looped crates main w₀ w targets (updatePolicies crates hash main passphrase n targets w) := by
  induction targets generalizing n w with
  | nil => exact ⟨fun _ hid ↦ absurd hid List.not_mem_nil, fun _ _ ↦ rfl⟩
  | cons target targets ih =>
    obtain ⟨id, c⟩ := target
    cases c with
    | none => exact (ih h).report (by rintro ⟨⟩)
    | some c =>
      rw [updatePolicies]
      rcases policyCommand_cases hash passphrase id c with
        ⟨status, hstatus, hcommand⟩ | ⟨slot, authorityName, policyRef, hslot, hcommand⟩
      · rw [hcommand]
        exact (ih h).report hstatus
      · rw [hcommand]
        have hsent : Sent crates main w₀ w id slot.key n _ :=
          sendCommand_sent h slot.key authorityName policyRef
        exact .send hslot hsent (ih hsent.reached)

/-! ## The property -/

theorem selects_ofIndices {opened : List UInt32} (h : ∀ i ∈ opened, i < 32) (i : UInt32) :
    Selects (Tpm.ofIndices opened).pcrSelectionList i ↔ i ∈ opened := by
  constructor
  · rintro ⟨hi, hmem⟩
    obtain ⟨j, hj, hshift⟩ := List.mem_map.mp hmem
    rwa [← shiftLeft_injective (h j hj) hi hshift]
  · exact fun hi ↦ ⟨h i hi, List.mem_map_of_mem hi⟩

theorem Reapproved.asAsked {authority : TpmCredential} {columns : PolicyColumns}
    (h : Reapproved crates main w tpm authority columns) (hopened : tpm.Opened)
    (indices : List UInt32) :
    AsAsked crates main indices authority columns ↔ OpenedFor indices tpm := by
  obtain ⟨opened, rfl⟩ := hopened
  obtain ⟨n, env, authorityName, policyRef, policy, hmain, hpolicy, rfl⟩ := h.made
  obtain ⟨current, hcurrent, hpolicy⟩ := Option.bind_eq_some_iff.mp hpolicy
  obtain ⟨approved, happroved, hpolicy⟩ := Option.bind_eq_some_iff.mp hpolicy
  obtain ⟨signature, hsignature, hpolicy⟩ := Option.bind_eq_some_iff.mp hpolicy
  obtain ⟨digest, hdigest, hpolicy⟩ := Option.bind_eq_some_iff.mp hpolicy
  cases hpolicy
  constructor
  · rintro ⟨⟨named, hname, hnamed⟩, _, _, selection, _, _, _, _, -, hselects, -⟩
    obtain rfl : opened = named := selectionName_injective (Option.some.inj hname)
    exact ⟨opened, rfl, hnamed, fun i hi ↦ ((hselects i).mpr hi).1⟩
  · rintro ⟨opened', heq, hsame, hlt⟩
    obtain rfl : opened = opened' := selectionName_injective (congrArg Tpm.pcrSelectionName heq)
    refine ⟨⟨opened, rfl, hsame⟩, n, env, _, policyRef, current, approved, signature, hmain,
      fun i ↦ ?_, hcurrent, happroved, hsignature, rfl, rfl⟩
    rw [selects_ofIndices fun j hj ↦ hlt j ((hsame j).mp hj)]
    exact hsame i

theorem context_opened (hopened : ∀ tpm, w.auth.tpm = some tpm → tpm.Opened)
    (h : context crates main w n = some tpm) : tpm.Opened := by
  induction n with
  | zero => exact hopened tpm h
  | succ n ih =>
    rw [context, Option.or_eq_some_iff] at h
    rcases h with h | ⟨-, h⟩
    · exact ih h
    · obtain ⟨env, -, h⟩ := Option.bind_eq_some_iff.mp h
      rw [currentTpm] at h
      split at h
      · next htpm => exact hopened tpm (htpm.trans h)
      · cases h
      · exact ⟨_, Tpm.opened_of_openPath h⟩

/-- The loop starts with what the load has left. -/
theorem reached_loaded {s : Store} (h : Store.SameTables w.store s) :
    Reached crates main w 0 { w with store := s } :=
  ⟨rfl, rfl, h.defaultPcrPolicy⟩

theorem policyOf_loaded {s : Store} (h : Store.SameTables w.store s) (id : List UInt8) :
    policyOf s id = policyOf w.store id := by
  rw [policyOf, policyOf, h.credentials]

/-- **update-pcr-policy.**  A credential that is reported `ok` is bound to the PCRs asked for
exactly if the TPM context of the daemon was opened for these.  Every other credential has the
policy it had. -/
theorem asAsked_iff (crates : Crates) (hash : PassphraseHash) (request : PolicyRequest)
    (fault : StoreFault) (main : Nat → Option Env) (w : World)
    (hopened : ∀ tpm, w.auth.tpm = some tpm → tpm.Opened) :
    let r := handleUpdatePcrPolicy crates hash request fault main w
    (∀ id, r.1.ReportsOk id → ∃ credentials c slot tpm columns,
      (Store.loadCtap2Credentials crates fault (filterUid request.peerUid) w.store).1 =
        .ok credentials ∧ (c ∈ credentials ∧ c.id = id ∧ c.recovery = some slot) ∧
      (∃ n, context crates main w n = some tpm) ∧ policyOf r.2.store id = some columns ∧
        (AsAsked crates main request.pcrIndices slot.key columns ↔
          OpenedFor request.pcrIndices tpm)) ∧
    ∀ id, ¬ r.1.ReportsOk id → policyOf r.2.store id = policyOf w.store id := by
  have hsame : Store.SameTables w.store (Store.loadCtap2Credentials crates fault
      (filterUid request.peerUid) w.store).2 := Store.loadCtap2Credentials_moves _ w.store
  unfold handleUpdatePcrPolicy
  generalize Store.loadCtap2Credentials crates fault (filterUid request.peerUid) w.store = loaded
    at hsame ⊢
  obtain ⟨o, s⟩ := loaded
  cases o with
  | error e => exact ⟨fun _ hok ↦ absurd hok List.not_mem_nil, fun id _ ↦ policyOf_loaded hsame id⟩
  | panicked => exact ⟨fun _ hok ↦ absurd hok List.not_mem_nil, fun id _ ↦ policyOf_loaded hsame id⟩
  | ok credentials =>
    dsimp only
    cases request.credentialTarget.resolve credentials with
    | error e =>
      exact ⟨fun _ hok ↦ absurd hok List.not_mem_nil, fun id _ ↦ policyOf_loaded hsame id⟩
    | ok ids =>
      have hreached : Reached crates main w 0 _ := reached_loaded hsame
      have hlooped := updatePolicies_looped hreached hash request.passphrase
        (ids.map fun id ↦ (id, credentials.find? fun c ↦ c.id = id))
      refine ⟨fun id hok ↦ ?_, fun id hok ↦ (hlooped.kept id hok).trans (policyOf_loaded hsame id)⟩
      obtain ⟨c, slot, tpm, columns, hc, hslot, hpolicy, hreapproved⟩ := hlooped.ok id hok
      obtain ⟨id', -, heq⟩ := List.mem_map.mp hc
      obtain ⟨rfl, hfind⟩ := Prod.mk.inj heq
      obtain ⟨n, hcontext⟩ := hreapproved.opened
      have hid : c.id = id' := by simpa using List.find?_some hfind
      exact ⟨credentials, c, slot, tpm, columns, rfl, ⟨List.mem_of_find?_eq_some hfind, hid, hslot⟩,
        ⟨n, hcontext⟩, hpolicy,
        hreapproved.asAsked (context_opened hopened hcontext) request.pcrIndices⟩

namespace Sample

open Ctap2.Sample

/-- The daemon of a user with the usual default and one credential, which has a recovery key. -/
def withRecovery : World :=
  Ctap2.after (packages [makeCredential "a"]) (Ctap2.Sample.start [makeCredential "a"] 1000)
    [setPassphrase, Ctap2.Sample.request (session 1000 1) 0x01 (makeCredential "a")]

/-- A hash with one value. -/
def constantHash : PassphraseHash := fun _ _ _ ↦ some []

/-- The main thread when nothing goes wrong. -/
def attending : Nat → Option Env := fun _ ↦ some (session 1000 0)

/-- The request to bind all credentials to the PCRs given. -/
def bindAll (indices : List UInt32) : PolicyResponse × World :=
  handleUpdatePcrPolicy (packages [makeCredential "a"]) constantHash
    ⟨1000, "", indices, .all true⟩ noFault attending withRecovery

theorem withRecovery_tpm : withRecovery.auth.tpm = some (.ofIndices [7]) := by
  decide +kernel

theorem withRecovery_opened {tpm : Tpm} (h : withRecovery.auth.tpm = some tpm) : tpm.Opened := by
  rw [withRecovery_tpm] at h
  exact ⟨[7], (Option.some.inj h).symm⟩

end Sample

/-- Asked for PCR 7, the daemon with the usual default binds to PCR 7. -/
theorem asked_for_seven :
    (Sample.bindAll [7]).1 = .updated [(Ctap2.Sample.credentialId 1, .ok)] ∧
      ∃ authority columns,
        policyOf (Sample.bindAll [7]).2.store (Ctap2.Sample.credentialId 1) = some columns ∧
          AsAsked (Ctap2.Sample.packages [Ctap2.Sample.makeCredential "a"]) Sample.attending [7]
            authority columns := by
  have hok : (Sample.bindAll [7]).1 = .updated [(Ctap2.Sample.credentialId 1, .ok)] := by
    decide +kernel
  refine ⟨hok, ?_⟩
  have hreported : (Sample.bindAll [7]).1.ReportsOk (Ctap2.Sample.credentialId 1) := by
    rw [PolicyResponse.ReportsOk, hok]
    exact List.mem_singleton.mpr rfl
  have hbound := asAsked_iff (Ctap2.Sample.packages [Ctap2.Sample.makeCredential "a"])
    Sample.constantHash ⟨1000, "", [7], .all true⟩ Ctap2.Sample.noFault Sample.attending
    Sample.withRecovery fun _ ↦ Sample.withRecovery_opened
  dsimp only at hbound
  rw [← Sample.bindAll] at hbound
  obtain ⟨_, _, slot, tpm, columns, -, -, ⟨n, hcontext⟩, hpolicy, hiff⟩ := hbound.1 _ hreported
  have hzero : context (Ctap2.Sample.packages [Ctap2.Sample.makeCredential "a"]) Sample.attending
      Sample.withRecovery 0 = some (.ofIndices [7]) := Sample.withRecovery_tpm
  obtain rfl := context_unique hcontext hzero
  exact ⟨slot.key, columns, hpolicy, hiff.mpr ⟨[7], rfl, fun _ ↦ Iff.rfl,
    List.forall_mem_singleton.mpr (by decide)⟩⟩

/-- **Asked for PCR 11, bound to PCR 7.**  The credential is reported `ok`. -/
theorem asked_for_eleven :
    (Sample.bindAll [11]).1 = .updated [(Ctap2.Sample.credentialId 1, .ok)] ∧
      ∃ columns,
        policyOf (Sample.bindAll [11]).2.store (Ctap2.Sample.credentialId 1) = some columns ∧
          columns.policySelection = some "sha256:7" ∧
          ∀ authority,
            ¬ AsAsked (Ctap2.Sample.packages [Ctap2.Sample.makeCredential "a"])
              Sample.attending [11]
              authority columns := by
  refine ⟨by decide +kernel, ?_⟩
  have hbound : (policyOf (Sample.bindAll [11]).2.store (Ctap2.Sample.credentialId 1)).any
      (fun columns ↦ columns.policySelection = some (selectionName [7])) := by
    decide +kernel
  obtain ⟨columns, hcolumns, hselection⟩ := (Option.any_eq_true _ _).mp hbound
  have hselection := of_decide_eq_true hselection
  have hseven : selectionName [7] = "sha256:7" := by decide
  refine ⟨columns, hcolumns, hselection.trans (congrArg some hseven), fun authority hasked ↦ ?_⟩
  obtain ⟨named, hnamed, hsame⟩ := hasked.named
  obtain rfl : named = [7] :=
    selectionName_injective (Option.some.inj (hnamed.symm.trans hselection))
  have heleven : 7 ∈ [(11 : UInt32)] := (hsame 7).mp List.mem_cons_self
  exact absurd heleven (by decide)

end Management
end TpmFido2
