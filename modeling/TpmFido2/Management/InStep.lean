import TpmFido2.Ctap2.Sample
import TpmFido2.Management.ThreadSteps

/-!
# Recovery slots and the daemon passphrase

Whoever knows the daemon passphrase can recover every credential, provided the recovery slots are in
step with it (`InStep`).  Two kinds of thread see to that: a registration makes its slot from the
passphrase it has read, and a change of the passphrase changes all slots.

Neither is atomic, so between two steps a slot may be behind.  While it is, the request that has
saved the passphrase still has it on its list: that is `UpdatePhase.covers`, and the invariant
(`Coherent`) is that every slot is in step or covered.  When all threads are done nothing is covered
and every slot is in step.

Three things break the invariant, and `Orderly` rules them out.

* Two changes at once: their messages can arrive in another order than their saves.
* A registration that reads the passphrase before it is saved and writes its slot after the list
  has been made.
* A registration after a change.  It saves the whole list in memory, and the slots in memory are
  the old ones.  This one needs no concurrency.

`inStep_of_orderly` is the positive result, and `slots_out_of_step` has a run of each kind.
-/

set_option autoImplicit false

namespace TpmFido2
namespace Management

open Ctap2 (World Env TpmCommand)
open Ctap2.CommandM (store)
open Store (selectCredentials SameTables)

/-! ## The property -/

section
variable (crates : Crates)

/-- The passphrase of the recovery slot of a row, if it has one. -/
def slotPassphrase (row : CredentialRow) : Option Passphrase :=
  (Store.recoveryOfRow crates row.recovery).join.map passphraseOf

/-- **The recovery slots are in step with the daemon passphrase**: those of all credentials have its
salt, hash and parameters. -/
def InStep (s : Store) : Prop :=
  ∀ row ∈ selectCredentials none s, ∀ p ∈ slotPassphrase crates row,
    storedPassphrase crates s = some p

instance (s : Store) : Decidable (InStep crates s) :=
  inferInstanceAs (Decidable (∀ row ∈ selectCredentials none s, _))

/-- The passphrase that a request has saved and not yet carried to all slots. -/
def UpdatePhase.active : UpdatePhase → Option Passphrase
  | .snapshot new => some new
  | .sending new _ _ => some new
  | .waiting new _ _ _ _ => some new
  | _ => none

/-- The request is about to save. -/
def UpdatePhase.isSave : UpdatePhase → Bool
  | .save _ => true
  | _ => false

/-- The request is about to list the credentials. -/
def UpdatePhase.isSnapshot : UpdatePhase → Bool
  | .snapshot _ => true
  | _ => false

def UpdatePhase.isFinished : UpdatePhase → Bool
  | .finished _ => true
  | _ => false

/-- Nothing is under way. -/
structure Quiescent (sys : System) : Prop where
  main : sys.main.isIdle
  queue : sys.queue = []
  threads : ∀ t ∈ sys.threads, t.phase.isFinished

instance (sys : System) : Decidable (Quiescent sys) :=
  decidable_of_iff (_ ∧ _ ∧ _)
    ⟨fun h ↦ ⟨h.1, h.2.1, h.2.2⟩, fun h ↦ ⟨h.main, h.queue, h.threads⟩⟩

/-- The connection is from root, if it is one. -/
def Action.fromRoot : Action → Prop
  | .accept request => request.peerUid = 0
  | _ => True

instance (action : Action) : Decidable action.fromRoot := by
  cases action <;> unfold Action.fromRoot <;> infer_instance

/-- The recovery slots in memory have the passphrases of their rows. -/
def SlotsCurrent (w : World) : Prop :=
  ∀ c ∈ w.auth.credentials, ∀ slot ∈ c.recovery, ∃ row ∈ selectCredentials none w.store,
    row.credentialId = c.id ∧ slotPassphrase crates row = some (passphraseOf slot)

instance (w : World) : Decidable (SlotsCurrent crates w) :=
  inferInstanceAs (Decidable (∀ c ∈ w.auth.credentials, ∀ slot ∈ c.recovery, _))

/-- A request saves only when no other is between its save and its end; and when a registration
saves, a request is about to list the credentials, or the passphrase that the registration has read
is the stored one and so are the slots in memory. -/
def Orderly (sys : System) (action : Action) : Prop :=
  match action with
  | .thread k _ _ =>
    ∀ t ∈ sys.threads[k]?, t.phase.isSave → ∀ other ∈ sys.threads, other.phase.active = none
  | .proceed =>
    match sys.main with
    | .saving _ read _ =>
      (∃ t ∈ sys.threads, t.phase.isSnapshot) ∨
        ((∀ p ∈ read, storedPassphrase crates sys.world.store = some p) ∧
          SlotsCurrent crates sys.world)
    | _ => True
  | _ => True

instance (sys : System) (action : Action) : Decidable (Orderly crates sys action) := by
  unfold Orderly
  split
  · infer_instance
  · split <;> infer_instance
  · infer_instance

/-- **The property of a run**: if it starts in step, all connections are from root, and no call to
the store or the TPM fails, it is in step when nothing is under way. -/
def StaysInStep (hash : PassphraseHash) (w : World) (actions : List Action) : Prop :=
  InStep crates w.store → (∀ action ∈ actions, action.fromRoot) →
    (∀ t ∈ run crates hash w actions, t.output ≠ .failed) →
      Quiescent (after crates hash w actions) →
        InStep crates (after crates hash w actions).world.store

instance (hash : PassphraseHash) (w : World) (actions : List Action) :
    Decidable (StaysInStep crates hash w actions) :=
  inferInstanceAs (Decidable (_ → _ → _ → _ → _))

end

/-! ## Reading what was written -/

section
variable {crates : Crates} {hash : PassphraseHash} {sys : System}

theorem selectCredentials_congr {s s' : Store} (h : s'.credentials = s.credentials)
    (uid : Option UInt32) : selectCredentials uid s' = selectCredentials uid s := by
  rw [selectCredentials, selectCredentials, h]

/-- The passphrase of a slot that was saved. -/
theorem slotPassphrase_of_rowOf (hcrates : crates.ReadsBack) {c : Credential} {row : CredentialRow}
    (h : Store.RowOf crates c row) {p : Passphrase} (hp : slotPassphrase crates row = some p) :
    ∃ slot ∈ c.recovery, p = passphraseOf slot := by
  have hrecovery := h.records.recovery
  obtain ⟨read, hread, rfl⟩ := Option.map_eq_some_iff.mp hp
  cases hc : c.recovery with
  | none =>
    rw [hc] at hrecovery
    rw [← show none = row.recovery from Option.some.inj hrecovery] at hread
    cases hread
  | some slot =>
    rw [hc] at hrecovery
    have hholds := Ctap2.holdsSecret_of_recoverySlotOf hcrates hrecovery
    rw [Ctap2.HoldsSecret, hread] at hholds
    have hsecret : Ctap2.secretOf read = Ctap2.secretOf slot := Option.some.inj hholds
    refine ⟨slot, rfl, ?_⟩
    exact congrArg (fun x : Ctap2.RecoverySecret ↦ (x.passphraseSalt, x.passphraseHash, x.kdf))
      hsecret

/-- The passphrase of a slot that a message has changed. -/
theorem slotPassphrase_withRecovery (hcrates : crates.ReadsBack) {kdf : RecoveryKdf}
    {salt newHash blob : List UInt8} {kdfParams : String} {row : CredentialRow} {p : Passphrase}
    (hkdf : kdfParamsToString crates kdf salt newHash = some kdfParams)
    (hp : slotPassphrase crates (Store.withRecovery blob kdfParams row) = some p) :
    p = (salt, newHash, kdf) := by
  obtain ⟨read, hread, rfl⟩ := Option.map_eq_some_iff.mp hp
  obtain ⟨slot, hslot⟩ : ∃ slot, row.recovery = some slot := by
    cases hslot : row.recovery with
    | none =>
      rw [Store.withRecovery, hslot] at hread
      cases hread
    | some slot => exact ⟨slot, rfl⟩
  rw [Store.withRecovery, hslot] at hread
  cases htoken : slot.token with
  | none =>
    simp [Store.recoveryOfRow, htoken] at hread
  | some token =>
    simp only [Store.recoveryOfRow, Option.map_some, htoken,
      Ctap2.kdfParamsFromString_of_toString hcrates hkdf] at hread
    obtain ⟨key, hkey, rfl⟩ : ∃ key, _ = some key ∧ _ = read := by
      simpa [Option.join_eq_some_iff, Option.bind_eq_some_iff] using hread
    rfl

/-! ## The invariant -/

/-- The request will still change the slot of the credential. -/
def UpdatePhase.covers (id : List UInt8) : UpdatePhase → Bool
  | .snapshot _ => true
  | .sending _ todo _ => todo.any fun c ↦ c.id = id && c.recovery.isSome
  | .waiting _ current todo _ reply =>
    (current = id && reply.isNone) || todo.any fun c ↦ c.id = id && c.recovery.isSome
  | _ => false

/-- The message is the one that the request waits for. -/
def IsMessage (command : TpmCommand) (phase : UpdatePhase) : Prop :=
  ∃ new id todo results key, phase = .waiting new id todo results none ∧
    command = .passphraseChange id key new.2.1 new.1 new.2.2

/-- The request waits for an answer. -/
def UpdatePhase.awaits : UpdatePhase → Bool
  | .waiting _ _ _ _ none => true
  | _ => false

theorem IsMessage.awaits {command : TpmCommand} {phase : UpdatePhase}
    (h : IsMessage command phase) : phase.awaits := by
  obtain ⟨_, _, _, _, _, rfl, -⟩ := h
  rfl

/-- A row is in step, or a request will still change its slot. -/
def InStepOrCovered (crates : Crates) (sys : System) (row : CredentialRow) : Prop :=
  ∀ p ∈ slotPassphrase crates row, storedPassphrase crates sys.world.store = some p ∨
    ∃ (k : Nat) (t : UpdateThread), sys.threads[k]? = some t ∧ t.phase.covers row.credentialId

/-- The invariant: what is behind is going to be changed, to the passphrase that is stored. -/
structure Coherent (crates : Crates) (sys : System) : Prop where
  root : ∀ (k : Nat) (t : UpdateThread), sys.threads[k]? = some t → t.request.peerUid = 0
  active : ∀ (k : Nat) (t : UpdateThread), sys.threads[k]? = some t → ∀ p ∈ t.phase.active,
    storedPassphrase crates sys.world.store = some p
  messages : ∀ k command, (k, command) ∈ sys.queue →
    ∃ t : UpdateThread, sys.threads[k]? = some t ∧ IsMessage command t.phase
  single : (sys.queue.map Prod.fst).Nodup
  rows : ∀ row ∈ selectCredentials none sys.world.store, InStepOrCovered crates sys row
  main : ∀ env read c, sys.main = .saving env read c → ∀ slot ∈ c.recovery,
    read = some (passphraseOf slot)

/-- When nothing is under way, nothing is covered. -/
theorem Coherent.inStep (h : Coherent crates sys) (hquiescent : Quiescent sys) :
    InStep crates sys.world.store := by
  intro row hrow p hp
  rcases h.rows row hrow p hp with hstored | ⟨k, t, ht, hcovers⟩
  · exact hstored
  · have hfinished := hquiescent.threads t (List.mem_of_getElem? ht)
    cases hphase : t.phase with
    | finished _ =>
      rw [hphase] at hcovers
      cases hcovers
    | _ =>
      rw [hphase] at hfinished
      cases hfinished

/-! ## Steps of a request -/

/-- One request has gone on, and the others are where they were. -/
def Replaces (k : Nat) (t : UpdateThread) (phase : UpdatePhase)
    (threads threads' : List UpdateThread) :
    Prop :=
  ∀ j, threads'[j]? = if j = k then some { t with phase := phase } else threads[j]?

section
variable {k : Nat} {t : UpdateThread} {phase : UpdatePhase} {threads threads' : List UpdateThread}

theorem replaces_set (ht : threads[k]? = some t) (phase : UpdatePhase) :
    Replaces k t phase threads (threads.set k { t with phase := phase }) := by
  intro j
  have hk := (List.getElem?_eq_some_iff.mp ht).1
  rw [List.getElem?_set]
  by_cases hj : j = k
  · subst hj
    rw [if_pos rfl, if_pos rfl, if_pos hk]
  · rw [if_neg hj, if_neg (Ne.symm hj)]

theorem replaces_modify (ht : threads[k]? = some t) {f : UpdateThread → UpdateThread}
    (hf : f t = { t with phase := phase }) : Replaces k t phase threads (threads.modify k f) := by
  intro j
  rw [List.getElem?_modify]
  by_cases hj : j = k
  · subst hj
    simp [ht, hf]
  · simp [hj, Ne.symm hj]

theorem Replaces.self (h : Replaces k t phase threads threads') :
    threads'[k]? = some { t with phase := phase } := by
  rw [h k, if_pos rfl]

theorem Replaces.other (h : Replaces k t phase threads threads') {j : Nat} (hj : j ≠ k) :
    threads'[j]? = threads[j]? := by
  rw [h j, if_neg hj]

/-- A request is the one that went on, or another one. -/
theorem Replaces.cases (h : Replaces k t phase threads threads') {j : Nat} {u : UpdateThread}
    (hu : threads'[j]? = some u) :
    j = k ∧ u = { t with phase := phase } ∨ j ≠ k ∧ threads[j]? = some u := by
  by_cases hj : j = k
  · subst hj
    rw [h.self] at hu
    exact .inl ⟨rfl, (Option.some.inj hu).symm⟩
  · rw [h.other hj] at hu
    exact .inr ⟨hj, hu⟩

end

section
variable {k : Nat} {t : UpdateThread} {phase : UpdatePhase} {threads : List UpdateThread}

/-- **A request goes on**: it keeps its passphrase, and lets go of no slot that is behind. -/
theorem Coherent.advance (h : Coherent crates sys) (ht : sys.threads[k]? = some t)
    (hreplaces : Replaces k t phase sys.threads threads) {s' : Store}
    (hs : SameTables sys.world.store s') (hquiet : ¬ t.phase.awaits)
    (hactive : ∀ p ∈ phase.active, t.phase.active = some p)
    (hcovers : ∀ row ∈ selectCredentials none sys.world.store, ∀ p ∈ slotPassphrase crates row,
      t.phase.covers row.credentialId → phase.covers row.credentialId) :
    Coherent crates
      { sys with world := { sys.world with store := s' }, threads := threads } where
  root j u hu := by
    rcases hreplaces.cases hu with ⟨-, rfl⟩ | ⟨-, hu⟩
    · exact h.root k t ht
    · exact h.root j u hu
  active j u hu p hp := by
    rw [storedPassphrase_congr hs]
    rcases hreplaces.cases hu with ⟨-, rfl⟩ | ⟨-, hu⟩
    · exact h.active k t ht p (hactive p hp)
    · exact h.active j u hu p hp
  messages j command hmem := by
    obtain ⟨u, hu, hmessage⟩ := h.messages j command hmem
    by_cases hj : j = k
    · subst hj
      rw [ht] at hu
      cases hu
      exact absurd hmessage.awaits hquiet
    · exact ⟨u, (hreplaces.other hj).trans hu, hmessage⟩
  single := h.single
  rows row hrow p hp := by
    rw [selectCredentials_congr hs.credentials] at hrow
    rcases h.rows row hrow p hp with hstored | ⟨j, u, hu, hcovered⟩
    · exact .inl ((storedPassphrase_congr hs).trans hstored)
    · by_cases hj : j = k
      · subst hj
        rw [ht] at hu
        cases hu
        exact .inr ⟨j, _, hreplaces.self, hcovers row hrow p hp hcovered⟩
      · exact .inr ⟨j, u, (hreplaces.other hj).trans hu, hcovered⟩
  main := h.main

/-- **A request sends a message.** -/
theorem Coherent.send {command : TpmCommand} (h : Coherent crates sys)
    (hquiet : ∀ command, (k, command) ∉ sys.queue) (ht : sys.threads[k]? = some t)
    (hmessage : IsMessage command t.phase) :
    Coherent crates { sys with queue := sys.queue ++ [(k, command)] } where
  root := h.root
  active := h.active
  messages j command' hmem := by
    rcases List.mem_append.mp hmem with hmem | hmem
    · exact h.messages j command' hmem
    · cases List.mem_singleton.mp hmem
      exact ⟨t, ht, hmessage⟩
  single := by
    rw [List.map_append, List.map_singleton, List.nodup_append]
    refine ⟨h.single, List.nodup_singleton _, ?_⟩
    rintro j hj _ hk rfl
    obtain rfl := List.mem_singleton.mp hk
    obtain ⟨⟨_, command'⟩, hmem, rfl⟩ := List.mem_map.mp hj
    exact hquiet command' hmem
  rows := h.rows
  main := h.main

/-- **A request saves the passphrase**, while no other is active: from now on it covers all. -/
theorem Coherent.save {new : Passphrase} {s' : Store} (h : Coherent crates sys)
    (ht : sys.threads[k]? = some t) (hphase : t.phase = .save new)
    (hstored : storedPassphrase crates s' = some new)
    (hidle : ∀ other ∈ sys.threads, other.phase.active = none) :
    Coherent crates { sys with
      world := { sys.world with store := s' }
      threads := sys.threads.set k { t with phase := .snapshot new } } where
  root j u hu := by
    rcases (replaces_set ht _).cases hu with ⟨-, rfl⟩ | ⟨-, hu⟩
    · exact h.root k t ht
    · exact h.root j u hu
  active j u hu p hp := by
    rcases (replaces_set ht _).cases hu with ⟨-, rfl⟩ | ⟨-, hu⟩
    · cases hp
      exact hstored
    · rw [hidle u (List.mem_of_getElem? hu)] at hp
      cases hp
  messages j command hmem := by
    obtain ⟨u, hu, hmessage⟩ := h.messages j command hmem
    by_cases hj : j = k
    · subst hj
      rw [ht] at hu
      cases hu
      have hawaits := hmessage.awaits
      rw [hphase] at hawaits
      cases hawaits
    · exact ⟨u, ((replaces_set ht _).other hj).trans hu, hmessage⟩
  single := h.single
  rows _ _ _ _ := .inr ⟨k, _, (replaces_set ht _).self, rfl⟩
  main := h.main

/-- The credentials that root lists are those of all rows. -/
theorem covers_of_listed {s : Store} {credentials : List StoredCtap2Credential}
    (hread : List.Forall₂ (fun row c ↦ Store.credentialOfRow crates none row = some c)
      (selectCredentials none s) credentials) {new : Passphrase} {row : CredentialRow}
    (hrow : row ∈ selectCredentials none s) {p : Passphrase} (hp : p ∈ slotPassphrase crates row) :
    (UpdatePhase.sending new credentials []).covers row.credentialId := by
  obtain ⟨stored, hstored, hread⟩ := hread.exists_right hrow
  have hdescribes := Store.describes_of_credentialOfRow hread
  obtain ⟨slot, hslot, -⟩ := Option.map_eq_some_iff.mp hp
  rw [hdescribes.recovery, Option.join_some] at hslot
  exact List.any_eq_true.mpr ⟨stored, hstored, by simp [hdescribes.id, hslot]⟩

/-- **Every step of a request keeps the invariant.** -/
theorem Coherent.thread (hcrates : crates.ReadsPassphrase) (h : Coherent crates sys)
    {fault : StoreFault} {random : Option (Nat → UInt8)}
    (hworks : (sys.step crates hash (.thread k fault random)).1 ≠ .failed)
    (horderly : Orderly crates sys (.thread k fault random)) :
    Coherent crates (sys.step crates hash (.thread k fault random)).2 := by
  cases ht : sys.threads[k]? with
  | none =>
    simp only [System.step, ht]
    exact h
  | some t =>
    have hsame : SameTables sys.world.store sys.world.store := SameTables.frame.refl _
    have hadvanced : Advanced crates hash t sys.world.store
        (t.step crates hash fault random sys.world.store) :=
      step_advanced fault random sys.world.store hcrates t
    have horderly : t.phase.isSave → ∀ other ∈ sys.threads, other.phase.active = none :=
      horderly t ht
    simp only [System.step, ht] at hworks ⊢
    generalize t.step crates hash fault random sys.world.store = r at hadvanced hworks ⊢
    cases hadvanced with
    | stayed =>
      obtain ⟨hlt, hget⟩ := List.getElem?_eq_some_iff.mp ht
      have hstays : sys.threads.set k t = sys.threads := by rw [← hget, List.set_getElem_self]
      simpa [hstays] using h
    | saved hphase hstored _ =>
      simpa using h.save ht hphase hstored (horderly (by rw [hphase]; rfl))
    | ended hs hphase =>
      rcases hphase with hfailed | hphase | ⟨new, results, hphase⟩
      · exact absurd hfailed hworks
      all_goals
        simpa using h.advance ht (replaces_set ht _) hs (by simp [hphase, UpdatePhase.awaits])
          (by rintro _ ⟨⟩) (by simp [hphase, UpdatePhase.covers])
    | verified hphase _ =>
      simpa using h.advance ht (replaces_set ht _) hsame (by simp [hphase, UpdatePhase.awaits])
        (by rintro _ ⟨⟩) (by simp [hphase, UpdatePhase.covers])
    | @listed _ new credentials hphase hs hread =>
      have hroot : filterUid t.request.peerUid = none := by simp [filterUid, h.root k t ht]
      rw [hroot] at hread
      simpa using h.advance ht (replaces_set ht (.sending new credentials [])) hs
        (by simp [hphase, UpdatePhase.awaits]) (by simp [hphase, UpdatePhase.active])
        fun row hrow p hp _ ↦ covers_of_listed hread hrow hp
    | skipped hphase hrecovery =>
      -- what is skipped was not covered
      simpa using h.advance ht (replaces_set ht _) hsame (by simp [hphase, UpdatePhase.awaits])
        (by simp [hphase, UpdatePhase.active])
        (by simp [hphase, hrecovery, UpdatePhase.covers])
    | answered hphase =>
      simpa using h.advance ht (replaces_set ht _) hsame (by simp [hphase, UpdatePhase.awaits])
        (by simp [hphase, UpdatePhase.active]) (by simp [hphase, UpdatePhase.covers])
    | @sent new c todo results slot hphase hrecovery =>
      have hadvanced := h.advance ht (replaces_set ht (.waiting new c.id todo results none)) hsame
        (by simp [hphase, UpdatePhase.awaits]) (by simp [hphase, UpdatePhase.active])
        (by simp [hphase, hrecovery, UpdatePhase.covers])
      refine hadvanced.send (fun command hmem ↦ ?_) (replaces_set ht _).self
        ⟨new, c.id, todo, results, slot.key, rfl, rfl⟩
      obtain ⟨t', ht', hmessage⟩ := h.messages k command hmem
      cases ht.symm.trans ht'
      have hawaits := hmessage.awaits
      simp [hphase, UpdatePhase.awaits] at hawaits

end

/-! ## Steps of the main thread -/

section
variable {env : Env} {w w' : World}

/-- The slot of a new credential is made from the passphrase that was read. -/
theorem createCredential_recovery {registration : Ctap2.Registration} {read : Option Passphrase}
    {c : Credential} {response : List UInt8}
    (h : Ctap2.createCredential crates env registration read w = (.ok (c, response), w'))
    {slot : StoredRecoverySlot} (hslot : c.recovery = some slot) :
    read = some (passphraseOf slot) := by
  obtain ⟨tpm, policy, material, hmaterial, hrecovery⟩ := createCredential_material h
  exact (Ctap2.createCredentialMaterial_slot hmaterial (hrecovery ▸ hslot)).1

/-- The main thread does something that leaves the tables alone. -/
theorem Coherent.moved (h : Coherent crates sys) {main : MainThread}
    (hs : SameTables sys.world.store w'.store)
    (hmain : ∀ env read c, main = .saving env read c → ∀ slot ∈ c.recovery,
      read = some (passphraseOf slot)) :
    Coherent crates { sys with main := main, world := w' } where
  root := h.root
  active k t ht p hp := (storedPassphrase_congr hs).trans (h.active k t ht p hp)
  messages := h.messages
  single := h.single
  rows row hrow p hp := by
    rw [selectCredentials_congr hs.credentials] at hrow
    rw [show storedPassphrase crates w'.store = _ from storedPassphrase_congr hs]
    exact h.rows row hrow p hp
  main := hmain

/-- **A registration saves.** -/
theorem Coherent.registered (hcrates : crates.ReadsBack) (h : Coherent crates sys)
    {read : Option Passphrase} {c : Credential} (hmain : sys.main = .saving env read c)
    (horderly : Orderly crates sys .proceed)
    (hsettings : w'.store.daemonPassphrase = sys.world.store.daemonPassphrase)
    (hrows : List.Forall₂ (Store.RowOf crates) (sys.world.auth.credentials ++ [c])
      w'.store.credentials.rows) :
    Coherent crates { sys with main := .idle, world := w' } where
  root := h.root
  active k t ht p hp := by
    rw [storedPassphrase, hsettings]
    exact h.active k t ht p hp
  messages := h.messages
  single := h.single
  rows row hrow p hp := by
    have hstored : storedPassphrase crates w'.store = storedPassphrase crates sys.world.store := by
      rw [storedPassphrase, storedPassphrase, hsettings]
    change storedPassphrase crates w'.store = some p ∨ _
    rw [hstored]
    obtain ⟨d, hd, hrowOf⟩ := hrows.exists_left (Store.mem_selectCredentials.mp hrow).1
    obtain ⟨slot, hslot, rfl⟩ := slotPassphrase_of_rowOf hcrates hrowOf hp
    simp only [Orderly, hmain] at horderly
    rcases horderly with ⟨t, ht, hsnapshot⟩ | ⟨hread, hcurrent⟩
    · obtain ⟨k, hk⟩ := List.mem_iff_getElem?.mp ht
      refine .inr ⟨k, t, hk, ?_⟩
      cases hphase : t.phase with
      | snapshot _ => rfl
      | _ =>
        rw [hphase] at hsnapshot
        cases hsnapshot
    · rcases List.mem_append.mp hd with hd | hd
      · -- the row that is written over had this passphrase already
        obtain ⟨old, hold, hid, hpassphrase⟩ := hcurrent d hd slot hslot
        rw [hrowOf.records.id, ← hid]
        exact h.rows old hold _ hpassphrase
      · obtain rfl := List.mem_singleton.mp hd
        exact .inl (hread _ (h.main env read _ hmain slot hslot))
  main _ _ _ hsaving := nomatch hsaving

/-- **Every step of a registration keeps the invariant.** -/
theorem Coherent.proceed (hcrates : crates.ReadsBack) (h : Coherent crates sys)
    (hworks : (sys.step crates hash .proceed).1 ≠ .failed)
    (horderly : Orderly crates sys .proceed) :
    Coherent crates (sys.step crates hash .proceed).2 := by
  have hproceeded : Proceeded crates sys.main sys.world (sys.main.step crates sys.world) :=
    step_proceeded sys.main sys.world
  simp only [System.step] at hworks ⊢
  generalize sys.main.step crates sys.world = r at hproceeded hworks ⊢
  cases hproceeded with
  | ended hmoves => exact h.moved hmoves.tables (by rintro _ _ _ ⟨⟩)
  | checked hmoves _ => exact h.moved hmoves.tables (by rintro _ _ _ ⟨⟩)
  | created _ hmoves hcreate =>
    refine h.moved hmoves.tables ?_
    rintro _ _ _ ⟨⟩ slot hslot
    exact createCredential_recovery hcreate hslot
  | saved hmain hsettings hrows =>
    rcases hrows with ⟨hfailed, -⟩ | hrows
    · exact absurd hfailed hworks
    · exact h.registered hcrates hmain horderly hsettings.daemonPassphrase hrows

/-- A registration begins. -/
theorem Coherent.begin (h : Coherent crates sys) (env : Env) (body : List UInt8) :
    Coherent crates (sys.step crates hash (.begin env body)).2 := by
  simp only [System.step]
  cases hmain : sys.main with
  | checking _ _ => exact h
  | creating _ _ _ => exact h
  | saving _ _ _ => exact h
  | idle =>
    obtain ⟨result, main, hbegin, hnext⟩ := beginRegistration_cases env body sys.world
    rw [hbegin]
    refine h.moved (SameTables.frame.refl _) fun _ _ _ hsaving ↦ ?_
    rcases hnext with rfl | rfl <;> cases hsaving

/-- A connection is accepted. -/
theorem Coherent.accept (h : Coherent crates sys) {request : UpdateRequest}
    (hroot : request.peerUid = 0) :
    Coherent crates { sys with threads := sys.threads ++ [⟨request, .verify⟩] } where
  root k t ht := by
    rcases List.mem_append.mp (List.mem_of_getElem? ht) with hmem | hmem
    · obtain ⟨j, hj⟩ := List.mem_iff_getElem?.mp hmem
      exact h.root j t hj
    · rw [List.mem_singleton.mp hmem]
      exact hroot
  active k t ht p hp := by
    rcases List.mem_append.mp (List.mem_of_getElem? ht) with hmem | hmem
    · obtain ⟨j, hj⟩ := List.mem_iff_getElem?.mp hmem
      exact h.active j t hj p hp
    · rw [List.mem_singleton.mp hmem] at hp
      cases hp
  messages k command hmem := by
    obtain ⟨t, ht, hmessage⟩ := h.messages k command hmem
    exact ⟨t, (List.getElem?_append_left (List.getElem?_eq_some_iff.mp ht).1).trans ht, hmessage⟩
  single := h.single
  rows row hrow p hp := by
    rcases h.rows row hrow p hp with hstored | ⟨k, t, ht, hcovers⟩
    · exact .inl hstored
    · have hk := (List.getElem?_eq_some_iff.mp ht).1
      exact .inr ⟨k, t, (List.getElem?_append_left hk).trans ht, hcovers⟩
  main := h.main

/-- **A message changes a slot**, and the request that sent it has its answer. -/
theorem Coherent.change (hcrates : crates.ReadsBack) {k : Nat} {t : UpdateThread}
    {new : Passphrase} {id : List UInt8} {todo : List StoredCtap2Credential}
    {results : List (List UInt8 × CredentialStatus)} {key : TpmCredential}
    {queue : List (Nat × TpmCommand)} {blob : List UInt8} {kdfParams : String}
    (h : Coherent crates sys) (ht : sys.threads[k]? = some t)
    (hphase : t.phase = .waiting new id todo results none)
    (hqueue : sys.queue = (k, .passphraseChange id key new.2.1 new.1 new.2.2) :: queue)
    (hkdf : kdfParamsToString crates new.2.2 new.1 new.2.1 = some kdfParams)
    (hsettings : w'.store.daemonPassphrase = sys.world.store.daemonPassphrase)
    (hstored : w'.store.credentials = sys.world.store.credentials.update id
      (Store.withRecovery blob kdfParams) fun _ ↦ rfl) :
    Coherent crates { sys with
      world := w'
      queue := queue
      threads := sys.threads.modify k (·.answered true) } := by
  have hreplaces : Replaces k t (.waiting new id todo results (some true)) sys.threads
      (sys.threads.modify k (·.answered true)) :=
    replaces_modify ht (by simp [UpdateThread.answered, hphase])
  have hpassphrase : storedPassphrase crates w'.store =
      storedPassphrase crates sys.world.store := by
    rw [storedPassphrase, storedPassphrase, hsettings]
  have hnew : storedPassphrase crates sys.world.store = some new :=
    h.active k t ht new (by rw [hphase]; rfl)
  have hsingle := h.single
  rw [hqueue, List.map_cons, List.nodup_cons] at hsingle
  constructor
  case root =>
    intro j u hu
    rcases hreplaces.cases hu with ⟨-, rfl⟩ | ⟨-, hu⟩
    · exact h.root k t ht
    · exact h.root j u hu
  case active =>
    intro j u hu p hp
    rw [hpassphrase]
    rcases hreplaces.cases hu with ⟨-, rfl⟩ | ⟨-, hu⟩
    · cases hp
      exact hnew
    · exact h.active j u hu p hp
  case messages =>
    intro j command hmem
    obtain ⟨u, hu, hmessage⟩ := h.messages j command (hqueue ▸ List.mem_cons_of_mem _ hmem)
    have hj : j ≠ k := by
      rintro rfl
      exact hsingle.1 (List.mem_map.mpr ⟨_, hmem, rfl⟩)
    exact ⟨u, (hreplaces.other hj).trans hu, hmessage⟩
  case single => exact hsingle.2
  case rows =>
    intro row hrow p hp
    obtain ⟨hmem, -, hprimary⟩ := Store.mem_selectCredentials.mp hrow
    change storedPassphrase crates w'.store = some p ∨ _
    rw [hpassphrase]
    rw [hstored] at hmem
    obtain ⟨old, hold, rfl⟩ := Table.mem_update.mp hmem
    by_cases hid : old.credentialId = id
    · -- the slot that was changed
      rw [if_pos hid] at hp
      exact .inl (slotPassphrase_withRecovery hcrates hkdf hp ▸ hnew)
    · rw [if_neg hid] at hp hprimary ⊢
      rcases h.rows old (Store.mem_selectCredentials.mpr ⟨hold, rfl, hprimary⟩) p hp with
        hstored | ⟨j, u, hu, hcovers⟩
      · exact .inl hstored
      · refine .inr ?_
        by_cases hj : j = k
        · subst hj
          rw [ht] at hu
          cases hu
          refine ⟨j, _, hreplaces.self, ?_⟩
          simpa [hphase, UpdatePhase.covers, Ne.symm hid] using hcovers
        · exact ⟨j, u, (hreplaces.other hj).trans hu, hcovers⟩
  case main => exact h.main

/-- **The main thread takes a message.** -/
theorem Coherent.receive (hcrates : crates.ReadsBack) (h : Coherent crates sys) {env : Env}
    (hworks : (sys.step crates hash (.receive env)).1 ≠ .failed) :
    Coherent crates (sys.step crates hash (.receive env)).2 := by
  obtain ⟨world, main, queue, threads⟩ := sys
  cases main with
  | checking _ _ => exact h
  | creating _ _ _ => exact h
  | saving _ _ _ => exact h
  | idle =>
    cases queue with
    | nil => exact h
    | cons head queue =>
      obtain ⟨k, command⟩ := head
      obtain ⟨t, ht, new, id, todo, results, key, hphase, rfl⟩ :=
        h.messages k command List.mem_cons_self
      simp only [System.step] at hworks ⊢
      have hsettings := (Ctap2.handleTpmCommand_moves
        (.passphraseChange id key new.2.1 new.1 new.2.2) world :
        Ctap2.Aside world (Ctap2.handleTpmCommand crates env _ world).2).settings
      have hresult := Ctap2.handleTpmCommand_result crates env
        (.passphraseChange id key new.2.1 new.1 new.2.2) world
      cases hhandle : Ctap2.handleTpmCommand crates env
          (.passphraseChange id key new.2.1 new.1 new.2.2) world with
      | mk o w₁ =>
        rw [hhandle] at hsettings hresult hworks
        cases hresult with
        | failed _ ho _ =>
          cases o with
          | ok _ => cases ho
          | error _ => exact absurd rfl hworks
          | panicked => exact absurd rfl hworks
        | recoveryUpdated _ _ _ _ _ hkdf _ hstored =>
          exact h.change hcrates ht hphase rfl hkdf hsettings.daemonPassphrase hstored

end

/-! ## Whole runs -/

/-- **Every step keeps the invariant.** -/
theorem Coherent.step (hcrates : crates.ReadsBack) (hpassphrase : crates.ReadsPassphrase)
    (h : Coherent crates sys) {action : Action} (hroot : action.fromRoot)
    (hworks : (sys.step crates hash action).1 ≠ .failed) (horderly : Orderly crates sys action) :
    Coherent crates (sys.step crates hash action).2 := by
  cases action with
  | accept request => exact h.accept hroot
  | thread k fault random => exact h.thread hpassphrase hworks horderly
  | begin env body => exact h.begin env body
  | proceed => exact h.proceed hcrates hworks horderly
  | receive env => exact h.receive hcrates hworks

theorem coherent_start {w : World} (h : InStep crates w.store) : Coherent crates (.start w) where
  root _ _ ht := nomatch ht
  active _ _ ht := nomatch ht
  messages _ _ hmem := nomatch hmem
  single := List.nodup_nil
  rows row hrow p hp := .inl (h row hrow p hp)
  main _ _ _ hsaving := nomatch hsaving

end

/-- **Orderly runs end in step.**  Whatever the scheduler does, if no call to the store or the TPM
fails and every step is orderly, all recovery slots have the daemon passphrase once nothing is under
way. -/
theorem inStep_of_orderly (crates : Crates) (hash : PassphraseHash) (hcrates : crates.ReadsBack)
    (hpassphrase : crates.ReadsPassphrase) (w : World) (actions : List Action)
    (horderly : ∀ t ∈ run crates hash w actions, Orderly crates t.before t.input) :
    StaysInStep crates hash w actions := by
  intro hw hroot hworks hquiescent
  refine Coherent.inStep ?_ hquiescent
  refine Run.state_invariant (I := Coherent crates) (C := fun sys action ↦ action.fromRoot ∧
    (sys.step crates hash action).1 ≠ .failed ∧ Orderly crates sys action)
    (coherent_start hw) (fun sys action h hc ↦ h.step hcrates hpassphrase hc.1 hc.2.1 hc.2.2)
    actions fun t ht ↦ ⟨hroot _ (Run.input_mem_of_mem_transitions ht), ?_, horderly t ht⟩
  have houtput := hworks t ht
  rw [Run.eq_transition_of_mem ht] at houtput
  exact houtput

/-! ## Runs that end out of step

Root sets the passphrase to "one", a user registers a credential, and root changes the passphrase to
"two". -/

namespace Sample

open Ctap2.Sample Bytes Cbor

/-- Packages that know the registration. -/
def crates : Crates := keepingPackages [makeCredential "a"]

/-- A hash that does not hide anything. -/
def hash : PassphraseHash := fun _ _ passphrase ↦ some (utf8 passphrase)

/-- The daemon of a user on a fresh store. -/
def start : World := Ctap2.newAuthenticator crates (session 1000 0) (some "") Store.fresh

/-- Root asks for a passphrase. -/
def ask (old : Option String) (new : String) : Action := .accept ⟨0, old, new⟩

/-- A thread has as many turns. -/
def turns (n k : Nat) (random : UInt8) : List Action :=
  List.replicate n (.thread k noFault (some fun _ ↦ random))

/-- The user registers a credential. -/
def begin (random : UInt8) : Action := .begin (session 1000 random) (encode (makeCredential "a"))

def register (random : UInt8) : List Action := [begin random, .proceed, .proceed, .proceed]

def receive : Action := .receive (session 1000 0)

/-- The first passphrase and the first credential. -/
def setup : List Action := ask none "one" :: turns 4 0 1 ++ register 1

/-- A change of the passphrase. -/
def change : List Action := ask (some "one") "two" :: turns 4 1 2 ++ [receive] ++ turns 2 1 2

/-- After the change the user registers another credential, and the old slot of the first is
back. -/
def registerAfterChange : List Action := setup ++ change ++ register 2

/-- A registration reads the passphrase before the change and saves after it. -/
def registerAcrossChange : List Action :=
  ask none "one" :: turns 4 0 1 ++ [begin 1, .proceed] ++
    ask (some "one") "two" :: turns 4 1 2 ++ [.proceed, .proceed]

/-- Two changes: the second to save is the first to send its message. -/
def changeTwice : List Action :=
  setup ++ [ask (some "one") "two", ask (some "one") "three"] ++ turns 1 2 3 ++ turns 2 1 2 ++
    turns 3 2 3 ++ turns 2 1 2 ++ [receive, receive] ++ turns 2 1 2 ++ turns 2 2 3

end Sample

/-- A change after a registration is orderly, and the slot gets the new passphrase. -/
theorem inStep_after_change :
    (∀ t ∈ run Sample.crates Sample.hash Sample.start (Sample.setup ++ Sample.change),
      Orderly Sample.crates t.before t.input) ∧
    (selectCredentials none
      (after Sample.crates Sample.hash Sample.start
        (Sample.setup ++ Sample.change)).world.store).map
        (slotPassphrase Sample.crates) =
      [some (List.replicate 32 2, Bytes.utf8 "two", .argon2idDefault)] ∧
    StaysInStep Sample.crates Sample.hash Sample.start (Sample.setup ++ Sample.change) := by
  obtain ⟨horderly, hslots⟩ :
      (∀ t ∈ run Sample.crates Sample.hash Sample.start (Sample.setup ++ Sample.change),
        Orderly Sample.crates t.before t.input) ∧
      (selectCredentials none (after Sample.crates Sample.hash Sample.start
        (Sample.setup ++ Sample.change)).world.store).map (slotPassphrase Sample.crates) =
        [some (List.replicate 32 2, Bytes.utf8 "two", .argon2idDefault)] := by
    decide +kernel
  exact ⟨horderly, hslots,
    inStep_of_orderly _ _ (Ctap2.Sample.keepingPackages_readsBack _)
      (Ctap2.Sample.keepingPackages_readsPassphrase _) _ _ horderly⟩

/-- **Slots out of step**: after a change, across a change, and after two of them. -/
theorem slots_out_of_step :
    ¬ StaysInStep Sample.crates Sample.hash Sample.start Sample.registerAfterChange ∧
    ¬ StaysInStep Sample.crates Sample.hash Sample.start Sample.registerAcrossChange ∧
    ¬ StaysInStep Sample.crates Sample.hash Sample.start Sample.changeTwice := by
  decide +kernel

end Management
end TpmFido2
