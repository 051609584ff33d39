import TpmFido2.Management.InStep
import TpmFido2.Store.FilteredLoad

/-!
# A refused change of the passphrase

`handle_update_passphrase` from its first line to its last, with nobody in between: the store is
opened three times, and then the main thread is asked for one recovery slot after the other
(`handleUpdatePassphrase`).  Any of these calls may fail.  `update_uninterrupted` is that this is
what the threads of `UpdatePassphrase` do when no other has a turn.

The administrator goes by the answer, so it should be right both ways (`Truthful`): after a refusal
everything is as before, and after a success without an error every slot has the new passphrase.
The second half always holds.  The first does not: the new passphrase is saved *before* the
credentials are listed, and if the list cannot be made the request is refused with the old
passphrase gone.

* **`truthful_iff`** — the answer is right unless the request gets past the save and the list
  cannot be made.

No failure is needed for that.  `refused_and_changed` is a user in whose store there is a
credential of nobody, which the user cannot load.
-/

set_option autoImplicit false

namespace TpmFido2
namespace Management

open Ctap2 (World Env TpmCommand)
open Store (selectCredentials SameTables SameSource)

/-! ## The request, from start to end -/

/-- What happens during a request: how the three calls to the store go, what the random source
delivers, and what the main thread sees when it gets the n-th message; `none` if it does not get
it, because there is no TPM or the channel is closed. -/
structure Circumstances where
  fault : Nat → StoreFault
  random : Option (Nat → UInt8)
  main : Nat → Option Env

section
variable (crates : Crates) (hash : PassphraseHash)

/-- A message to the main thread, and what the request makes of the answer. -/
def changeSlot (env : Option Env) (new : Passphrase) (id : List UInt8) (key : TpmCredential)
    (w : World) : CredentialStatus × World :=
  match env with
  | none => (.error, w)
  | some env =>
    let r := Ctap2.handleTpmCommand crates env (.passphraseChange id key new.2.1 new.1 new.2.2) w
    (if r.1.toOption.isSome then .ok else .error, r.2)

/-- The loop over the credentials. -/
def changeSlots (main : Nat → Option Env) (new : Passphrase) :
    Nat → List StoredCtap2Credential → World → List (List UInt8 × CredentialStatus) × World
  | _, [], w => ([], w)
  | n, c :: credentials, w =>
    match c.recovery with
    | none =>
      let r := changeSlots main new n credentials w
      ((c.id, .skipped) :: r.1, r.2)
    | some recovery =>
      let changed := changeSlot crates (main n) new c.id recovery.key w
      let r := changeSlots main new (n + 1) credentials changed.2
      ((c.id, changed.1) :: r.1, r.2)

/-- `handle_update_passphrase` from the save on. -/
def installPassphrase (request : UpdateRequest) (x : Circumstances) (new : Passphrase) (w : World) :
    UpdateResponse × World :=
  match Store.saveDaemonPassphrase crates (x.fault 1) new.1 new.2.1 new.2.2 w.store with
  | (.ok _, s₁) =>
    match Store.loadCtap2Credentials crates (x.fault 2) (filterUid request.peerUid) s₁ with
    | (.ok credentials, s₂) =>
      let r := changeSlots crates x.main new 0 credentials { w with store := s₂ }
      (.updated r.1, r.2)
    | (_, s₂) => (.refused .credentials, { w with store := s₂ })
  | (_, s₁) => (.refused .save, { w with store := s₁ })

/-- `handle_update_passphrase`. -/
def handleUpdatePassphrase (request : UpdateRequest) (x : Circumstances) (w : World) :
    UpdateResponse × World :=
  match Store.loadDaemonPassphrase crates (x.fault 0) w.store with
  | (.ok current, s₁) =>
    match checkOld hash request current with
    | .error e => (.refused e, { w with store := s₁ })
    | .ok _ =>
      match newPassphrase hash request x.random with
      | .error e => (.refused e, { w with store := s₁ })
      | .ok new => installPassphrase crates request x new { w with store := s₁ }
  | (_, s₁) => (.refused .check, { w with store := s₁ })

/-! ## The property -/

/-- The recovery slot of a row is for the passphrase: its salt, hash and parameters are those, and
its key has the hash as its auth value. -/
def SlotFor (new : Passphrase) (row : CredentialRow) : Prop :=
  ∃ slot, Store.recoveryOfRow crates row.recovery = some (some slot) ∧
    passphraseOf slot = new ∧ slot.key.authValue = some new.2.1

/-- Every credential with a recovery slot has one for the passphrase. -/
def AllMoved (new : Passphrase) (s s' : Store) : Prop :=
  ∀ row ∈ selectCredentials none s, (slotPassphrase crates row).isSome →
    ∃ row' ∈ selectCredentials none s', row'.credentialId = row.credentialId ∧
      SlotFor crates new row'

/-- The answer to a request says what happened since the store was as given. -/
structure Truthful (request : UpdateRequest) (s : Store) (r : UpdateResponse × World) : Prop where
  refused : ∀ e, r.1 = .refused e →
    storedPassphrase crates r.2.store = storedPassphrase crates s ∧
      r.2.store.credentials = s.credentials
  updated : ∀ results, r.1 = .updated results → (∀ x ∈ results, x.2 ≠ .error) →
    request.peerUid = 0 →
      ∃ new : Passphrase, hash new.2.2 new.1 request.newPassphrase = some new.2.1 ∧
        storedPassphrase crates r.2.store = some new ∧ AllMoved crates new s r.2.store

/-- The request gets as far as to save a passphrase: the old one is right, there is a new one, and
the store takes it. -/
structure Saves (request : UpdateRequest) (x : Circumstances) (s : Store) (new : Passphrase) :
    Prop where
  checked : ∃ current, (Store.loadDaemonPassphrase crates (x.fault 0) s).1 = .ok current ∧
    checkOld hash request current = .ok ()
  new : newPassphrase hash request x.random = .ok new
  written : ¬ ((x.fault 1).io ∨ (x.fault 1).statement)

/-- The credentials that the peer sees can be loaded. -/
def Listable (request : UpdateRequest) (x : Circumstances) (s : Store) : Prop :=
  (Store.loadCtap2Credentials crates (x.fault 2) (filterUid request.peerUid) s).1.toOption.isSome

end

variable {crates : Crates} {hash : PassphraseHash} {request : UpdateRequest} {x : Circumstances}
  {w : World}

/-! ## A request without interruption -/

section
variable {threads : List UpdateThread} {k : Nat}

/-- The scheduler can lead the daemon from one state to the other. -/
def Leads (crates : Crates) (hash : PassphraseHash) (sys sys' : System) : Prop :=
  ∃ actions, Run.final (System.step crates hash) sys actions = sys'

theorem Leads.step {sys sys' : System} (action : Action)
    (h : Leads crates hash (sys.step crates hash action).2 sys') : Leads crates hash sys sys' := by
  obtain ⟨actions, rfl⟩ := h
  exact ⟨action :: actions, rfl⟩

/-- The main thread has nothing else to do, and one request is served. -/
def solo (threads : List UpdateThread) (k : Nat) (w : World) (queue : List (Nat × TpmCommand))
    (t : UpdateThread) : System :=
  ⟨w, .idle, queue, threads.set k t⟩

theorem solo_thread (hk : k < threads.length) (w : World) (queue : List (Nat × TpmCommand))
    (t : UpdateThread) (fault : StoreFault) (random : Option (Nat → UInt8)) :
    ((solo threads k w queue t).step crates hash (.thread k fault random)).2 =
      let r := t.step crates hash fault random w.store
      solo threads k { w with store := r.store }
        (queue ++ (r.sent.map fun command ↦ (k, command)).toList) { t with phase := r.phase } := by
  simp [System.step, solo, List.getElem?_set_self hk, List.set_set]

theorem solo_receive (hk : k < threads.length) (w : World) (command : TpmCommand) (t : UpdateThread)
    (env : Env) :
    ((solo threads k w [(k, command)] t).step crates hash (.receive env)).2 =
      let r := Ctap2.handleTpmCommand crates env command w
      solo threads k r.2 [] (t.answered r.1.toOption.isSome) := by
  simp [System.step, solo, List.modify_eq_set_getElem?, List.getElem?_set_self hk, List.set_set]

/-- The loop. -/
theorem leads_changeSlots (hk : k < threads.length) {main : Nat → Option Env} {envs : Nat → Env}
    (hmain : ∀ n, main n = some (envs n)) (new : Passphrase) (n : Nat)
    (todo : List StoredCtap2Credential) (results : List (List UInt8 × CredentialStatus))
    (w : World) (fault : StoreFault) (random : Option (Nat → UInt8)) :
    Leads crates hash (solo threads k w [] ⟨request, .sending new todo results⟩)
      (solo threads k (changeSlots crates main new n todo w).2 []
        ⟨request, .finished (.updated
          (results ++ (changeSlots crates main new n todo w).1))⟩) := by
  induction todo generalizing n results w with
  | nil =>
    refine .step (.thread k fault random) ⟨[], ?_⟩
    rw [solo_thread hk]
    simp [UpdateThread.step, changeSlots]
    rfl
  | cons c todo ih =>
    rw [changeSlots]
    cases hc : c.recovery with
    | none =>
      refine .step (.thread k fault random) ?_
      rw [solo_thread hk]
      simp only [UpdateThread.step, hc]
      have hrest := ih n (results ++ [(c.id, .skipped)]) w
      rw [List.append_assoc] at hrest
      exact hrest
    | some recovery =>
      -- the message is sent, taken and answered
      refine .step (.thread k fault random) (.step (.receive (envs n))
        (.step (.thread k fault random) ?_))
      rw [solo_thread hk]
      simp only [UpdateThread.step, hc, Option.map_some, Option.toList_some, List.nil_append]
      rw [solo_receive hk]
      simp only [UpdateThread.answered]
      rw [solo_thread hk]
      simp only [UpdateThread.step]
      have hrest := ih (n + 1)
        (results ++ [(c.id, (changeSlot crates (main n) new c.id recovery.key w).1)])
        (changeSlot crates (main n) new c.id recovery.key w).2
      rw [List.append_assoc, hmain] at hrest
      rw [hmain]
      exact hrest

/-- **The steps of a request, one after the other, are the request.** -/
theorem update_uninterrupted (hk : k < threads.length) {envs : Nat → Env}
    (hmain : ∀ n, x.main n = some (envs n)) :
    Leads crates hash (solo threads k w [] ⟨request, .verify⟩)
      (solo threads k (handleUpdatePassphrase crates hash request x w).2 []
        ⟨request, .finished (handleUpdatePassphrase crates hash request x w).1⟩) := by
  refine .step (.thread k (x.fault 0) x.random) ?_
  rw [solo_thread hk, handleUpdatePassphrase]
  simp only [UpdateThread.step]
  cases Store.loadDaemonPassphrase crates (x.fault 0) w.store with
  | mk o s₁ =>
    cases o with
    | error e => exact ⟨[], rfl⟩
    | panicked => exact ⟨[], rfl⟩
    | ok current =>
      simp only [verified]
      cases checkOld hash request current with
      | error e => exact ⟨[], rfl⟩
      | ok _ =>
        cases newPassphrase hash request x.random with
        | error e => exact ⟨[], rfl⟩
        | ok new =>
          refine .step (.thread k (x.fault 1) x.random) ?_
          rw [solo_thread hk]
          simp only [UpdateThread.step, installPassphrase]
          cases Store.saveDaemonPassphrase crates (x.fault 1) new.1 new.2.1 new.2.2 s₁ with
          | mk o s₂ =>
            cases o with
            | error e => exact ⟨[], rfl⟩
            | panicked => exact ⟨[], rfl⟩
            | ok _ =>
              refine .step (.thread k (x.fault 2) x.random) ?_
              rw [solo_thread hk]
              simp only [UpdateThread.step]
              cases Store.loadCtap2Credentials crates (x.fault 2) (filterUid request.peerUid)
                  s₂ with
              | mk o s₃ =>
                cases o with
                | error e => exact ⟨[], rfl⟩
                | panicked => exact ⟨[], rfl⟩
                | ok credentials =>
                  exact leads_changeSlots hk hmain new 0 credentials [] { w with store := s₃ }
                    (x.fault 2) x.random

end

/-! ## How a request ends -/

/-- The ends of a request, and what each leaves of the store. -/
inductive UpdateEnd (crates : Crates) (hash : PassphraseHash) (request : UpdateRequest)
    (x : Circumstances) (w : World) : UpdateResponse × World → Prop where
  | early {e : UpdateError} (h : ∀ new, ¬ Saves crates hash request x w.store new) :
    UpdateEnd crates hash request x w (.refused e, w)
  | unlisted {new : Passphrase} {s : Store} (h : Saves crates hash request x w.store new)
    (hstored : storedPassphrase crates s = some new)
    (hlist : ¬ Listable crates request x w.store)
    (hrows : s.credentials = w.store.credentials) :
    UpdateEnd crates hash request x w (.refused .credentials, { w with store := s })
  | listed {new : Passphrase} {s : Store} {credentials : List StoredCtap2Credential}
    (h : Saves crates hash request x w.store new)
    (hstored : storedPassphrase crates s = some new)
    (hlist : Listable crates request x w.store)
    (hcredentials : List.Forall₂ (fun row c ↦
        Store.credentialOfRow crates (filterUid request.peerUid) row = some c)
      (selectCredentials (filterUid request.peerUid) w.store) credentials)
    (hrows : s.credentials = w.store.credentials) :
    UpdateEnd crates hash request x w
      (.updated (changeSlots crates x.main new 0 credentials { w with store := s }).1,
        (changeSlots crates x.main new 0 credentials { w with store := s }).2)

theorem saveDaemonPassphrase_same {fault : StoreFault} {salt h : List UInt8} {kdf : RecoveryKdf}
    {s s' : Store} (hsave : Store.saveDaemonPassphrase crates fault salt h kdf s = (.ok (), s')) :
    SameSource s s' := by
  obtain ⟨_, s₁, hthrow, hrest⟩ := Handler.bind_ok hsave
  obtain ⟨-, rfl⟩ := Handler.throwIf_ok hthrow
  cases kdf
  cases hrest
  exact ⟨rfl, rfl⟩

theorem installPassphrase_end (hcrates : crates.ReadsPassphrase) {new : Passphrase}
    (hchecked : ∃ current, (Store.loadDaemonPassphrase crates (x.fault 0) w.store).1 =
      .ok current ∧ checkOld hash request current = .ok ())
    (hnew : newPassphrase hash request x.random = .ok new) :
    UpdateEnd crates hash request x w (installPassphrase crates request x new w) := by
  rw [installPassphrase]
  cases hsave : Store.saveDaemonPassphrase crates (x.fault 1) new.1 new.2.1 new.2.2 w.store with
  | mk o s₁ =>
    have failed (ho : o.toOption = none) :
        UpdateEnd crates hash request x w (.refused .save, { w with store := s₁ }) := by
      obtain rfl := saveDaemonPassphrase_failed ho hsave
      refine .early fun _ h ↦ ?_
      obtain ⟨_, hok⟩ := saveDaemonPassphrase_ok_iff.mpr h.written
      cases hsave.symm.trans hok
      cases ho
    cases o with
    | error e => exact failed rfl
    | panicked => exact failed rfl
    | ok _ =>
      have hsaves : Saves crates hash request x w.store new :=
        ⟨hchecked, hnew, saveDaemonPassphrase_ok_iff.mp ⟨s₁, hsave⟩⟩
      have hsource : SameSource w.store s₁ := saveDaemonPassphrase_same hsave
      have hsame : (Store.loadCtap2Credentials crates (x.fault 2) _ w.store).1 = _ :=
        (Store.loadCtap2Credentials_respects (filterUid request.peerUid) _ _ hsource).1
      have hstored := (storedPassphrase_of_save hcrates hsave).1
      dsimp only
      cases hlist : Store.loadCtap2Credentials crates (x.fault 2) (filterUid request.peerUid)
        s₁ with
      | mk o s₂ =>
        have htables : SameTables s₁ s₂ := (Store.loadCtap2Credentials_moves _).of_eq hlist
        have hrows : s₂.credentials = w.store.credentials :=
          htables.credentials.trans hsource.1
        rw [← storedPassphrase_congr htables] at hstored
        rw [hlist] at hsame
        have hlistable : Listable crates request x w.store ↔ o.toOption.isSome := by
          rw [Listable, hsame]
        cases o with
        | error e => exact .unlisted hsaves hstored (mt hlistable.mp Bool.false_ne_true) hrows
        | panicked => exact .unlisted hsaves hstored (mt hlistable.mp Bool.false_ne_true) hrows
        | ok credentials =>
          refine .listed hsaves hstored (hlistable.mpr rfl) ?_ hrows
          rw [← selectCredentials_congr hsource.1]
          exact Store.loadCtap2Credentials_ok hlist

theorem handleUpdatePassphrase_end (hcrates : crates.ReadsPassphrase) (request : UpdateRequest)
    (x : Circumstances) (w : World) :
    UpdateEnd crates hash request x w (handleUpdatePassphrase crates hash request x w) := by
  rw [handleUpdatePassphrase]
  cases hload : Store.loadDaemonPassphrase crates (x.fault 0) w.store with
  | mk o s₁ =>
    obtain rfl : w.store = s₁ := Store.loadDaemonPassphrase_moves.of_eq hload
    have hchecked : ∀ {new}, Saves crates hash request x w.store new →
        ∃ current, o = .ok current ∧ checkOld hash request current = .ok () := by
      rintro new ⟨⟨current, hok, hcheck⟩, -, -⟩
      rw [hload] at hok
      exact ⟨current, hok, hcheck⟩
    cases o with
    | error e => exact .early fun new h ↦ by obtain ⟨_, ⟨⟩, -⟩ := hchecked h
    | panicked => exact .early fun new h ↦ by obtain ⟨_, ⟨⟩, -⟩ := hchecked h
    | ok current =>
      dsimp only
      cases hcheck : checkOld hash request current with
      | error e =>
        refine .early fun new h ↦ ?_
        obtain ⟨_, ⟨⟩, hok⟩ := hchecked h
        cases hcheck.symm.trans hok
      | ok _ =>
        cases hnew : newPassphrase hash request x.random with
        | error e => exact .early fun new h ↦ by cases hnew.symm.trans h.new
        | ok new =>
          exact installPassphrase_end hcrates ⟨current, by rw [hload], hcheck⟩ hnew

/-! ## The loop -/

/-- A row whose recovery slot has its token. -/
def Tokened (row : CredentialRow) : Prop :=
  ∃ slot token, row.recovery = some slot ∧ slot.token = some token

theorem slotFor_withRecovery (hcrates : crates.ReadsBack) {new : Passphrase} {row : CredentialRow}
    {slot : KeyslotRow} {token : TokenRow} {oldKey : TpmCredential} {newPrivate : List UInt8}
    {kdfParams : String} (hslot : row.recovery = some slot) (htoken : slot.token = some token)
    (hkey : tpmKeyFromBlob crates slot.tpmKey slot.publicKey = some oldKey)
    (hkdf : kdfParamsToString crates new.2.2 new.1 new.2.1 = some kdfParams) :
    SlotFor crates new (Store.withRecovery (tpmKeyToBlob crates
      { oldKey with privateArea := newPrivate, authValue := some new.2.1 }) kdfParams row) := by
  obtain ⟨_, -, hrest⟩ := Option.bind_eq_some_iff.mp hkey
  obtain ⟨point, hpoint, -⟩ := Option.bind_eq_some_iff.mp hrest
  refine ⟨⟨slot.slotLabel, new.1, new.2.1, new.2.2, ⟨newPrivate, oldKey.publicArea, point.1,
    point.2, some new.2.1⟩⟩, ?_, rfl, rfl⟩
  simp [Store.withRecovery, Store.recoveryOfRow, hslot, htoken, tpmKeyFromBlob, tpmKeyToBlob,
    hcrates.keyBlob, hpoint, Ctap2.kdfParamsFromString_of_toString hcrates hkdf]

theorem tokened_withRecovery {blob : List UInt8} {kdfParams : String} {row : CredentialRow}
    (h : Tokened row) : Tokened (Store.withRecovery blob kdfParams row) := by
  obtain ⟨slot, token, hslot, htoken⟩ := h
  simp [Tokened, Store.withRecovery, hslot, htoken]

/-- What becomes of a row: if it was to be moved, or was moved already, it is. -/
structure Becomes (crates : Crates) (new : Passphrase) (moved : Prop) (row row' : CredentialRow) :
    Prop where
  credentialId : row'.credentialId = row.credentialId
  primary : row'.primary = row.primary
  tokened : Tokened row'
  slot : (SlotFor crates new row ∨ moved) → SlotFor crates new row'

theorem Becomes.refl {new : Passphrase} {row : CredentialRow} (h : Tokened row) :
    Becomes crates new False row row := ⟨rfl, rfl, h, fun hslot ↦ hslot.elim id False.elim⟩

theorem Becomes.trans {new : Passphrase} {p q : Prop} {row row' row'' : CredentialRow}
    (h : Becomes crates new p row row') (h' : Becomes crates new q row' row'') :
    Becomes crates new (p ∨ q) row row'' where
  credentialId := h'.credentialId.trans h.credentialId
  primary := h'.primary.trans h.primary
  tokened := h'.tokened
  slot := by
    rintro (hslot | hp | hq)
    · exact h'.slot (.inl (h.slot (.inl hslot)))
    · exact h'.slot (.inl (h.slot (.inr hp)))
    · exact h'.slot (.inr hq)

theorem Becomes.of_imp {new : Passphrase} {p q : Prop} {row row' : CredentialRow}
    (h : Becomes crates new p row row') (hpq : q → p) : Becomes crates new q row row' :=
  ⟨h.credentialId, h.primary, h.tokened, fun hslot ↦ h.slot (hslot.imp id hpq)⟩

/-- **One slot.** -/
theorem changeSlot_ok (hcrates : crates.ReadsBack) {env : Option Env} {new : Passphrase}
    {id : List UInt8} {key : TpmCredential} {w w' : World}
    (h : changeSlot crates env new id key w = (.ok, w')) {row : CredentialRow}
    (hrow : row ∈ w.store.credentials.rows) (htokened : Tokened row) :
    ∃ row' ∈ w'.store.credentials.rows, Becomes crates new (id = row.credentialId) row row' := by
  cases env with
  | none => cases h
  | some env =>
    have hresult := Ctap2.handleTpmCommand_result crates env
      (.passphraseChange id key new.2.1 new.1 new.2.2) w
    rw [changeSlot] at h
    generalize Ctap2.handleTpmCommand crates env _ w = r at h hresult
    obtain ⟨hstatus, rfl⟩ := Prod.mk.inj h
    cases hresult with
    | failed o ho hw =>
      rw [ho] at hstatus
      cases hstatus
    | @recoveryUpdated w' _ _ _ newPrivate _ _ row₀ slot oldKey kdfParams _ hmem hid hslot hkey hkdf
        _ stored =>
      by_cases heq : id = row.credentialId
      · -- the row that was changed is this one
        obtain rfl := w.store.credentials.eq_of_key_eq hrow hmem (heq.symm.trans hid.symm)
        obtain ⟨slot', token, hslot', htoken⟩ := htokened
        cases hslot.symm.trans hslot'
        refine ⟨Store.withRecovery _ _ row, by rw [stored]; exact Table.mem_update_self hrow hid,
          rfl, rfl, ?_, fun _ ↦ ?_⟩
        · exact tokened_withRecovery ⟨slot, token, hslot, htoken⟩
        · exact slotFor_withRecovery hcrates hslot htoken hkey hkdf
      · refine ⟨row, ?_, (Becomes.refl htokened).of_imp heq⟩
        rw [stored]
        exact (Table.mem_update_of_ne fun hid ↦ heq hid.symm).mpr hrow

theorem changeSlot_status {env : Option Env} {new : Passphrase} {id : List UInt8}
    {key : TpmCredential} {w : World} (h : (changeSlot crates env new id key w).1 ≠ .error) :
    (changeSlot crates env new id key w).1 = .ok := by
  cases env with
  | none => exact absurd rfl h
  | some env =>
    rw [changeSlot] at h ⊢
    dsimp only at h ⊢
    split
    · rfl
    · next hnone => exact absurd (if_neg hnone) h

theorem changeSlot_settings {env : Option Env} {new : Passphrase} {id : List UInt8}
    {key : TpmCredential} {w : World} :
    (changeSlot crates env new id key w).2.store.daemonPassphrase = w.store.daemonPassphrase := by
  cases env with
  | none => rfl
  | some env =>
    have haside : Ctap2.Aside w (Ctap2.handleTpmCommand crates env
        (.passphraseChange id key new.2.1 new.1 new.2.2) w).2 := Ctap2.handleTpmCommand_moves _ w
    exact haside.settings.daemonPassphrase

/-- **All slots.**  If there is no error among the results, the slots of the credentials listed are
for the new passphrase. -/
theorem changeSlots_ok (hcrates : crates.ReadsBack) {main : Nat → Option Env} {new : Passphrase}
    {n : Nat} {credentials : List StoredCtap2Credential} {w : World}
    (h : ∀ r ∈ (changeSlots crates main new n credentials w).1, r.2 ≠ .error) {row : CredentialRow}
    (hrow : row ∈ w.store.credentials.rows) (htokened : Tokened row) :
    ∃ row' ∈ (changeSlots crates main new n credentials w).2.store.credentials.rows,
      Becomes crates new (∃ c ∈ credentials, c.id = row.credentialId ∧ c.recovery.isSome)
        row row' := by
  induction credentials generalizing n w row with
  | nil =>
    refine ⟨row, hrow, (Becomes.refl htokened).of_imp ?_⟩
    rintro ⟨c, hc, -⟩
    cases hc
  | cons c credentials ih =>
    rw [changeSlots] at h ⊢
    cases hc : c.recovery with
    | none =>
      simp only [hc, List.forall_mem_cons] at h ⊢
      obtain ⟨row', hrow', hbecomes⟩ := ih h.2 hrow htokened
      refine ⟨row', hrow', hbecomes.of_imp ?_⟩
      rintro ⟨d, hd, hid, hsome⟩
      rcases List.mem_cons.mp hd with rfl | hd
      · rw [hc] at hsome
        cases hsome
      · exact ⟨d, hd, hid, hsome⟩
    | some recovery =>
      simp only [hc, List.forall_mem_cons] at h ⊢
      obtain ⟨hstatus, hrest⟩ := h
      have hok : changeSlot crates (main n) new c.id recovery.key w =
          (.ok, (changeSlot crates (main n) new c.id recovery.key w).2) :=
        Prod.ext (changeSlot_status hstatus) rfl
      obtain ⟨row₁, hrow₁, h₁⟩ := changeSlot_ok hcrates hok hrow htokened
      obtain ⟨row₂, hrow₂, h₂⟩ := ih hrest hrow₁ h₁.tokened
      refine ⟨row₂, hrow₂, (h₁.trans h₂).of_imp ?_⟩
      rintro ⟨d, hd, hid, hsome⟩
      rcases List.mem_cons.mp hd with rfl | hd
      · exact .inl hid
      · exact .inr ⟨d, hd, hid.trans h₁.credentialId.symm, hsome⟩

theorem changeSlots_settings {main : Nat → Option Env} {new : Passphrase} {n : Nat}
    {credentials : List StoredCtap2Credential} {w : World} :
    (changeSlots crates main new n credentials w).2.store.daemonPassphrase =
      w.store.daemonPassphrase := by
  induction credentials generalizing n w with
  | nil => rfl
  | cons c credentials ih =>
    rw [changeSlots]
    split
    · exact ih
    · exact ih.trans changeSlot_settings

/-- A slot that can be read has its token. -/
theorem tokened_of_recovery {row : CredentialRow} {recovery : Option StoredRecoverySlot}
    (h : Store.recoveryOfRow crates row.recovery = some recovery) (hsome : recovery.isSome) :
    Tokened row := by
  cases hslot : row.recovery with
  | none =>
    rw [hslot] at h
    cases h
    cases hsome
  | some slot =>
    cases htoken : slot.token with
    | none =>
      simp only [hslot, Store.recoveryOfRow, htoken] at h
      cases h
      cases hsome
    | some token => exact ⟨slot, token, hslot, htoken⟩

/-! ## The answer -/

/-- **The answer to a request.**  It says what happened, unless the new passphrase was saved — not
the same one again — and the credentials could not be listed. -/
theorem truthful_iff (crates : Crates) (hash : PassphraseHash) (hcrates : crates.ReadsBack)
    (hpassphrase : crates.ReadsPassphrase) (request : UpdateRequest) (x : Circumstances)
    (w : World) :
    Truthful crates hash request w.store (handleUpdatePassphrase crates hash request x w) ↔
      ∀ new, Saves crates hash request x w.store new →
        Listable crates request x w.store ∨ storedPassphrase crates w.store = some new := by
  have hend : UpdateEnd crates hash request x w _ :=
    handleUpdatePassphrase_end hpassphrase request x w
  generalize handleUpdatePassphrase crates hash request x w = r at hend
  cases hend with
  | early h =>
    refine ⟨fun _ new hnew ↦ absurd hnew (h new), fun _ ↦ ⟨fun _ _ ↦ ⟨rfl, rfl⟩, ?_⟩⟩
    rintro _ ⟨⟩
  | @unlisted new s h hstored hlist hrows =>
    constructor
    · intro htruthful new' hnew'
      cases hnew'.new.symm.trans h.new
      refine .inr ?_
      rw [← (htruthful.refused _ rfl).1]
      exact hstored
    · intro hcond
      refine ⟨fun _ _ ↦ ⟨?_, hrows⟩, by rintro _ ⟨⟩⟩
      exact hstored.trans ((hcond new h).resolve_left hlist).symm
  | @listed new s credentials h hstored hlist hcredentials hrows =>
    refine ⟨fun _ new' _ ↦ .inl hlist, fun _ ↦ ⟨by rintro _ ⟨⟩, ?_⟩⟩
    rintro _ ⟨⟩ hresults hroot
    refine ⟨new, newPassphrase_ok h.new, ?_, ?_⟩
    · rw [storedPassphrase, changeSlots_settings]
      exact hstored
    · intro row hrow hslot
      obtain ⟨hmem, hvisible, hprimary⟩ := Store.mem_selectCredentials.mp hrow
      rw [hroot, show filterUid 0 = none from rfl] at hcredentials
      obtain ⟨c, hc, hread⟩ := hcredentials.exists_right hrow
      have hdescribes := Store.describes_of_credentialOfRow hread
      obtain ⟨slot, hslot⟩ := Option.isSome_iff_exists.mp hslot
      rw [slotPassphrase, hdescribes.recovery] at hslot
      have hrecovery : c.recovery.isSome := by
        obtain ⟨_, hsome, -⟩ := Option.map_eq_some_iff.mp hslot
        exact Option.isSome_iff_exists.mpr ⟨_, hsome⟩
      rw [← hrows] at hmem
      obtain ⟨row', hrow', hbecomes⟩ := changeSlots_ok hcrates hresults hmem
        (tokened_of_recovery hdescribes.recovery hrecovery)
      refine ⟨row', Store.mem_selectCredentials.mpr ⟨hrow', rfl, ?_⟩, hbecomes.credentialId, ?_⟩
      · rw [hbecomes.primary]
        exact hprimary
      · exact hbecomes.slot (.inr ⟨c, hc, hdescribes.id, hrecovery⟩)

namespace Sample

open Ctap2.Sample

/-- Nothing goes wrong during a request. -/
def smooth : Circumstances := ⟨fun _ ↦ noFault, some fun _ ↦ 0, fun _ ↦ some (session 1000 0)⟩

/-- Packages that keep the daemon passphrase, with a code that tells the message of an ownerless
credential from all others. -/
def sealingPackages : Crates :=
  { keepingPackages [] with
    hmacSha256 _ m := List.replicate 32 (if m = Store.macMessage Store.Sample.ownerless
      then 1 else 0)
    length_hmacSha256 _ _ := List.length_replicate }

/-- The daemon of a user in whose store there is a credential of nobody. -/
def withOwnerless : World :=
  { start with
    store := (Store.saveCtap2Credentials sealingPackages noFault [Store.Sample.ownerless]
      .fresh).2 }

end Sample

/-- Another passphrase, once there is a credential: the answer is right, and the recovery slot has
moved from the old passphrase to the new one. -/
theorem truthful_change :
    let w := (after Sample.crates Sample.hash Sample.start Sample.setup).world
    let r := handleUpdatePassphrase Sample.crates Sample.hash ⟨0, some "one", "two"⟩
      Sample.smooth w
    (selectCredentials none w.store).map (slotPassphrase Sample.crates) =
        [some (List.replicate 32 1, Bytes.utf8 "one", .argon2idDefault)] ∧
      (selectCredentials none r.2.store).map (slotPassphrase Sample.crates) =
        [some (List.replicate 32 0, Bytes.utf8 "two", .argon2idDefault)] ∧
      Truthful Sample.crates Sample.hash ⟨0, some "one", "two"⟩ w.store r := by
  intro w r
  obtain ⟨hbefore, hafter⟩ :
      (selectCredentials none w.store).map (slotPassphrase Sample.crates) =
          [some (List.replicate 32 1, Bytes.utf8 "one", .argon2idDefault)] ∧
        (selectCredentials none r.2.store).map (slotPassphrase Sample.crates) =
          [some (List.replicate 32 0, Bytes.utf8 "two", .argon2idDefault)] := by
    decide +kernel
  refine ⟨hbefore, hafter, (truthful_iff _ _ (Ctap2.Sample.keepingPackages_readsBack _)
    (Ctap2.Sample.keepingPackages_readsPassphrase _) _ _ _).mpr fun _ _ ↦ .inl ?_⟩
  unfold Listable
  decide +kernel

/-- **Refused, and changed.**  A user sets the first passphrase, and nothing goes wrong but that
there is a credential of nobody, which the user cannot load.  The request is refused, and there is
a passphrase. -/
theorem refused_and_changed :
    let r := handleUpdatePassphrase Sample.sealingPackages Sample.hash ⟨1000, none, "one"⟩
      Sample.smooth Sample.withOwnerless
    r.1 = .refused .credentials ∧
      storedPassphrase Sample.sealingPackages Sample.withOwnerless.store = none ∧
      storedPassphrase Sample.sealingPackages r.2.store =
        some (List.replicate 32 0, Bytes.utf8 "one", .argon2idDefault) := by
  decide +kernel

end Management
end TpmFido2
