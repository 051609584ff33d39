import TpmFido2.Ctap2.Memory

/-!
# Rows that stay

Apart from deleteCredential and reset, no request is meant to remove a credential.  But the two
requests that change one, makeCredential and updateUserInformation, write the list in memory over
the whole table, and what is not in the list is gone.  The list is not always all there is: if a
single row cannot be read, loading fails for all of them, and a failed load leaves the list empty.

* **`rowsKept_of_complete`**: in runs in which those two requests only come when the list has every
  row of the store, whoever it belongs to, every row stays.
* `damaged_row_takes_all`: one row with a key that cannot be read, and the next registration removes
  it and every other row.

A row may change in the meantime: its counter, the data of its user, the encoding of its columns.
What has to stay is its `Identity`.
-/

set_option autoImplicit false

namespace TpmFido2
namespace Ctap2

open Handler

/-! ## The property -/

/-- What makes a row the credential it is: its names, its key and its recovery slot, as they can be
read. -/
structure Identity where
  id : List UInt8
  rpId : String
  discoverable : Bool
  key : Option TpmCredential
  recovery : Option (Option StoredRecoverySlot)
deriving DecidableEq

/-- The identity of a credential in memory. -/
def identityOf (c : Credential) : Identity :=
  ⟨c.id, c.rpId, c.discoverable, some c.key, some c.recovery⟩

section
variable (crates : Crates)

/-- The identity of a row. -/
def rowIdentity (row : CredentialRow) : Identity where
  id := row.credentialId
  rpId := row.rpId
  discoverable := row.discoverable
  key := row.primary.bind fun slot ↦ tpmKeyFromBlob crates slot.tpmKey slot.publicKey
  recovery := Store.recoveryOfRow crates row.recovery

/-- **Every row is still there.** -/
def RowsKept (s t : Store) : Prop :=
  ∀ row ∈ s.credentials.rows, ∃ row' ∈ t.credentials.rows,
    rowIdentity crates row' = rowIdentity crates row

instance (s t : Store) : Decidable (RowsKept crates s t) :=
  inferInstanceAs (Decidable (∀ row ∈ _, _))

/-- The event is neither a request to remove a credential nor a command of the management thread. -/
def sparesRows (event : Event) : Bool :=
  match event with
  | .cbor _ _ =>
    !(event.hasCommand .reset || (managementRequest crates event).any fun x ↦ x.2.2 = 6)
  | .tpm _ _ => false
  | _ => true

/-- Before the list is written over the table, it has every row of it. -/
def ListComplete (w : World) (event : Event) : Prop :=
  savesAll crates event → ∀ row ∈ w.store.credentials.rows, ∃ c ∈ w.auth.credentials,
    rowIdentity crates row = identityOf c

instance (w : World) (event : Event) : Decidable (ListComplete crates w event) :=
  inferInstanceAs (Decidable (_ → _))

end

variable {crates : Crates} {w w' : World} {event : Event}

/-! ## One step -/

theorem RowsKept.of_eq {s t : Store} (h : t.credentials = s.credentials) : RowsKept crates s t :=
  fun row hrow ↦ ⟨row, h ▸ hrow, rfl⟩

theorem RowsKept.trans {s t u : Store} (h₁ : RowsKept crates s t) (h₂ : RowsKept crates t u) :
    RowsKept crates s u := by
  intro row hrow
  obtain ⟨row₁, hrow₁, heq₁⟩ := h₁ row hrow
  obtain ⟨row₂, hrow₂, heq₂⟩ := h₂ row₁ hrow₁
  exact ⟨row₂, hrow₂, heq₂.trans heq₁⟩

theorem rowIdentity_of_describes {uid : Option UInt32} {row : CredentialRow} {c : Credential}
    (h : Store.Describes crates uid row c) : rowIdentity crates row = identityOf c := by
  obtain ⟨slot, version, hslot, -, hkey, -⟩ := h.primary
  rw [rowIdentity, identityOf, h.id, h.rpId, h.discoverable, h.recovery, hslot,
    Option.bind_some, hkey]

/-- **A row that is written from memory has the identity of the one it replaces.** -/
theorem rowIdentity_of_rowOf (hcodecs : crates.RoundTrips) (hcrates : crates.ReadsWritable)
    {row row' : CredentialRow} {c : Credential} (h : rowIdentity crates row = identityOf c)
    (hof : Store.RowOf crates c row') : rowIdentity crates row' = rowIdentity crates row := by
  have hkey : (row.primary.bind fun slot ↦ tpmKeyFromBlob crates slot.tpmKey slot.publicKey) =
      some c.key := congrArg Identity.key h
  obtain ⟨slot, -, hkey⟩ := Option.bind_eq_some_iff.mp hkey
  have hstorable : Store.Storable crates c :=
    storable_of_slots hcrates hkey (congrArg Identity.recovery h)
  obtain ⟨mac, hrow⟩ := hof
  have hread : Store.credentialOfRow crates none row' = some ⟨Store.withVersion c, mac⟩ :=
    Store.credentialOfRow_rowOfCredential hcodecs hstorable hrow fun _ ↦ rfl
  rw [h, rowIdentity_of_describes (Store.describes_of_credentialOfRow hread)]
  rfl

/-- Writing a complete list over the table. -/
theorem Saved.rowsKept (hcodecs : crates.RoundTrips) (hcrates : crates.ReadsWritable)
    {fault : StoreFault} {cs : List Credential} {s t : Store} {x : Option (List Credential)}
    (h : Saved crates fault cs s.credentials t.credentials x)
    (hcs : ∀ row ∈ s.credentials.rows, ∃ c ∈ cs, rowIdentity crates row = identityOf c) :
    RowsKept crates s t := by
  generalize ht : t.credentials = table at h
  cases h with
  | kept _ => exact .of_eq ht
  | committed hrows =>
    intro row hrow
    obtain ⟨c, hc, hidentity⟩ := hcs row hrow
    obtain ⟨row', hrow', hof⟩ := hrows.exists_right hc
    exact ⟨row', ht ▸ hrow', rowIdentity_of_rowOf hcodecs hcrates hidentity hof⟩

theorem Release.rowsKept {index : Nat} {x : Option Assertion} (h : Release w index x w') :
    RowsKept crates w.store w'.store := by
  cases h with
  | failed hsame _ => exact .of_eq hsame.stored
  | done _ _ _ _ stored _ _ =>
    intro row hrow
    rw [stored]
    refine ⟨_, Table.mem_update.mpr ⟨row, hrow, rfl⟩, ?_⟩
    split <;> rfl

/-- **Every step that writes a complete list, or none, keeps every row.** -/
theorem Effect.rowsKept (h : Effect crates w event w') (hcodecs : crates.RoundTrips)
    (hcrates : crates.ReadsWritable) (hspares : sparesRows crates event)
    (hcomplete : ListComplete crates w event) : RowsKept crates w.store w'.store := by
  cases h with
  | kept hsame _ _ _ => exact .of_eq hsame.stored
  | reloaded _ stored _ _ _ _ => exact .of_eq stored
  | asserted _ _ _ _ _ stored _ _ _ hrel _ => exact (RowsKept.of_eq stored).trans hrel.rowsKept
  | continued _ _ _ _ _ stored _ _ hrel _ => exact (RowsKept.of_eq stored).trans hrel.rowsKept
  | created he hp _ _ cached _ saved _ =>
    have hsaves : savesAll crates event := by simp [he, savesAll, Event.hasCommand, hp]
    refine saved.rowsKept hcodecs hcrates fun row hrow ↦ ?_
    obtain ⟨c, hc, hidentity⟩ := hcomplete hsaves row hrow
    exact ⟨c, by rw [cached]; exact List.mem_append_left _ hc, hidentity⟩
  | @renamed _ _ _ index user _ hsaves _ cached _ _ saved _ =>
    refine saved.rowsKept hcodecs hcrates fun row hrow ↦ ?_
    obtain ⟨c, hc, hidentity⟩ := hcomplete hsaves row hrow
    obtain ⟨i, hi⟩ := List.mem_iff_getElem?.mp hc
    -- the entry may be the one that was changed, and has the same identity then
    refine ⟨if index = i then withUser user c else c, ?_, ?_⟩
    · rw [cached]
      exact List.mem_of_getElem? (i := i) (by rw [List.getElem?_modify, hi]; rfl)
    · rw [hidentity]
      split <;> rfl
  | deleted _ htarget _ _ _ _ _ _ _ =>
    obtain ⟨env, request, hdelete⟩ : ∃ env request,
        managementRequest crates event = some (env, request, 6) := by
      unfold deletionTarget at htarget
      split at htarget
      · next hrequest =>
        split at htarget
        · next hn => exact ⟨_, _, hn ▸ hrequest⟩
        · cases htarget
      · cases htarget
    obtain ⟨_, _, _, rfl, -⟩ := managementRequest_eq_some hdelete
    simp [sparesRows, hdelete] at hspares
  | wiped hreset _ _ _ _ _ _ _ =>
    obtain ⟨env, payload, body, rfl, -⟩ := exists_payload_of_hasCommand hreset
    simp [sparesRows, hreset] at hspares
  | updated he htarget _ _ _ _ _ _ _ =>
    subst he
    unfold Event.tpmTarget at htarget
    split at htarget <;> cases htarget
    all_goals cases ‹_›; cases hspares
  | started _ _ stored _ _ _ _ => exact .of_eq stored

/-! ## Runs -/

/-- **Every row stays** in every run that only writes complete lists. -/
theorem rowsKept_of_complete (crates : Crates) (hcodecs : crates.RoundTrips)
    (hcrates : crates.ReadsWritable) (w : World) (events : List Event)
    (hspares : ∀ event ∈ events, sparesRows crates event)
    (hcomplete : ∀ t ∈ run crates w events, ListComplete crates t.before t.input) :
    RowsKept crates w.store (after crates w events).store := by
  refine Run.state_invariant (I := fun cur ↦ RowsKept crates w.store cur.store)
    (C := fun cur event ↦ sparesRows crates event ∧ ListComplete crates cur event) (.of_eq rfl)
    (fun cur event hcur hmet ↦ ?_) events
    fun t ht ↦ ⟨hspares _ (Run.input_mem_of_mem_transitions ht), hcomplete t ht⟩
  exact hcur.trans ((step_effect crates cur event).rowsKept hcodecs hcrates hmet.1 hmet.2)

namespace Sample

/-- The packages of the runs about rows that stay. -/
def retentionPackages : Crates :=
  strictPackages [Sample.makeCredential "", Sample.getAssertion "a"]

/-- A store with two credentials. -/
def twoCredentials : Store :=
  { (Store.saveCtap2Credentials retentionPackages noFault
      [(Store.Sample.credential 1 "a" 1).toCredential,
        (Store.Sample.credential 2 "b" 1).toCredential] .fresh).2 with
    daemonPassphrase := some [] }

/-- The same store after the key of the first was damaged. -/
def damagedStore : Store :=
  { twoCredentials with
    credentials := twoCredentials.credentials.update [1]
      (fun row ↦ { row with primary := row.primary.map fun slot ↦ { slot with tpmKey := [] } })
      fun _ ↦ rfl }

/-- The daemon on a store it cannot read when it starts. -/
def startUnread (s : Store) : World :=
  newAuthenticator retentionPackages
    { strictSession 1000 0 with store := fun _ ↦ { noFault with io := true } } (some "") s

/-- A registration. -/
def registration : Event := request (strictSession 1000 7) 0x01 (Sample.makeCredential "")

end Sample

open Sample in
/-- The rows could not be read at the start.  An authentication reads them, and the registration
after it keeps them. -/
theorem rowsKept_of_complete_reread :
    let events := [request (strictSession 1000 0) 0x02 (Sample.getAssertion "a"),
      Sample.registration]
    (startUnread twoCredentials).auth.credentials = [] ∧
      (∀ t ∈ run retentionPackages (startUnread twoCredentials) events, t.output.succeeded) ∧
      RowsKept retentionPackages (startUnread twoCredentials).store
        (after retentionPackages (startUnread twoCredentials) events).store := by
  intro events
  -- in one go, so that the run is computed only once
  obtain ⟨hunread, hsucceeded, hcomplete⟩ : (startUnread twoCredentials).auth.credentials = [] ∧
      (∀ t ∈ run retentionPackages (startUnread twoCredentials) events, t.output.succeeded) ∧
      ∀ t ∈ run retentionPackages (startUnread twoCredentials) events,
        ListComplete retentionPackages t.before t.input := by
    decide +kernel
  exact ⟨hunread, hsucceeded, rowsKept_of_complete retentionPackages
    (strictPackages_roundTrips _) (strictPackages_readsWritable _) _ events (by decide +kernel)
    hcomplete⟩

open Sample in
/-- The key of one row cannot be read, so none is loaded, and a registration leaves its own row
only. -/
theorem damaged_row_takes_all :
    let w := newAuthenticator retentionPackages (strictSession 1000 0) (some "") damagedStore
    (∃ e, (Store.loadCtap2Credentials retentionPackages noFault (some 1000) damagedStore).1 =
        .error e) ∧
      (step retentionPackages w Sample.registration).1.succeeded ∧
      damagedStore.credentials.rows.map CredentialRow.credentialId = [[1], [2]] ∧
      (step retentionPackages w Sample.registration).2.store.credentials.rows.map
        CredentialRow.credentialId = [credentialId 7] ∧
      ¬ RowsKept retentionPackages damagedStore
        (step retentionPackages w Sample.registration).2.store := by
  intro w
  have hload : Safe (Store.loadCtap2Credentials retentionPackages noFault (some 1000))
      damagedStore :=
    Store.loadCtap2Credentials_safe _ _
  obtain ⟨e, he⟩ := hload.exists_error (by decide +kernel)
  refine ⟨⟨e, congrArg Prod.fst he⟩, ?_⟩
  decide +kernel

end Ctap2
end TpmFido2
