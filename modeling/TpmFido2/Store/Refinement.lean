import TpmFido2.Lib.Run
import TpmFido2.Store.RoundTrip
import Mathlib.Logic.Function.Basic

/-!
# The store as a map

What the store is for is simple: it is a map from credential IDs to records (`RecordMap`).  Saving
replaces the map, and the other operations change the record of one ID or remove it
(`Operation.apply`).  That the database does the same is not: a record is spread over the columns of
three tables, one of the operations decodes a key blob and encodes it again, and the integrity code
of a row is made once, when the row is saved, and has to be right for whatever the later operations
make of the row.

The operations on one credential are all of one kind: they look at its row and then alter it or
give up (`onRow`, `Update.run_eq`).  So they are compared with the map one row at a time.  A row
`Represents` a record if it is the row that saving the record writes, with the code the key in the
key file gives; and the row an update leaves is the one that saving the updated record would have
written (`Update.act_represents`).  The relation is kept by every call (`Represented.step`), from
which everything about whole runs follows:

* **`refinesMap`**: after any run from an empty table, loading succeeds and lists the map; an update
  fails exactly if the map has nothing at its ID for it to change, and then leaves the store as it
  is; it does not touch the rows of other IDs, and updates of different IDs commute.

The calls of a run may fail.  A call whose statements fail has no effect, and neither has one that
panics, which `update_recovery_slot_async` does on parameters that have no PHC string
(`Update.Encodable`).
-/

set_option autoImplicit false

namespace TpmFido2
namespace Store

open Handler

/-! ## The operations -/

/-- What can be done to one credential. -/
inductive Update where
  | signCount (signCount : UInt32)
  | policy (policy : StoredPcrPolicy)
  | recovery (newPrivate newSalt newHash : List UInt8) (kdf : RecoveryKdf)
  | delete

/-- The operations on the credential tables that write. -/
inductive Operation where
  | save (credentials : List Credential)
  | update (id : List UInt8) (u : Update)

section
variable (crates : Crates)

/-- The function of the store that makes an update. -/
def Update.run (fault : StoreFault) (id : List UInt8) : Update → StoreM Unit
  | .signCount n => updateCtap2SignCount fault id n
  | .policy p => updateCtap2Policy fault id p
  | .recovery newPrivate newSalt newHash kdf =>
    updateRecoverySlot crates fault id newPrivate newSalt newHash kdf
  | .delete => deleteCtap2Credential fault id

/-- The function of the store that makes an operation. -/
def Operation.run (fault : StoreFault) : Operation → StoreM Unit
  | .save credentials => saveCtap2Credentials crates fault credentials
  | .update id u => u.run crates fault id

/-- One call: an operation, and what fails in it. -/
structure Call where
  fault : StoreFault
  operation : Operation

/-- A call as a step of a machine. -/
def call (s : Store) (c : Call) : Outcome StoreError Unit × Store :=
  c.operation.run crates c.fault s

/-! ## The map -/

/-- The records, by credential ID. -/
abbrev RecordMap := List UInt8 → Option Credential

/-- Whether a record has what an update changes: a recovery slot is not always there. -/
def Update.applies : Update → Credential → Bool
  | .recovery .., c => c.recovery.isSome
  | _, _ => true

/-- A recovery slot for another passphrase.  The label, the public area and the point stay. -/
def rekeyed (newPrivate newSalt newHash : List UInt8) (kdf : RecoveryKdf) (r : StoredRecoverySlot) :
    StoredRecoverySlot :=
  { r with
    passphraseSalt := newSalt
    passphraseHash := newHash
    kdf := kdf
    key := ⟨newPrivate, r.key.publicArea, r.key.publicKeyX, r.key.publicKeyY, some newHash⟩ }

/-- What an update makes of a record, with the fields it changes. -/
def Update.result : Update → Credential → Option Credential
  | .signCount n, c => some { c with signCount := n }
  | .policy p, c => some { c with policy := some p }
  | .recovery newPrivate newSalt newHash kdf, c =>
    some { c with recovery := c.recovery.map (rekeyed newPrivate newSalt newHash kdf) }
  | .delete, _ => none

/-- What an operation makes of the records. -/
def Operation.apply (m : RecordMap) : Operation → RecordMap
  | .save credentials => fun id ↦ credentials.find? fun c ↦ c.id = id
  | .update id u => if (m id).any u.applies then Function.update m id ((m id).bind u.result) else m

/-- The parameters have a PHC string, where the update writes one. -/
def Update.Encodable : Update → Prop
  | .recovery _ newSalt newHash kdf => (kdfParamsToString crates kdf newSalt newHash).isSome
  | _ => True

/-- The statements of the call are carried out, and nothing panics before them. -/
def Call.TakesEffect (c : Call) : Prop :=
  ¬ (c.fault.io ∨ c.fault.statement) ∧
    match c.operation with
    | .save _ => True
    | .update _ u => u.Encodable crates

instance (u : Update) : Decidable (u.Encodable crates) := by
  cases u <;> unfold Update.Encodable <;> infer_instance

instance (c : Call) : Decidable (c.TakesEffect crates) := by
  unfold Call.TakesEffect
  cases c.operation <;> infer_instance

/-- What a call makes of the records. -/
def recordsAfter (m : RecordMap) (c : Call) : RecordMap :=
  if c.TakesEffect crates then c.operation.apply m else m

/-- The policies written have the version that is written with them, and what is saved can be:
different IDs, points of P-256, and PHC strings. -/
def Operation.Admissible : Operation → Prop
  | .save credentials => (credentials.map (·.id)).Nodup ∧
    ∀ c ∈ credentials, Storable crates c ∧
      ∀ p, c.policy = some p → p.policyVersion = StoredPcrPolicy.currentVersion
  | .update _ (.policy p) => p.policyVersion = StoredPcrPolicy.currentVersion
  | .update _ _ => True

/-! ## The property -/

/-- A list has the records of the map and no others, each once, in the order of the query. -/
structure Lists (m : RecordMap) (cs : List Credential) : Prop where
  nodup : (cs.map (·.id)).Nodup
  sorted : cs.Pairwise credentialLe
  mem : ∀ id c, m id = some c ↔ c ∈ cs ∧ c.id = id

/-- The store does what the map does. -/
structure RefinesMap (s : Store) (m : RecordMap) : Prop where
  /-- Loading succeeds and lists the map. -/
  loads : ∀ load : StoreFault, ¬ load.io → ∃ loaded,
    (loadCtap2Credentials crates load none s).1 = .ok loaded ∧ Lists m (loaded.map (·.toCredential))
  /-- An update returns an error exactly if there is nothing to change. -/
  fails : ∀ (fault : StoreFault) id (u : Update), ¬ (fault.io ∨ fault.statement) →
    (Operation.update id u).Admissible crates →
      ((∃ e, (u.run crates fault id s).1 = .error e) ↔ ¬ (m id).any u.applies)
  /-- Otherwise it succeeds. -/
  succeeds : ∀ (fault : StoreFault) id (u : Update), ¬ (fault.io ∨ fault.statement) →
    (Operation.update id u).Admissible crates → u.Encodable crates → (m id).any u.applies →
      (u.run crates fault id s).1 = .ok ()
  /-- An update that does not succeed changes nothing. -/
  unchanged : ∀ (fault : StoreFault) id (u : Update), (u.run crates fault id s).1 ≠ .ok () →
    (u.run crates fault id s).2 = s
  /-- An update changes nothing at another ID. -/
  frame : ∀ (fault : StoreFault) id (u : Update) id', id' ≠ id →
    (u.run crates fault id s).2.credentials.find id' = s.credentials.find id'
  /-- Updates of different IDs commute: what they return and what they leave is the same in either
  order. -/
  commute : ∀ (fault fault' : StoreFault) id id' (u u' : Update), id ≠ id' →
    (u.run crates fault id s).1 = (u.run crates fault id (u'.run crates fault' id' s).2).1 ∧
      (u'.run crates fault' id' (u.run crates fault id s).2).2 =
        (u.run crates fault id (u'.run crates fault' id' s).2).2

end

variable {crates : Crates}

/-! ## Operations on one row -/

/-- An operation that looks at the row of one credential, and alters it or gives up. -/
def onRow (id : List UInt8)
    (act : Option CredentialRow →
      Outcome StoreError (Table.Alteration CredentialRow.credentialId)) :
    StoreM Unit := fun s ↦
  match act (s.credentials.find id) with
  | .ok a => (.ok (), { s with credentials := s.credentials.alter id a })
  | .error e => (.error e, s)
  | .panicked => (.panicked, s)

section
variable {act act' : Option CredentialRow →
  Outcome StoreError (Table.Alteration CredentialRow.credentialId)} {id id' : List UInt8}

theorem onRow_unchanged {s : Store} (h : (onRow id act s).1 ≠ .ok ()) : (onRow id act s).2 = s := by
  rw [onRow] at h ⊢
  cases hact : act (s.credentials.find id) with
  | ok a =>
    rw [hact] at h
    exact absurd rfl h
  | error e => rfl
  | panicked => rfl

theorem find_onRow_of_ne (h : id' ≠ id) (s : Store) :
    (onRow id act s).2.credentials.find id' = s.credentials.find id' := by
  rw [onRow]
  cases act (s.credentials.find id) with
  | ok a => exact Table.find_alter_of_ne _ a h
  | error e => rfl
  | panicked => rfl

/-- What an operation returns depends on its own row only. -/
theorem onRow_fst_congr {s t : Store} (h : s.credentials.find id = t.credentials.find id) :
    (onRow id act s).1 = (onRow id act t).1 := by
  rw [onRow, h]
  unfold onRow
  cases act (t.credentials.find id) <;> rfl

/-- **Operations on different rows commute.** -/
theorem onRow_comm (h : id ≠ id') (s : Store) :
    (onRow id' act' (onRow id act s).2).2 = (onRow id act (onRow id' act' s).2).2 := by
  have hfind : (onRow id act s).2.credentials.find id' = _ := find_onRow_of_ne h.symm s
  have hfind' : (onRow id' act' s).2.credentials.find id = _ := find_onRow_of_ne h s
  unfold onRow at hfind hfind' ⊢
  rw [hfind, hfind']
  cases act (s.credentials.find id) with
  | ok a =>
    cases act' (s.credentials.find id') with
    | ok a' => dsimp only; rw [Table.alter_comm _ a a' h]
    | error e => rfl
    | panicked => rfl
  | error e => cases act' (s.credentials.find id') <;> rfl
  | panicked => cases act' (s.credentials.find id') <;> rfl

end

theorem credentialId_withSignCount (n : UInt32) (row : CredentialRow) :
    (withSignCount n row).credentialId = row.credentialId := rfl

theorem credentialId_withPolicy (p : StoredPcrPolicy) (row : CredentialRow) :
    (withPolicy p row).credentialId = row.credentialId := rfl

theorem credentialId_withRecovery (blob : List UInt8) (kdfParams : String) (row : CredentialRow) :
    (withRecovery blob kdfParams row).credentialId = row.credentialId := rfl

/-- What an update does, given the row it finds. -/
def Update.act (crates : Crates) (fault : StoreFault) (u : Update) (row : Option CredentialRow) :
    Outcome StoreError (Table.Alteration CredentialRow.credentialId) :=
  match u with
  | .signCount n => statement row (fun _ ↦ true) (.update _ (credentialId_withSignCount n))
  | .policy p =>
    statement row (fun row ↦ row.primary.isSome) (.update _ (credentialId_withPolicy p))
  | .recovery newPrivate newSalt newHash kdf =>
    if fault.io then .error .io
    else
      match row.bind (·.recovery) with
      | none => .error .keyslotNotFound
      | some slot =>
        match tpmKeyFromBlob crates slot.tpmKey slot.publicKey with
        | none => .error .decoding
        | some oldKey =>
          match kdfParamsToString crates kdf newSalt newHash with
          | none => .panicked
          | some kdfParams =>
            if fault.statement then .error .io
            else .ok (.update _ (credentialId_withRecovery (tpmKeyToBlob crates
              { oldKey with privateArea := newPrivate, authValue := some newHash }) kdfParams))
  | .delete => statement row (fun _ ↦ true) (.delete _)
where
  /-- A single statement, refused unless there is a row and it applies to it. -/
  statement (row : Option CredentialRow) (applies : CredentialRow → Bool)
      (a : Table.Alteration CredentialRow.credentialId) :
      Outcome StoreError (Table.Alteration CredentialRow.credentialId) :=
    if fault.io ∨ fault.statement then .error .io
    else if row.any applies then .ok a
    else .error (.rowsAffected 0)

theorem updateRow_eq_onRow (fault : StoreFault) (id : List UInt8) (applies : CredentialRow → Bool)
    (f : CredentialRow → CredentialRow) (hf : ∀ r, (f r).credentialId = r.credentialId) :
    updateRow fault id applies f hf =
      onRow id fun row ↦ Update.act.statement fault row applies (.update f hf) := by
  funext s
  rw [updateRow_apply, onRow, Update.act.statement, Table.update_eq_alter]
  split
  · rfl
  · split <;> rfl

/-- **An update is an operation on one row.** -/
theorem Update.run_eq (fault : StoreFault) (id : List UInt8) (u : Update) :
    u.run crates fault id = onRow id (u.act crates fault) := by
  cases u with
  | signCount n => exact updateRow_eq_onRow fault id _ _ _
  | policy p => exact updateRow_eq_onRow fault id _ _ _
  | delete =>
    funext s
    rw [Update.run, deleteCtap2Credential_apply, onRow, Update.act, Update.act.statement,
      Table.delete_eq_alter]
    split
    · rfl
    · cases s.credentials.find id <;> rfl
  | recovery newPrivate newSalt newHash kdf =>
    funext s
    rw [Update.run, updateRecoverySlot, onRow, Update.act]
    by_cases hio : fault.io = true
    · rw [bind_of_error _ (throwIf_of hio s), if_pos hio]
    · rw [bind_of_ok _ (throwIf_of_not hio s), bind_of_ok _ (get_apply s), if_neg hio]
      cases (s.credentials.find id).bind (·.recovery) with
      | none => rfl
      | some slot =>
        rw [bind_of_ok _ (show ofOption (some slot) _ s = _ from rfl)]
        dsimp only
        cases tpmKeyFromBlob crates slot.tpmKey slot.publicKey with
        | none => rfl
        | some oldKey =>
          rw [bind_of_ok _ (show ofOption (some oldKey) _ s = _ from rfl)]
          dsimp only
          cases kdfParamsToString crates kdf newSalt newHash with
          | none => rfl
          | some kdfParams =>
            rw [bind_of_ok _ (show expect (some kdfParams) s = _ from rfl)]
            dsimp only
            by_cases hstatement : fault.statement = true
            · rw [bind_of_error _ (throwIf_of hstatement s), if_pos hstatement]
            · rw [bind_of_ok _ (throwIf_of_not hstatement s), if_neg hstatement, modify_apply]
              exact congrArg (fun table ↦ (Outcome.ok (), { s with credentials := table }))
                (Table.update_eq_alter s.credentials id _ _)

/-! ## Rows and records -/

/-- The row is the one that saving the record writes, and can be read. -/
structure Represents (crates : Crates) (s : Store) (c : Credential) (row : CredentialRow) :
    Prop where
  sealed : SealedRow crates s c row
  storable : Storable crates c
  version : ∀ p, c.policy = some p → p.policyVersion = StoredPcrPolicy.currentVersion

/-- The table has a row for each record of the map, and no others. -/
def Represented (crates : Crates) (s : Store) (m : RecordMap) : Prop :=
  ∀ id, Option.Rel (Represents crates s) (m id) (s.credentials.find id)

section
variable {c : Credential} {mac : Option (List UInt8)} {row : CredentialRow} {s : Store}

theorem rowOfCredential_signCount (n : UInt32) (h : rowOfCredential crates mac c = some row) :
    rowOfCredential crates mac { c with signCount := n } = some (withSignCount n row) := by
  obtain ⟨primary, hprimary, h₁⟩ := Option.bind_eq_some_iff.mp h
  obtain ⟨recovery, hrecovery, h₂⟩ := Option.bind_eq_some_iff.mp h₁
  cases h₂
  exact Option.bind_eq_some_iff.mpr ⟨primary, hprimary,
    Option.bind_eq_some_iff.mpr ⟨recovery, hrecovery, rfl⟩⟩

theorem rowOfCredential_policy (p : StoredPcrPolicy) (h : rowOfCredential crates mac c = some row) :
    rowOfCredential crates mac { c with policy := some p } = some (withPolicy p row) := by
  obtain ⟨primary, hprimary, h₁⟩ := Option.bind_eq_some_iff.mp h
  obtain ⟨recovery, hrecovery, h₂⟩ := Option.bind_eq_some_iff.mp h₁
  cases h₂
  obtain ⟨publicKey, hpoint, h₃⟩ := Option.bind_eq_some_iff.mp hprimary
  cases h₃
  exact Option.bind_eq_some_iff.mpr ⟨_, Option.bind_eq_some_iff.mpr ⟨publicKey, hpoint, rfl⟩,
    Option.bind_eq_some_iff.mpr ⟨recovery, hrecovery, rfl⟩⟩

/-- Another recovery key and other parameters, with the same point and the same labels. -/
theorem rowOfCredential_recovery {r : StoredRecoverySlot} (hr : c.recovery = some r)
    {newPrivate newSalt newHash : List UInt8} {kdf : RecoveryKdf} {kdfParams : String}
    (hkdf : kdfParamsToString crates kdf newSalt newHash = some kdfParams)
    (h : rowOfCredential crates mac c = some row) :
    rowOfCredential crates mac
        { c with recovery := some (rekeyed newPrivate newSalt newHash kdf r) } =
      some (withRecovery (tpmKeyToBlob crates (rekeyed newPrivate newSalt newHash kdf r).key)
        kdfParams row) := by
  obtain ⟨primary, hprimary, h₁⟩ := Option.bind_eq_some_iff.mp h
  obtain ⟨recovery, hrecovery, h₂⟩ := Option.bind_eq_some_iff.mp h₁
  cases h₂
  rw [hr] at hrecovery
  obtain ⟨slot, hslot, rfl⟩ := Option.map_eq_some_iff.mp hrecovery
  obtain ⟨publicKey, hpoint, h₃⟩ := Option.bind_eq_some_iff.mp hslot
  obtain ⟨_, -, h₄⟩ := Option.bind_eq_some_iff.mp h₃
  cases h₄
  exact Option.bind_eq_some_iff.mpr ⟨primary, hprimary, Option.bind_eq_some_iff.mpr ⟨_,
    Option.map_eq_some_iff.mpr ⟨_, Option.bind_eq_some_iff.mpr ⟨publicKey, hpoint,
      Option.bind_eq_some_iff.mpr ⟨kdfParams, hkdf, rfl⟩⟩, rfl⟩, rfl⟩⟩

/-- The slot of a row, and what decoding its key gives. -/
theorem Represents.recovery (hcodecs : crates.RoundTrips) (h : Represents crates s c row)
    {r : StoredRecoverySlot} (hr : c.recovery = some r) :
    ∃ slot, row.recovery = some slot ∧
      tpmKeyFromBlob crates slot.tpmKey slot.publicKey = some r.key := by
  have hrecovery := h.sealed.rowOf.records.recovery
  rw [hr] at hrecovery
  obtain ⟨slot, hslot, hrow⟩ := Option.map_eq_some_iff.mp hrecovery
  obtain ⟨publicKey, hpoint, h₃⟩ := Option.bind_eq_some_iff.mp hslot
  obtain ⟨_, -, h₄⟩ := Option.bind_eq_some_iff.mp h₃
  cases h₄
  exact ⟨_, hrow.symm, tpmKeyFromBlob_tpmKeyToBlob hcodecs (h.storable.recoveryKey r hr) hpoint⟩

theorem Represents.no_recovery (h : Represents crates s c row) (hr : c.recovery = none) :
    row.recovery = none := by
  have hrecovery := h.sealed.rowOf.records.recovery
  rw [hr] at hrecovery
  exact (Option.some.inj hrecovery).symm

end

/-! ## One update -/

/-- What an update does to the row of a record `o`. -/
inductive ActSpec (crates : Crates) (s : Store) (u : Update) (o : Option Credential)
    (row : Option CredentialRow) :
    Outcome StoreError (Table.Alteration CredentialRow.credentialId) → Prop where
  | absent (habsent : ¬ o.any u.applies) (e : StoreError) : ActSpec crates s u o row (.error e)
  | panicked (hpresent : o.any u.applies) (hkdf : ¬ u.Encodable crates) :
    ActSpec crates s u o row .panicked
  | done (hpresent : o.any u.applies) (hkdf : u.Encodable crates)
    (a : Table.Alteration CredentialRow.credentialId)
    (hrow : Option.Rel (Represents crates s) (o.bind u.result) (row.bind a.change)) :
    ActSpec crates s u o row (.ok a)

/-- **An update of the row is the update of the record.** -/
theorem Update.act_represents (hcodecs : crates.RoundTrips) {fault : StoreFault}
    (hfault : ¬ (fault.io ∨ fault.statement)) {s : Store} {id : List UInt8} {u : Update}
    (hu : (Operation.update id u).Admissible crates) {o : Option Credential}
    {row : Option CredentialRow} (h : Option.Rel (Represents crates s) o row) :
    ActSpec crates s u o row (u.act crates fault row) := by
  have hio : ¬ fault.io = true := fun h ↦ hfault (.inl h)
  have hstatement : ¬ fault.statement = true := fun h ↦ hfault (.inr h)
  cases h with
  | none =>
    -- there is no row
    have habsent : ¬ (none : Option Credential).any u.applies := Bool.false_ne_true
    have hrefused (applies : CredentialRow → Bool) (a) :
        Update.act.statement fault none applies a = .error (.rowsAffected 0) := by
      rw [Update.act.statement, if_neg hfault]
      rfl
    cases u with
    | signCount n => rw [Update.act, hrefused]; exact .absent habsent _
    | policy p => rw [Update.act, hrefused]; exact .absent habsent _
    | delete => rw [Update.act, hrefused]; exact .absent habsent _
    | recovery newPrivate newSalt newHash kdf =>
      rw [Update.act, if_neg hio]; exact .absent habsent _
  | @some c row h =>
    obtain ⟨mac, hrow, hmac⟩ := h.sealed
    cases u with
    | signCount n =>
      rw [Update.act, Update.act.statement, if_neg hfault, Option.any_some, if_pos rfl]
      refine .done (by rfl) (by exact trivial) _ (.some ⟨?_, ?_, h.version⟩)
      · exact ⟨mac, rowOfCredential_signCount n hrow, hmac⟩
      · exact ⟨h.storable.key, h.storable.recoveryKey, h.storable.phc⟩
    | policy p =>
      rw [Update.act, Update.act.statement, if_neg hfault, Option.any_some,
        if_pos (primary_of_rowOf h.sealed.rowOf)]
      refine .done (by rfl) (by exact trivial) _ (.some ⟨?_, ?_, ?_⟩)
      · exact ⟨mac, rowOfCredential_policy p hrow, hmac⟩
      · exact ⟨h.storable.key, h.storable.recoveryKey, h.storable.phc⟩
      · rintro q ⟨⟩
        exact hu
    | delete =>
      rw [Update.act, Update.act.statement, if_neg hfault, Option.any_some, if_pos rfl]
      exact .done (by rfl) (by exact trivial) _ .none
    | recovery newPrivate newSalt newHash kdf =>
      rw [Update.act, if_neg hio, Option.bind_some]
      cases hr : c.recovery with
      | none =>
        rw [h.no_recovery hr]
        refine .absent ?_ _
        rw [Option.any_some, Update.applies, hr]
        exact Bool.false_ne_true
      | some r =>
        obtain ⟨slot, hslot, hkey⟩ := h.recovery hcodecs hr
        have hpresent : (some c).any (Update.recovery newPrivate newSalt newHash kdf).applies := by
          rw [Option.any_some, Update.applies, hr, Option.isSome_some]
        rw [hslot]
        dsimp only
        rw [hkey]
        dsimp only
        cases hkdf : kdfParamsToString crates kdf newSalt newHash with
        | none =>
          refine .panicked hpresent ?_
          rw [Update.Encodable, hkdf]
          exact Bool.false_ne_true
        | some kdfParams =>
          dsimp only
          rw [if_neg hstatement]
          refine .done hpresent ?_ _ ?_
          · rw [Update.Encodable, hkdf]
            rfl
          · have hresult : (Update.recovery newPrivate newSalt newHash kdf).result c =
                some { c with recovery := some (rekeyed newPrivate newSalt newHash kdf r) } := by
              rw [Update.result, hr, Option.map_some]
            rw [Option.bind_some, hresult]
            refine .some ⟨⟨mac, rowOfCredential_recovery hr hkdf hrow, hmac⟩, ?_, h.version⟩
            refine ⟨h.storable.key, ?_, ?_⟩
            · rintro _ ⟨⟩
              have hpoint := h.storable.recoveryKey r hr
              exact ⟨hpoint.point, hpoint.lengthX, hpoint.lengthY⟩
            · rintro _ ⟨⟩
              exact Option.isSome_of_eq_some hkdf

/-! ## Runs -/

section
variable {s : Store} {m : RecordMap}

theorem Represents.mono {t : Store} {c : Credential} {row : CredentialRow}
    (h : Represents crates s c row) (hst : KeyStep s t) : Represents crates t c row :=
  ⟨h.sealed.mono hst, h.storable, h.version⟩

theorem Represents.id {c : Credential} {row : CredentialRow} (h : Represents crates s c row) :
    c.id = row.credentialId :=
  h.sealed.rowOf.records.id.symm

/-- What saving writes represents what is saved. -/
theorem represented_saved {cs : List Credential}
    (hcs : ∀ c ∈ cs, Storable crates c ∧
      ∀ p, c.policy = some p → p.policyVersion = StoredPcrPolicy.currentVersion)
    (hrows : List.Forall₂ (SealedRow crates s) cs s.credentials.rows) :
    Represented crates s fun id ↦ cs.find? fun c ↦ c.id = id := by
  intro id
  dsimp only
  have hrepresents {c : Credential} {row : CredentialRow} (hc : c ∈ cs)
      (hrow : SealedRow crates s c row) : Represents crates s c row :=
    ⟨hrow, (hcs c hc).1, (hcs c hc).2⟩
  cases hfind : cs.find? fun c ↦ c.id = id with
  | none =>
    have hnone : s.credentials.find id = none := by
      rw [Table.find_eq_none_iff]
      intro row hrow hid
      obtain ⟨c, hc, hsealed⟩ := hrows.exists_left hrow
      refine List.find?_eq_none.mp hfind c hc (decide_eq_true ?_)
      rw [(hrepresents hc hsealed).id, hid]
    rw [hnone]
    exact .none
  | some c =>
    have hc := List.mem_of_find?_eq_some hfind
    obtain ⟨row, hrow, hsealed⟩ := hrows.exists_right hc
    have hid : row.credentialId = id := by
      rw [← (hrepresents hc hsealed).id]
      simpa using List.find?_some hfind
    rw [(Table.find_eq_some_iff _ id row).mpr ⟨hrow, hid⟩]
    exact .some (hrepresents hc hsealed)

/-- A step of the store that leaves the credential tables alone. -/
theorem Represented.of_eq {t : Store} (h : Represented crates s m)
    (hcredentials : t.credentials = s.credentials) (hkey : KeyStep s t) :
    Represented crates t m := by
  intro id
  rw [hcredentials]
  exact (h id).imp fun _ _ h ↦ h.mono hkey

theorem Represented.fails_iff (hcodecs : crates.RoundTrips) (h : Represented crates s m)
    {fault : StoreFault} (hfault : ¬ (fault.io ∨ fault.statement)) {id : List UInt8} {u : Update}
    (hu : (Operation.update id u).Admissible crates) :
    (∃ e, (u.run crates fault id s).1 = .error e) ↔ ¬ (m id).any u.applies := by
  have hact := Update.act_represents hcodecs hfault hu (h id)
  rw [Update.run_eq, onRow]
  generalize u.act crates fault (s.credentials.find id) = r at hact
  cases hact with
  | absent habsent e => exact iff_of_true ⟨e, rfl⟩ habsent
  | panicked hpresent hkdf =>
    refine iff_of_false ?_ (not_not_intro hpresent)
    rintro ⟨e, ⟨⟩⟩
  | done hpresent hkdf a hrow =>
    refine iff_of_false ?_ (not_not_intro hpresent)
    rintro ⟨e, ⟨⟩⟩

theorem Represented.succeeds (hcodecs : crates.RoundTrips) (h : Represented crates s m)
    {fault : StoreFault} (hfault : ¬ (fault.io ∨ fault.statement)) {id : List UInt8} {u : Update}
    (hu : (Operation.update id u).Admissible crates) (hkdf : u.Encodable crates)
    (hpresent : (m id).any u.applies) : (u.run crates fault id s).1 = .ok () := by
  have hact := Update.act_represents hcodecs hfault hu (h id)
  rw [Update.run_eq, onRow]
  generalize u.act crates fault (s.credentials.find id) = r at hact
  cases hact with
  | absent habsent e => exact absurd hpresent habsent
  | panicked _ hnot => exact absurd hkdf hnot
  | done _ _ a hrow => rfl

/-- An update that is carried out changes the table as it changes the map. -/
theorem Represented.update (hcodecs : crates.RoundTrips) (h : Represented crates s m)
    {fault : StoreFault} (hfault : ¬ (fault.io ∨ fault.statement)) {id : List UInt8} {u : Update}
    (hu : (Operation.update id u).Admissible crates) (hkdf : u.Encodable crates) :
    Represented crates (u.run crates fault id s).2 ((Operation.update id u).apply m) := by
  have hact := Update.act_represents hcodecs hfault hu (h id)
  rw [Update.run_eq, onRow, Operation.apply]
  generalize u.act crates fault (s.credentials.find id) = r at hact
  cases hact with
  | absent habsent e =>
    rw [if_neg habsent]
    exact h
  | panicked _ hnot => exact absurd hkdf hnot
  | done hpresent _ a hrow =>
    rw [if_pos hpresent]
    intro id'
    by_cases hid : id' = id
    · subst hid
      rw [Function.update_self]
      exact (Table.find_alter_self _ _ a).symm ▸ hrow.imp fun _ _ h ↦ h.mono (.refl _)
    · rw [Function.update_of_ne hid]
      exact (Table.find_alter_of_ne _ a hid).symm ▸ (h id').imp fun _ _ h ↦ h.mono (.refl _)

/-- An update that succeeds is carried out. -/
theorem Update.takesEffect {fault : StoreFault} {id : List UInt8} {u : Update}
    (h : (u.run crates fault id s).1 = .ok ()) :
    ¬ (fault.io ∨ fault.statement) ∧ u.Encodable crates := by
  have hstatement (row : Option CredentialRow) (applies : CredentialRow → Bool)
      (a a' : Table.Alteration CredentialRow.credentialId)
      (hact : Update.act.statement fault row applies a = .ok a') :
      ¬ (fault.io ∨ fault.statement) := by
    intro hfault
    rw [Update.act.statement, if_pos hfault] at hact
    cases hact
  rw [Update.run_eq, onRow] at h
  cases hact : u.act crates fault (s.credentials.find id) with
  | error e => rw [hact] at h; cases h
  | panicked => rw [hact] at h; cases h
  | ok a =>
    cases u with
    | signCount n => exact ⟨hstatement _ _ _ _ hact, trivial⟩
    | policy p => exact ⟨hstatement _ _ _ _ hact, trivial⟩
    | delete => exact ⟨hstatement _ _ _ _ hact, trivial⟩
    | recovery newPrivate newSalt newHash kdf =>
      rw [Update.act] at hact
      split at hact
      · cases hact
      · next hio =>
        split at hact
        · cases hact
        · split at hact
          · cases hact
          · split at hact
            · cases hact
            · next hkdf =>
              split at hact
              · cases hact
              · next hnot => exact ⟨not_or.mpr ⟨hio, hnot⟩, Option.isSome_of_eq_some hkdf⟩

theorem saveCtap2Credentials_works {fault : StoreFault} {cs : List Credential}
    (h : (saveCtap2Credentials crates fault cs s).1 = .ok ()) :
    ¬ (fault.io ∨ fault.statement) := by
  obtain ⟨_, s₁, hio, h₁⟩ := bind_ok (Prod.ext h rfl)
  obtain ⟨_, s₂, -, h₂⟩ := bind_ok (transaction_ok h₁)
  obtain ⟨_, s₃, -, h₃⟩ := bind_ok h₂
  exact not_or.mpr ⟨(throwIf_ok hio).1, (throwIf_ok h₃).1⟩

/-- **One call.**  The table keeps representing the map. -/
theorem Represented.step (hcodecs : crates.RoundTrips) (h : Represented crates s m) {c : Call}
    (hc : c.operation.Admissible crates) :
    Represented crates (call crates s c).2 (recordsAfter crates m c) := by
  obtain ⟨fault, operation⟩ := c
  cases operation with
  | save cs =>
    have hmoves : Moves SameSettings (saveCtap2Credentials crates fault cs) :=
      saveCtap2Credentials_moves cs
    rcases saveCtap2Credentials_sealed crates fault cs s with ⟨hnone, hsame⟩ | ⟨hok, hrows⟩
    · -- saving what can be saved fails only with the database
      have hnot : ¬ Call.TakesEffect crates ⟨fault, .save cs⟩ := by
        rintro ⟨hworks, -⟩
        rw [saveCtap2Credentials_succeeds hworks
          (fun c hmem ↦ isSome_rowOfCredential (hc.2 c hmem).1) hc.1 s] at hnone
        cases hnone
      rw [recordsAfter, if_neg hnot]
      exact h.of_eq hsame (hmoves s).key
    · rw [recordsAfter, if_pos ⟨saveCtap2Credentials_works hok, trivial⟩]
      exact represented_saved hc.2 hrows
  | update id u =>
    by_cases heffect : Call.TakesEffect crates ⟨fault, .update id u⟩
    · rw [recordsAfter, if_pos heffect]
      exact h.update hcodecs heffect.1 hc heffect.2
    · have hsame : (u.run crates fault id s).2 = s := by
        have hnot : (u.run crates fault id s).1 ≠ .ok () := fun hok ↦
          heffect (Update.takesEffect hok)
        rw [Update.run_eq] at hnot ⊢
        exact onRow_unchanged hnot
      rw [recordsAfter, if_neg heffect, call, Operation.run, hsame]
      exact h

/-- **Whole runs.** -/
theorem represented_run (hcodecs : crates.RoundTrips) (h : Represented crates s m)
    {calls : List Call}
    (hcalls : ∀ c ∈ calls, c.operation.Admissible crates) :
    Represented crates (Run.final (call crates) s calls) (calls.foldl (recordsAfter crates) m) := by
  induction calls generalizing s m with
  | nil => exact h
  | cons c calls ih =>
    rw [List.forall_mem_cons] at hcalls
    exact ih (h.step hcodecs hcalls.1) hcalls.2

/-! ## What a represented map says -/

/-- The row of a record, and the record of a row. -/
theorem Represented.row (h : Represented crates s m) {row : CredentialRow}
    (hrow : row ∈ s.credentials.rows) :
    ∃ c, m row.credentialId = some c ∧ Represents crates s c row := by
  have hrel := h row.credentialId
  rw [(Table.find_eq_some_iff _ _ _).mpr ⟨hrow, rfl⟩] at hrel
  cases hm : m row.credentialId with
  | none => rw [hm] at hrel; cases hrel
  | some c =>
    rw [hm] at hrel
    cases hrel with
    | some hc => exact ⟨c, rfl, hc⟩

theorem Represented.record (h : Represented crates s m) {id : List UInt8} {c : Credential}
    (hm : m id = some c) :
    ∃ row ∈ s.credentials.rows, row.credentialId = id ∧ Represents crates s c row := by
  have hrel := h id
  rw [hm] at hrel
  cases hfind : s.credentials.find id with
  | none => rw [hfind] at hrel; cases hrel
  | some row =>
    rw [hfind] at hrel
    obtain ⟨hmem, hid⟩ := (Table.find_eq_some_iff _ _ _).mp hfind
    cases hrel with
    | some hc => exact ⟨row, hmem, hid, hc⟩

/-- A row reads back as its record. -/
theorem Represents.reads (hcodecs : crates.RoundTrips) {c : Credential} {row : CredentialRow}
    (h : Represents crates s c row) :
    ∃ mac, credentialOfRow crates none row = some ⟨c, mac⟩ := by
  obtain ⟨mac, hread, -⟩ := credentialOfRow_sealed hcodecs h.storable h.sealed
  rw [withVersion_eq_self h.version] at hread
  exact ⟨mac, hread⟩

/-- **Loading lists the map.** -/
theorem Represented.loads (hcodecs : crates.RoundTrips) (h : Represented crates s m)
    {load : StoreFault} (hload : ¬ load.io) :
    ∃ loaded, (loadCtap2Credentials crates load none s).1 = .ok loaded ∧
      Lists m (loaded.map (·.toCredential)) := by
  have hload := loadCtap2Credentials_sealed hcodecs hload fun row hrow ↦ by
    obtain ⟨c, -, hc⟩ := h.row hrow
    exact ⟨c, hc.storable, hc.sealed⟩
  have hselect : (selectCredentials none s).Perm s.credentials.rows := by
    refine selectCredentials_perm crates fun row hrow ↦ ?_
    obtain ⟨c, -, hc⟩ := h.row hrow
    exact ⟨c, hc.sealed.rowOf⟩
  refine ⟨_, congrArg Prod.fst hload, ⟨?_, pairwise_selectCredentials none s, fun id c ↦ ?_⟩⟩
  · -- a credential has the ID of its row
    have hids := (loadCtap2Credentials_ok hload).map_eq_map fun row c hread ↦
      (describes_of_credentialOfRow hread).id.symm
    rw [List.map_map]
    exact hids ▸ nodup_selectCredentials none s
  · simp only [List.mem_map, List.mem_filterMap, hselect.mem_iff]
    constructor
    · intro hm
      obtain ⟨row, hrow, hid, hc⟩ := h.record hm
      obtain ⟨mac, hread⟩ := hc.reads hcodecs
      exact ⟨⟨_, ⟨row, hrow, hread⟩, rfl⟩, hc.id.trans hid⟩
    · rintro ⟨⟨stored, ⟨row, hrow, hread⟩, rfl⟩, rfl⟩
      obtain ⟨c, hm, hc⟩ := h.row hrow
      obtain ⟨mac, hread'⟩ := hc.reads hcodecs
      cases hread.symm.trans hread'
      rw [hc.id]
      exact hm

end

/-- **The store refines a map from credential IDs to records.** -/
theorem refinesMap (crates : Crates) (hcodecs : crates.RoundTrips) (s : Store)
    (hempty : s.credentials = Table.empty _) (calls : List Call)
    (hcalls : ∀ c ∈ calls, c.operation.Admissible crates) :
    RefinesMap crates (Run.final (call crates) s calls)
      (calls.foldl (recordsAfter crates) fun _ ↦ none) := by
  have hinit : Represented crates s fun _ ↦ none := by
    intro id
    rw [hempty]
    exact .none
  have h := represented_run hcodecs hinit hcalls
  generalize Run.final (call crates) s calls = s' at h
  generalize calls.foldl (recordsAfter crates) (fun _ ↦ none) = m at h
  refine ⟨fun load hload ↦ h.loads hcodecs hload, ?_, ?_, ?_, ?_, ?_⟩
  · intro fault id u hfault hu
    exact h.fails_iff hcodecs hfault hu
  · intro fault id u hfault hu hkdf hpresent
    exact h.succeeds hcodecs hfault hu hkdf hpresent
  · intro fault id u hnot
    rw [Update.run_eq] at hnot ⊢
    exact onRow_unchanged hnot
  · intro fault id u id' hid
    rw [Update.run_eq]
    exact find_onRow_of_ne hid s'
  · intro fault fault' id id' u u' hid
    rw [Update.run_eq, Update.run_eq]
    exact ⟨onRow_fst_congr (find_onRow_of_ne hid s').symm, onRow_comm hid s'⟩

namespace Sample

open Ctap2.Sample

/-- Two credentials are saved, both are changed and one is deleted. -/
def calls : List Call :=
  [⟨noFault, .save [(credential 1 "a" 1).toCredential, (credential 2 "b" 1).toCredential]⟩,
    ⟨noFault, .update [1] (.signCount 7)⟩,
    ⟨noFault, .update [2] (.recovery [20] [21] [22] (.argon2id 4 5 6))⟩,
    ⟨noFault, .update [2] (.policy ⟨⟨"1", [23], none, none, none⟩, 1⟩)⟩,
    ⟨noFault, .update [1] .delete⟩]

end Sample

open Sample Ctap2.Sample in
/-- One record is left, with all its changes. -/
theorem refinesMap_two_credentials :
    RefinesMap (packages []) (Run.final (call (packages [])) .fresh calls)
        (calls.foldl (recordsAfter (packages [])) fun _ ↦ none) ∧
      calls.foldl (recordsAfter (packages [])) (fun _ ↦ none) [1] = none ∧
      calls.foldl (recordsAfter (packages [])) (fun _ ↦ none) [2] =
        some { (credential 2 "b" 1).toCredential with
          policy := some ⟨⟨"1", [23], none, none, none⟩, 1⟩
          recovery := (credential 2 "b" 1).recovery.map
            (rekeyed [20] [21] [22] (.argon2id 4 5 6)) } := by
  refine ⟨refinesMap _ (packages_roundTrips []) _ rfl _ fun c hc ↦ ?_, by decide +kernel,
    by decide +kernel⟩
  simp only [calls, List.mem_cons, List.not_mem_nil, or_false] at hc
  rcases hc with rfl | rfl | rfl | rfl | rfl
  · refine ⟨by decide, fun c hc ↦ ?_⟩
    simp only [List.mem_cons, List.not_mem_nil, or_false] at hc
    rcases hc with rfl | rfl
    · exact ⟨storable_credential _ _ _, by rintro p ⟨⟩; rfl⟩
    · exact ⟨storable_credential _ _ _, by rintro p ⟨⟩; rfl⟩
  · exact trivial
  · exact trivial
  · exact rfl
  · exact trivial

end Store
end TpmFido2
