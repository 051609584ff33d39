import TpmFido2.Store.Database

/-!
# What the operations of the store do

One lemma for each operation, so that nothing later has to look inside one.

* Reading leaves every table alone (`loadCtap2Credentials_moves`, …) and what it returns is what
  the rows describe (`loadCtap2Credentials_ok`).
* A statement on one credential either fails and changes nothing, or changes that row and no
  other (`updateRow_cases`, `updateRecoverySlot_cases`, `deleteCtap2Credential_cases`).
* `saveCtap2Credentials_cases` is about the rewrite of the whole table: it leaves the table as it
  was, or it leaves exactly one row for each credential it was given — and so none for a
  credential it was not given.
-/

set_option autoImplicit false

namespace TpmFido2
namespace Store

open Handler

variable {crates : Crates} {fault : StoreFault}

/-! ## Frames -/

/-- The key file is only ever created: with 32 bytes, and not over an old one. -/
def KeyStep (s t : Store) : Prop :=
  t.hmacKey = s.hmacKey ∨ s.hmacKey = none ∧ ∃ key, key.length = 32 ∧ t.hmacKey = some key

/-- Nothing but the key file changed. -/
structure SameTables (s t : Store) : Prop where
  credentials : t.credentials = s.credentials
  clientPin : t.clientPin = s.clientPin
  daemonPassphrase : t.daemonPassphrase = s.daemonPassphrase
  defaultPcrPolicy : t.defaultPcrPolicy = s.defaultPcrPolicy
  key : KeyStep s t

/-- Nothing but the key file and the credentials changed. -/
structure SameSettings (s t : Store) : Prop where
  clientPin : t.clientPin = s.clientPin
  daemonPassphrase : t.daemonPassphrase = s.daemonPassphrase
  defaultPcrPolicy : t.defaultPcrPolicy = s.defaultPcrPolicy
  key : KeyStep s t

theorem KeyStep.refl (s : Store) : KeyStep s s := .inl rfl

theorem KeyStep.trans {s t u : Store} (h₁ : KeyStep s t) (h₂ : KeyStep t u) : KeyStep s u := by
  rcases h₁ with h₁ | ⟨hs, key, hlen, ht⟩
  · rcases h₂ with h₂ | ⟨ht, h₂⟩
    · exact .inl (h₂.trans h₁)
    · exact .inr ⟨h₁ ▸ ht, h₂⟩
  · rcases h₂ with h₂ | ⟨ht', -⟩
    · exact .inr ⟨hs, key, hlen, h₂.trans ht⟩
    · rw [ht] at ht'
      cases ht'

theorem SameTables.frame : Frame SameTables where
  refl s := ⟨rfl, rfl, rfl, rfl, .refl s⟩
  trans h₁ h₂ := ⟨h₂.credentials.trans h₁.credentials, h₂.clientPin.trans h₁.clientPin,
    h₂.daemonPassphrase.trans h₁.daemonPassphrase, h₂.defaultPcrPolicy.trans h₁.defaultPcrPolicy,
    h₁.key.trans h₂.key⟩

theorem SameSettings.frame : Frame SameSettings where
  refl s := ⟨rfl, rfl, rfl, .refl s⟩
  trans h₁ h₂ := ⟨h₂.clientPin.trans h₁.clientPin, h₂.daemonPassphrase.trans h₁.daemonPassphrase,
    h₂.defaultPcrPolicy.trans h₁.defaultPcrPolicy, h₁.key.trans h₂.key⟩

theorem SameTables.sameSettings {s t : Store} (h : SameTables s t) : SameSettings s t :=
  ⟨h.clientPin, h.daemonPassphrase, h.defaultPcrPolicy, h.key⟩

/-! ## The key file -/

theorem loadOrGenerateHmacKey_moves (n : Nat) :
    Moves SameTables (loadOrGenerateHmacKey fault n) := by
  intro s
  rw [loadOrGenerateHmacKey]
  split
  · exact SameTables.frame.refl s
  · split
    · split <;> exact SameTables.frame.refl s
    · next h =>
      exact ⟨rfl, rfl, rfl, rfl, .inr ⟨h, _, length_fillRandom 32 _, rfl⟩⟩

/-- A key that was delivered is the one in the file. -/
theorem loadOrGenerateHmacKey_ok {n : Nat} {s s' : Store} {key : List UInt8}
    (h : loadOrGenerateHmacKey fault n s = (.ok key, s')) :
    s'.hmacKey = some key ∧ key.length = 32 := by
  rw [loadOrGenerateHmacKey] at h
  split at h
  · cases h
  · split at h
    · next raw hraw =>
      split at h
      · next hlen => cases h; exact ⟨hraw, hlen⟩
      · cases h
    · cases h
      exact ⟨rfl, length_fillRandom 32 _⟩

/-! ## Loading -/

theorem verifyIntegrity_moves (n : Nat) (stored : StoredCtap2Credential) :
    Moves SameTables (verifyIntegrity crates fault n stored) := by
  rw [verifyIntegrity]
  split
  · exact SameTables.frame.pure _
  · refine SameTables.frame.bind (loadOrGenerateHmacKey_moves n).attempt fun key ↦ ?_
    cases key with
    | error e => exact SameTables.frame.pure _
    | ok key => exact SameTables.frame.throwIf _ _

theorem loadRows_moves (userId : Option UInt32) (rows : List CredentialRow) (n : Nat) :
    Moves SameTables (loadRows crates fault userId n rows) := by
  induction rows generalizing n with
  | nil => exact SameTables.frame.pure _
  | cons row rows ih =>
    refine SameTables.frame.bind (SameTables.frame.ofOption _ _) fun stored ↦ ?_
    refine SameTables.frame.bind (verifyIntegrity_moves n stored) fun _ ↦ ?_
    exact SameTables.frame.bind (ih (n + 1)) fun _ ↦ SameTables.frame.pure _

theorem loadCtap2Credentials_moves (userId : Option UInt32) :
    Moves SameTables (loadCtap2Credentials crates fault userId) :=
  SameTables.frame.bind (SameTables.frame.throwIf _ _) fun _ ↦
    SameTables.frame.bind (SameTables.frame.gets _) fun rows ↦ loadRows_moves userId rows 0

/-- What loading looks at: the rows, and the key file. -/
def SameSource (s t : Store) : Prop := t.credentials = s.credentials ∧ t.hmacKey = s.hmacKey

theorem loadOrGenerateHmacKey_respects (n : Nat) :
    Respects SameSource (loadOrGenerateHmacKey fault n) := by
  rintro s t ⟨hrows, hkey⟩
  simp only [loadOrGenerateHmacKey, hkey]
  split
  · exact ⟨rfl, hrows, hkey⟩
  · split
    · split <;> exact ⟨rfl, hrows, hkey⟩
    · exact ⟨rfl, hrows, rfl⟩

theorem verifyIntegrity_respects (n : Nat) (stored : StoredCtap2Credential) :
    Respects SameSource (verifyIntegrity crates fault n stored) := by
  rw [verifyIntegrity]
  split
  · exact .pure _
  · refine .bind (loadOrGenerateHmacKey_respects n).attempt fun key ↦ ?_
    cases key with
    | error _ => exact .pure _
    | ok _ => exact .throwIf _ _

theorem loadCtap2Credentials_respects (userId : Option UInt32) :
    Respects SameSource (loadCtap2Credentials crates fault userId) := by
  have hrows (rows : List CredentialRow) (n : Nat) :
      Respects SameSource (loadRows crates fault userId n rows) := by
    induction rows generalizing n with
    | nil => exact .pure _
    | cons row rows ih =>
      exact .bind (.ofOption _ _) fun stored ↦ .bind (verifyIntegrity_respects n stored) fun _ ↦
        .bind (ih (n + 1)) fun _ ↦ .pure _
  refine .bind (.throwIf _ _) fun _ ↦ .bind (.gets fun s t h ↦ ?_) fun rows ↦ hrows rows 0
  rw [selectCredentials, selectCredentials, h.1]

theorem loadRows_ok {userId : Option UInt32} {rows : List CredentialRow} {n : Nat} {s s' : Store}
    {cs : List StoredCtap2Credential} (h : loadRows crates fault userId n rows s = (.ok cs, s')) :
    List.Forall₂ (fun row c ↦ credentialOfRow crates userId row = some c) rows cs := by
  induction rows generalizing n s s' cs with
  | nil => cases h; exact .nil
  | cons row rows ih =>
    obtain ⟨stored, s₁, h₁, h⟩ := bind_ok h
    obtain ⟨_, s₂, -, h⟩ := bind_ok h
    obtain ⟨rest, s₃, h₃, h⟩ := bind_ok h
    cases h
    exact .cons (ofOption_ok h₁).1 (ih h₃)

/-- **What loading returns.**  One credential for each selected row, as the row describes it. -/
theorem loadCtap2Credentials_ok {userId : Option UInt32} {s s' : Store}
    {cs : List StoredCtap2Credential}
    (h : loadCtap2Credentials crates fault userId s = (.ok cs, s')) :
    List.Forall₂ (fun row c ↦ credentialOfRow crates userId row = some c)
      (selectCredentials userId s) cs := by
  obtain ⟨_, s₁, h₁, h⟩ := bind_ok h
  obtain ⟨rows, s₂, h₂, h⟩ := bind_ok h
  obtain ⟨-, rfl⟩ := throwIf_ok h₁
  cases h₂
  exact loadRows_ok h

theorem loadOrGenerateHmacKey_safe (n : Nat) (s : Store) :
    Safe (loadOrGenerateHmacKey fault n) s := by
  rw [Safe, loadOrGenerateHmacKey]
  split
  · exact Outcome.error_ne_panicked _
  · split
    · split
      · exact Outcome.ok_ne_panicked _
      · exact Outcome.error_ne_panicked _
    · exact Outcome.ok_ne_panicked _

theorem verifyIntegrity_safe (n : Nat) (stored : StoredCtap2Credential) (s : Store) :
    Safe (verifyIntegrity crates fault n stored) s := by
  rw [verifyIntegrity]
  split
  · exact .pure _ _
  · refine .bind (.attempt (loadOrGenerateHmacKey_safe n s)) fun r s₁ _ ↦ ?_
    cases r with
    | error e => exact .pure _ _
    | ok key => exact .throwIf _ _ _

/-- Loading never panics. -/
theorem loadCtap2Credentials_safe (userId : Option UInt32) (s : Store) :
    Safe (loadCtap2Credentials crates fault userId) s := by
  have hrows (rows : List CredentialRow) (n : Nat) (s : Store) :
      Safe (loadRows crates fault userId n rows) s := by
    induction rows generalizing n s with
    | nil => exact .pure _ _
    | cons row rows ih =>
      refine .bind (.ofOption _ _ _) fun stored s₁ _ ↦ ?_
      refine .bind (verifyIntegrity_safe n stored s₁) fun _ s₂ _ ↦ ?_
      exact .bind (ih (n + 1) s₂) fun rest s₃ _ ↦ .pure _ _
  exact .bind (.throwIf _ _ _) fun _ s₁ _ ↦ .bind (.gets _ _) fun rows s₂ _ ↦ hrows rows 0 s₂

theorem mem_selectCredentials {userId : Option UInt32} {s : Store} {row : CredentialRow} :
    row ∈ selectCredentials userId s ↔
      row ∈ s.credentials.rows ∧ visibleTo userId row = true ∧ row.primary.isSome = true := by
  rw [selectCredentials, (List.perm_insertionSort _ _).mem_iff, List.mem_filter, Bool.and_eq_true]

/-- The rows of a query have different IDs, as all rows do. -/
theorem nodup_selectCredentials (userId : Option UInt32) (s : Store) :
    ((selectCredentials userId s).map CredentialRow.credentialId).Nodup := by
  rw [selectCredentials, ((List.perm_insertionSort _ _).map _).nodup_iff]
  exact s.credentials.nodup.sublist (List.filter_sublist.map _)

/-- A change of one row that the query does not look at. -/
theorem selectCredentials_update (userId : Option UInt32) (s : Store) (id : List UInt8)
    {f : CredentialRow → CredentialRow} {hf : ∀ r, (f r).credentialId = r.credentialId}
    (hrp : ∀ r, (f r).rpId = r.rpId) (howner : ∀ r, (f r).userId = r.userId)
    (hprimary : ∀ r, (f r).primary.isSome = r.primary.isSome) :
    selectCredentials userId { s with credentials := s.credentials.update id f hf } =
      (selectCredentials userId s).map fun row ↦ if row.credentialId = id then f row else row := by
  let g (row : CredentialRow) : CredentialRow := if row.credentialId = id then f row else row
  have hg {β : Type} {q : CredentialRow → β} (hq : ∀ r, q (f r) = q r) (row : CredentialRow) :
      q (g row) = q row := by
    dsimp only [g]
    split
    · exact hq row
    · rfl
  have hvisible : ∀ r, visibleTo userId (f r) = visibleTo userId r := fun r ↦ by
    simp only [visibleTo, howner]
  rw [selectCredentials, selectCredentials, List.map_insertionSort rowLe rowLe g]
  · rw [Table.update, List.filter_map]
    refine congrArg (List.insertionSort rowLe) (congrArg (List.map g) (List.filter_congr ?_))
    intro row _
    dsimp only [Function.comp]
    rw [hg hvisible, hg (q := fun r ↦ r.primary.isSome) hprimary]
  · intro a _ b _
    rw [rowLe, rowLe, hg hrp, hg hrp, hg hf, hg hf]

/-- What a row says of the credential it describes. -/
structure Describes (crates : Crates) (userId : Option UInt32) (row : CredentialRow)
    (c : Credential) : Prop where
  id : c.id = row.credentialId
  rpId : c.rpId = row.rpId
  discoverable : c.discoverable = row.discoverable
  userHandle : c.userHandle = row.userHandle
  userName : c.userName = row.userName
  userDisplayName : c.userDisplayName = row.userDisplayName
  owner : ownerOfRow userId row.userId = some c.userId
  signCount : toU32 row.signCount = some c.signCount
  recovery : recoveryOfRow crates row.recovery = some c.recovery
  primary : ∃ slot version, row.primary = some slot ∧ toU32 slot.policyVersion = some version ∧
    tpmKeyFromBlob crates slot.tpmKey slot.publicKey = some c.key ∧
    c.policy = policyOfColumns slot.policy version

theorem describes_of_credentialOfRow {userId : Option UInt32} {row : CredentialRow}
    {stored : StoredCtap2Credential} (h : credentialOfRow crates userId row = some stored) :
    Describes crates userId row stored.toCredential := by
  obtain ⟨slot, hslot, h₁⟩ := Option.bind_eq_some_iff.mp h
  obtain ⟨version, hversion, h₂⟩ := Option.bind_eq_some_iff.mp h₁
  obtain ⟨key, hkey, h₃⟩ := Option.bind_eq_some_iff.mp h₂
  obtain ⟨recovery, hrecovery, h₄⟩ := Option.bind_eq_some_iff.mp h₃
  obtain ⟨owner, howner, h₅⟩ := Option.bind_eq_some_iff.mp h₄
  obtain ⟨signCount, hcount, h₆⟩ := Option.bind_eq_some_iff.mp h₅
  cases h₆
  exact ⟨rfl, rfl, rfl, rfl, rfl, rfl, howner, hcount, hrecovery,
    slot, version, hslot, hversion, hkey, rfl⟩

theorem loadDaemonPassphrase_moves : Moves Eq (loadDaemonPassphrase crates fault) := by
  refine Frame.eq.bind (Frame.eq.throwIf _ _) fun _ ↦ Frame.eq.bind Frame.eq.get fun s ↦ ?_
  split
  · exact Frame.eq.pure _
  · exact Frame.eq.bind (Frame.eq.ofOption _ _) fun _ ↦ Frame.eq.pure _

theorem loadDefaultPcrPolicy_moves : Moves Eq (loadDefaultPcrPolicy crates fault) := by
  refine Frame.eq.bind (Frame.eq.throwIf _ _) fun _ ↦ Frame.eq.bind Frame.eq.get fun s ↦ ?_
  split
  · exact Frame.eq.pure _
  · exact Frame.eq.bind (Frame.eq.ofOption _ _) fun _ ↦ Frame.eq.pure _

/-- The default depends on its own column alone. -/
theorem loadDefaultPcrPolicy_congr {s s' : Store} (h : s'.defaultPcrPolicy = s.defaultPcrPolicy) :
    (loadDefaultPcrPolicy crates fault s').1 = (loadDefaultPcrPolicy crates fault s).1 := by
  by_cases hio : fault.io
  · rw [loadDefaultPcrPolicy, bind_of_error _ (throwIf_of hio s'),
      bind_of_error _ (throwIf_of hio s)]
  · rw [loadDefaultPcrPolicy, bind_of_ok _ (throwIf_of_not hio s'),
      bind_of_ok _ (throwIf_of_not hio s), bind_of_ok _ (get_apply s'), bind_of_ok _ (get_apply s),
      h]
    cases s.defaultPcrPolicy with
    | none => rfl
    | some blob =>
      dsimp only
      cases crates.readIndices blob <;> rfl

/-! ## The rewrite of the whole table -/

/-- The row is one the credential is saved as, whatever its integrity code. -/
def RowOf (crates : Crates) (c : Credential) (row : CredentialRow) : Prop :=
  ∃ mac, rowOfCredential crates mac c = some row

/-- What a row has of the credential it was saved from. -/
structure Records (crates : Crates) (c : Credential) (row : CredentialRow) : Prop where
  id : row.credentialId = c.id
  signCount : row.signCount = c.signCount.toNat
  policy : row.primary.map KeyslotRow.policy = some (policyColumns c.policy)
  recovery : recoverySlotOf crates c.recovery = some row.recovery

theorem RowOf.records {c : Credential} {row : CredentialRow} (h : RowOf crates c row) :
    Records crates c row := by
  obtain ⟨mac, hrow⟩ := h
  obtain ⟨primary, hprimary, h₁⟩ := Option.bind_eq_some_iff.mp hrow
  obtain ⟨recovery, hrecovery, h₂⟩ := Option.bind_eq_some_iff.mp h₁
  cases h₂
  obtain ⟨publicKey, -, h₃⟩ := Option.bind_eq_some_iff.mp hprimary
  cases h₃
  exact ⟨rfl, rfl, rfl, hrecovery⟩

/-- The columns of a row that only loading looks at. -/
theorem columns_of_rowOfCredential {mac : Option (List UInt8)} {c : Credential}
    {row : CredentialRow} (h : rowOfCredential crates mac c = some row) :
    row.rpId = c.rpId ∧ row.integrityMac = mac ∧
      row.userId = c.userId.map fun uid ↦ (uid.toNat : Int) := by
  obtain ⟨primary, -, h₁⟩ := Option.bind_eq_some_iff.mp h
  obtain ⟨recovery, -, h₂⟩ := Option.bind_eq_some_iff.mp h₁
  cases h₂
  exact ⟨rfl, rfl, rfl⟩

/-- A row of a credential whose integrity code, if it has one, was made with the key in the key
file. -/
def SealedRow (crates : Crates) (s : Store) (c : Credential) (row : CredentialRow) : Prop :=
  ∃ mac, rowOfCredential crates mac c = some row ∧
    ∀ m, mac = some m → ∃ key, s.hmacKey = some key ∧ m = computeCredentialMac crates key c

theorem SealedRow.rowOf {s : Store} {c : Credential} {row : CredentialRow}
    (h : SealedRow crates s c row) : RowOf crates c row := by
  obtain ⟨mac, hrow, -⟩ := h
  exact ⟨mac, hrow⟩

theorem KeyStep.key {s t : Store} (h : KeyStep s t) {key : List UInt8}
    (hkey : s.hmacKey = some key) : t.hmacKey = some key := by
  rcases h with h | ⟨hnone, -⟩
  · exact h.trans hkey
  · cases hnone.symm.trans hkey

theorem SealedRow.mono {s t : Store} {c : Credential} {row : CredentialRow}
    (h : SealedRow crates s c row) (hst : KeyStep s t) : SealedRow crates t c row := by
  obtain ⟨mac, hrow, hmac⟩ := h
  refine ⟨mac, hrow, fun m hm ↦ ?_⟩
  obtain ⟨key, hkey, rfl⟩ := hmac m hm
  exact ⟨key, hst.key hkey, rfl⟩

theorem insertCredential_moves (n : Nat) (c : Credential) :
    Moves SameSettings (insertCredential crates fault n c) := by
  have hF := SameSettings.frame
  refine hF.bind ((loadOrGenerateHmacKey_moves n).mono fun _ _ h ↦ h.sameSettings).attempt
    fun mac ↦ ?_
  refine hF.bind hF.get fun s ↦ hF.bind (hF.throwIf _ _) fun _ ↦ ?_
  refine hF.bind (hF.expect _) fun row ↦ hF.bind (hF.ofOption _ _) fun table ↦ ?_
  exact Moves.modify fun s ↦ ⟨rfl, rfl, rfl, .refl _⟩

theorem insertCredential_ok {n : Nat} {c : Credential} {s s' : Store} {u : Unit}
    (h : insertCredential crates fault n c s = (.ok u, s')) :
    ∃ row, SealedRow crates s' c row ∧ s'.credentials.rows = s.credentials.rows ++ [row] := by
  obtain ⟨mac, s₁, h₁, h⟩ := bind_ok h
  have hs₁ : s₁.credentials = s.credentials := by
    have hmove : Moves SameTables (attempt (loadOrGenerateHmacKey fault n) :
      StoreM (Except StoreError (List UInt8))) := (loadOrGenerateHmacKey_moves n).attempt
    have h' := (hmove s).credentials
    rwa [h₁] at h'
  obtain ⟨cur, s₂, h₂, h⟩ := bind_ok h
  cases h₂
  obtain ⟨_, s₃, h₃, h⟩ := bind_ok h
  obtain ⟨-, rfl⟩ := throwIf_ok h₃
  obtain ⟨row, s₄, h₄, h⟩ := bind_ok h
  obtain ⟨hrow, rfl⟩ := expect_ok h₄
  obtain ⟨table, s₅, h₅, h⟩ := bind_ok h
  cases h
  obtain ⟨hinsert, rfl⟩ := ofOption_ok h₅
  refine ⟨row, ⟨_, hrow, fun m hm ↦ ?_⟩, ?_⟩
  · cases mac with
    | error e => cases hm
    | ok key =>
      cases hm
      exact ⟨key, (loadOrGenerateHmacKey_ok (attempt_ok h₁)).1, rfl⟩
  · rw [← hs₁]
    exact (Table.insert_eq_some_iff.mp hinsert).2

theorem insertCredentials_moves (cs : List Credential) (n : Nat) :
    Moves SameSettings (insertCredentials crates fault n cs) := by
  induction cs generalizing n with
  | nil => exact SameSettings.frame.pure _
  | cons c cs ih =>
    exact SameSettings.frame.bind (insertCredential_moves n c) fun _ ↦ ih (n + 1)

theorem insertCredentials_ok {cs : List Credential} {n : Nat} {s s' : Store} {u : Unit}
    (h : insertCredentials crates fault n cs s = (.ok u, s')) :
    ∃ rows, List.Forall₂ (SealedRow crates s') cs rows ∧
      s'.credentials.rows = s.credentials.rows ++ rows := by
  induction cs generalizing n s with
  | nil =>
    cases h
    exact ⟨[], .nil, (List.append_nil _).symm⟩
  | cons c cs ih =>
    obtain ⟨_, s₁, h₁, h⟩ := bind_ok h
    obtain ⟨row, hrow, hs₁⟩ := insertCredential_ok h₁
    obtain ⟨rows, hrows, hs'⟩ := ih h
    have hkey := (insertCredentials_moves cs (n + 1)).of_eq h
    exact ⟨row :: rows, .cons (hrow.mono hkey.key) hrows,
      by rw [hs', hs₁, List.append_assoc]; rfl⟩

theorem transaction_moves {m : StoreM Unit} (hm : Moves SameSettings m) :
    Moves SameSettings (transaction m) := by
  intro s
  have h := hm s
  rw [transaction]
  split
  · next e => rw [e] at h; exact h
  · next e => rw [e] at h; exact ⟨h.1, h.2, h.3, h.4⟩
  · next e => rw [e] at h; exact ⟨h.1, h.2, h.3, h.4⟩

theorem transaction_ok {m : StoreM Unit} {s s' : Store} {u : Unit}
    (h : transaction m s = (.ok u, s')) : m s = (.ok u, s') := by
  rw [transaction] at h
  split at h
  · next hm => rw [hm, h]
  · cases h
  · cases h

theorem saveCtap2Credentials_moves (cs : List Credential) :
    Moves SameSettings (saveCtap2Credentials crates fault cs) := by
  have hF := SameSettings.frame
  refine hF.bind (hF.throwIf _ _) fun _ ↦ transaction_moves ?_
  refine hF.bind (Moves.modify fun s ↦ ⟨rfl, rfl, rfl, .refl _⟩) fun _ ↦ ?_
  exact hF.bind (insertCredentials_moves cs 0) fun _ ↦ hF.throwIf _ _

/-- **What saving leaves.**  The table as it was, or one row for each credential given and no
other. -/
theorem saveCtap2Credentials_sealed (crates : Crates) (fault : StoreFault) (cs : List Credential)
    (s : Store) :
    ((saveCtap2Credentials crates fault cs s).1.toOption = none ∧
        (saveCtap2Credentials crates fault cs s).2.credentials = s.credentials) ∨
      ((saveCtap2Credentials crates fault cs s).1 = .ok () ∧
        List.Forall₂ (SealedRow crates (saveCtap2Credentials crates fault cs s).2) cs
          (saveCtap2Credentials crates fault cs s).2.credentials.rows) := by
  rw [saveCtap2Credentials, bind_def, throwIf]
  split <;> rename_i h <;> split at h <;> cases h
  · rw [transaction]
    split
    · next u s' hm =>
      obtain ⟨_, s₁, h₁, hm⟩ := bind_ok hm
      obtain ⟨_, s₂, h₂, hm⟩ := bind_ok hm
      obtain ⟨-, rfl⟩ := throwIf_ok hm
      cases h₁
      obtain ⟨rows, hrows, hs⟩ := insertCredentials_ok h₂
      refine .inr ⟨rfl, ?_⟩
      rw [hs]
      exact hrows
    · exact .inl ⟨rfl, rfl⟩
    · exact .inl ⟨rfl, rfl⟩
  · exact .inl ⟨rfl, rfl⟩

theorem sealedRows_of_saved {fault : StoreFault} {cs : List Credential} {s : Store}
    (h : (saveCtap2Credentials crates fault cs s).1 = .ok ()) :
    List.Forall₂ (SealedRow crates (saveCtap2Credentials crates fault cs s).2) cs
      (saveCtap2Credentials crates fault cs s).2.credentials.rows := by
  rcases saveCtap2Credentials_sealed crates fault cs s with ⟨hfailed, -⟩ | ⟨-, hrows⟩
  · rw [h] at hfailed
    cases hfailed
  · exact hrows

theorem saveCtap2Credentials_cases (crates : Crates) (fault : StoreFault) (cs : List Credential)
    (s : Store) :
    ((saveCtap2Credentials crates fault cs s).1.toOption = none ∧
        (saveCtap2Credentials crates fault cs s).2.credentials = s.credentials) ∨
      ((saveCtap2Credentials crates fault cs s).1 = .ok () ∧
        List.Forall₂ (RowOf crates) cs (saveCtap2Credentials crates fault cs
          s).2.credentials.rows) := by
  rcases saveCtap2Credentials_sealed crates fault cs s with h | ⟨hok, hrows⟩
  · exact .inl h
  · exact .inr ⟨hok, hrows.imp fun _ _ h ↦ h.rowOf⟩

/-! ## Statements on one credential -/

theorem updateRow_apply (fault : StoreFault) (id : List UInt8) (applies : CredentialRow → Bool)
    (f : CredentialRow → CredentialRow) (hf : ∀ r, (f r).credentialId = r.credentialId)
    (s : Store) :
    updateRow fault id applies f hf s =
      if fault.io ∨ fault.statement then (.error .io, s)
      else if (s.credentials.find id).any applies then
        (.ok (), { s with credentials := s.credentials.update id f hf })
      else (.error (.rowsAffected 0), s) := by
  by_cases hio : fault.io ∨ fault.statement
  · rw [if_pos hio, updateRow, bind_def, throwIf, if_pos hio]
    rfl
  · rw [if_neg hio, updateRow, bind_def, throwIf, if_neg hio]
    simp only [pure_apply, bind_def, get_apply]
    cases s.credentials.find id with
    | none => rfl
    | some row =>
      by_cases happlies : applies row = true
      · simp only [ofOption, pure_apply, throwIf, Option.any_some, happlies, not_true, if_false,
          if_true, modify_apply]
      · simp only [ofOption, pure_apply, throwIf, Option.any_some, happlies, not_false_eq_true,
          if_true, throw_apply, Bool.false_eq_true, if_false]

/-- **A statement on one credential**, where the store works. -/
theorem updateRow_of_mem {fault : StoreFault} (hfault : ¬ (fault.io ∨ fault.statement))
    {applies : CredentialRow → Bool} {f : CredentialRow → CredentialRow}
    {hf : ∀ r, (f r).credentialId = r.credentialId} {s : Store} {row : CredentialRow}
    (hrow : row ∈ s.credentials.rows) (happlies : applies row) :
    updateRow fault row.credentialId applies f hf s =
      (.ok (), { s with credentials := s.credentials.update row.credentialId f hf }) := by
  rw [updateRow_apply, if_neg hfault, (Table.find_eq_some_iff _ _ _).mpr ⟨hrow, rfl⟩,
    Option.any_some, if_pos happlies]

theorem updateRow_cases (fault : StoreFault) (id : List UInt8) (applies : CredentialRow → Bool)
    (f : CredentialRow → CredentialRow) (hf : ∀ r, (f r).credentialId = r.credentialId)
    (s : Store) :
    (∃ e, updateRow fault id applies f hf s = (.error e, s)) ∨
      ∃ row ∈ s.credentials.rows, row.credentialId = id ∧ applies row = true ∧
        updateRow fault id applies f hf s =
          (.ok (), { s with credentials := s.credentials.update id f hf }) := by
  rw [updateRow_apply]
  split
  · exact .inl ⟨_, rfl⟩
  · split
    · next h =>
      obtain ⟨row, hfind, happlies⟩ := (Option.any_eq_true _ _).mp h
      obtain ⟨hmem, hid⟩ := (Table.find_eq_some_iff _ _ _).mp hfind
      exact .inr ⟨row, hmem, hid, happlies, rfl⟩
    · exact .inl ⟨_, rfl⟩

theorem updateRow_moves (fault : StoreFault) (id : List UInt8) (applies : CredentialRow → Bool)
    (f : CredentialRow → CredentialRow) (hf : ∀ r, (f r).credentialId = r.credentialId) :
    Moves SameSettings (updateRow fault id applies f hf) := by
  intro s
  rcases updateRow_cases fault id applies f hf s with ⟨e, he⟩ | ⟨row, -, -, -, he⟩
  · rw [he]
    exact SameSettings.frame.refl s
  · rw [he]
    exact ⟨rfl, rfl, rfl, .refl _⟩

/-- What `updateRecoverySlot` can end in. -/
inductive RecoveryUpdate (crates : Crates) (id newPrivate newSalt newHash : List UInt8)
    (kdf : RecoveryKdf) (s : Store) : Outcome StoreError Unit × Store → Prop where
  | failed (o : Outcome StoreError Unit) (ho : o.toOption = none) :
    RecoveryUpdate crates id newPrivate newSalt newHash kdf s (o, s)
  | done {row : CredentialRow} {slot : KeyslotRow} {oldKey : TpmCredential} {kdfParams : String}
    (hmem : row ∈ s.credentials.rows) (hid : row.credentialId = id)
    (hslot : row.recovery = some slot)
    (hkey : tpmKeyFromBlob crates slot.tpmKey slot.publicKey = some oldKey)
    (hkdf : kdfParamsToString crates kdf newSalt newHash = some kdfParams) :
    RecoveryUpdate crates id newPrivate newSalt newHash kdf s
      (.ok (), { s with
        credentials := s.credentials.update id (withRecovery (tpmKeyToBlob crates
          { oldKey with privateArea := newPrivate, authValue := some newHash }) kdfParams)
          fun _ ↦ rfl })

theorem updateRecoverySlot_cases (crates : Crates) (fault : StoreFault)
    (id newPrivate newSalt newHash : List UInt8) (kdf : RecoveryKdf) (s : Store) :
      RecoveryUpdate crates id newPrivate newSalt newHash kdf s
      (updateRecoverySlot crates fault id newPrivate newSalt newHash kdf s) := by
  have fails : ∀ (o : Outcome StoreError Unit) s₁, o.toOption = none → s = s₁ →
      RecoveryUpdate crates id newPrivate newSalt newHash kdf s (o, s₁) := by
    rintro o _ ho rfl
    exact .failed o ho
  -- every step but the last leaves the store alone
  refine Moves.bind_elim (Frame.eq.throwIf _ _) fails fun _ s₁ _ hs ↦ ?_
  subst hs
  refine Moves.bind_elim Frame.eq.get fails fun cur s₁ hcur hs ↦ ?_
  subst hs
  cases hcur
  refine Moves.bind_elim (Frame.eq.ofOption _ _) fails fun slot s₁ hslot hs ↦ ?_
  subst hs
  refine Moves.bind_elim (Frame.eq.ofOption _ _) fails fun oldKey s₁ hkey hs ↦ ?_
  subst hs
  refine Moves.bind_elim (Frame.eq.expect _) fails fun kdfParams s₁ hkdf hs ↦ ?_
  subst hs
  refine Moves.bind_elim (Frame.eq.throwIf _ _) fails fun _ s₁ _ hs ↦ ?_
  subst hs
  obtain ⟨row, hrow, hrec⟩ := Option.bind_eq_some_iff.mp (ofOption_ok hslot).1
  obtain ⟨hmem, hid⟩ := (Table.find_eq_some_iff _ _ _).mp hrow
  exact .done hmem hid hrec (ofOption_ok hkey).1 (expect_ok hkdf).1

theorem updateRecoverySlot_moves (crates : Crates) (fault : StoreFault)
    (id newPrivate newSalt newHash : List UInt8) (kdf : RecoveryKdf) :
    Moves SameSettings (updateRecoverySlot crates fault id newPrivate newSalt newHash kdf) := by
  intro s
  have h := updateRecoverySlot_cases crates fault id newPrivate newSalt newHash kdf s
  generalize updateRecoverySlot crates fault id newPrivate newSalt newHash kdf s = r at h ⊢
  cases h with
  | failed _ _ => exact SameSettings.frame.refl s
  | done _ _ _ _ _ => exact ⟨rfl, rfl, rfl, .refl _⟩

theorem deleteCtap2Credential_apply (fault : StoreFault) (id : List UInt8) (s : Store) :
    deleteCtap2Credential fault id s =
      if fault.io ∨ fault.statement then (.error .io, s)
      else if s.credentials.find id = none then (.error (.rowsAffected 0), s)
      else (.ok (), { s with credentials := s.credentials.delete id }) := by
  rw [deleteCtap2Credential, bind_def, throwIf]
  by_cases hio : fault.io ∨ fault.statement
  · simp only [if_pos hio, throw_apply]
  · simp only [if_neg hio, pure_apply, bind_def, get_apply, throwIf]
    by_cases hfind : s.credentials.find id = none
    · simp only [if_pos hfind, throw_apply]
    · simp only [if_neg hfind, pure_apply, modify_apply]

theorem deleteCtap2Credential_cases (fault : StoreFault) (id : List UInt8) (s : Store) :
    (∃ e, deleteCtap2Credential fault id s = (.error e, s)) ∨
      ∃ row ∈ s.credentials.rows, row.credentialId = id ∧
        deleteCtap2Credential fault id s =
          (.ok (), { s with credentials := s.credentials.delete id }) := by
  rw [deleteCtap2Credential_apply]
  split
  · exact .inl ⟨_, rfl⟩
  · split
    · exact .inl ⟨_, rfl⟩
    · next hfind =>
      obtain ⟨row, hrow⟩ := Option.ne_none_iff_exists'.mp hfind
      obtain ⟨hmem, hid⟩ := (Table.find_eq_some_iff _ _ _).mp hrow
      exact .inr ⟨row, hmem, hid, rfl⟩

/-! ## The PIN -/

/-- The loop of `constant_time_equal` is zero only if it never met a difference. -/
theorem foldl_difference_eq_zero {ps : List (UInt8 × UInt8)} {d : UInt8} :
    ps.foldl (fun difference p ↦ difference ||| (p.1 ^^^ p.2)) d = 0 ↔
      d = 0 ∧ ∀ p ∈ ps, p.1 = p.2 := by
  induction ps generalizing d with
  | nil => simp
  | cons p ps ih =>
    rw [List.foldl_cons, ih, UInt8.or_eq_zero_iff, UInt8.xor_eq_zero_iff, List.forall_mem_cons,
      and_assoc]

/-- `constant_time_equal` is equality. -/
theorem constantTimeEqual_iff {left right : List UInt8} :
    constantTimeEqual left right = true ↔ left = right := by
  rw [constantTimeEqual, Bool.and_eq_true, decide_eq_true_eq, decide_eq_true_eq,
    foldl_difference_eq_zero]
  constructor
  · rintro ⟨hlength, -, h⟩
    refine List.ext_getElem hlength fun i h₁ h₂ ↦ ?_
    exact h (left[i], right[i]) (List.mem_iff_getElem.mpr ⟨i, by simpa using ⟨h₁, h₂⟩, by simp⟩)
  · rintro rfl
    refine ⟨rfl, rfl, fun p hp ↦ ?_⟩
    obtain ⟨i, hi, rfl⟩ := List.mem_iff_getElem.mp hp
    simp

/-- What reading the PIN row can end in. -/
inductive PinLoad (s : Store) : Outcome StoreError (Option StoredClientPinState) × Store →
    Prop where
  | failed {t : Store} (o : Outcome StoreError (Option StoredClientPinState))
    (ho : o.toOption = none) (h : SameTables s t) : PinLoad s (o, t)
  | done {t : Store} (h : SameTables s t) : PinLoad s (.ok (s.clientPin.map pinStateOfRow), t)

theorem loadClientPinState_cases (crates : Crates) (fault : StoreFault) (s : Store) :
    PinLoad s (loadClientPinState crates fault s) := by
  have hF := SameTables.frame
  have fails : ∀ (o : Outcome StoreError (Option StoredClientPinState)) t, o.toOption = none →
      SameTables s t → PinLoad s (o, t) := fun o _ ho h ↦ .failed o ho h
  refine Moves.bind_elim (hF.throwIf _ _) fails fun _ s₁ e₁ _ ↦ ?_
  obtain ⟨-, rfl⟩ := throwIf_ok e₁
  refine Moves.bind_elim hF.get fails fun cur s₂ e₂ _ ↦ ?_
  cases e₂
  cases hrow : s₁.clientPin with
  | none =>
    have h := PinLoad.done (hF.refl s₁)
    rwa [hrow] at h
  | some row =>
    have done : ∀ {t}, SameTables s₁ t → PinLoad s₁ (.ok (some (pinStateOfRow row)), t) := by
      intro t h
      have h := PinLoad.done h
      rwa [hrow] at h
    cases hmac : row.integrityMac with
    | none =>
      simp only [hmac]
      exact done (hF.refl s₁)
    | some expected =>
      simp only [hmac]
      refine Moves.bind_elim (loadOrGenerateHmacKey_moves 0) fails fun key s₃ _ h₃ ↦ ?_
      refine Moves.bind_elim (hF.throwIf _ _) (fun o t ho h ↦ fails o t ho (hF.trans h₃ h))
        fun _ s₄ e₄ _ ↦ ?_
      obtain ⟨-, rfl⟩ := throwIf_ok e₄
      exact done h₃

theorem loadClientPinState_safe (s : Store) : Safe (loadClientPinState crates fault) s := by
  refine .bind (.throwIf _ _ _) fun _ s₁ _ ↦ .bind (.get _) fun s₂ s₃ _ ↦ ?_
  split
  · exact .pure _ _
  · split
    · exact .pure _ _
    · exact .bind (loadOrGenerateHmacKey_safe 0 s₃) fun key s₄ _ ↦
        .bind (.throwIf _ _ _) fun _ s₅ _ ↦ .pure _ _

/-- What writing the PIN row can end in. -/
inductive PinSave (crates : Crates) (state : StoredClientPinState) (s : Store) :
    Outcome StoreError Unit × Store → Prop where
  | failed {t : Store} (o : Outcome StoreError Unit) (ho : o.toOption = none)
    (h : SameTables s t) : PinSave crates state s (o, t)
  | done {t : Store} {key : List UInt8} {row : ClientPinRow} (h : SameTables s t)
    (hkey : t.hmacKey = some key) (hlength : key.length = 32)
    (hrow : clientPinRow state
      (computeClientPinMac crates key state.pinSalt state.pinVerifier state.retries) = some row) :
    PinSave crates state s (.ok (), { t with clientPin := some row })

theorem saveClientPinState_cases (crates : Crates) (fault : StoreFault)
    (state : StoredClientPinState) (s : Store) :
    PinSave crates state s (saveClientPinState crates fault state s) := by
  have hF := SameTables.frame
  have fails : ∀ (o : Outcome StoreError Unit) t, o.toOption = none →
      SameTables s t → PinSave crates state s (o, t) := fun o _ ho h ↦ .failed o ho h
  refine Moves.bind_elim (hF.throwIf _ _) fails fun _ s₁ e₁ _ ↦ ?_
  obtain ⟨-, rfl⟩ := throwIf_ok e₁
  refine Moves.bind_elim (hF.throwIf _ _) fails fun _ s₂ e₂ _ ↦ ?_
  obtain ⟨-, rfl⟩ := throwIf_ok e₂
  refine Moves.bind_elim (loadOrGenerateHmacKey_moves 0) fails fun key s₃ e₃ h₃ ↦ ?_
  have fails₃ : ∀ (o : Outcome StoreError Unit) t, o.toOption = none →
      SameTables s₃ t → PinSave crates state s₂ (o, t) :=
    fun o t ho h ↦ fails o t ho (hF.trans h₃ h)
  refine Moves.bind_elim (hF.ofOption _ _) fails₃ fun row s₄ e₄ _ ↦ ?_
  obtain ⟨hrow, rfl⟩ := ofOption_ok e₄
  refine Moves.bind_elim (hF.throwIf _ _) fails₃ fun _ s₅ e₅ _ ↦ ?_
  obtain ⟨-, rfl⟩ := throwIf_ok e₅
  obtain ⟨hkey, hlength⟩ := loadOrGenerateHmacKey_ok e₃
  exact .done h₃ hkey hlength hrow

/-- What a row that was written describes. -/
theorem pinStateOfRow_clientPinRow {state : StoredClientPinState} {mac : List UInt8}
    {row : ClientPinRow} (h : clientPinRow state mac = some row) : pinStateOfRow row = state := by
  rw [clientPinRow] at h
  split at h
  · cases h
    rfl
  · cases h

/-- A write of the PIN state succeeds: no fault, a key file that can be used, and a state the
store accepts. -/
def pinWritable (fault : StoreFault) (s : Store) (state : StoredClientPinState) : Bool :=
  !fault.io && !fault.statement && !fault.key 0 && s.hmacKey.all (fun key ↦ key.length = 32) &&
    state.pinSalt.length = 32 && state.pinVerifier.length = 32 && state.retries ≤ 8

theorem saveClientPinState_of_writable (crates : Crates) {fault : StoreFault} {s : Store}
    {state : StoredClientPinState} (h : pinWritable fault s state) :
    ∃ t, saveClientPinState crates fault state s = (.ok (), t) := by
  simp only [pinWritable, Bool.and_eq_true, Bool.not_eq_true', decide_eq_true_eq] at h
  obtain ⟨⟨⟨⟨⟨⟨hio, hstatement⟩, hkey⟩, hfile⟩, hsalt⟩, hverifier⟩, hretries⟩ := h
  have hrow (mac : List UInt8) : clientPinRow state mac =
      some ⟨state.pinSalt, state.pinVerifier, state.retries, some mac, hretries⟩ := by
    rw [clientPinRow, dif_pos ⟨hsalt, hverifier, hretries⟩]
  have hload : ∃ key t, loadOrGenerateHmacKey fault 0 s = (.ok key, t) := by
    rw [loadOrGenerateHmacKey, hkey]
    cases hraw : s.hmacKey with
    | none => exact ⟨_, _, rfl⟩
    | some raw =>
      rw [hraw] at hfile
      have hlength : raw.length = 32 := by simpa using hfile
      exact ⟨raw, s, by simp [hlength]⟩
  obtain ⟨key, t, hload⟩ := hload
  simp [saveClientPinState, bind_def, throwIf, hrow, hio, hstatement, hload, ofOption]

theorem pinWritable_of_save {crates : Crates} {fault : StoreFault} {s t : Store}
    {state : StoredClientPinState} {u : Unit}
    (h : saveClientPinState crates fault state s = (.ok u, t)) : pinWritable fault s state := by
  obtain ⟨_, s₁, e₁, h₁⟩ := bind_ok h
  obtain ⟨-, rfl⟩ := throwIf_ok e₁
  obtain ⟨_, s₂, e₂, h₂⟩ := bind_ok h₁
  obtain ⟨hio, rfl⟩ := throwIf_ok e₂
  obtain ⟨key, s₃, e₃, h₃⟩ := bind_ok h₂
  obtain ⟨row, s₄, e₄, h₄⟩ := bind_ok h₃
  obtain ⟨hrow, rfl⟩ := ofOption_ok e₄
  obtain ⟨_, s₅, e₅, -⟩ := bind_ok h₄
  obtain ⟨hstatement, rfl⟩ := throwIf_ok e₅
  have hkey : fault.key 0 = false ∧ s₂.hmacKey.all (fun key ↦ key.length = 32) := by
    rw [loadOrGenerateHmacKey] at e₃
    split at e₃
    · cases e₃
    · next hkey =>
      refine ⟨by simpa using hkey, ?_⟩
      cases hraw : s₂.hmacKey with
      | none => rfl
      | some raw =>
        simp only [hraw] at e₃
        split at e₃
        · next hlength => simpa using hlength
        · cases e₃
  rw [clientPinRow] at hrow
  split at hrow
  · next hstate => simp [pinWritable, hio, hstatement, hkey, hstate]
  · cases hrow

/-- Reading the PIN row succeeds: no fault, and if the row has an integrity code, a key file under
which it is right. -/
def pinReadable (crates : Crates) (fault : StoreFault) (s : Store) : Bool :=
  !fault.io && s.clientPin.all fun row ↦ row.integrityMac.all fun mac ↦
    !fault.key 0 && s.hmacKey.any fun key ↦ key.length = 32 &&
      computeClientPinMac crates key row.pinSalt row.pinVerifier row.retries = mac

theorem loadClientPinState_of_readable {crates : Crates} {fault : StoreFault} {s : Store}
    (h : pinReadable crates fault s) :
    loadClientPinState crates fault s = (.ok (s.clientPin.map pinStateOfRow), s) := by
  rw [pinReadable, Bool.and_eq_true, Bool.not_eq_true'] at h
  obtain ⟨hio, hrow⟩ := h
  simp only [loadClientPinState, bind_def, throwIf, hio, Bool.false_eq_true, if_false, pure_apply,
    get_apply]
  cases hpin : s.clientPin with
  | none => rfl
  | some row =>
    cases hmac : row.integrityMac with
    | none => simp only [hmac]; rfl
    | some mac =>
      simp only [hpin, hmac, Option.all_some, Bool.and_eq_true, Bool.not_eq_true',
        Option.any_eq_true, decide_eq_true_eq] at hrow
      obtain ⟨hkey, key, hfile, hlength, hmatch⟩ := hrow
      have hequal : constantTimeEqual mac mac = true := constantTimeEqual_iff.mpr rfl
      simp [hmac, loadOrGenerateHmacKey, bind_def, hkey, hfile, hlength, hmatch, hequal]

/-- A key file created in between makes no difference. -/
theorem pinReadable_of_sameTables {crates : Crates} {fault : StoreFault} {s t : Store}
    (h : SameTables s t) (hs : pinReadable crates fault s) : pinReadable crates fault t := by
  rw [pinReadable, Bool.and_eq_true] at hs ⊢
  refine ⟨hs.1, ?_⟩
  rw [h.clientPin]
  rcases h.key with hkey | ⟨hnone, -⟩
  · rw [hkey]
    exact hs.2
  · have hrow := hs.2
    cases hpin : s.clientPin with
    | none => rfl
    | some row =>
      cases hmac : row.integrityMac with
      | none => simp [hmac]
      | some mac => simp [hpin, hmac, hnone] at hrow

theorem deleteClientPinState_apply (s : Store) :
    deleteClientPinState fault s =
      if fault.io ∨ fault.statement then (.error .io, s)
      else (.ok (), { s with clientPin := none }) := by
  rw [deleteClientPinState, bind_def, throwIf]
  split <;> rename_i h <;> split at h <;> cases h
  · next hio => rw [if_neg hio]; rfl
  · next hio => rw [if_pos hio]

/-! ## Settings -/

/-- Neither the credentials, the PIN nor the key file changed. -/
structure OnlySettings (s t : Store) : Prop where
  credentials : t.credentials = s.credentials
  clientPin : t.clientPin = s.clientPin
  hmacKey : t.hmacKey = s.hmacKey

theorem OnlySettings.frame : Frame OnlySettings where
  refl _ := ⟨rfl, rfl, rfl⟩
  trans h₁ h₂ := ⟨h₂.credentials.trans h₁.credentials, h₂.clientPin.trans h₁.clientPin,
    h₂.hmacKey.trans h₁.hmacKey⟩

theorem saveDaemonPassphrase_moves (crates : Crates) (fault : StoreFault) (salt hash : List UInt8)
    (kdf : RecoveryKdf) :
    Moves OnlySettings (saveDaemonPassphrase crates fault salt hash kdf) := by
  have hF := OnlySettings.frame
  exact hF.bind (hF.throwIf _ _) fun _ ↦ Moves.modify fun _ ↦ ⟨rfl, rfl, rfl⟩

theorem saveDefaultPcrPolicy_moves (crates : Crates) (fault : StoreFault)
    (indices : List UInt32) :
    Moves OnlySettings (saveDefaultPcrPolicy crates fault indices) := by
  have hF := OnlySettings.frame
  exact hF.bind (hF.throwIf _ _) fun _ ↦ Moves.modify fun _ ↦ ⟨rfl, rfl, rfl⟩

end Store
end TpmFido2
