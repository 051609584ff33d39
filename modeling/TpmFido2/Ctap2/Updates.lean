import TpmFido2.Ctap2.Sample
import TpmFido2.Ctap2.StepEffects

/-!
# Updates of the management thread

The management thread changes the policy or the recovery slot of a credential in the store, and
nowhere else: the copy in memory stays as it was until the credentials are read again.  A save
writes the copy in memory over the table, so an update survives a save only if the copy had caught
up with it.

`noUpdateLost_of_cacheCurrent` is the positive half: if, whenever a request saves everything, the
copies in memory have the policies and recovery slots of their rows, every update of the management
thread stays until the next one or until its credential goes.  It uses that the codecs of the key
slots read back what they wrote, since a save writes again what an earlier load has read.
`makeCredential_restores_old_policy` is a registration that puts the old policy of another
credential back.
-/

set_option autoImplicit false

namespace TpmFido2
namespace Ctap2

open Store (policyColumns recoveryOfRow recoverySlotOf recoverySlot)

/-! ## What an update writes -/

/-- What a change of the passphrase writes: the private area of the key, and salt, hash and
parameters of the passphrase. -/
structure RecoverySecret where
  privateArea : List UInt8
  passphraseSalt : List UInt8
  passphraseHash : List UInt8
  kdf : RecoveryKdf
deriving DecidableEq, Repr

/-- The same of a slot. -/
def secretOf (slot : StoredRecoverySlot) : RecoverySecret :=
  ⟨slot.key.privateArea, slot.passphraseSalt, slot.passphraseHash, slot.kdf⟩

section
variable (crates : Crates)

/-- The policy a step of the management thread wrote for a credential. -/
def policyWrite (id : List UInt8) (t : Step) : Option PcrPolicyBinding :=
  match t.input, t.output with
  | .tpm env (.pcrPolicyUpdate id' authority authorityName policyRef), .ok =>
    if id' = id then
      (requireTpm crates env t.before).1.toOption.bind fun tpm ↦
        updateAuthorizedPolicy crates env.tpm tpm authority authorityName policyRef
    else none
  | _, _ => none

/-- The recovery secret a step of the management thread wrote for a credential. -/
def recoveryWrite (id : List UInt8) (t : Step) : Option RecoverySecret :=
  match t.input, t.output with
  | .tpm env (.passphraseChange id' recoveryKey newHash newSalt kdf), .ok =>
    if id' = id then
      (changeKeyAuth env.tpm recoveryKey newHash).map fun key ↦
        ⟨key.privateArea, newSalt, newHash, kdf⟩
    else none
  | _, _ => none

/-! ## The property -/

/-- The columns of the row hold the policy. -/
def HoldsPolicy (policy : PcrPolicyBinding) (row : CredentialRow) : Prop :=
  row.primary.map KeyslotRow.policy =
    some (policyColumns (some ⟨policy, StoredPcrPolicy.currentVersion⟩))

/-- Reading the recovery slot of the row gives the secret. -/
def HoldsSecret (secret : RecoverySecret) (row : CredentialRow) : Prop :=
  (recoveryOfRow crates row.recovery).join.map secretOf = some secret

/-- The credential is in the store after the step. -/
def isStored (id : List UInt8) (t : Step) : Prop :=
  ∃ row ∈ t.after.store.credentials.rows, row.credentialId = id

/-- The store has the credential, and its row is as said. -/
def StoredAs (P : CredentialRow → Prop) (id : List UInt8) (s : Store) : Prop :=
  ∃ row ∈ s.credentials.rows, row.credentialId = id ∧ P row

/-- **No update is lost.**  At every point of the run, a credential that has been in the store
since its last policy update has the policy of that update, and the same for its recovery slot. -/
structure NoUpdateLost (w : World) (events : List Event) : Prop where
  policy : ∀ n id p,
    Run.Latest (policyWrite crates id) (isStored id) (run crates w (events.take n)) p →
      StoredAs (HoldsPolicy p) id (after crates w (events.take n)).store
  recovery : ∀ n id secret,
    Run.Latest (recoveryWrite id) (isStored id) (run crates w (events.take n)) secret →
      StoredAs (HoldsSecret crates secret) id (after crates w (events.take n)).store

/-- The copy has the policy columns and the recovery slot of the row. -/
def IsCurrent (c : Credential) (row : CredentialRow) : Prop :=
  row.primary.map KeyslotRow.policy = some (policyColumns c.policy) ∧
    recoveryOfRow crates row.recovery = some c.recovery

instance (c : Credential) (row : CredentialRow) : Decidable (IsCurrent crates c row) :=
  inferInstanceAs (Decidable (_ ∧ _))

/-- Every copy in memory is current, if it has a row. -/
def CacheCurrent (w : World) : Prop :=
  ∀ c ∈ w.auth.credentials, ∀ row ∈ w.store.credentials.rows, row.credentialId = c.id →
    IsCurrent crates c row

instance (w : World) : Decidable (CacheCurrent crates w) :=
  inferInstanceAs (Decidable (∀ c ∈ w.auth.credentials, ∀ row ∈ w.store.credentials.rows, _))

end

/-- A registration draws an ID that is not in the store. -/
def DrawsFresh (w : World) (event : Event) : Prop :=
  ∀ row ∈ w.store.credentials.rows, drawnId event ≠ some row.credentialId

instance (w : World) (event : Event) : Decidable (DrawsFresh w event) :=
  inferInstanceAs (Decidable (∀ row ∈ w.store.credentials.rows, _))

/-- A recovery slot comes with its passphrase token. -/
def hasToken (row : CredentialRow) : Bool := row.recovery.all fun slot ↦ slot.token.isSome

variable {crates : Crates}

/-! ## Slots that are written and read -/

theorem kdfParamsFromString_of_toString (hcrates : crates.ReadsBack) {kdf : RecoveryKdf}
    {salt hash : List UInt8} {s : String} (h : kdfParamsToString crates kdf salt hash = some s) :
    kdfParamsFromString crates s = some (salt, hash, kdf) := by
  cases kdf with
  | argon2id memoryKib iterations parallelism =>
    rw [kdfParamsFromString, hcrates.phc _ _ _ _ _ _ h]
    rfl

theorem tpmKeyFromBlob_toBlob (hcrates : crates.ReadsBack) (key : TpmCredential) {pem : String}
    {x y : List UInt8} (h : crates.ofPem pem = some (x, y)) :
    tpmKeyFromBlob crates (tpmKeyToBlob crates key) pem =
      some { key with publicKeyX := x, publicKeyY := y } := by
  simp [tpmKeyFromBlob, tpmKeyToBlob, hcrates.keyBlob, h]

/-- What reading a slot gives, if its parts can be read. -/
theorem recoveryOfRow_of_parts {slot : KeyslotRow} {token : TokenRow} {salt hash : List UInt8}
    {kdf : RecoveryKdf} {key : TpmCredential} (htoken : slot.token = some token)
    (hkdf : kdfParamsFromString crates token.kdfParams = some (salt, hash, kdf))
    (hkey : tpmKeyFromBlob crates slot.tpmKey slot.publicKey = some key) :
    recoveryOfRow crates (some slot) = some (some ⟨slot.slotLabel, salt, hash, kdf, key⟩) := by
  simp [recoveryOfRow, htoken, hkdf, hkey]

/-- **A slot that is saved is read back**, with some point for its key. -/
theorem recoveryOfRow_recoverySlotOf (hcrates : crates.ReadsBack) {slot : StoredRecoverySlot}
    {saved : Option KeyslotRow} (h : recoverySlotOf crates (some slot) = some saved) :
    ∃ x y, recoveryOfRow crates saved =
      some (some { slot with key := { slot.key with publicKeyX := x, publicKeyY := y } }) := by
  obtain ⟨keyslot, hsaved, rfl⟩ := Option.map_eq_some_iff.mp h
  obtain ⟨pem, hpem, h₁⟩ := Option.bind_eq_some_iff.mp hsaved
  obtain ⟨kdfParams, hkdf, h₂⟩ := Option.bind_eq_some_iff.mp h₁
  cases h₂
  obtain ⟨⟨x, y⟩, hpoint⟩ : ∃ point, crates.ofPem pem = some point := by
    rw [sec1EncodePoint] at hpem
    split at hpem
    · next hpoint =>
      cases hpem
      exact Option.isSome_iff_exists.mp (hcrates.pem _ _ hpoint)
    · cases hpem
  exact ⟨x, y, recoveryOfRow_of_parts rfl (kdfParamsFromString_of_toString hcrates hkdf)
    (tpmKeyFromBlob_toBlob hcrates slot.key hpoint)⟩

/-- **A slot that was changed is read back** as it was, with the new passphrase and the new private
area: the point of the key stays, and it could be read a moment ago. -/
theorem recoveryOfRow_withRecovery (hcrates : crates.ReadsBack) {row : CredentialRow}
    {slot : KeyslotRow} {oldKey : TpmCredential} {newPrivate newSalt newHash : List UInt8}
    {kdf : RecoveryKdf} {kdfParams : String} (hslot : row.recovery = some slot)
    (htoken : slot.token.isSome)
    (hkey : tpmKeyFromBlob crates slot.tpmKey slot.publicKey = some oldKey)
    (hkdf : kdfParamsToString crates kdf newSalt newHash = some kdfParams) :
    recoveryOfRow crates (Store.withRecovery
        (tpmKeyToBlob crates { oldKey with privateArea := newPrivate, authValue := some newHash })
        kdfParams row).recovery =
      some (some ⟨slot.slotLabel, newSalt, newHash, kdf,
        { oldKey with privateArea := newPrivate, authValue := some newHash }⟩) := by
  obtain ⟨token, htoken⟩ := Option.isSome_iff_exists.mp htoken
  obtain ⟨_, -, h₁⟩ := Option.bind_eq_some_iff.mp hkey
  obtain ⟨⟨x, y⟩, hpoint, h₂⟩ := Option.bind_eq_some_iff.mp h₁
  cases h₂
  rw [Store.withRecovery, hslot]
  exact recoveryOfRow_of_parts
    (congrArg (Option.map fun token ↦ { token with kdfParams := kdfParams }) htoken)
    (kdfParamsFromString_of_toString hcrates hkdf) (tpmKeyFromBlob_toBlob hcrates _ hpoint)

/-- A slot that is saved is read back with the same secret. -/
theorem holdsSecret_of_recoverySlotOf (hcrates : crates.ReadsBack) {row : CredentialRow}
    {slot : StoredRecoverySlot} (h : recoverySlotOf crates (some slot) = some row.recovery) :
    HoldsSecret crates (secretOf slot) row := by
  obtain ⟨x, y, hread⟩ := recoveryOfRow_recoverySlotOf hcrates h
  rw [HoldsSecret, hread]
  rfl

theorem hasToken_of_recoverySlotOf {row : CredentialRow} {recovery : Option StoredRecoverySlot}
    (h : recoverySlotOf crates recovery = some row.recovery) : hasToken row := by
  cases recovery with
  | none =>
    cases hrow : row.recovery with
    | none => rw [hasToken, hrow]; rfl
    | some _ => rw [hrow] at h; cases h
  | some slot =>
    obtain ⟨saved, hsaved, hrow⟩ := Option.map_eq_some_iff.mp h
    obtain ⟨pem, -, h₁⟩ := Option.bind_eq_some_iff.mp hsaved
    obtain ⟨kdfParams, -, h₂⟩ := Option.bind_eq_some_iff.mp h₁
    cases h₂
    rw [hasToken, ← hrow]
    rfl

/-! ## Where a row comes from -/

/-- Where a row found after a step that is no command of the management thread comes from: it was
there, with the same slots; it is the copy in memory of a request that saves everything; or it is
a new registration. -/
inductive RowOrigin (crates : Crates) (w : World) (event : Event) (row : CredentialRow) : Prop where
  | kept {row₀ : CredentialRow} (hmem : row₀ ∈ w.store.credentials.rows)
    (id : row.credentialId = row₀.credentialId) (primary : row.primary = row₀.primary)
    (recovery : row.recovery = row₀.recovery)
  | saved {c : Credential} (hsaves : savesAll crates event) (hmem : c ∈ w.auth.credentials)
    (id : row.credentialId = c.id)
    (primary : row.primary.map KeyslotRow.policy = some (policyColumns c.policy))
    (recovery : recoverySlotOf crates c.recovery = some row.recovery)
  | drawn {recovery : Option StoredRecoverySlot} (id : drawnId event = some row.credentialId)
    (hrecovery : recoverySlotOf crates recovery = some row.recovery)

theorem RowOrigin.of_mem {w : World} {event : Event} {row : CredentialRow}
    (h : row ∈ w.store.credentials.rows) : RowOrigin crates w event row :=
  .kept h rfl rfl rfl

theorem RowOrigin.of_release {w w₁ w' : World} {event : Event} {index : Nat} {x : Option Assertion}
    {row : CredentialRow} (h : Release w₁ index x w')
    (hw : w₁.store.credentials = w.store.credentials) (hrow : row ∈ w'.store.credentials.rows) :
    RowOrigin crates w event row := by
  cases h with
  | failed hsame _ =>
    rw [hsame.stored, hw] at hrow
    exact .of_mem hrow
  | done _ _ _ _ stored _ _ =>
    rw [stored, hw] at hrow
    obtain ⟨row₀, hrow₀, rfl⟩ := Table.mem_update.mp hrow
    split
    · exact .kept hrow₀ rfl rfl rfl
    · exact .of_mem hrow₀

/-- A row of a table that was written over, or not. -/
theorem RowOrigin.of_saved {w : World} {event : Event} {fault : StoreFault} {cs : List Credential}
    {t : Table CredentialRow.credentialId} {x : Option (List Credential)} {row : CredentialRow}
    (h : Saved crates fault cs w.store.credentials t x) (hrow : row ∈ t.rows)
    (hcs : ∀ c ∈ cs, Store.RowOf crates c row → RowOrigin crates w event row) :
    RowOrigin crates w event row := by
  cases h with
  | kept _ => exact .of_mem hrow
  | committed h =>
    obtain ⟨c, hc, hof⟩ := h.exists_left hrow
    exact hcs c hc hof

theorem Effect.rowOrigin {w w' : World} {event : Event} (h : Effect crates w event w')
    (htpm : ∀ env command, event ≠ .tpm env command) {row : CredentialRow}
    (hrow : row ∈ w'.store.credentials.rows) : RowOrigin crates w event row := by
  cases h with
  | kept hsame _ _ _ => exact .of_mem (hsame.stored ▸ hrow)
  | reloaded _ stored _ _ _ _ => exact .of_mem (stored ▸ hrow)
  | asserted _ _ _ _ _ stored _ _ _ hrel _ => exact .of_release hrel stored hrow
  | continued _ _ _ _ _ stored _ _ hrel _ => exact .of_release hrel stored hrow
  | @created _ env payload body new he hp made _ cached _ saved _ =>
    have hcommand : event.hasCommand .makeCredential = true := by
      rw [he]
      simp [Event.hasCommand, hp]
    refine .of_saved saved hrow fun c hc hof ↦ ?_
    obtain ⟨hid, -, hprimary, hrecovery⟩ := hof.records
    rw [cached, List.mem_append, List.mem_singleton] at hc
    rcases hc with hc | rfl
    · exact .saved (by simp [savesAll, hcommand]) hc hid hprimary hrecovery
    · refine .drawn ?_ hrecovery
      subst he
      rw [drawnId, if_pos hcommand, hid, made.id]
  | @renamed _ _ _ index user _ hsaves _ cached _ _ saved _ =>
    refine .of_saved saved hrow fun c hc hof ↦ ?_
    obtain ⟨hid, -, hprimary, hrecovery⟩ := hof.records
    rw [cached] at hc
    obtain ⟨j, hj⟩ := List.mem_iff_getElem?.mp hc
    rw [List.getElem?_modify] at hj
    obtain ⟨c₀, hc₀, rfl⟩ := Option.map_eq_some_iff.mp hj
    -- the user is not part of either slot
    refine .saved hsaves (List.mem_of_getElem? hc₀) (hid.trans ?_) (hprimary.trans ?_)
      (Eq.trans ?_ hrecovery)
    all_goals split <;> rfl
  | deleted _ _ _ stored _ _ _ _ _ =>
    rw [stored, Table.mem_delete] at hrow
    exact .of_mem hrow.1
  | wiped _ _ stored _ _ _ _ _ => exact .of_mem (stored row hrow)
  | updated he _ _ _ _ _ _ _ _ => exact absurd he (htpm _ _)
  | started _ _ stored _ _ _ _ => exact .of_mem (stored ▸ hrow)

/-! ## One step -/

/-- A step that is no command of the management thread, on a property of the slots. -/
theorem StoredAs.other {P : CredentialRow → Prop} {id : List UInt8} {w w' : World} {event : Event}
    (h : StoredAs P id w.store) (hstored : ∃ row ∈ w'.store.credentials.rows, row.credentialId = id)
    (heffect : Effect crates w event w') (htpm : ∀ env command, event ≠ .tpm env command)
    (hfresh : DrawsFresh w event)
    (hkept : ∀ row row₀ : CredentialRow, row.primary = row₀.primary →
      row.recovery = row₀.recovery → P row₀ → P row)
    (hsaved : savesAll crates event → ∀ c ∈ w.auth.credentials, ∀ row₀ ∈ w.store.credentials.rows,
      row₀.credentialId = c.id → P row₀ → ∀ row : CredentialRow,
        row.primary.map KeyslotRow.policy = some (policyColumns c.policy) →
        recoverySlotOf crates c.recovery = some row.recovery → P row) :
    StoredAs P id w'.store := by
  obtain ⟨row₀, hrow₀, rfl, hP⟩ := h
  obtain ⟨row, hrow, hid⟩ := hstored
  refine ⟨row, hrow, hid, ?_⟩
  cases heffect.rowOrigin htpm hrow with
  | @kept row₁ hmem hid₁ hprimary hrecovery =>
    obtain rfl := w.store.credentials.eq_of_key_eq hrow₀ hmem (hid.symm.trans hid₁)
    exact hkept row row₀ hprimary hrecovery hP
  | saved hsaves hmem hid₁ hprimary hrecovery =>
    exact hsaved hsaves _ hmem row₀ hrow₀ (hid.symm.trans hid₁) hP row hprimary hrecovery
  | drawn hdrawn _ => exact absurd (hid ▸ hdrawn) (hfresh row₀ hrow₀)

/-- A statement on one row, on a property the statement keeps. -/
theorem StoredAs.update {P : CredentialRow → Prop} {id id' : List UInt8} {s s' : Store}
    {f : CredentialRow → CredentialRow} {hf : ∀ r, (f r).credentialId = r.credentialId}
    (h : StoredAs P id s) (hs : s'.credentials = s.credentials.update id' f hf)
    (hP : id' = id → ∀ row, P row → P (f row)) : StoredAs P id s' := by
  obtain ⟨row, hrow, rfl, hrowP⟩ := h
  rw [StoredAs, hs]
  by_cases hid : row.credentialId = id'
  · exact ⟨f row, Table.mem_update_self hrow hid, hf row, hP hid.symm row hrowP⟩
  · exact ⟨row, (Table.mem_update_of_ne hid).mpr hrow, rfl, hrowP⟩

theorem StoredAs.congr {P : CredentialRow → Prop} {id : List UInt8} {s s' : Store}
    (h : StoredAs P id s) (hs : s'.credentials = s.credentials) : StoredAs P id s' := by
  rw [StoredAs, hs]
  exact h

theorem hasToken_step {w : World} {event : Event}
    (h : ∀ row ∈ w.store.credentials.rows, hasToken row) :
    ∀ row ∈ (step crates w event).2.store.credentials.rows, hasToken row := by
  intro row hrow
  by_cases htpm : ∃ env command, event = .tpm env command
  · obtain ⟨env, command, rfl⟩ := htpm
    have hresult := handleTpmCommand_result crates env command w
    change row ∈ (handleTpmCommand crates env command w).2.store.credentials.rows at hrow
    generalize handleTpmCommand crates env command w = r at hresult hrow
    cases hresult with
    | failed _ _ hw => exact h row (hw.tables.credentials ▸ hrow)
    | checked hw => exact h row (hw.tables.credentials ▸ hrow)
    | policyUpdated _ _ _ _ stored _ _ =>
      rw [stored] at hrow
      obtain ⟨row₀, hrow₀, rfl⟩ := Table.mem_update.mp hrow
      split <;> exact h row₀ hrow₀
    | recoveryUpdated _ _ _ _ _ _ _ stored _ _ =>
      rw [stored] at hrow
      obtain ⟨row₀, hrow₀, rfl⟩ := Table.mem_update.mp hrow
      have htoken := h row₀ hrow₀
      split
      · cases hslot : row₀.recovery with
        | none => simp [hasToken, Store.withRecovery, hslot]
        | some slot => simpa [hasToken, Store.withRecovery, hslot] using htoken
      · exact htoken
  · push Not at htpm
    cases (step_effect crates w event).rowOrigin htpm hrow with
    | kept hmem _ _ hrecovery =>
      have htoken := h _ hmem
      rwa [hasToken, ← hrecovery] at htoken
    | saved _ _ _ _ hrecovery => exact hasToken_of_recoverySlotOf hrecovery
    | drawn _ hrecovery => exact hasToken_of_recoverySlotOf hrecovery

/-! ## Registers -/

/-- Something in the slots of a credential that only the management thread writes: its commands
write it or leave it, and it is not lost between a row and a copy in memory that is current. -/
structure IsRegister (crates : Crates) (id : List UInt8) {α : Type} (write : Step → Option α)
    (Holds : α → CredentialRow → Prop) : Prop where
  tpm : ∀ (t : Step) (env : Env) (command : TpmCommand) (r : Outcome ErrorStatus Unit × World),
    t.input = .tpm env command → t.output = Reply.ofUnit r.1 →
    TpmResult crates env t.before command r →
    (∀ row ∈ t.before.store.credentials.rows, hasToken row) →
    (∃ v, write t = some v ∧ StoredAs (Holds v) id r.2.store) ∨
      write t = none ∧ ∀ v, StoredAs (Holds v) id t.before.store → StoredAs (Holds v) id r.2.store
  other : ∀ (w : World) (event : Event), (∀ env command, event ≠ .tpm env command) →
    write (Run.transition (step crates) w event) = none
  kept : ∀ (v : α) (row₀ row : CredentialRow), row.primary = row₀.primary →
    row.recovery = row₀.recovery → Holds v row₀ → Holds v row
  saved : ∀ (v : α) (c : Credential) (row₀ row : CredentialRow), IsCurrent crates c row₀ →
    Holds v row₀ → row.primary.map KeyslotRow.policy = some (policyColumns c.policy) →
    recoverySlotOf crates c.recovery = some row.recovery → Holds v row

/-- **The step lemma.**  What was written last stays. -/
theorem IsRegister.step {id : List UInt8} {α : Type} {write : Step → Option α}
    {Holds : α → CredentialRow → Prop} (hreg : IsRegister crates id write Holds)
    {past : List Step} {w : World} {event : Event}
    (htokens : ∀ row ∈ w.store.credentials.rows, hasToken row) (hfresh : DrawsFresh w event)
    (hcurrent : savesAll crates event → CacheCurrent crates w)
    (hpast : ∀ v, Run.Latest write (isStored id) past v → StoredAs (Holds v) id w.store) {v : α}
    (hlatest : Run.Latest write (isStored id)
      (past ++ [Run.transition (Ctap2.step crates) w event]) v) :
    StoredAs (Holds v) id (Ctap2.step crates w event).2.store := by
  obtain ⟨hstored, hwrite⟩ := Run.latest_concat hlatest
  by_cases htpm : ∃ env command, event = .tpm env command
  · obtain ⟨env, command, rfl⟩ := htpm
    rcases hreg.tpm (Run.transition (Ctap2.step crates) w (.tpm env command)) env command _ rfl rfl
      (handleTpmCommand_result crates env command w) htokens with
      ⟨v', hv', hholds⟩ | ⟨hnone, hkept⟩
    · rw [hv'] at hwrite
      rcases hwrite with hwrite | ⟨hwrite, -⟩
      · cases hwrite
        exact hholds
      · cases hwrite
    · rw [hnone] at hwrite
      rcases hwrite with hwrite | ⟨-, hwrite⟩
      · cases hwrite
      · exact hkept v (hpast v hwrite)
  · push Not at htpm
    rw [hreg.other w event htpm] at hwrite
    rcases hwrite with hwrite | ⟨-, hwrite⟩
    · cases hwrite
    · exact (hpast v hwrite).other hstored (step_effect crates w event) htpm hfresh
        (fun row row₀ ↦ hreg.kept v row₀ row) fun hsaves c hc row₀ hrow₀ hid hP row ↦
          hreg.saved v c row₀ row (hcurrent hsaves c hc row₀ hrow₀ hid) hP

/-- The reply of a command of the management thread that failed is not `ok`. -/
theorem ofUnit_ne_ok {o : Outcome ErrorStatus Unit} (h : o.toOption = none) :
    Reply.ofUnit o ≠ .ok := by
  cases o with
  | ok _ => cases h
  | error _ => nofun
  | panicked => nofun

/-- The policy of a credential is such a register. -/
theorem isRegister_policy (crates : Crates) (id : List UInt8) :
    IsRegister crates id (policyWrite crates id) HoldsPolicy where
  tpm t env command r hinput houtput hresult _ := by
    cases hresult with
    | failed o ho hw =>
      refine .inr ⟨?_, fun p h ↦ h.congr hw.tables.credentials⟩
      rw [policyWrite]
      split
      · next hok => exact absurd (houtput.symm.trans hok) (ofUnit_ne_ok ho)
      · rfl
    | checked hw =>
      exact .inr ⟨by rw [policyWrite, hinput], fun p h ↦ h.congr hw.tables.credentials⟩
    | @policyUpdated w' id' authority authorityName policyRef policy tpm htpm hpolicy hrow _
      stored =>
      have hwrite : policyWrite crates id t = if id' = id then some policy else none := by
        simp only [policyWrite, hinput, houtput, Reply.ofUnit, htpm, Option.bind_some,
          hpolicy]
      by_cases hid : id' = id
      · subst hid
        obtain ⟨row, hmem, hid, hprimary⟩ := hrow
        obtain ⟨slot, hslot⟩ := Option.isSome_iff_exists.mp hprimary
        refine .inl ⟨policy, by rw [hwrite, if_pos rfl], ?_⟩
        rw [StoredAs, stored]
        exact ⟨_, Table.mem_update_self hmem hid, hid,
          by simp [HoldsPolicy, Store.withPolicy, hslot]⟩
      · exact .inr ⟨by rw [hwrite, if_neg hid], fun p h ↦ h.update stored fun h ↦ absurd h hid⟩
    | recoveryUpdated _ _ _ _ _ _ _ stored _ _ =>
      exact .inr ⟨by rw [policyWrite, hinput], fun p h ↦ h.update stored fun _ _ hP ↦ hP⟩
  other w event htpm := by cases event <;> first | rfl | exact absurd rfl (htpm _ _)
  kept p row₀ row hprimary _ h := by
    rw [HoldsPolicy, hprimary]
    exact h
  saved p c row₀ row hcurrent h hprimary _ := by
    rw [HoldsPolicy, hprimary, ← hcurrent.1]
    exact h

/-- Its recovery secret is another, if the codecs read back what they wrote. -/
theorem isRegister_recovery (hcrates : crates.ReadsBack) (id : List UInt8) :
    IsRegister crates id (recoveryWrite id) (HoldsSecret crates) where
  tpm t env command r hinput houtput hresult htokens := by
    cases hresult with
    | failed o ho hw =>
      refine .inr ⟨?_, fun p h ↦ h.congr hw.tables.credentials⟩
      rw [recoveryWrite]
      split
      · next hok => exact absurd (houtput.symm.trans hok) (ofUnit_ne_ok ho)
      · rfl
    | checked hw =>
      exact .inr ⟨by rw [recoveryWrite, hinput], fun p h ↦ h.congr hw.tables.credentials⟩
    | policyUpdated _ _ _ _ stored _ _ =>
      exact .inr ⟨by rw [recoveryWrite, hinput], fun p h ↦ h.update stored fun _ _ hP ↦ hP⟩
    | @recoveryUpdated w' id' newHash newSalt newPrivate recoveryKey kdf row slot oldKey kdfParams
      hprivate hmem hid' hslot hkey hkdf _ stored =>
      have hwrite : recoveryWrite id t =
          if id' = id then some ⟨newPrivate, newSalt, newHash, kdf⟩ else none := by
        simp only [recoveryWrite, hinput, houtput, Reply.ofUnit, changeKeyAuth, hprivate,
          Option.map_some]
      by_cases hid : id' = id
      · subst hid
        have htoken := htokens row hmem
        rw [hasToken, hslot] at htoken
        refine .inl ⟨_, by rw [hwrite, if_pos rfl], ?_⟩
        rw [StoredAs, stored]
        refine ⟨_, Table.mem_update_self hmem hid', hid', ?_⟩
        rw [HoldsSecret, recoveryOfRow_withRecovery hcrates hslot htoken hkey hkdf]
        rfl
      · exact .inr ⟨by rw [hwrite, if_neg hid], fun p h ↦ h.update stored fun h ↦ absurd h hid⟩
  other w event htpm := by cases event <;> first | rfl | exact absurd rfl (htpm _ _)
  kept secret row₀ row _ hrecovery h := by
    rw [HoldsSecret, hrecovery]
    exact h
  saved secret c row₀ row hcurrent h _ hrecovery := by
    rw [HoldsSecret, hcurrent.2] at h
    cases hc : c.recovery with
    | none => rw [hc] at h; cases h
    | some slot =>
      rw [hc] at h hrecovery
      cases h
      exact holdsSecret_of_recoverySlotOf hcrates hrecovery

/-! ## Runs -/

/-- What the past has written is in the store, and every recovery slot has its token. -/
structure UpdatesHeld (crates : Crates) (past : List Step) (w : World) : Prop where
  tokens : ∀ row ∈ w.store.credentials.rows, hasToken row
  policy : ∀ id p, Run.Latest (policyWrite crates id) (isStored id) past p →
    StoredAs (HoldsPolicy p) id w.store
  recovery : ∀ id secret, Run.Latest (recoveryWrite id) (isStored id) past secret →
    StoredAs (HoldsSecret crates secret) id w.store

theorem UpdatesHeld.step (hcrates : crates.ReadsBack) {past : List Step} {w : World}
    {event : Event} (h : UpdatesHeld crates past w) (hfresh : DrawsFresh w event)
    (hcurrent : savesAll crates event → CacheCurrent crates w) :
    UpdatesHeld crates (past ++ [Run.transition (Ctap2.step crates) w event])
      (Ctap2.step crates w event).2 where
  tokens := hasToken_step h.tokens
  policy id _ hlatest :=
    (isRegister_policy crates id).step h.tokens hfresh hcurrent (h.policy id) hlatest
  recovery id _ hlatest :=
    (isRegister_recovery hcrates id).step h.tokens hfresh hcurrent (h.recovery id) hlatest

/-- **No update is lost while the copies are current.**  If every registration draws a new ID, and
whenever a request saves everything the copies in memory have the policies and recovery slots of
their rows, then no update of the management thread is lost. -/
theorem noUpdateLost_of_cacheCurrent (hcrates : crates.ReadsBack) (env : Env)
    (tpmPath : Option String) (s : Store) (events : List Event)
    (htokens : ∀ row ∈ s.credentials.rows, hasToken row)
    (hfresh : ∀ t ∈ run crates (newAuthenticator crates env tpmPath s) events,
      DrawsFresh t.before t.input)
    (hcurrent : ∀ t ∈ run crates (newAuthenticator crates env tpmPath s) events,
      savesAll crates t.input → CacheCurrent crates t.before) :
    NoUpdateLost crates (newAuthenticator crates env tpmPath s) events := by
  have hinit : UpdatesHeld crates [] (newAuthenticator crates env tpmPath s) := by
    refine ⟨?_, fun _ _ h ↦ absurd h Run.not_latest_nil, fun _ _ h ↦ absurd h Run.not_latest_nil⟩
    rw [(newAuthenticator_started crates env tpmPath s).stored]
    exact htokens
  have hheld : ∀ n, UpdatesHeld crates
      (run crates (newAuthenticator crates env tpmPath s) (events.take n))
      (after crates (newAuthenticator crates env tpmPath s) (events.take n)) := by
    intro n
    refine Run.history_invariant (H := UpdatesHeld crates)
      (C := fun w event ↦ DrawsFresh w event ∧ (savesAll crates event → CacheCurrent crates w))
      hinit (fun _ _ _ h hc ↦ h.step hcrates hc.1 hc.2) _ fun t ht ↦ ?_
    have ht : t ∈ run crates (newAuthenticator crates env tpmPath s) events := by
      rw [← List.take_append_drop n events, run, Run.transitions_append]
      exact List.mem_append_left _ ht
    exact ⟨hfresh t ht, hcurrent t ht⟩
  exact ⟨fun n ↦ (hheld n).policy, fun n ↦ (hheld n).recovery⟩

/-! ## A registration after an update -/

namespace Sample

/-- The requests of the two runs. -/
def updatePackages : Crates := packages [makeCredential "a", makeCredential "b", getAssertion "a"]

/-- The daemon of the two runs. -/
def updateStart : World := newAuthenticator updatePackages (session 1000 0) (some "") Store.fresh

/-- A registration. -/
def updateRegistration : List Event :=
  [setPassphrase, request (session 1000 1) 0x01 (makeCredential "a")]

/-- The management thread gives its credential another policy. -/
def updatePolicy : Event :=
  .tpm { session 1000 0 with tpm := device [1] }
    (.pcrPolicyUpdate (credentialId 1) ⟨[], [], [], [], none⟩ [] [])

/-- The policy it gives. -/
def updatedPolicy : PcrPolicyBinding := ⟨"sha256:7", [1], some [], some [], some []⟩

/-- Another registration. -/
def nextRegistration : Event := request (session 1000 2) 0x01 (makeCredential "b")

/-- The credentials are read again. -/
def readAgain : Event := request (session 1000 0) 0x02 (getAssertion "a")

end Sample

open Sample in
/-- An authentication reads the credentials again, so the registration after it saves the new
policy. -/
theorem noUpdateLost_of_cacheCurrent_readAgain :
    (after updatePackages updateStart
      (updateRegistration ++
        [updatePolicy, readAgain, nextRegistration])).store.credentials.rows.map
        (fun row ↦ (row.credentialId, (row.primary.map KeyslotRow.policy).bind (·.policyDigest))) =
      [(credentialId 1, some [1]), (credentialId 2, some [])] ∧
    NoUpdateLost updatePackages updateStart
      (updateRegistration ++ [updatePolicy, readAgain, nextRegistration]) :=
  ⟨by decide +kernel, noUpdateLost_of_cacheCurrent (packages_readsBack _) (session 1000 0) (some "")
    Store.fresh _ (by decide +kernel) (by decide +kernel) (by decide +kernel)⟩

open Sample in
/-- Without it the registration of the second credential puts the old policy of the first one
back. -/
theorem makeCredential_restores_old_policy :
    (step updatePackages (after updatePackages updateStart updateRegistration)
        updatePolicy).1 = .ok ∧
      (after updatePackages updateStart
        (updateRegistration ++ [updatePolicy])).store.credentials.rows.map
          (fun row ↦ (row.credentialId, (row.primary.map KeyslotRow.policy).bind
            (·.policyDigest))) =
        [(credentialId 1, some [1])] ∧
      (after updatePackages updateStart
        (updateRegistration ++ [updatePolicy, nextRegistration])).store.credentials.rows.map
          (fun row ↦ (row.credentialId, (row.primary.map KeyslotRow.policy).bind
            (·.policyDigest))) =
        [(credentialId 1, some []), (credentialId 2, some [])] ∧
      ¬ NoUpdateLost updatePackages updateStart
        (updateRegistration ++ [updatePolicy, nextRegistration]) := by
  refine ⟨by decide +kernel, by decide +kernel, by decide +kernel, fun h ↦ ?_⟩
  have hlatest : Run.Latest (policyWrite updatePackages (credentialId 1))
      (isStored (credentialId 1))
      (run updatePackages updateStart
        ((updateRegistration ++ [updatePolicy, nextRegistration]).take 4)) updatedPolicy := by
    refine ⟨run updatePackages updateStart updateRegistration,
      Run.transition (step updatePackages) (after updatePackages updateStart updateRegistration)
        updatePolicy,
      run updatePackages (step updatePackages (after updatePackages updateStart updateRegistration)
        updatePolicy).2 [nextRegistration],
      Run.transitions_append updateStart updateRegistration [updatePolicy, nextRegistration],
      by decide +kernel, ?_, ?_⟩
    · unfold isStored
      decide +kernel
    · unfold isStored
      decide +kernel
  obtain ⟨row, hrow, hid, hholds⟩ := h.policy 4 _ _ hlatest
  have hold : ∀ row ∈ (after updatePackages updateStart
      ((updateRegistration ++ [updatePolicy, nextRegistration]).take 4)).store.credentials.rows,
      row.credentialId = credentialId 1 → ¬ row.primary.map KeyslotRow.policy =
        some (policyColumns (some ⟨updatedPolicy, StoredPcrPolicy.currentVersion⟩)) := by
    decide +kernel
  exact hold row hrow hid hholds

end Ctap2
end TpmFido2
