import Mathlib.Data.List.Pairwise
import TpmFido2.Ctap2.PinEffects
import TpmFido2.Management.InStep

/-!
# What a recovery slot holds together

The recovery key of a credential can be used by whoever knows the daemon passphrase the slot was
last given.  For that, six things have to fit: the salt, the hash and the parameters in the token,
the auth value in the key blob, the private area, which the TPM has sealed with that auth value, and
the public area of the same object.  They are in two tables.  A registration writes all of them; a
message of a change of the passphrase writes all but the public area; and a save of the whole list
in memory writes back what was in memory, which may be older than both.

`SlotCoherent` says that they fit, and that the passphrase was once the daemon's.  It does not say
that the passphrase is the current one — `InStep` is about that, and it fails — but that the slot is
never a mixture of two.  So **`recoverySlots_coherent`** needs no condition on the scheduler: the
steps of registrations and of changes of the passphrase may come in any order and fail anywhere,
the main thread may handle any other request in between, and the daemon may stop at any point and
start again.

The private area goes back to the calls that were made: TPM2_Create in the turn that made the
credential (`Creates`), and after it any number of TPM2_ObjectChangeAuth, each in a turn that
handled a message, and each on a key that the calls before it have sealed (`Changes`, `Sealed`).
A message carries the key that was stored when the request listed the credentials, and by then the
row may be another one with the same ID.  That is the one place where a slot could end up with the
public area of another object; as the IDs are 32 random bytes, `FreshIds` is the condition for that
part, and for no other.

The argument is about where things come from.  Every passphrase that is in the store, in a request
that has saved it, in a message, or in the hands of a registration was saved by a step of the past
(`FromPast`), and every recovery key, in the store, in memory, on the list of a request or in a
message, was sealed by the calls of the past (`AllCoherent`).
-/

set_option autoImplicit false

namespace TpmFido2
namespace Management

open Ctap2 (World Env TpmCommand Event Effect Saved)
open Handler (Moves Frame)
open Store (SameTables recoveryOfRow recoverySlotOf)

/-! ## The life of a daemon -/

/-- The main thread does this from beginning to end, and it is no part of a change of the
passphrase. -/
def standsAlone : Event → Bool
  | .tpm _ (.passphraseChange _ _ _ _ _) => false
  | .setPassphrase _ _ _ _ => false
  | .start _ _ => false
  | _ => true

/-- What happens next. -/
inductive Turn where
  /-- A step of a registration or of a change of the passphrase. -/
  | act (action : Action)
  /-- Something else, if the main thread is idle. -/
  | event (event : Event) (h : standsAlone event = true)
  /-- The daemon stops, whatever the threads are doing, and starts again. -/
  | restart (env : Env) (tpmPath : Option String)

section
variable (crates : Crates) (hash : PassphraseHash)

/-- One turn.  A stop loses what is in memory, the messages and the requests. -/
def System.turn (sys : System) (turn : Turn) : Result × System :=
  match turn with
  | .act action => sys.step crates hash action
  | .event event _ =>
    if sys.main.isIdle then (.ok, { sys with world := (Ctap2.step crates sys.world event).2 })
    else (.ok, sys)
  | .restart env tpmPath =>
    (.ok, .start (Ctap2.newAuthenticator crates env tpmPath sys.world.store))

/-- A turn of a run. -/
abbrev TurnStep := Run.Transition System Turn Result

/-- The daemon as it starts for the first time. -/
def firstStart (env : Env) (tpmPath : Option String) : System :=
  .start (Ctap2.newAuthenticator crates env tpmPath Store.fresh)

/-- The turns of a daemon from its first start on. -/
abbrev turnsFrom (env : Env) (tpmPath : Option String) (turns : List Turn) : List TurnStep :=
  Run.transitions (System.turn crates hash) (firstStart crates env tpmPath) turns

/-- The daemon after some turns. -/
abbrev afterTurns (env : Env) (tpmPath : Option String) (turns : List Turn) : System :=
  Run.final (System.turn crates hash) (firstStart crates env tpmPath) turns

end

/-! ## The property -/

/-- The passphrase that becomes the daemon's in a turn: a request saves it, and that works. -/
def savedPassphrase (t : TurnStep) : Option String :=
  match t.input, t.output with
  | .act (.thread k _ _), .ok =>
    (t.before.threads[k]?.filter fun thread ↦ thread.phase.isSave).map
      fun thread ↦ thread.request.newPassphrase
  | _, _ => none

/-- Salt, hash and parameters are those of a passphrase that was once the daemon's. -/
def FromPast (hash : PassphraseHash) (past : List TurnStep) (p : Passphrase) : Prop :=
  ∃ passphrase, (∃ t ∈ past, savedPassphrase t = some passphrase) ∧
    hash p.2.2 p.1 passphrase = some p.2.1

/-- The credential that is made in a turn. -/
def madeIn (t : TurnStep) : Option Credential :=
  match t.input, t.after.main with
  | .act .proceed, .saving _ _ c => some c
  | .event event _, _ =>
    if event.hasCommand .makeCredential then
      t.after.world.auth.credentials[t.before.world.auth.credentials.length]?
    else none
  | _, _ => none

/-- No two credentials were given the same ID. -/
def FreshIds (past : List TurnStep) : Prop := ((past.filterMap madeIn).map Credential.id).Nodup

instance (past : List TurnStep) : Decidable (FreshIds past) :=
  inferInstanceAs (Decidable (List.Nodup _))

/-- What the keys of a new credential are created with: the environment of the registration, and the
daemon passphrase that it has read. -/
def createdWith (crates : Crates) (t : TurnStep) : Option (Env × Option Passphrase) :=
  match t.input, t.before.main with
  | .act .proceed, .creating env _ read => some (env, read)
  | .event (.cbor env _) _, _ =>
    some (env, Ctap2.passphraseIn crates (env.store 1) t.before.world.store)
  | _, _ => none

/-- **In the turn the TPM has created the recovery key of the credential**: TPM2_Create, with the
auth value and without a policy, has returned the two areas. -/
def Creates (crates : Crates) (t : TurnStep) (id authValue privateArea publicArea : List UInt8) :
    Prop :=
  ∃ c env salt kdf x y, madeIn t = some c ∧ c.id = id ∧
    createdWith crates t = some (env, some (salt, authValue, kdf)) ∧
    env.tpm.createKey none (some authValue) = some (privateArea, publicArea, x, y)

/-- **In the turn the TPM has changed the auth value of a recovery key of the credential**: a
message with the key was handled, and TPM2_ObjectChangeAuth on that key has returned the private
area. -/
def Changes (t : TurnStep) (id : List UInt8) (key : TpmCredential)
    (authValue privateArea : List UInt8) : Prop :=
  ∃ env k salt kdf queue, t.input = .act (.receive env) ∧ t.before.main = .idle ∧
    t.before.queue = (k, .passphraseChange id key authValue salt kdf) :: queue ∧ t.output = .ok ∧
    env.tpm.objectChangeAuth key authValue = some privateArea

/-- **The TPM has sealed the private area with the auth value**, and the public area is that of the
object: it was created so, or a key of that object was given the auth value. -/
inductive Sealed (crates : Crates) (past : List TurnStep) (id : List UInt8) :
    List UInt8 → List UInt8 → List UInt8 → Prop where
  | created {t : TurnStep} {authValue privateArea publicArea : List UInt8} (ht : t ∈ past)
    (h : Creates crates t id authValue privateArea publicArea) :
    Sealed crates past id authValue privateArea publicArea
  | changed {t : TurnStep} {key : TpmCredential} {old new privateArea publicArea : List UInt8}
    (ht : t ∈ past) (h : Changes t id key new privateArea) (hold : key.authValue = some old)
    (hkey : Sealed crates past id old key.privateArea publicArea)
    (hpublic : FreshIds past → key.publicArea = publicArea) :
    Sealed crates past id new privateArea publicArea

/-- The key has the auth value, and the TPM has sealed its private area with it; the public area is
that of the same object. -/
structure KeySealed (crates : Crates) (past : List TurnStep) (id : List UInt8)
    (key : TpmCredential) (authValue : List UInt8) : Prop where
  stored : key.authValue = some authValue
  areas : ∃ publicArea, Sealed crates past id authValue key.privateArea publicArea ∧
    (FreshIds past → key.publicArea = publicArea)

/-- **The parts of a recovery slot fit**: the auth value of the key is the hash, and the private
area is what the TPM has sealed with it; the hash is that of a passphrase that was once the
daemon's, with the salt and the parameters of the slot. -/
structure SlotCoherent (crates : Crates) (hash : PassphraseHash) (past : List TurnStep)
    (id : List UInt8) (slot : StoredRecoverySlot) : Prop where
  key : KeySealed crates past id slot.key slot.passphraseHash
  passphrase : FromPast hash past (passphraseOf slot)

/-- What is in the recovery columns of a credential can be read, and its parts fit. -/
def ColumnsCoherent (crates : Crates) (hash : PassphraseHash) (past : List TurnStep)
    (id : List UInt8) (columns : Option KeyslotRow) : Prop :=
  ∀ keyslot ∈ columns, ∃ slot, recoveryOfRow crates (some keyslot) = some (some slot) ∧
    SlotCoherent crates hash past id slot

section
variable {crates : Crates} {hash : PassphraseHash} {past : List TurnStep} {id : List UInt8}

/-- If creating a key and changing its auth value bind the private area to the auth value, the key
of a slot whose parts fit is bound to the auth value it is stored with. -/
theorem SlotCoherent.bound {slot : StoredRecoverySlot} (h : SlotCoherent crates hash past id slot)
    {authOf : List UInt8 → Option (List UInt8)}
    (hcreate : ∀ t ∈ past, ∀ authValue privateArea publicArea,
      Creates crates t id authValue privateArea publicArea → authOf privateArea = some authValue)
    (hchange : ∀ t ∈ past, ∀ key authValue privateArea,
      Changes t id key authValue privateArea → authOf privateArea = some authValue) :
    authOf slot.key.privateArea = slot.key.authValue := by
  obtain ⟨publicArea, hsealed, -⟩ := h.key.areas
  rw [h.key.stored]
  cases hsealed with
  | created ht h => exact hcreate _ ht _ _ _ h
  | changed ht h _ _ _ => exact hchange _ ht _ _ _ h

/-! ## The public area of an object -/

/-- What was sealed was created for the credential. -/
theorem Sealed.exists_creates {authValue privateArea publicArea : List UInt8}
    (h : Sealed crates past id authValue privateArea publicArea) :
    ∃ t ∈ past, ∃ authValue privateArea, Creates crates t id authValue privateArea publicArea := by
  induction h with
  | created ht h => exact ⟨_, ht, _, _, h⟩
  | changed _ _ _ _ _ ih => exact ih

/-- With fresh IDs a credential is made in one turn only. -/
theorem FreshIds.eq_of_id_eq (h : FreshIds past) {t t' : TurnStep} {c c' : Credential}
    (ht : t ∈ past) (ht' : t' ∈ past) (hc : madeIn t = some c) (hc' : madeIn t' = some c')
    (hid : c.id = c'.id) : t = t' := by
  rw [FreshIds, List.Nodup, List.pairwise_map, List.pairwise_filterMap] at h
  have hsymm : Std.Symm fun t t' : TurnStep ↦ ∀ c, madeIn t = some c → ∀ c', madeIn t' = some c' →
      c.id ≠ c'.id := ⟨fun _ _ h c hc c' hc' ↦ (h c' hc' c hc).symm⟩
  by_contra hne
  exact h.forall ht ht' hne c hc c' hc' hid

/-- **With fresh IDs the public area of a credential's recovery key is always the same.** -/
theorem Sealed.publicArea_unique (hfresh : FreshIds past)
    {a a' privateArea privateArea' publicArea publicArea' : List UInt8}
    (h : Sealed crates past id a privateArea publicArea)
    (h' : Sealed crates past id a' privateArea' publicArea') : publicArea = publicArea' := by
  obtain ⟨t, ht, _, _, c, env, _, _, _, _, hmade, hid, hwith, hcreate⟩ := h.exists_creates
  obtain ⟨t', ht', _, _, c', env', _, _, _, _, hmade', hid', hwith', hcreate'⟩ :=
    h'.exists_creates
  obtain rfl := hfresh.eq_of_id_eq ht ht' hmade hmade' (hid.trans hid'.symm)
  cases hwith.symm.trans hwith'
  cases hcreate.symm.trans hcreate'
  rfl

/-! ## Slots that are made, saved, read and changed -/

/-- Whatever key the TPM creates for the passphrase that was read, that is on record. -/
def Records (crates : Crates) (past : List TurnStep) (id : List UInt8) (env : Env)
    (read : Option Passphrase) : Prop :=
  ∀ salt authValue kdf privateArea publicArea x y, read = some (salt, authValue, kdf) →
    env.tpm.createKey none (some authValue) = some (privateArea, publicArea, x, y) →
      Sealed crates past id authValue privateArea publicArea

theorem slotCoherent_of_material {env : Env} {tpm : Tpm} {credentialId : List UInt8}
    {owner : Option UInt32} {read : Option Passphrase} {key : TpmCredential}
    {policy : PcrPolicyBinding} {material : Option RecoveryMaterial}
    (h : Ctap2.createCredentialMaterial crates env tpm credentialId owner read =
      some (key, policy, material)) (hread : ∀ p ∈ read, FromPast hash past p)
    (hrecords : Records crates past id env read) {slot : StoredRecoverySlot}
    (hslot : material.map Ctap2.RecoveryMaterial.toSlot = some slot) :
    SlotCoherent crates hash past id slot := by
  obtain ⟨hpassphrase, hkey⟩ := Ctap2.createCredentialMaterial_slot h hslot
  obtain ⟨⟨privateArea, publicArea, x, y⟩, hcreate, hkey⟩ := Option.map_eq_some_iff.mp hkey
  refine ⟨?_, hread _ hpassphrase⟩
  rw [← hkey]
  exact ⟨rfl, publicArea, hrecords _ _ _ _ _ x y hpassphrase hcreate, fun _ ↦ rfl⟩

/-- Saving may lose the point of the key, but that does not matter. -/
theorem columnsCoherent_of_saved (hcrates : crates.ReadsBack)
    {recovery : Option StoredRecoverySlot} {columns : Option KeyslotRow}
    (h : recoverySlotOf crates recovery = some columns)
    (hslot : ∀ slot ∈ recovery, SlotCoherent crates hash past id slot) :
    ColumnsCoherent crates hash past id columns := by
  rintro keyslot rfl
  cases recovery with
  | none => cases h
  | some slot =>
    obtain ⟨x, y, hread⟩ := Ctap2.recoveryOfRow_recoverySlotOf hcrates h
    have hcoherent := hslot slot rfl
    exact ⟨_, hread, ⟨hcoherent.key.stored, hcoherent.key.areas⟩, hcoherent.passphrase⟩

/-- What is read of the columns fits. -/
theorem ColumnsCoherent.of_read {columns : Option KeyslotRow}
    (h : ColumnsCoherent crates hash past id columns) {slot : StoredRecoverySlot}
    (hread : recoveryOfRow crates columns = some (some slot)) :
    SlotCoherent crates hash past id slot := by
  cases columns with
  | none => cases hread
  | some keyslot =>
    obtain ⟨slot', hread', hcoherent⟩ := h keyslot rfl
    cases hread.symm.trans hread'
    exact hcoherent

/-- A slot that can be read has its token and its key. -/
theorem recoveryOfRow_some {keyslot : KeyslotRow} {slot : StoredRecoverySlot}
    (h : recoveryOfRow crates (some keyslot) = some (some slot)) :
    keyslot.token.isSome ∧
      tpmKeyFromBlob crates keyslot.tpmKey keyslot.publicKey = some slot.key := by
  cases htoken : keyslot.token with
  | none =>
    simp only [recoveryOfRow, htoken] at h
    cases h
  | some token =>
    simp only [recoveryOfRow, htoken] at h
    obtain ⟨_, -, h₁⟩ := Option.bind_eq_some_iff.mp h
    obtain ⟨key, hkey, h₂⟩ := Option.bind_eq_some_iff.mp h₁
    cases h₂
    exact ⟨rfl, hkey⟩

/-- **A key after a change**: what is stored has the private area that the call has returned, and
the public area that was stored before. -/
theorem KeySealed.changed {key oldKey : TpmCredential} {a a₀ new privateArea : List UInt8}
    (h : KeySealed crates past id key a) (hold : KeySealed crates past id oldKey a₀)
    {t : TurnStep} (ht : t ∈ past) (hchange : Changes t id key new privateArea) :
    KeySealed crates past id { oldKey with privateArea := privateArea, authValue := some new }
      new := by
  obtain ⟨publicArea, hsealed, hpublic⟩ := h.areas
  obtain ⟨publicArea₀, hsealed₀, hpublic₀⟩ := hold.areas
  refine ⟨rfl, publicArea, .changed ht hchange h.stored hsealed hpublic, fun hfresh ↦ ?_⟩
  rw [hsealed.publicArea_unique hfresh hsealed₀]
  exact hpublic₀ hfresh

/-- The columns of that slot. -/
theorem ColumnsCoherent.changed (hcrates : crates.ReadsBack) {row : CredentialRow}
    (h : ColumnsCoherent crates hash past id row.recovery) {slot : KeyslotRow}
    {key oldKey : TpmCredential} {a newHash newSalt newPrivate : List UInt8} {kdf : RecoveryKdf}
    {kdfParams : String} (hslot : row.recovery = some slot)
    (hold : tpmKeyFromBlob crates slot.tpmKey slot.publicKey = some oldKey)
    (hkdf : kdfParamsToString crates kdf newSalt newHash = some kdfParams)
    (hnew : FromPast hash past (newSalt, newHash, kdf)) (hkey : KeySealed crates past id key a)
    {t : TurnStep} (ht : t ∈ past) (hchange : Changes t id key newHash newPrivate) :
    ColumnsCoherent crates hash past id (Store.withRecovery (tpmKeyToBlob crates
      { oldKey with privateArea := newPrivate, authValue := some newHash }) kdfParams
        row).recovery := by
  intro keyslot hkeyslot
  obtain ⟨slot₀, hread, hcoherent⟩ := h slot hslot
  obtain ⟨htoken, hkey₀⟩ := recoveryOfRow_some hread
  cases hold.symm.trans hkey₀
  refine ⟨⟨slot.slotLabel, newSalt, newHash, kdf, _⟩, ?_,
    hkey.changed hcoherent.key ht hchange, hnew⟩
  rw [← show _ = some keyslot from hkeyslot]
  exact Ctap2.recoveryOfRow_withRecovery hcrates hslot htoken hold hkdf

/-! ## The credentials -/

/-- What is in the store and in memory. -/
structure WorldCoherent (crates : Crates) (hash : PassphraseHash) (past : List TurnStep)
    (w : World) : Prop where
  passphrase : ∀ p, storedPassphrase crates w.store = some p → FromPast hash past p
  stored : ∀ row ∈ w.store.credentials.rows,
    ColumnsCoherent crates hash past row.credentialId row.recovery
  cached : ∀ c ∈ w.auth.credentials, ∀ slot ∈ c.recovery, SlotCoherent crates hash past c.id slot

/-- The tables and the list in memory are the same. -/
theorem WorldCoherent.congr {w w' : World} (h : WorldCoherent crates hash past w)
    (htables : SameTables w.store w'.store) (hcached : w'.auth.credentials = w.auth.credentials) :
    WorldCoherent crates hash past w' where
  passphrase p hp := h.passphrase p (storedPassphrase_congr htables ▸ hp)
  stored row hrow := h.stored row (htables.credentials ▸ hrow)
  cached c hc := h.cached c (hcached ▸ hc)

/-- Where the recovery columns of a row come from: they were there, or they are those of a
credential in memory. -/
inductive ColumnsOrigin (crates : Crates) (w w' : World) (row : CredentialRow) : Prop where
  | kept {row₀ : CredentialRow} (hrow : row₀ ∈ w.store.credentials.rows)
    (hid : row.credentialId = row₀.credentialId) (h : row.recovery = row₀.recovery)
  | saved {c : Credential} (hc : c ∈ w'.auth.credentials) (hid : row.credentialId = c.id)
    (h : recoverySlotOf crates c.recovery = some row.recovery)

theorem ColumnsOrigin.of_saved {w w' : World} {fault : StoreFault}
    {x : Option (List Credential)} {row : CredentialRow}
    (h : Saved crates fault w'.auth.credentials w.store.credentials w'.store.credentials x)
    (hrow : row ∈ w'.store.credentials.rows) : ColumnsOrigin crates w w' row := by
  generalize hcs : w'.auth.credentials = cs at h
  generalize w'.store.credentials = t at h hrow
  cases h with
  | kept _ => exact .kept hrow rfl rfl
  | committed h =>
    obtain ⟨c, hc, hof⟩ := h.exists_left hrow
    exact .saved (hcs ▸ hc) hof.records.id hof.records.recovery

/-- Rows that were updated, but not in these columns. -/
theorem ColumnsOrigin.of_update {w w' : World} {row : CredentialRow} {key : List UInt8}
    {f : CredentialRow → CredentialRow} {hf : ∀ row, (f row).credentialId = row.credentialId}
    (h : w'.store.credentials = w.store.credentials.update key f hf)
    (hrecovery : ∀ row, (f row).recovery = row.recovery)
    (hrow : row ∈ w'.store.credentials.rows) : ColumnsOrigin crates w w' row := by
  rw [h] at hrow
  obtain ⟨row₀, hrow₀, rfl⟩ := Table.mem_update.mp hrow
  split
  · exact .kept hrow₀ (hf row₀) (hrecovery row₀)
  · exact .kept hrow₀ rfl rfl

theorem ColumnsOrigin.of_release {w w₁ w' : World} {index : Nat} {x : Option Ctap2.Assertion}
    {row : CredentialRow} (h : Ctap2.Release w₁ index x w')
    (hw : w₁.store.credentials = w.store.credentials) (hrow : row ∈ w'.store.credentials.rows) :
    ColumnsOrigin crates w w' row := by
  cases h with
  | failed hsame _ =>
    rw [hsame.stored, hw] at hrow
    exact .kept hrow rfl rfl
  | done _ _ _ _ stored _ _ =>
    rw [hw] at stored
    exact .of_update stored (fun _ ↦ rfl) hrow

/-- **Where the recovery slots in the store come from**, if not from a message. -/
theorem columnsOrigin_of_effect {w w' : World} {event : Event} (h : Effect crates w event w')
    (hevent : ∀ env command, event ≠ .tpm env command) {row : CredentialRow}
    (hrow : row ∈ w'.store.credentials.rows) : ColumnsOrigin crates w w' row := by
  cases h with
  | kept hsame _ _ _ => exact .kept (hsame.stored ▸ hrow) rfl rfl
  | reloaded _ stored _ _ _ _ => exact .kept (stored ▸ hrow) rfl rfl
  | asserted _ _ _ _ _ stored _ _ _ hrel _ => exact .of_release hrel stored hrow
  | continued _ _ _ _ _ stored _ _ hrel _ => exact .of_release hrel stored hrow
  | created _ _ _ _ _ _ saved _ => exact .of_saved saved hrow
  | renamed _ _ _ _ _ _ saved _ => exact .of_saved saved hrow
  | deleted _ _ _ stored _ _ _ _ _ =>
    rw [stored, Table.mem_delete] at hrow
    exact .kept hrow.1 rfl rfl
  | wiped _ _ stored _ _ _ _ _ => exact .kept (stored row hrow) rfl rfl
  | updated he _ _ _ _ _ _ _ _ => exact absurd he (hevent _ _)
  | started _ _ stored _ _ _ _ => exact .kept (stored ▸ hrow) rfl rfl

/-- **A step of the main thread** that is no message.  The daemon passphrase stays, and if a
credential is made, its recovery key is on record. -/
theorem WorldCoherent.effect (hcrates : crates.ReadsBack) {w w' : World} {event : Event}
    (h : WorldCoherent crates hash past w) (heffect : Effect crates w event w')
    (hpassphrase : w'.store.daemonPassphrase = w.store.daemonPassphrase)
    (hevent : ∀ env command, event ≠ .tpm env command)
    (hmade : ∀ env payload c, event = .cbor env payload → event.hasCommand .makeCredential →
      w'.auth.credentials = w.auth.credentials ++ [c] →
        Records crates past c.id env (Ctap2.passphraseIn crates (env.store 1) w.store)) :
    WorldCoherent crates hash past w' := by
  have hcached : ∀ c ∈ w'.auth.credentials, ∀ slot ∈ c.recovery,
      SlotCoherent crates hash past c.id slot := by
    intro c hc slot hslot
    cases heffect.cachedOrigin hc with
    | kept hc₀ same _ =>
      rw [same.id]
      exact h.cached _ hc₀ slot (same.recovery ▸ hslot)
    | @loaded c₀ row hrow describes same =>
      -- a slot that was read is that of its row
      rw [same.id, describes.id]
      refine (h.stored row (Store.mem_selectCredentials.mp hrow).1).of_read ?_
      rw [describes.recovery, ← same.recovery, hslot]
    | made he hcommand made cached _ =>
      obtain ⟨tpm, policy, material, hmaterial, -, hrecovery⟩ := made.material
      refine slotCoherent_of_material hmaterial (fun p hp ↦ ?_) (hmade _ _ c he hcommand cached)
        (hrecovery ▸ hslot)
      exact h.passphrase p (storedPassphrase_of_passphraseIn hp)
  refine ⟨?_, fun row hrow ↦ ?_, hcached⟩
  · intro p hp
    rw [storedPassphrase, hpassphrase] at hp
    exact h.passphrase p hp
  · cases columnsOrigin_of_effect heffect hevent hrow with
    | kept hrow₀ hid he =>
      rw [hid, he]
      exact h.stored _ hrow₀
    | saved hc hid hsaved =>
      rw [hid]
      exact columnsCoherent_of_saved hcrates hsaved (hcached _ hc)

/-- **A message.**  If it changes the auth value of a key, that key is sealed, the new auth value is
the hash of a passphrase that was the daemon's, and the call of the TPM is on record. -/
theorem WorldCoherent.command (hcrates : crates.ReadsBack) {w : World} {env : Env}
    {command : TpmCommand} (h : WorldCoherent crates hash past w)
    (hchange : ∀ id key newHash newSalt kdf,
      command = .passphraseChange id key newHash newSalt kdf →
        FromPast hash past (newSalt, newHash, kdf) ∧
        (∃ authValue, KeySealed crates past id key authValue) ∧
        ∀ privateArea, (Ctap2.handleTpmCommand crates env command w).1 = .ok () →
          env.tpm.objectChangeAuth key newHash = some privateArea →
            ∃ t ∈ past, Changes t id key newHash privateArea) :
    WorldCoherent crates hash past (Ctap2.handleTpmCommand crates env command w).2 := by
  have hsettings := (Ctap2.handleTpmCommand_moves command w :
    Ctap2.Aside w (Ctap2.handleTpmCommand crates env _ w).2).settings
  have hpassphrase : ∀ p,
      storedPassphrase crates (Ctap2.handleTpmCommand crates env command w).2.store = some p →
        FromPast hash past p := by
    intro p hp
    rw [storedPassphrase, hsettings.daemonPassphrase] at hp
    exact h.passphrase p hp
  have hresult := Ctap2.handleTpmCommand_result crates env command w
  generalize Ctap2.handleTpmCommand crates env command w = r at hresult hchange hpassphrase ⊢
  cases hresult with
  | failed _ _ hmoves => exact h.congr hmoves.tables hmoves.credentials
  | checked hmoves => exact h.congr hmoves.tables hmoves.credentials
  | policyUpdated _ _ _ _ stored cached _ =>
    refine ⟨hpassphrase, fun row hrow ↦ ?_, fun c hc ↦ h.cached c (cached ▸ hc)⟩
    rw [stored] at hrow
    obtain ⟨row₀, hrow₀, rfl⟩ := Table.mem_update.mp hrow
    split <;> exact h.stored row₀ hrow₀
  | @recoveryUpdated _ id newHash newSalt newPrivate key kdf row slot oldKey kdfParams hprivate
    hmem hid hslot hold hkdf _ stored cached _ =>
    obtain ⟨hnew, ⟨authValue, hkey⟩, hrecorded⟩ := hchange id key newHash newSalt kdf rfl
    obtain ⟨t, ht, hchange⟩ := hrecorded newPrivate rfl hprivate
    refine ⟨hpassphrase, fun row' hrow' ↦ ?_, fun c hc ↦ h.cached c (cached ▸ hc)⟩
    rw [stored] at hrow'
    obtain ⟨row₀, hrow₀, rfl⟩ := Table.mem_update.mp hrow'
    subst hid
    split
    · next hid =>
      obtain rfl := w.store.credentials.eq_of_key_eq hmem hrow₀ hid.symm
      exact (h.stored row hmem).changed hcrates hslot hold hkdf hnew hkey ht hchange
    · exact h.stored row₀ hrow₀

/-! ## Who changes the daemon passphrase -/

/-- The daemon passphrase is the same. -/
def SamePassphrase (w w' : World) : Prop :=
  w'.store.daemonPassphrase = w.store.daemonPassphrase

theorem SamePassphrase.frame : Frame SamePassphrase where
  refl _ := rfl
  trans h₁ h₂ := Eq.trans h₂ h₁

theorem gatedCommand_samePassphrase {env : Env} {command : Ctap2.Ctap2Command}
    {body : List UInt8} : Moves SamePassphrase (Ctap2.gatedCommand crates env command body) := by
  have hF := SamePassphrase.frame
  by_cases hclient : command = .clientPin
  · subst hclient
    refine hF.bind ((Ctap2.requirePassphrase_moves _).mono fun _ _ h ↦ h.tables.daemonPassphrase)
      fun _ ↦ ?_
    exact (Ctap2.clientPin_moves body).mono fun _ _ h ↦ h.daemonPassphrase
  by_cases hreset : command = .reset
  · subst hreset
    intro w
    have h := Ctap2.reset_resetting crates env w
    change SamePassphrase w (Ctap2.reset crates env w).2
    generalize Ctap2.reset crates env w = r at h ⊢
    cases h with
    | refused _ => exact hF.refl w
    | done _ hpin hrows =>
      cases hpin with
      | unset _ => exact hrows.settings.daemonPassphrase
      | kept _ _ => exact hrows.settings.daemonPassphrase
      | removed _ _ => exact hrows.settings.daemonPassphrase
  refine Ctap2.gatedCommand_frame hF (fun h ↦ h.tables.daemonPassphrase)
    (fun h ↦ h.settings.daemonPassphrase) (fun params w ↦ ?_) (fun params w ↦ ?_) hclient hreset
  · have h := Ctap2.deleteCredential_deletion crates env params w
    generalize Ctap2.deleteCredential crates env params w = r at h ⊢
    cases h with
    | failed _ _ => exact hF.refl w
    | done _ _ => rfl
  · have h := Ctap2.updateUserInformation_renaming crates env params w
    generalize Ctap2.updateUserInformation crates env params w = r at h ⊢
    cases h with
    | failed _ => exact hF.refl w
    | done _ _ _ hsettings _ => exact hsettings.daemonPassphrase

theorem newAuthenticator_sameTables (env : Env) (tpmPath : Option String) (s : Store) :
    SameTables s (Ctap2.newAuthenticator crates env tpmPath s).store := by
  obtain ⟨_, _, _, he, htables, -⟩ := Ctap2.newAuthenticator_pin crates env tpmPath s
  rw [he]
  exact htables

/-- **Only a request to set it does.** -/
theorem step_samePassphrase {event : Event}
    (hset : ∀ fault salt hash kdf, event ≠ .setPassphrase fault salt hash kdf) (w : World) :
    SamePassphrase w (Ctap2.step crates w event).2 := by
  cases event with
  | cbor env payload =>
    cases hp : Ctap2.parsePayload payload with
    | none =>
      simp only [Ctap2.step, Ctap2.handleCbor, hp]
      rfl
    | some x =>
      obtain ⟨command, body⟩ := x
      rw [Ctap2.step_cbor hp]
      exact gatedCommand_samePassphrase (w.enter command)
  | cancel => rfl
  | tpm env command =>
    exact (Ctap2.handleTpmCommand_moves command w :
      Ctap2.Aside w (Ctap2.handleTpmCommand crates env command w).2).settings.daemonPassphrase
  | setPassphrase fault salt hash kdf => exact absurd rfl (hset fault salt hash kdf)
  | setPcrPolicy fault indices =>
    have hF : Frame fun s t : Store ↦ t.daemonPassphrase = s.daemonPassphrase :=
      ⟨fun _ ↦ rfl, fun h₁ h₂ ↦ h₂.trans h₁⟩
    have hmoves : Moves _ (Store.saveDefaultPcrPolicy crates fault indices) :=
      hF.bind (hF.throwIf _ _) fun _ ↦ Moves.modify fun _ ↦ rfl
    exact hmoves w.store
  | start env tpmPath => exact (newAuthenticator_sameTables env tpmPath w.store).daemonPassphrase
  | damage _ _ => rfl

/-! ## The threads -/

/-- The credentials that a request still has on its list. -/
def UpdatePhase.todo : UpdatePhase → List StoredCtap2Credential
  | .sending _ todo _ => todo
  | .waiting _ _ todo _ _ => todo
  | _ => []

/-- A request that is about to save has the hash of its new passphrase; once it has saved, that
passphrase was the daemon's; and the recovery keys on its list are sealed. -/
structure ThreadCoherent (crates : Crates) (hash : PassphraseHash) (past : List TurnStep)
    (t : UpdateThread) : Prop where
  saving : ∀ new, t.phase = .save new →
    hash new.2.2 new.1 t.request.newPassphrase = some new.2.1
  active : ∀ p ∈ t.phase.active, FromPast hash past p
  listed : ∀ c ∈ t.phase.todo, ∀ slot ∈ c.recovery,
    KeySealed crates past c.id slot.key slot.passphraseHash

/-- A registration has read what was once the daemon passphrase, and made a slot of it. -/
def MainCoherent (crates : Crates) (hash : PassphraseHash) (past : List TurnStep) :
    MainThread → Prop
  | .creating _ _ read => ∀ p ∈ read, FromPast hash past p
  | .saving _ _ c => ∀ slot ∈ c.recovery, SlotCoherent crates hash past c.id slot
  | _ => True

/-- The invariant. -/
structure AllCoherent (crates : Crates) (hash : PassphraseHash) (past : List TurnStep)
    (sys : System) : Prop where
  world : WorldCoherent crates hash past sys.world
  main : MainCoherent crates hash past sys.main
  messages : ∀ k id key newHash newSalt kdf,
    (k, TpmCommand.passphraseChange id key newHash newSalt kdf) ∈ sys.queue →
      FromPast hash past (newSalt, newHash, kdf) ∧
        ∃ authValue, KeySealed crates past id key authValue
  threads : ∀ t ∈ sys.threads, ThreadCoherent crates hash past t

/-- A daemon that has just started, on a store where all is well. -/
theorem allCoherent_start {w : World} (h : WorldCoherent crates hash past w) :
    AllCoherent crates hash past (.start w) where
  world := h
  main := trivial
  messages _ _ _ _ _ _ hmem := absurd hmem List.not_mem_nil
  threads _ ht := absurd ht List.not_mem_nil

/-! ## A request goes on -/

/-- A request goes on without a message. -/
theorem AllCoherent.goesOn {sys : System} (h : AllCoherent crates hash past sys) {k : Nat}
    {t : UpdateThread} {s' : Store}
    (hworld : WorldCoherent crates hash past { sys.world with store := s' })
    (ht : ThreadCoherent crates hash past t) :
    AllCoherent crates hash past
      { sys with world := { sys.world with store := s' }, threads := sys.threads.set k t } := by
  refine ⟨hworld, h.main, h.messages, fun u hu ↦ ?_⟩
  rcases List.mem_or_eq_of_mem_set hu with hu | rfl
  · exact h.threads u hu
  · exact ht

/-- The recovery keys of the credentials that a request lists are sealed. -/
theorem WorldCoherent.listed {w : World} (h : WorldCoherent crates hash past w)
    {uid : Option UInt32} {credentials : List StoredCtap2Credential}
    (hread : List.Forall₂ (fun row c ↦ Store.credentialOfRow crates uid row = some c)
      (Store.selectCredentials uid w.store) credentials) {c : StoredCtap2Credential}
    (hc : c ∈ credentials) {slot : StoredRecoverySlot} (hslot : c.recovery = some slot) :
    KeySealed crates past c.id slot.key slot.passphraseHash := by
  obtain ⟨row, hrow, hrowOf⟩ := hread.exists_left hc
  have hdescribes := Store.describes_of_credentialOfRow hrowOf
  have hcoherent := h.stored row (Store.mem_selectCredentials.mp hrow).1
  rw [hdescribes.id]
  exact (hcoherent.of_read (by rw [hdescribes.recovery, hslot])).key

/-- **A step of a request.**  If it saves its passphrase, that is on record. -/
theorem AllCoherent.thread (hcrates : crates.ReadsPassphrase) {sys : System} {k : Nat}
    {fault : StoreFault} {random : Option (Nat → UInt8)} (h : AllCoherent crates hash past sys)
    (hsaved : ∀ t ∈ sys.threads[k]?, t.phase.isSave →
      (sys.step crates hash (.thread k fault random)).1 = .ok →
        ∃ t' ∈ past, savedPassphrase t' = some t.request.newPassphrase) :
    AllCoherent crates hash past (sys.step crates hash (.thread k fault random)).2 := by
  cases ht : sys.threads[k]? with
  | none =>
    simp only [System.step, ht]
    exact h
  | some t =>
    have hsaved := hsaved t ht
    have hthread := h.threads t (List.mem_of_getElem? ht)
    have hadvanced : Advanced crates hash t sys.world.store
        (t.step crates hash fault random sys.world.store) :=
      step_advanced fault random sys.world.store hcrates t
    simp only [System.step, ht] at hsaved ⊢
    generalize t.step crates hash fault random sys.world.store = r at hadvanced hsaved ⊢
    cases hadvanced with
    | stayed => simpa using h.goesOn h.world hthread
    | ended hs _ =>
      simpa using h.goesOn (h.world.congr hs rfl)
        ⟨by rintro _ ⟨⟩, by rintro _ ⟨⟩, by rintro _ ⟨⟩⟩
    | verified _ hnew =>
      simpa using h.goesOn h.world
        ⟨by rintro _ ⟨⟩; exact hnew, by rintro _ ⟨⟩, by rintro _ ⟨⟩⟩
    | @saved s' new hphase hstored hs =>
      have hpast : FromPast hash past new :=
        ⟨t.request.newPassphrase, hsaved (by rw [hphase]; rfl) rfl, hthread.saving new hphase⟩
      have hworld : WorldCoherent crates hash past { sys.world with store := s' } := by
        refine ⟨fun p hp ↦ ?_, fun row hrow ↦ h.world.stored row (hs ▸ hrow), h.world.cached⟩
        cases hstored.symm.trans hp
        exact hpast
      simpa using h.goesOn hworld
        ⟨by rintro _ ⟨⟩, by rintro _ ⟨⟩; exact hpast, by rintro _ ⟨⟩⟩
    | @listed _ new _ hphase hs hread =>
      simpa using h.goesOn (h.world.congr hs rfl)
        ⟨by rintro _ ⟨⟩, by rintro _ ⟨⟩; exact hthread.active new (by rw [hphase]; rfl),
          fun c hc slot hslot ↦ h.world.listed hread hc hslot⟩
    | @skipped new c todo _ hphase _ =>
      simpa using h.goesOn h.world
        ⟨by rintro _ ⟨⟩, by rintro _ ⟨⟩; exact hthread.active new (by rw [hphase]; rfl),
          fun d hd ↦ hthread.listed d (by rw [hphase]; exact List.mem_cons_of_mem c hd)⟩
    | @answered new _ todo _ _ hphase =>
      simpa using h.goesOn h.world
        ⟨by rintro _ ⟨⟩, by rintro _ ⟨⟩; exact hthread.active new (by rw [hphase]; rfl),
          fun d hd ↦ hthread.listed d (by rw [hphase]; exact hd)⟩
    | @sent new c todo results slot hphase hrecovery =>
      have hnew : FromPast hash past new := hthread.active new (by rw [hphase]; rfl)
      have hgoesOn := h.goesOn (k := k)
        (t := { t with phase := .waiting new c.id todo results none }) h.world
        ⟨by rintro _ ⟨⟩, by rintro _ ⟨⟩; exact hnew,
          fun d hd ↦ hthread.listed d (by rw [hphase]; exact List.mem_cons_of_mem c hd)⟩
      refine ⟨hgoesOn.world, hgoesOn.main, fun j id key newHash newSalt kdf hmem ↦ ?_,
        hgoesOn.threads⟩
      rcases List.mem_append.mp hmem with hmem | hmem
      · exact h.messages j id key newHash newSalt kdf hmem
      · cases List.mem_singleton.mp hmem
        refine ⟨hnew, slot.passphraseHash, hthread.listed c ?_ slot hrecovery⟩
        rw [hphase]
        exact List.mem_cons_self

/-! ## The main thread goes on -/

/-- The main thread goes on without the requests. -/
theorem AllCoherent.proceeds {sys : System} (h : AllCoherent crates hash past sys)
    {main : MainThread} {w' : World} (hworld : WorldCoherent crates hash past w')
    (hmain : MainCoherent crates hash past main) :
    AllCoherent crates hash past { sys with main := main, world := w' } :=
  ⟨hworld, hmain, h.messages, h.threads⟩

theorem AllCoherent.begin {sys : System} (h : AllCoherent crates hash past sys) (env : Env)
    (body : List UInt8) :
    AllCoherent crates hash past (sys.step crates hash (.begin env body)).2 := by
  simp only [System.step]
  cases hmain : sys.main with
  | checking _ _ => exact h
  | creating _ _ _ => exact h
  | saving _ _ _ => exact h
  | idle =>
    obtain ⟨result, main, hbegin, hnext⟩ := beginRegistration_cases env body sys.world
    rw [hbegin]
    refine h.proceeds (h.world.congr (SameTables.frame.refl _) rfl) ?_
    rcases hnext with rfl | rfl <;> exact trivial

/-- **A step of a registration.**  If it makes a credential, the recovery key is on record. -/
theorem AllCoherent.proceed (hcrates : crates.ReadsBack) {sys : System}
    (h : AllCoherent crates hash past sys)
    (hmade : ∀ env registration read c, sys.main = .creating env registration read →
      (sys.step crates hash .proceed).2.main = .saving env read c →
        Records crates past c.id env read) :
    AllCoherent crates hash past (sys.step crates hash .proceed).2 := by
  have hprevious := h.main
  have hproceeded : Proceeded crates sys.main sys.world (sys.main.step crates sys.world) :=
    step_proceeded sys.main sys.world
  simp only [System.step] at hmade ⊢
  generalize sys.main.step crates sys.world = r at hproceeded hmade ⊢
  cases hproceeded with
  | ended hmoves => exact h.proceeds (h.world.congr hmoves.tables hmoves.credentials) trivial
  | checked hmoves hread =>
    exact h.proceeds (h.world.congr hmoves.tables hmoves.credentials) fun p hp ↦
      h.world.passphrase p (hread p hp)
  | created hmain hmoves hcreate =>
    rw [hmain] at hprevious
    obtain ⟨tpm, policy, material, hmaterial, hrecovery⟩ := createCredential_material hcreate
    refine h.proceeds (h.world.congr hmoves.tables hmoves.credentials) fun slot hslot ↦ ?_
    exact slotCoherent_of_material hmaterial hprevious (hmade _ _ _ _ hmain rfl)
      (hrecovery ▸ hslot)
  | @saved env read c result s' hmain hsettings hrows =>
    rw [hmain] at hprevious
    have hcached : ∀ d ∈ sys.world.auth.credentials ++ [c], ∀ slot ∈ d.recovery,
        SlotCoherent crates hash past d.id slot := by
      intro d hd
      rcases List.mem_append.mp hd with hd | hd
      · exact h.world.cached d hd
      · rw [List.mem_singleton.mp hd]
        exact hprevious
    refine h.proceeds ⟨fun p hp ↦ ?_, fun row hrow ↦ ?_, hcached⟩ trivial
    · rw [storedPassphrase, hsettings.daemonPassphrase] at hp
      exact h.world.passphrase p hp
    · rcases hrows with ⟨-, hsame⟩ | hrows
      · exact h.world.stored row (hsame ▸ hrow)
      · obtain ⟨d, hd, hof⟩ := hrows.exists_left hrow
        rw [hof.records.id]
        exact columnsCoherent_of_saved hcrates hof.records.recovery (hcached d hd)

theorem ThreadCoherent.answered {t : UpdateThread} (h : ThreadCoherent crates hash past t)
    (done : Bool) : ThreadCoherent crates hash past (t.answered done) := by
  unfold UpdateThread.answered
  split
  · next hphase =>
    refine ⟨by rintro _ ⟨⟩, fun p hp ↦ h.active p ?_, fun c hc ↦ h.listed c ?_⟩
    · rw [hphase]
      exact hp
    · rw [hphase]
      exact hc
  · exact h

/-- **A message.**  If it works, the call of the TPM is on record. -/
theorem AllCoherent.receive (hcrates : crates.ReadsBack) {sys : System}
    (h : AllCoherent crates hash past sys) {env : Env}
    (hrecorded : ∀ k id key newHash newSalt kdf queue privateArea, sys.main = .idle →
      sys.queue = (k, .passphraseChange id key newHash newSalt kdf) :: queue →
        (sys.step crates hash (.receive env)).1 = .ok →
          env.tpm.objectChangeAuth key newHash = some privateArea →
            ∃ t ∈ past, Changes t id key newHash privateArea) :
    AllCoherent crates hash past (sys.step crates hash (.receive env)).2 := by
  obtain ⟨world, main, queue, threads⟩ := sys
  cases main with
  | checking _ _ => exact h
  | creating _ _ _ => exact h
  | saving _ _ _ => exact h
  | idle =>
    cases queue with
    | nil => exact h
    | cons head queue =>
      obtain ⟨k, command⟩ := head
      have hworld : WorldCoherent crates hash past
          (Ctap2.handleTpmCommand crates env command world).2 := by
        refine h.world.command hcrates fun id key newHash newSalt kdf hcommand ↦ ?_
        subst hcommand
        obtain ⟨hnew, hkey⟩ := h.messages k id key newHash newSalt kdf List.mem_cons_self
        refine ⟨hnew, hkey, fun privateArea hok hprivate ↦ ?_⟩
        refine hrecorded k id key newHash newSalt kdf queue privateArea rfl rfl ?_ hprivate
        simp only [System.step, hok, Result.of]
      simp only [System.step]
      refine ⟨hworld, trivial, fun j id key newHash newSalt kdf hmem ↦ ?_, fun u hu ↦ ?_⟩
      · exact h.messages j id key newHash newSalt kdf (List.mem_cons_of_mem _ hmem)
      · obtain ⟨j, hj⟩ := List.mem_iff_getElem?.mp hu
        rw [List.getElem?_modify] at hj
        obtain ⟨t, ht, rfl⟩ := Option.map_eq_some_iff.mp hj
        have ht := h.threads t (List.mem_of_getElem? ht)
        split
        · exact ht.answered _
        · exact ht

/-! ## Whole runs -/

/-- **Every turn keeps the invariant**, once it is on record. -/
theorem AllCoherent.turn (hcrates : crates.ReadsBack) (hpassphrase : crates.ReadsPassphrase)
    {sys : System} {turn : Turn} (h : AllCoherent crates hash past sys)
    (hrecorded : Run.transition (System.turn crates hash) sys turn ∈ past) :
    AllCoherent crates hash past (sys.turn crates hash turn).2 := by
  cases turn with
  | act action =>
    cases action with
    | accept request =>
      refine ⟨h.world, h.main, h.messages, fun t ht ↦ ?_⟩
      rcases List.mem_append.mp ht with ht | ht
      · exact h.threads t ht
      · rw [List.mem_singleton.mp ht]
        exact ⟨by rintro _ ⟨⟩, by rintro _ ⟨⟩, by rintro _ ⟨⟩⟩
    | thread k fault random =>
      refine h.thread hpassphrase fun t ht hsave hok ↦ ⟨_, hrecorded, ?_⟩
      have hfound : sys.threads[k]? = some t := ht
      have houtput : (sys.turn crates hash (.act (.thread k fault random))).1 = .ok := hok
      simp only [savedPassphrase, Run.transition, houtput, hfound]
      simp [hsave]
    | begin env body => exact h.begin env body
    | proceed =>
      refine h.proceed hcrates fun env registration read c hmain hsaving ↦ ?_
      intro salt authValue kdf privateArea publicArea x y hread hcreate
      have hafter : (sys.turn crates hash (.act .proceed)).2.main = .saving env read c := hsaving
      refine .created hrecorded ⟨c, env, salt, kdf, x, y, ?_, rfl, ?_, hcreate⟩
      · simp only [madeIn, Run.transition, hafter]
      · simp only [createdWith, Run.transition, hmain, hread]
    | receive env =>
      refine h.receive hcrates fun k id key newHash newSalt kdf queue privateArea hmain hqueue
        hok hprivate ↦ ?_
      exact ⟨_, hrecorded, env, k, newSalt, kdf, queue, rfl, hmain, hqueue, hok, hprivate⟩
  | event event halone =>
    simp only [System.turn]
    split
    · next hidle =>
      refine ⟨?_, h.main, h.messages, h.threads⟩
      by_cases htpm : ∃ env command, event = .tpm env command
      · obtain ⟨env, command, rfl⟩ := htpm
        refine h.world.command hcrates ?_
        rintro _ _ _ _ _ rfl
        cases halone
      refine h.world.effect hcrates (Ctap2.step_effect crates sys.world event)
        (step_samePassphrase ?_ sys.world) (fun env command he ↦ htpm ⟨env, command, he⟩) ?_
      · rintro _ _ _ _ rfl
        cases halone
      · rintro env payload c rfl hcommand hcached
        intro salt authValue kdf privateArea publicArea x y hread hcreate
        have hadded : (Ctap2.step crates sys.world (.cbor env payload)).2.auth.credentials =
            sys.world.auth.credentials ++ [c] := hcached
        refine .created hrecorded ⟨c, env, salt, kdf, x, y, ?_, rfl, ?_, hcreate⟩
        · simp [madeIn, Run.transition, System.turn, hidle, hcommand, hadded]
        · simp only [createdWith, Run.transition, hread]
    · exact h
  | restart env tpmPath =>
    refine allCoherent_start ?_
    exact h.world.effect hcrates (Ctap2.step_effect crates sys.world (.start env tpmPath))
      (newAuthenticator_sameTables env tpmPath sys.world.store).daemonPassphrase
      (by rintro _ _ ⟨⟩) (by rintro _ _ _ ⟨⟩)

theorem allCoherent_firstStart (crates : Crates) (hash : PassphraseHash) (past : List TurnStep)
    (env : Env) (tpmPath : Option String) :
    AllCoherent crates hash past (firstStart crates env tpmPath) := by
  refine allCoherent_start ⟨fun p hp ↦ ?_, fun row hrow ↦ ?_, fun c hc ↦ ?_⟩
  · rw [storedPassphrase_congr (newAuthenticator_sameTables env tpmPath Store.fresh)] at hp
    cases hp
  · rw [(newAuthenticator_sameTables env tpmPath Store.fresh).credentials] at hrow
    cases hrow
  · obtain ⟨row, hrow, -⟩ :=
      (Ctap2.newAuthenticator_started crates env tpmPath Store.fresh).cached.exists_row hc
    cases (Store.mem_selectCredentials.mp hrow).1

end

/-- **The parts of every recovery slot in the store fit, at every point of every run** of a daemon
that has begun on an empty store: the key of the slot has the hash as its auth value, the hash is
that of a passphrase which was once the daemon's, and the private area is what the calls of the TPM
have sealed with it. -/
theorem recoverySlots_coherent (crates : Crates) (hash : PassphraseHash)
    (hcrates : crates.ReadsBack) (hpassphrase : crates.ReadsPassphrase) (env : Env)
    (tpmPath : Option String) (turns : List Turn) :
    ∀ row ∈ (afterTurns crates hash env tpmPath turns).world.store.credentials.rows,
      ColumnsCoherent crates hash (turnsFrom crates hash env tpmPath turns) row.credentialId
        row.recovery := by
  have hall : AllCoherent crates hash (turnsFrom crates hash env tpmPath turns)
      (afterTurns crates hash env tpmPath turns) := by
    refine Run.state_invariant (C := fun sys turn ↦ Run.transition (System.turn crates hash) sys
        turn ∈ turnsFrom crates hash env tpmPath turns)
      (allCoherent_firstStart crates hash _ env tpmPath)
      (fun sys turn h hrecorded ↦ h.turn hcrates hpassphrase hrecorded) turns fun t ht ↦ ?_
    rw [← Run.eq_transition_of_mem ht]
    exact ht
  exact hall.world.stored

namespace Sample

open Ctap2.Sample

/-- A TPM whose areas tell what they were made from. -/
def telling : TpmDevice :=
  { device [] with
    createKey := fun _ authValue ↦ some (authValue.getD [], 1 :: authValue.getD [], [], [])
    objectChangeAuth := fun key authValue ↦ some (key.privateArea ++ authValue) }

/-- What a turn finds with that TPM. -/
def tell : Action → Action
  | .begin env body => .begin { env with tpm := telling } body
  | .receive env => .receive { env with tpm := telling }
  | action => action

/-- Another change of the passphrase; for the first credential it fails. -/
def changeAgain : List Action :=
  ask (some "two") "three" :: turns 4 2 3 ++ [.receive (failingAt 3)] ++ turns 2 2 3 ++ [receive] ++
    turns 2 2 3

/-- The credential is registered under the first passphrase, the passphrase changes, and another
credential is registered, which puts the old slot of the first back.  The passphrase changes again,
and the daemon is restarted. -/
def putBack : List Turn :=
  (registerAfterChange ++ changeAgain).map (fun action ↦ .act (tell action)) ++
    [.restart (session 1000 0) (some "")]

/-- The run. -/
abbrev putBackRun : List TurnStep :=
  turnsFrom crates hash (session 1000 0) (some "") putBack

/-- The credentials at its end. -/
abbrev putBackRows : List CredentialRow :=
  (afterTurns crates hash (session 1000 0) (some "") putBack).world.store.credentials.rows

end Sample

/-- The two slots of that run have the hashes of different passphrases, and the key of the second
was changed; the IDs are fresh, and the parts of either slot fit. -/
theorem recoverySlots_coherent_restarted :
    Sample.putBackRows.map (slotPassphrase Sample.crates) =
      [some (List.replicate 32 1, Bytes.utf8 "one", .argon2idDefault),
        some (List.replicate 32 3, Bytes.utf8 "three", .argon2idDefault)] ∧
    Sample.putBackRows.map (fun row ↦ (recoveryOfRow Sample.crates row.recovery).join.map
        fun slot ↦ (slot.key.privateArea, slot.key.publicArea)) =
      [some (Bytes.utf8 "one", 1 :: Bytes.utf8 "one"),
        some (Bytes.utf8 "twothree", 1 :: Bytes.utf8 "two")] ∧
    FreshIds Sample.putBackRun ∧
    ∀ row ∈ Sample.putBackRows, ColumnsCoherent Sample.crates Sample.hash Sample.putBackRun
      row.credentialId row.recovery := by
  refine ⟨?_, ?_, ?_, ?_⟩
  · decide +kernel
  · decide +kernel
  · decide +kernel
  · exact recoverySlots_coherent Sample.crates Sample.hash
      (Ctap2.Sample.keepingPackages_readsBack _) (Ctap2.Sample.keepingPackages_readsPassphrase _)
      (Ctap2.Sample.session 1000 0) (some "") Sample.putBack

end Management
end TpmFido2
