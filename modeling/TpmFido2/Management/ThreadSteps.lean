import TpmFido2.Ctap2.Memory
import TpmFido2.Ctap2.Updates
import TpmFido2.Management.UpdatePassphrase

/-!
# What a step of a thread can do

The daemon passphrase is changed by the thread of a request and read by a registration, each in a
few steps.  `Advanced` has everything that one step of a request can do, and `Proceeded` everything
that one step of a registration can: what it leaves in the tables, what the thread has in its hands
afterwards, and what it sends.  There is a lemma for each phase; `step_advanced` and
`step_proceeded` put them together, and whoever needs an invariant of the `System` looks at these
and not at the code.
-/

set_option autoImplicit false

namespace TpmFido2
namespace Management

open Ctap2 (World Env TpmCommand)
open Ctap2.CommandM (store)
open Store (selectCredentials SameTables)

/-! ## The daemon passphrase -/

/-- The passphrase of a recovery slot. -/
def passphraseOf (slot : StoredRecoverySlot) : Passphrase :=
  (slot.passphraseSalt, slot.passphraseHash, slot.kdf)

/-- The daemon passphrase in the store. -/
def storedPassphrase (crates : Crates) (s : Store) : Option Passphrase :=
  (s.daemonPassphrase.bind crates.readPassphrase).map
    fun (hash, salt, memoryKib, iterations, parallelism) ↦
      (salt, hash, .argon2id memoryKib iterations parallelism)

section
variable {crates : Crates} {hash : PassphraseHash}

theorem storedPassphrase_congr {s s' : Store} (h : SameTables s s') :
    storedPassphrase crates s' = storedPassphrase crates s := by
  rw [storedPassphrase, storedPassphrase, h.daemonPassphrase]

/-- A passphrase that was saved. -/
theorem storedPassphrase_of_save (hcrates : crates.ReadsPassphrase) {fault : StoreFault}
    {new : Passphrase} {s s' : Store}
    (h : Store.saveDaemonPassphrase crates fault new.1 new.2.1 new.2.2 s = (.ok (), s')) :
    storedPassphrase crates s' = some new ∧ s'.credentials = s.credentials := by
  obtain ⟨salt, newHash, kdf⟩ := new
  obtain ⟨_, s₁, e₁, h₁⟩ := Handler.bind_ok h
  obtain ⟨-, rfl⟩ := Handler.throwIf_ok e₁
  cases kdf with
  | argon2id memoryKib iterations parallelism =>
    cases h₁
    refine ⟨?_, rfl⟩
    rw [storedPassphrase, Option.bind_some, hcrates]
    rfl

theorem saveDaemonPassphrase_ok_iff {fault : StoreFault} {salt h : List UInt8} {kdf : RecoveryKdf}
    {s : Store} :
    (∃ s', Store.saveDaemonPassphrase crates fault salt h kdf s = (.ok (), s')) ↔
      ¬ (fault.io ∨ fault.statement) := by
  constructor
  · rintro ⟨s', hsave⟩
    obtain ⟨_, _, hthrow, -⟩ := Handler.bind_ok hsave
    exact (Handler.throwIf_ok hthrow).1
  · intro hfault
    rw [Store.saveDaemonPassphrase, Handler.bind_of_ok _ (Handler.throwIf_of_not hfault s)]
    cases kdf
    exact ⟨_, rfl⟩

/-- A passphrase that was not saved. -/
theorem saveDaemonPassphrase_failed {fault : StoreFault} {salt h : List UInt8} {kdf : RecoveryKdf}
    {s s' : Store} {o : Outcome StoreError Unit} (ho : o.toOption = none)
    (hsave : Store.saveDaemonPassphrase crates fault salt h kdf s = (o, s')) : s' = s := by
  by_cases hfault : fault.io ∨ fault.statement
  · rw [Store.saveDaemonPassphrase, Handler.bind_of_error _ (Handler.throwIf_of hfault s)] at hsave
    cases hsave
    rfl
  · obtain ⟨t, hok⟩ := saveDaemonPassphrase_ok_iff.mpr hfault
    cases hok.symm.trans hsave
    cases ho

/-- What a call to the store delivers as the daemon passphrase is what is stored. -/
theorem storedPassphrase_of_passphraseIn {fault : StoreFault} {s : Store} {p : Passphrase}
    (h : Ctap2.passphraseIn crates fault s = some p) : storedPassphrase crates s = some p := by
  obtain ⟨salt, hash, kdf⟩ := p
  obtain ⟨blob, memoryKib, iterations, parallelism, hblob, hread, rfl⟩ := Ctap2.passphraseIn_some h
  simp [storedPassphrase, hblob, hread]

/-- What a registration reads is the stored passphrase, or nothing. -/
theorem storedPassphrase_of_read {fault : StoreFault} {w w' : World}
    {passphrase : Except StoreError (Option Passphrase)}
    (h : store (Store.loadDaemonPassphrase crates fault) w = (.ok passphrase, w')) {p : Passphrase}
    (hp : passphrase.toOption.join = some p) : storedPassphrase crates w.store = some p := by
  have hread : Ctap2.passphraseIn crates fault w.store = some p := by
    rw [Ctap2.passphraseIn, Ctap2.CommandM.store_toOption h]
    exact hp
  exact storedPassphrase_of_passphraseIn hread

/-! ## A request -/

/-- Everything a step of a request can do. -/
inductive Advanced (crates : Crates) (hash : PassphraseHash) (t : UpdateThread) (s : Store) :
    ThreadStep → Prop where
  /-- The request is over: a call has failed, it is refused, or it is through. -/
  | ended {result : Result} {response : UpdateResponse} {s' : Store} (hs : SameTables s s')
    (hphase : result = .failed ∨ t.phase = .verify ∨
      ∃ new results, t.phase = .sending new [] results) :
    Advanced crates hash t s ⟨result, .finished response, s', none⟩
  /-- It has come up with the new passphrase. -/
  | verified {new : Passphrase} (hphase : t.phase = .verify)
    (hnew : hash new.2.2 new.1 t.request.newPassphrase = some new.2.1) :
    Advanced crates hash t s ⟨.ok, .save new, s, none⟩
  /-- It has saved it. -/
  | saved {s' : Store} {new : Passphrase} (hphase : t.phase = .save new)
    (hstored : storedPassphrase crates s' = some new) (hs : s'.credentials = s.credentials) :
    Advanced crates hash t s ⟨.ok, .snapshot new, s', none⟩
  /-- It has listed the credentials. -/
  | listed {s' : Store} {new : Passphrase} {credentials : List StoredCtap2Credential}
    (hphase : t.phase = .snapshot new) (hs : SameTables s s')
    (hread : List.Forall₂
      (fun row c ↦ Store.credentialOfRow crates (filterUid t.request.peerUid) row = some c)
      (selectCredentials (filterUid t.request.peerUid) s) credentials) :
    Advanced crates hash t s ⟨.ok, .sending new credentials [], s', none⟩
  /-- It has skipped a credential without a recovery slot. -/
  | skipped {new : Passphrase} {c : StoredCtap2Credential} {todo : List StoredCtap2Credential}
    {results : List (List UInt8 × CredentialStatus)}
    (hphase : t.phase = .sending new (c :: todo) results) (hrecovery : c.recovery = none) :
    Advanced crates hash t s ⟨.ok, .sending new todo (results ++ [(c.id, .skipped)]), s, none⟩
  /-- It has sent the recovery key of a credential with the new passphrase. -/
  | sent {new : Passphrase} {c : StoredCtap2Credential} {todo : List StoredCtap2Credential}
    {results : List (List UInt8 × CredentialStatus)} {slot : StoredRecoverySlot}
    (hphase : t.phase = .sending new (c :: todo) results) (hrecovery : c.recovery = some slot) :
    Advanced crates hash t s ⟨.ok, .waiting new c.id todo results none, s,
      some (.passphraseChange c.id slot.key new.2.1 new.1 new.2.2)⟩
  /-- It has its answer. -/
  | answered {new : Passphrase} {id : List UInt8} {todo : List StoredCtap2Credential}
    {results : List (List UInt8 × CredentialStatus)} {done : Bool}
    (hphase : t.phase = .waiting new id todo results (some done)) :
    Advanced crates hash t s
      ⟨.ok, .sending new todo (results ++ [(id, if done then .ok else .error)]), s, none⟩
  /-- It waits, or was over before. -/
  | stayed : Advanced crates hash t s ⟨.ok, t.phase, s, none⟩

/-- The new passphrase is hashed with the salt and the parameters it is stored with. -/
theorem newPassphrase_ok {request : UpdateRequest} {random : Option (Nat → UInt8)}
    {new : Passphrase} (h : newPassphrase hash request random = .ok new) :
    hash new.2.2 new.1 request.newPassphrase = some new.2.1 := by
  unfold newPassphrase at h
  split at h
  · cases h
  · dsimp only at h
    split at h
    · cases h
    · next hhash =>
      cases h
      exact hhash

section
variable (request : UpdateRequest) (fault : StoreFault) (random : Option (Nat → UInt8)) (s : Store)

theorem verify_advanced : Advanced crates hash ⟨request, .verify⟩ s
    (UpdateThread.step crates hash ⟨request, .verify⟩ fault random s) := by
  have hmoves : s = (Store.loadDaemonPassphrase crates fault s).2 :=
    Store.loadDaemonPassphrase_moves s
  have hsame : SameTables s s := SameTables.frame.refl s
  simp only [UpdateThread.step]
  cases hload : Store.loadDaemonPassphrase crates fault s with
  | mk o s' =>
    rw [hload] at hmoves
    subst hmoves
    cases o with
    | error _ => exact .ended hsame (.inl rfl)
    | panicked => exact .ended hsame (.inl rfl)
    | ok current =>
      simp only [verified]
      split
      · exact .ended hsame (.inr (.inl rfl))
      · exact .ended hsame (.inr (.inl rfl))
      · next hnew => exact .verified rfl (newPassphrase_ok hnew)

theorem save_advanced (hcrates : crates.ReadsPassphrase) (new : Passphrase) :
    Advanced crates hash ⟨request, .save new⟩ s
      (UpdateThread.step crates hash ⟨request, .save new⟩ fault random s) := by
  have hsame : SameTables s s := SameTables.frame.refl s
  simp only [UpdateThread.step]
  cases hsave : Store.saveDaemonPassphrase crates fault new.1 new.2.1 new.2.2 s with
  | mk o s' =>
    cases o with
    | ok _ =>
      obtain ⟨hstored, hs⟩ := storedPassphrase_of_save hcrates hsave
      exact .saved rfl hstored hs
    | error _ => exact .ended (saveDaemonPassphrase_failed rfl hsave ▸ hsame) (.inl rfl)
    | panicked => exact .ended (saveDaemonPassphrase_failed rfl hsave ▸ hsame) (.inl rfl)

theorem snapshot_advanced (new : Passphrase) :
    Advanced crates hash ⟨request, .snapshot new⟩ s
      (UpdateThread.step crates hash ⟨request, .snapshot new⟩ fault random s) := by
  have hmoves : SameTables s
      (Store.loadCtap2Credentials crates fault (filterUid request.peerUid) s).2 :=
    Store.loadCtap2Credentials_moves _ s
  simp only [UpdateThread.step]
  cases hload : Store.loadCtap2Credentials crates fault (filterUid request.peerUid) s with
  | mk o s' =>
    rw [hload] at hmoves
    cases o with
    | ok credentials => exact .listed rfl hmoves (Store.loadCtap2Credentials_ok hload)
    | error _ => exact .ended hmoves (.inl rfl)
    | panicked => exact .ended hmoves (.inl rfl)

theorem sending_advanced (new : Passphrase) (todo : List StoredCtap2Credential)
    (results : List (List UInt8 × CredentialStatus)) :
    Advanced crates hash ⟨request, .sending new todo results⟩ s
      (UpdateThread.step crates hash ⟨request, .sending new todo results⟩ fault random s) := by
  cases todo with
  | nil => exact .ended (SameTables.frame.refl s) (.inr (.inr ⟨new, results, rfl⟩))
  | cons c todo =>
    simp only [UpdateThread.step]
    cases hrecovery : c.recovery with
    | none => exact .skipped rfl hrecovery
    | some slot => exact .sent rfl hrecovery

theorem waiting_advanced (new : Passphrase) (id : List UInt8) (todo : List StoredCtap2Credential)
    (results : List (List UInt8 × CredentialStatus)) (reply : Option Bool) :
    Advanced crates hash ⟨request, .waiting new id todo results reply⟩ s
      (UpdateThread.step crates hash ⟨request, .waiting new id todo results reply⟩ fault random
        s) := by
  cases reply with
  | none => exact .stayed
  | some done => exact .answered rfl

/-- **Every step of a request.** -/
theorem step_advanced (hcrates : crates.ReadsPassphrase) (t : UpdateThread) :
    Advanced crates hash t s (t.step crates hash fault random s) := by
  obtain ⟨request, phase⟩ := t
  cases phase with
  | verify => exact verify_advanced request fault random s
  | save new => exact save_advanced request fault random s hcrates new
  | snapshot new => exact snapshot_advanced request fault random s new
  | sending new todo results => exact sending_advanced request fault random s new todo results
  | waiting new id todo results reply =>
    exact waiting_advanced request fault random s new id todo results reply
  | finished response => exact .stayed

end

/-! ## A registration -/

section
variable {env : Env} {w w' : World}

theorem checkRegistration_moves (body : List UInt8) :
    Handler.Moves Ctap2.Incidental (Ctap2.checkRegistration crates env body) := by
  have hF := Ctap2.Incidental.frame
  refine hF.bind (hF.ofExcept _) fun request ↦ hF.bind (hF.ofExcept _) fun r ↦ ?_
  refine hF.bind (Ctap2.validatePinUvAuth_moves _ _ _ _ _ _) fun verified ↦ ?_
  refine hF.bind (hF.ofExcept _) fun _ ↦ hF.bind (hF.ofExcept _) fun _ ↦ ?_
  refine hF.bind (hF.gets _) fun a ↦ hF.bind (hF.throwIf _ _) fun _ ↦ ?_
  exact hF.bind (hF.throwIf _ _) fun _ ↦ hF.pure _

theorem createCredential_moves (registration : Ctap2.Registration) (read : Option Passphrase) :
    Handler.Moves Ctap2.Incidental (Ctap2.createCredential crates env registration read) := by
  have hF := Ctap2.Incidental.frame
  refine hF.bind Ctap2.ensureTpm_moves fun tpm ↦ hF.bind (hF.ofOption _ _) fun tpm ↦ ?_
  exact hF.bind (hF.ofOption _ _) fun _ ↦ hF.pure _

/-- What the new credential is made of. -/
theorem createCredential_material {registration : Ctap2.Registration} {read : Option Passphrase}
    {c : Credential} {response : List UInt8}
    (h : Ctap2.createCredential crates env registration read w = (.ok (c, response), w')) :
    ∃ tpm policy material, Ctap2.createCredentialMaterial crates env tpm c.id registration.owner
        read = some (c.key, policy, material) ∧
      c.recovery = material.map Ctap2.RecoveryMaterial.toSlot := by
  obtain ⟨_, w₁, -, h₁⟩ := Handler.bind_ok h
  obtain ⟨tpm, w₂, -, h₂⟩ := Handler.bind_ok h₁
  obtain ⟨⟨key, policy, material⟩, w₃, e₃, h₃⟩ := Handler.bind_ok h₂
  cases h₃
  exact ⟨tpm, policy, material, (Handler.ofOption_ok e₃).1, rfl⟩

/-- A registration begins, or there is no daemon passphrase. -/
theorem beginRegistration_cases (env : Env) (body : List UInt8) (w : World) :
    ∃ result main, beginRegistration crates env body w =
        (result, main, { w with auth := w.auth.enter .makeCredential }) ∧
      (main = .idle ∨ main = .checking env body) := by
  have hsame : _ = (Ctap2.requirePassphrase crates env .makeCredential _).2 :=
    Ctap2.requirePassphrase_eq .makeCredential { w with auth := w.auth.enter .makeCredential }
  simp only [beginRegistration]
  cases hrequire : Ctap2.requirePassphrase crates env .makeCredential
      { w with auth := w.auth.enter .makeCredential } with
  | mk o w₁ =>
    rw [hrequire] at hsame
    subst hsame
    cases o with
    | ok _ => exact ⟨_, _, rfl, .inr rfl⟩
    | error _ => exact ⟨_, _, rfl, .inl rfl⟩
    | panicked => exact ⟨_, _, rfl, .inl rfl⟩

/-- Everything a step of a registration can do. -/
inductive Proceeded (crates : Crates) (main : MainThread) (w : World) :
    Result × MainThread × World → Prop where
  /-- There is none, or it is refused, or a call has failed. -/
  | ended {result : Result} {w' : World} (hmoves : Ctap2.Incidental w w') :
    Proceeded crates main w (result, .idle, w')
  /-- It is checked, and has read the daemon passphrase. -/
  | checked {env : Env} {registration : Ctap2.Registration} {read : Option Passphrase}
    {result : Result} {w' : World} (hmoves : Ctap2.Incidental w w')
    (hread : ∀ p ∈ read, storedPassphrase crates w.store = some p) :
    Proceeded crates main w (result, .creating env registration read, w')
  /-- It has made the credential. -/
  | created {env : Env} {registration : Ctap2.Registration} {read : Option Passphrase}
    {c : Credential} {response : List UInt8} {w' : World}
    (hmain : main = .creating env registration read) (hmoves : Ctap2.Incidental w w')
    (hcreate : Ctap2.createCredential crates env registration read w = (.ok (c, response), w')) :
    Proceeded crates main w (.ok, .saving env read c, w')
  /-- It has added the credential, and tried to save. -/
  | saved {env : Env} {read : Option Passphrase} {c : Credential} {result : Result} {s' : Store}
    (hmain : main = .saving env read c) (hsettings : Store.SameSettings w.store s')
    (hrows : result = .failed ∧ s'.credentials = w.store.credentials ∨
      List.Forall₂ (Store.RowOf crates) (w.auth.credentials ++ [c]) s'.credentials.rows) :
    Proceeded crates main w
      (result, .idle, ⟨s', { w.auth with credentials := w.auth.credentials ++ [c] }⟩)

theorem checking_proceeded (env : Env) (body : List UInt8) (w : World) :
    Proceeded crates (.checking env body) w (MainThread.step crates (.checking env body) w) := by
  have hmoves : Ctap2.Incidental w (Ctap2.checkRegistration crates env body w).2 :=
    checkRegistration_moves body w
  simp only [MainThread.step]
  cases hcheck : Ctap2.checkRegistration crates env body w with
  | mk o w₁ =>
    rw [hcheck] at hmoves
    cases o with
    | error _ => exact .ended hmoves
    | panicked => exact .ended hmoves
    | ok registration =>
      have hread : Ctap2.Incidental w₁
          (store (Store.loadDaemonPassphrase crates (env.store 1)) w₁).2 :=
        Ctap2.Incidental.store Store.loadDaemonPassphrase_moves w₁
      cases hload : store (Store.loadDaemonPassphrase crates (env.store 1)) w₁ with
      | mk o w₂ =>
        rw [hload] at hread
        have hboth := Ctap2.Incidental.frame.trans hmoves hread
        cases o with
        | error _ => simpa only [hload] using .ended hboth
        | panicked => simpa only [hload] using .ended hboth
        | ok passphrase =>
          simp only [hload]
          refine .checked hboth fun p hp ↦ ?_
          rw [← storedPassphrase_congr hmoves.tables]
          exact storedPassphrase_of_read hload hp

theorem creating_proceeded (env : Env) (registration : Ctap2.Registration)
    (read : Option Passphrase) (w : World) :
    Proceeded crates (.creating env registration read) w
      (MainThread.step crates (.creating env registration read) w) := by
  have hmoves : Ctap2.Incidental w (Ctap2.createCredential crates env registration read w).2 :=
    createCredential_moves registration read w
  simp only [MainThread.step]
  cases hcreate : Ctap2.createCredential crates env registration read w with
  | mk o w₁ =>
    rw [hcreate] at hmoves
    cases o with
    | error _ => exact .ended hmoves
    | panicked => exact .ended hmoves
    | ok x => exact .created rfl hmoves hcreate

theorem saving_proceeded (env : Env) (read : Option Passphrase) (c : Credential) (w : World) :
    Proceeded crates (.saving env read c) w (MainThread.step crates (.saving env read c) w) := by
  have hsettings : Store.SameSettings w.store
      (Store.saveCtap2Credentials crates (env.store 3) (w.auth.credentials ++ [c]) w.store).2 :=
    Store.saveCtap2Credentials_moves (w.auth.credentials ++ [c]) w.store
  have hcases := Store.saveCtap2Credentials_cases crates (env.store 3)
    (w.auth.credentials ++ [c]) w.store
  simp only [MainThread.step, store, Handler.zoom]
  cases hsave : Store.saveCtap2Credentials crates (env.store 3) (w.auth.credentials ++ [c])
      w.store with
  | mk o s' =>
    rw [hsave] at hsettings hcases
    rcases hcases with ⟨hnone, hsame⟩ | ⟨hok, hrows⟩
    · cases o with
      | ok _ => cases hnone
      | error _ => exact .saved rfl hsettings (.inl ⟨rfl, hsame⟩)
      | panicked => exact .saved rfl hsettings (.inl ⟨rfl, hsame⟩)
    · obtain rfl : o = .ok () := hok
      exact .saved rfl hsettings (.inr hrows)

/-- **Every step of a registration.** -/
theorem step_proceeded (main : MainThread) (w : World) :
    Proceeded crates main w (main.step crates w) := by
  cases main with
  | idle => exact .ended (Ctap2.Incidental.frame.refl w)
  | checking env body => exact checking_proceeded env body w
  | creating env registration read => exact creating_proceeded env registration read w
  | saving env read c => exact saving_proceeded env read c w

end

end

end Management
end TpmFido2
