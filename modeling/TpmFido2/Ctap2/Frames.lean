import TpmFido2.Store.Effects
import TpmFido2.Ctap2.Commands

/-!
# What most of a command leaves alone

The greater part of every command reads the request, checks it, asks the user and talks to the
TPM.  None of that touches the credentials, the PIN, or the state kept between commands; all it
may do is open the TPM, drop the token, and create the key file of the store.  `Incidental` says
so, and the lemmas of this file show it for those parts, so that later only the few steps that do
change something have to be looked at.  `Quiet` is the same for parts that may also change the
enumeration in progress, or drop the pending assertion.
-/

set_option autoImplicit false

namespace TpmFido2
namespace Ctap2

open Handler CommandM

section
variable (crates : Crates)

/-! ## The commands in parts -/

/-- The world in which a recognised command runs. -/
def World.enter (w : World) (command : Ctap2Command) : World :=
  { w with auth := w.auth.enter command }

/-- A registration up to the point where the credential is added. -/
def registration (env : Env) (body : List UInt8) : CommandM (Credential × List UInt8) := do
  requirePassphrase crates env .makeCredential
  prepareCredential crates env body

/-- getAssertion with what is checked before it. -/
def firstAssertion (env : Env) (body : List UInt8) : CommandM (Assertion × Nat) := do
  requirePassphrase crates env .getAssertion
  getAssertionReleased crates env body

/-- getNextAssertion with what is checked before it. -/
def nextAssertion (env : Env) (body : List UInt8) : CommandM Assertion := do
  requirePassphrase crates env .getNextAssertion
  getNextAssertionReleased crates env body

/-- A management request up to its sub-command. -/
def authorisedRequest (env : Env) (command : Ctap2Command) (body : List UInt8) :
    CommandM (Int × Option Entries) := do
  requirePassphrase crates env command
  authoriseManagement crates env body

end

variable {crates : Crates} {env : Env}

/-! ## Calls to the store -/

theorem CommandM.store_moves {α : Type} {R : Store → Store → Prop} {S : World → World → Prop}
    {m : StoreM α} (hm : Moves R m) (h : ∀ w t, R w.store t → S w { w with store := t }) :
    Moves S (store m) := by
  intro w
  have hw := h w _ (hm w.store)
  rw [store, zoom]
  split <;> next e => rw [e] at hw; exact hw

/-- However a call ends, it ends with the store it left. -/
theorem CommandM.store_snd {α : Type} (m : StoreM α) (w : World) :
    (store m w).2 = { w with store := (m w.store).2 } := by
  rw [store, zoom]
  split <;> next e => rw [e]

/-- What a call delivers is what the store delivered. -/
theorem CommandM.store_toOption {α : Type} {m : StoreM α} {w w' : World} {r : Except StoreError α}
    (h : store m w = (.ok r, w')) : (m w.store).1.toOption = r.toOption := by
  rw [store, zoom] at h
  split at h
  · next e => rw [e]; cases h; rfl
  · next e => rw [e]; cases h; rfl
  · cases h

theorem CommandM.storeOrDeny_snd {α : Type} (m : StoreM α) (w : World) :
    (storeOrDeny m w).2 = { w with store := (m w.store).2 } := by
  have h : (storeOrDeny m w).2 = (store m w).2 := bind_snd fun r w₁ ↦ by cases r <;> rfl
  rw [h, store_snd]

theorem CommandM.storeOrDeny_moves {α : Type} {R : Store → Store → Prop}
    {S : World → World → Prop} (hS : Frame S) {m : StoreM α} (hm : Moves R m)
    (h : ∀ w t, R w.store t → S w { w with store := t }) : Moves S (storeOrDeny m) := by
  refine hS.bind (store_moves hm h) fun r ↦ ?_
  cases r with
  | ok a => exact hS.pure a
  | error e => exact hS.throw _

/-! ## Incidental changes -/

/-- Only the TPM context, the token, the key agreement and the key file may have changed. -/
structure Incidental (w w' : World) : Prop where
  tables : Store.SameTables w.store w'.store
  credentials : w'.auth.credentials = w.auth.credentials
  pendingAssertion : w'.auth.pendingAssertion = w.auth.pendingAssertion
  management : w'.auth.management = w.auth.management
  clientPin : w'.auth.clientPin = w.auth.clientPin
  session : w'.auth.session = w.auth.session
  tpmPath : w'.auth.tpmPath = w.auth.tpmPath

theorem Incidental.frame : Frame Incidental where
  refl _ := ⟨Store.SameTables.frame.refl _, rfl, rfl, rfl, rfl, rfl, rfl⟩
  trans h₁ h₂ := ⟨Store.SameTables.frame.trans h₁.tables h₂.tables,
    h₂.credentials.trans h₁.credentials, h₂.pendingAssertion.trans h₁.pendingAssertion,
    h₂.management.trans h₁.management, h₂.clientPin.trans h₁.clientPin,
    h₂.session.trans h₁.session, h₂.tpmPath.trans h₁.tpmPath⟩

theorem Incidental.of_tables {w : World} {t : Store} (h : Store.SameTables w.store t) :
    Incidental w { w with store := t } := ⟨h, rfl, rfl, rfl, rfl, rfl, rfl⟩

/-- A change of the authenticator that keeps what `Incidental` lists. -/
theorem Incidental.modifyAuth {f : Authenticator → Authenticator}
    (h : ∀ a, (f a).credentials = a.credentials ∧ (f a).pendingAssertion = a.pendingAssertion ∧
      (f a).management = a.management ∧ (f a).clientPin = a.clientPin ∧
      (f a).session = a.session ∧ (f a).tpmPath = a.tpmPath) :
    Moves Incidental (CommandM.modifyAuth f) := by
  intro w
  obtain ⟨h₁, h₂, h₃, h₄, h₅, h₆⟩ := h w.auth
  exact ⟨Store.SameTables.frame.refl _, h₁, h₂, h₃, h₄, h₅, h₆⟩

/-- A call to the store that only reads. -/
theorem Incidental.store {α : Type} {m : StoreM α} (hm : Moves Eq m) :
    Moves Incidental (CommandM.store m) := by
  refine store_moves hm fun w t ht ↦ ?_
  subst ht
  exact Incidental.frame.refl w

theorem validatePinUvAuth_moves (n : Nat) (protocol : Option Int)
    (authParam : Option (List UInt8)) (message : List UInt8) (permission : Ctap2PermissionFlags)
    (rpId : Option String) :
    Moves Incidental
      (validatePinUvAuth crates env n protocol authParam message permission rpId) := by
  have hF := Incidental.frame
  refine hF.bind (hF.gets _) fun a ↦ ?_
  split
  · exact hF.pure _
  · exact hF.pure _
  · exact hF.throw _
  · refine hF.bind (Incidental.modifyAuth fun a ↦ ⟨rfl, rfl, rfl, rfl, rfl, rfl⟩) fun _ ↦ ?_
    exact hF.throw _

theorem ensureTpm_moves : Moves Incidental (ensureTpm crates env) := by
  have hF := Incidental.frame
  refine hF.bind (hF.gets _) fun a ↦ ?_
  split
  · exact hF.pure _
  · exact hF.pure _
  · refine hF.bind (Incidental.store Store.loadDefaultPcrPolicy_moves) fun indices ↦ ?_
    split
    · exact hF.pure _
    · refine hF.bind (Incidental.modifyAuth fun a ↦ ⟨rfl, rfl, rfl, rfl, rfl, rfl⟩) fun _ ↦ ?_
      exact hF.pure _

/-- The check for the passphrase changes nothing. -/
theorem requirePassphrase_eq (command : Ctap2Command) :
    Moves Eq (requirePassphrase crates env command) := by
  have hF : Frame (Eq : World → World → Prop) := Frame.eq
  refine Moves.ite ?_ (hF.pure _)
  refine hF.bind (storeOrDeny_moves hF Store.loadDaemonPassphrase_moves fun w t ht ↦ ?_)
    fun _ ↦ hF.throwIf _ _
  subst ht
  rfl

theorem requirePassphrase_moves (command : Ctap2Command) :
    Moves Incidental (requirePassphrase crates env command) :=
  (requirePassphrase_eq command).mono fun w _ h ↦ h ▸ Incidental.frame.refl w

theorem prepareCredential_moves (body : List UInt8) :
    Moves Incidental (prepareCredential crates env body) := by
  have hF := Incidental.frame
  refine hF.bind (hF.ofExcept _) fun request ↦ hF.bind (hF.ofExcept _) fun r ↦ ?_
  refine hF.bind (validatePinUvAuth_moves _ _ _ _ _ _) fun verified ↦ ?_
  refine hF.bind (hF.ofExcept _) fun _ ↦ hF.bind (hF.ofExcept _) fun _ ↦ ?_
  refine hF.bind (hF.gets _) fun a ↦ hF.bind (hF.throwIf _ _) fun _ ↦ ?_
  refine hF.bind (hF.throwIf _ _) fun _ ↦ ?_
  refine hF.bind (Incidental.store Store.loadDaemonPassphrase_moves) fun passphrase ↦ ?_
  refine hF.bind ensureTpm_moves fun tpm ↦ hF.bind (hF.ofOption _ _) fun tpm ↦ ?_
  exact hF.bind (hF.ofOption _ _) fun _ ↦ hF.pure _

/-! ## The store as a whole -/

/-- The store is as it was, key file and all. -/
def SameStore (w w' : World) : Prop := w'.store = w.store

theorem SameStore.frame : Frame SameStore := Frame.keeps World.store

/-- A call to the store that only reads. -/
theorem SameStore.store {α : Type} {m : StoreM α} (hm : Moves Eq m) :
    Moves SameStore (CommandM.store m) := store_moves hm fun _ _ ht ↦ ht.symm

theorem validatePinUvAuth_sameStore (n : Nat) (protocol : Option Int)
    (authParam : Option (List UInt8)) (message : List UInt8) (permission : Ctap2PermissionFlags)
    (rpId : Option String) :
    Moves SameStore
      (validatePinUvAuth crates env n protocol authParam message permission rpId) := by
  have hF := SameStore.frame
  refine hF.bind (hF.gets _) fun a ↦ ?_
  split
  · exact hF.pure _
  · exact hF.pure _
  · exact hF.throw _
  · exact hF.bind (Moves.modify fun _ ↦ rfl) fun _ ↦ hF.throw _

theorem ensureTpm_sameStore : Moves SameStore (ensureTpm crates env) := by
  have hF := SameStore.frame
  refine hF.bind (hF.gets _) fun a ↦ ?_
  split
  · exact hF.pure _
  · exact hF.pure _
  · refine hF.bind (SameStore.store Store.loadDefaultPcrPolicy_moves) fun indices ↦ ?_
    split
    · exact hF.pure _
    · exact hF.bind (Moves.modify fun _ ↦ rfl) fun _ ↦ hF.pure _

theorem registration_sameStore (body : List UInt8) :
    Moves SameStore (registration crates env body) := by
  have hF := SameStore.frame
  refine hF.bind ((requirePassphrase_eq _).mono fun _ _ h ↦ h ▸ rfl) fun _ ↦ ?_
  refine hF.bind (hF.ofExcept _) fun request ↦ hF.bind (hF.ofExcept _) fun r ↦ ?_
  refine hF.bind (validatePinUvAuth_sameStore _ _ _ _ _ _) fun verified ↦ ?_
  refine hF.bind (hF.ofExcept _) fun _ ↦ hF.bind (hF.ofExcept _) fun _ ↦ ?_
  refine hF.bind (hF.gets _) fun a ↦ hF.bind (hF.throwIf _ _) fun _ ↦ ?_
  refine hF.bind (hF.throwIf _ _) fun _ ↦ ?_
  refine hF.bind (SameStore.store Store.loadDaemonPassphrase_moves) fun passphrase ↦ ?_
  refine hF.bind ensureTpm_sameStore fun tpm ↦ hF.bind (hF.ofOption _ _) fun tpm ↦ ?_
  exact hF.bind (hF.ofOption _ _) fun _ ↦ hF.pure _

theorem authorisedRequest_sameStore (command : Ctap2Command) (body : List UInt8) :
    Moves SameStore (authorisedRequest crates env command body) := by
  have hF := SameStore.frame
  refine hF.bind ((requirePassphrase_eq _).mono fun _ _ h ↦ h ▸ rfl) fun _ ↦ ?_
  refine hF.bind (hF.gets _) fun a ↦ hF.bind (hF.throwIf _ _) fun _ ↦ ?_
  refine hF.bind (hF.ofExcept _) fun request ↦ hF.bind (hF.ofOption _ _) fun n ↦ ?_
  refine hF.bind (hF.throwIf _ _) fun _ ↦ ?_
  refine hF.bind (validatePinUvAuth_sameStore _ _ _ _ _ _) fun _ ↦ ?_
  exact hF.bind (Moves.modify fun _ ↦ rfl) fun _ ↦ hF.pure _

/-! ## What a new credential is -/

/-- The daemon passphrase, as a call to the store delivers it to a registration. -/
def passphraseIn (crates : Crates) (fault : StoreFault) (s : Store) :
    Option (List UInt8 × List UInt8 × RecoveryKdf) :=
  (Store.loadDaemonPassphrase crates fault s).1.toOption.join

/-- The credential is one that a registration makes for the user. -/
structure Made (crates : Crates) (env : Env) (s : Store) (uid : Option UInt32) (c : Credential) :
    Prop where
  id : c.id = fillRandom 32 (env.random 0)
  userId : c.userId = uid
  signCount : c.signCount = 0
  material : ∃ tpm policy material,
    createCredentialMaterial crates env tpm c.id uid (passphraseIn crates (env.store 1) s) =
      some (c.key, policy, material) ∧
    c.policy = some ⟨policy, StoredPcrPolicy.currentVersion⟩ ∧
    c.recovery = material.map RecoveryMaterial.toSlot

/-- **A new recovery slot** has the passphrase that was read, and the hash of it is what its key was
created with. -/
theorem createCredentialMaterial_slot {tpm : Tpm} {credentialId : List UInt8}
    {owner : Option UInt32} {passphrase : Option (List UInt8 × List UInt8 × RecoveryKdf)}
    {key : TpmCredential} {policy : PcrPolicyBinding} {material : Option RecoveryMaterial}
    (h : createCredentialMaterial crates env tpm credentialId owner passphrase =
      some (key, policy, material)) {slot : StoredRecoverySlot}
    (hslot : material.map RecoveryMaterial.toSlot = some slot) :
    passphrase = some (slot.passphraseSalt, slot.passphraseHash, slot.kdf) ∧
      createCredentialKey env.tpm none (some slot.passphraseHash) = some slot.key := by
  obtain ⟨m, rfl, rfl⟩ := Option.map_eq_some_iff.mp hslot
  obtain ⟨_, hmaterial, h₁⟩ := Option.bind_eq_some_iff.mp h
  obtain ⟨_, -, h₂⟩ := Option.bind_eq_some_iff.mp h₁
  obtain ⟨_, -, h₃⟩ := Option.bind_eq_some_iff.mp h₂
  cases h₃
  cases passphrase with
  | none => cases hmaterial
  | some p =>
    obtain ⟨salt, hash, kdf⟩ := p
    obtain ⟨_, hcreate, he⟩ := Option.map_eq_some_iff.mp hmaterial
    cases he
    obtain ⟨recoveryKey, hkey, h₄⟩ := Option.bind_eq_some_iff.mp hcreate
    obtain ⟨_, -, h₅⟩ := Option.bind_eq_some_iff.mp h₄
    cases h₅
    exact ⟨rfl, hkey⟩

/-- The request was authenticated, or carried no authentication; either way nothing changed. -/
theorem validatePinUvAuth_ok {n : Nat} {protocol : Option Int} {authParam : Option (List UInt8)}
    {message : List UInt8} {permission : Ctap2PermissionFlags} {rpId : Option String}
    {w w' : World} {b : Bool}
    (h : validatePinUvAuth crates env n protocol authParam message permission rpId w =
      (.ok b, w')) :
    w' = w ∧
      (w.auth.pinUvVerdict crates env n protocol authParam message permission rpId = .absent ∨
        w.auth.pinUvVerdict crates env n protocol authParam message permission rpId =
          .verified) := by
  obtain ⟨a, w₁, e₁, h₁⟩ := bind_ok h
  cases e₁
  cases hv : w.auth.pinUvVerdict crates env n protocol authParam message permission rpId with
  | absent => simp only [hv] at h₁; cases h₁; exact ⟨rfl, .inl rfl⟩
  | verified => simp only [hv] at h₁; cases h₁; exact ⟨rfl, .inr rfl⟩
  | rejected e => simp only [hv] at h₁; cases h₁
  | revoked => simp only [hv] at h₁; cases h₁

/-- How a credential that is about to be added was made: in the context that is open, or that can be
opened. -/
theorem prepareCredential_opened {body : List UInt8} {w w' : World} {c : Credential}
    {response : List UInt8} (h : prepareCredential crates env body w = (.ok (c, response), w')) :
    ∃ w₁ tpm policy material, ensureTpm crates env w = (.ok (some tpm), w₁) ∧
      createCredentialMaterial crates env tpm c.id c.userId
        (passphraseIn crates (env.store 1) w.store) = some (c.key, policy, material) ∧
      c.policy = some ⟨policy, StoredPcrPolicy.currentVersion⟩ ∧
      c.recovery = material.map RecoveryMaterial.toSlot ∧
      c.id = fillRandom 32 (env.random 0) ∧ c.userId = w.auth.session.uid ∧ c.signCount = 0 := by
  obtain ⟨request, w₁, e₁, h₁⟩ := bind_ok h
  obtain ⟨-, rfl⟩ := ofExcept_ok e₁
  obtain ⟨r, w₂, e₂, h₂⟩ := bind_ok h₁
  obtain ⟨-, rfl⟩ := ofExcept_ok e₂
  obtain ⟨verified, w₃, e₃, h₃⟩ := bind_ok h₂
  obtain ⟨rfl, -⟩ := validatePinUvAuth_ok e₃
  obtain ⟨_, w₄, e₄, h₄⟩ := bind_ok h₃
  obtain ⟨-, rfl⟩ := ofExcept_ok e₄
  obtain ⟨_, w₅, e₅, h₅⟩ := bind_ok h₄
  obtain ⟨-, rfl⟩ := ofExcept_ok e₅
  obtain ⟨a, w₆, e₆, h₆⟩ := bind_ok h₅
  cases e₆
  obtain ⟨_, w₇, e₇, h₇⟩ := bind_ok h₆
  obtain ⟨-, rfl⟩ := throwIf_ok e₇
  obtain ⟨_, w₈, e₈, h₈⟩ := bind_ok h₇
  obtain ⟨-, rfl⟩ := throwIf_ok e₈
  obtain ⟨passphrase, w₉, e₉, h₉⟩ := bind_ok h₈
  have hpassphrase := store_toOption e₉
  obtain rfl : w₈ = w₉ := by
    have hsame := (store_snd _ w₈).symm.trans (congrArg Prod.snd e₉)
    rwa [← Store.loadDaemonPassphrase_moves] at hsame
  obtain ⟨opened, w₁₀, e₁₀, h₁₀⟩ := bind_ok h₉
  obtain ⟨tpm, w₁₁, e₁₁, h₁₁⟩ := bind_ok h₁₀
  obtain ⟨⟨key, policy, material⟩, w₁₂, e₁₂, h₁₂⟩ := bind_ok h₁₁
  obtain ⟨rfl, rfl⟩ := ofOption_ok e₁₁
  cases h₁₂
  refine ⟨_, tpm, policy, material, e₁₀, ?_, rfl, rfl, rfl, rfl, rfl⟩
  rw [passphraseIn, hpassphrase]
  exact (ofOption_ok e₁₂).1

/-- What is known of a credential that is about to be added. -/
theorem prepareCredential_ok {body : List UInt8} {w w' : World} {c : Credential}
    {response : List UInt8} (h : prepareCredential crates env body w = (.ok (c, response), w')) :
    Made crates env w.store w.auth.session.uid c := by
  obtain ⟨_, tpm, policy, material, -, hmaterial, hpolicy, hrecovery, hid, huid, hcount⟩ :=
    prepareCredential_opened h
  rw [huid] at hmaterial
  exact ⟨hid, huid, hcount, tpm, policy, material, hmaterial, hpolicy, hrecovery⟩

theorem signCredential_moves (key : TpmCredential) (policy : Option StoredPcrPolicy)
    (authority : Option StoredRecoverySlot) (signedData : List UInt8) :
    Moves Incidental (signCredential crates env key policy authority signedData) := by
  have hF := Incidental.frame
  refine hF.bind (hF.throwIf _ _) fun _ ↦ hF.bind ensureTpm_moves fun tpm ↦ ?_
  exact hF.bind (hF.ofOption _ _) fun _ ↦ hF.ofOption _ _

theorem requireTpm_moves : Moves Incidental (requireTpm crates env) :=
  Incidental.frame.bind ensureTpm_moves fun _ ↦ Incidental.frame.ofOption _ _

/-! ## Quiet changes -/

/-- Neither the credentials nor the PIN changed, and no assertion became pending. -/
structure Quiet (w w' : World) : Prop where
  tables : Store.SameTables w.store w'.store
  credentials : w'.auth.credentials = w.auth.credentials
  pendingAssertion : w'.auth.pendingAssertion = none ∨
    w'.auth.pendingAssertion = w.auth.pendingAssertion
  clientPin : w'.auth.clientPin = w.auth.clientPin
  session : w'.auth.session = w.auth.session
  tpmPath : w'.auth.tpmPath = w.auth.tpmPath

theorem Quiet.frame : Frame Quiet where
  refl _ := ⟨Store.SameTables.frame.refl _, rfl, .inr rfl, rfl, rfl, rfl⟩
  trans h₁ h₂ := by
    refine ⟨Store.SameTables.frame.trans h₁.tables h₂.tables,
      h₂.credentials.trans h₁.credentials, ?_, h₂.clientPin.trans h₁.clientPin,
      h₂.session.trans h₁.session, h₂.tpmPath.trans h₁.tpmPath⟩
    rcases h₂.pendingAssertion with h | h
    · exact .inl h
    · rw [h]
      exact h₁.pendingAssertion

theorem Incidental.quiet {w w' : World} (h : Incidental w w') : Quiet w w' :=
  ⟨h.tables, h.credentials, .inr h.pendingAssertion, h.clientPin, h.session, h.tpmPath⟩

theorem quiet_enter (w : World) (command : Ctap2Command) : Quiet w (w.enter command) := by
  refine ⟨Store.SameTables.frame.refl _, rfl, ?_, rfl, rfl, rfl⟩
  rw [World.enter, Authenticator.enter]
  dsimp only
  split
  · exact .inr rfl
  · exact .inl rfl

/-- A change of the authenticator that keeps what `Quiet` lists. -/
theorem Quiet.modifyAuth {f : Authenticator → Authenticator}
    (h : ∀ a, (f a).credentials = a.credentials ∧ (f a).pendingAssertion = a.pendingAssertion ∧
      (f a).clientPin = a.clientPin ∧ (f a).session = a.session ∧ (f a).tpmPath = a.tpmPath) :
    Moves Quiet (CommandM.modifyAuth f) := by
  intro w
  obtain ⟨h₁, h₂, h₃, h₄, h₅⟩ := h w.auth
  exact ⟨Store.SameTables.frame.refl _, h₁, .inr h₂, h₃, h₄, h₅⟩

theorem selection_moves : Moves Quiet (selection crates env) := by
  have hF := Quiet.frame
  exact hF.bind (hF.gets _) fun a ↦ hF.bind (hF.throwIf _ _) fun _ ↦ hF.pure _

theorem setManagement_moves (state : Option ManagementState) : Moves Quiet (setManagement state) :=
  Quiet.modifyAuth fun _ ↦ ⟨rfl, rfl, rfl, rfl, rfl⟩

theorem authorisedRequest_moves (crates : Crates) (env : Env) (command : Ctap2Command)
    (body : List UInt8) :
    Moves Quiet (authorisedRequest crates env command body) := by
  have hF := Quiet.frame
  refine hF.bind ((requirePassphrase_moves _).mono fun _ _ h ↦ h.quiet) fun _ ↦ ?_
  refine hF.bind (hF.gets _) fun a ↦ hF.bind (hF.throwIf _ _) fun _ ↦ ?_
  refine hF.bind (hF.ofExcept _) fun request ↦ hF.bind (hF.ofOption _ _) fun n ↦ ?_
  refine hF.bind (hF.throwIf _ _) fun _ ↦ ?_
  refine hF.bind ((validatePinUvAuth_moves _ _ _ _ _ _).mono fun _ _ h ↦ h.quiet) fun _ ↦ ?_
  exact hF.bind (Quiet.modifyAuth fun _ ↦ ⟨rfl, rfl, rfl, rfl, rfl⟩) fun _ ↦ hF.pure _

/-- The management sub-commands that only look. -/
def ManagementSubCommand.looks : ManagementSubCommand → Bool
  | .deleteCredential | .updateUserInformation => false
  | _ => true

theorem managementSubCommand_moves (crates : Crates) (env : Env)
    {subCommand : ManagementSubCommand} (h : subCommand.looks) (params : Option Entries) :
    Moves Quiet (managementSubCommand crates env subCommand params) := by
  have hF := Quiet.frame
  cases subCommand with
  | getCredsMetadata => exact hF.bind (hF.gets _) fun a ↦ hF.pure _
  | enumerateRpsBegin =>
    refine hF.bind (hF.gets _) fun a ↦ hF.bind (hF.ofOption _ _) fun first ↦ ?_
    exact hF.bind (setManagement_moves _) fun _ ↦ hF.bind (hF.expect _) fun _ ↦ hF.pure _
  | enumerateRpsNext =>
    refine hF.bind (hF.gets _) fun a ↦ hF.bind (hF.ofOption _ _) fun state ↦ ?_
    refine hF.bind (hF.ofOption _ _) fun index ↦ hF.bind (setManagement_moves _) fun _ ↦ ?_
    exact hF.bind (hF.expect _) fun _ ↦ hF.pure _
  | enumerateCredentialsBegin =>
    refine hF.bind (hF.ofOption _ _) fun params ↦ hF.bind (hF.ofOption _ _) fun rpHash ↦ ?_
    refine hF.bind (hF.throwIf _ _) fun _ ↦ hF.bind (hF.gets _) fun a ↦ ?_
    refine hF.bind (hF.ofOption _ _) fun first ↦ hF.bind (setManagement_moves _) fun _ ↦ ?_
    exact hF.bind (hF.expect _) fun _ ↦ hF.pure _
  | enumerateCredentialsNext =>
    refine hF.bind (hF.gets _) fun a ↦ hF.bind (hF.ofOption _ _) fun state ↦ ?_
    refine hF.bind (hF.ofOption _ _) fun index ↦ hF.bind (setManagement_moves _) fun _ ↦ ?_
    exact hF.bind (hF.expect _) fun _ ↦ hF.pure _
  | deleteCredential => cases h
  | updateUserInformation => cases h

/-! ## clientPIN -/

/-- Only the PIN, in the store and in memory, the key agreement and the token may have changed. -/
structure PinOnly (w w' : World) : Prop where
  stored : w'.store.credentials = w.store.credentials
  daemonPassphrase : w'.store.daemonPassphrase = w.store.daemonPassphrase
  credentials : w'.auth.credentials = w.auth.credentials
  pendingAssertion : w'.auth.pendingAssertion = w.auth.pendingAssertion
  management : w'.auth.management = w.auth.management
  session : w'.auth.session = w.auth.session
  tpmPath : w'.auth.tpmPath = w.auth.tpmPath

theorem PinOnly.frame : Frame PinOnly where
  refl _ := ⟨rfl, rfl, rfl, rfl, rfl, rfl, rfl⟩
  trans h₁ h₂ := ⟨h₂.stored.trans h₁.stored, h₂.daemonPassphrase.trans h₁.daemonPassphrase,
    h₂.credentials.trans h₁.credentials,
    h₂.pendingAssertion.trans h₁.pendingAssertion, h₂.management.trans h₁.management,
    h₂.session.trans h₁.session, h₂.tpmPath.trans h₁.tpmPath⟩

theorem issueToken_moves (aesKey macKey : List UInt8) (permissions : Ctap2PermissionFlags)
    (rpId : Option String) : Moves PinOnly (issueToken crates env aesKey macKey permissions rpId) :=
  PinOnly.frame.bind (Moves.modify fun _ ↦ ⟨rfl, rfl, rfl, rfl, rfl, rfl, rfl⟩)
    fun _ ↦ PinOnly.frame.pure _

theorem persistClientPin_moves (n : Nat) (state : StoredClientPinState) :
    Moves PinOnly (persistClientPin crates env n state) := by
  have hsave : Moves (fun s t : Store ↦ t.credentials = s.credentials ∧
      t.daemonPassphrase = s.daemonPassphrase)
      (Store.saveClientPinState crates (env.store n) state) := by
    intro s
    have h := Store.saveClientPinState_cases crates (env.store n) state s
    generalize Store.saveClientPinState crates (env.store n) state s = r at h ⊢
    cases h with
    | failed _ _ h => exact ⟨h.credentials, h.daemonPassphrase⟩
    | done h _ _ _ => exact ⟨h.credentials, h.daemonPassphrase⟩
  exact storeOrDeny_moves PinOnly.frame hsave fun w t h ↦ ⟨h.1, h.2, rfl, rfl, rfl, rfl, rfl⟩

theorem setClientPin_moves (state : Option StoredClientPinState) :
    Moves PinOnly (setClientPin state) :=
  Moves.modify fun _ ↦ ⟨rfl, rfl, rfl, rfl, rfl, rfl, rfl⟩

theorem authenticatePin_moves (pinHash : List UInt8) :
    Moves PinOnly (authenticatePin crates env pinHash) := by
  have hF := PinOnly.frame
  refine hF.bind (hF.throwIf _ _) fun _ ↦ hF.bind (hF.gets _) fun a ↦ ?_
  split
  · exact hF.throw _
  · refine hF.bind (hF.throwIf _ _) fun _ ↦ Moves.ite (Moves.ite ?_ (hF.pure _)) ?_
    · exact hF.bind (setClientPin_moves _) fun _ ↦ persistClientPin_moves _ _
    · refine hF.bind (setClientPin_moves _) fun _ ↦ ?_
      exact hF.bind (persistClientPin_moves _ _) fun _ ↦ hF.throw _

/-- The end of setPIN and changePIN. -/
theorem storePin_moves (state : StoredClientPinState) (response : List UInt8) :
    Moves PinOnly (do
      persistClientPin crates env 1 state
      setClientPin (some state)
      pure response) := by
  have hF := PinOnly.frame
  exact hF.bind (persistClientPin_moves _ _) fun _ ↦ hF.bind (setClientPin_moves _) fun _ ↦
    hF.pure _

theorem clientPin_moves (body : List UInt8) : Moves PinOnly (clientPin crates env body) := by
  have hF := PinOnly.frame
  refine hF.bind (hF.ofExcept _) fun ⟨subCommand, request⟩ ↦ ?_
  cases subCommand with
  | getRetries => exact hF.bind (hF.throwIf _ _) fun _ ↦ hF.bind (hF.gets _) fun a ↦ hF.pure _
  | getKeyAgreement =>
    refine hF.bind (hF.throwIf _ _) fun _ ↦ hF.bind (Moves.modify fun _ ↦ ?_) fun _ ↦ hF.pure _
    exact ⟨rfl, rfl, rfl, rfl, rfl, rfl, rfl⟩
  | setPin =>
    refine hF.bind (hF.ofOption _ _) fun _ ↦ hF.bind (hF.ofOption _ _) fun _ ↦ ?_
    refine hF.bind (hF.gets _) fun a ↦ hF.bind (hF.ofExcept _) fun newPin ↦ ?_
    exact storePin_moves _ _
  | changePin =>
    refine hF.bind (hF.ofOption _ _) fun _ ↦ hF.bind (hF.ofOption _ _) fun _ ↦ ?_
    refine hF.bind (hF.ofOption _ _) fun _ ↦ hF.bind (hF.gets _) fun a ↦ ?_
    refine hF.bind (hF.ofExcept _) fun x ↦ hF.bind (authenticatePin_moves _) fun _ ↦ ?_
    exact storePin_moves _ _
  | getPinUvAuthToken =>
    refine hF.bind (hF.ofOption _ _) fun _ ↦ hF.bind (hF.ofOption _ _) fun _ ↦ ?_
    refine hF.bind (hF.gets _) fun a ↦ hF.bind (hF.ofExcept _) fun x ↦ ?_
    refine hF.bind (authenticatePin_moves _) fun _ ↦ ?_
    exact issueToken_moves _ _ _ _
  | getPinUvAuthTokenUsingUv =>
    refine hF.bind (hF.ofOption _ _) fun _ ↦ ?_
    refine hF.bind (hF.ofExcept _) fun _ ↦ hF.bind (hF.gets _) fun a ↦ ?_
    refine hF.bind (hF.throwIf _ _) fun _ ↦ hF.bind (hF.ofExcept _) fun _ ↦ ?_
    exact issueToken_moves _ _ _ _

/-! ## Commands on credentials -/

/-- Neither the PIN nor the settings changed, and no enumeration was begun. -/
structure Aside (w w' : World) : Prop where
  settings : Store.SameSettings w.store w'.store
  clientPin : w'.auth.clientPin = w.auth.clientPin
  management : w'.auth.management = none ∨ w'.auth.management = w.auth.management

theorem Aside.frame : Frame Aside where
  refl _ := ⟨Store.SameSettings.frame.refl _, rfl, .inr rfl⟩
  trans h₁ h₂ := by
    refine ⟨Store.SameSettings.frame.trans h₁.settings h₂.settings,
      h₂.clientPin.trans h₁.clientPin, ?_⟩
    rcases h₂.management with h | h
    · exact .inl h
    · rw [h]
      exact h₁.management

theorem Incidental.aside {w w' : World} (h : Incidental w w') : Aside w w' :=
  ⟨h.tables.sameSettings, h.clientPin, .inr h.management⟩

/-- A change of the authenticator that keeps what `Aside` lists. -/
theorem Aside.modifyAuth {f : Authenticator → Authenticator}
    (h : ∀ a, (f a).clientPin = a.clientPin ∧ (f a).management = a.management) :
    Moves Aside (CommandM.modifyAuth f) :=
  fun w ↦ ⟨Store.SameSettings.frame.refl _, (h w.auth).1, .inr (h w.auth).2⟩

theorem Aside.of_settings {w : World} {t : Store} (h : Store.SameSettings w.store t) :
    Aside w { w with store := t } := ⟨h, rfl, .inr rfl⟩

theorem saveCredentials_moves : Moves Aside (saveCredentials crates env) := by
  have hF := Aside.frame
  refine hF.bind (hF.gets _) fun a ↦ hF.bind ?_ fun _ ↦ hF.pure _
  exact store_moves (Store.saveCtap2Credentials_moves _) fun _ _ h ↦ Aside.of_settings h

theorem makeCredential_moves (body : List UInt8) :
    Moves Aside (makeCredential crates env body) := by
  have hF := Aside.frame
  refine hF.bind ((prepareCredential_moves body).mono fun _ _ h ↦ h.aside) fun x ↦ ?_
  refine hF.bind (Aside.modifyAuth fun _ ↦ ⟨rfl, rfl⟩) fun _ ↦ ?_
  exact hF.bind saveCredentials_moves fun _ ↦ hF.pure _

theorem loadCredentialsFromDisk_moves (fault : StoreFault) (uid : Option UInt32) :
    Moves Incidental (loadCredentialsFromDisk crates fault uid) := by
  have hF := Incidental.frame
  refine hF.bind (store_moves (Store.loadCtap2Credentials_moves uid) fun w t ht ↦
    Incidental.of_tables ht) fun r ↦ ?_
  cases r with
  | ok credentials => exact hF.pure _
  | error e => exact hF.pure _

theorem releaseAssertion_moves (index : Nat) (clientDataHash : List UInt8) (userVerified : Bool) :
    Moves Aside (releaseAssertion crates env index clientDataHash userVerified) := by
  have hF := Aside.frame
  refine hF.bind (hF.gets _) fun a ↦ hF.bind (hF.expect _) fun c ↦ ?_
  refine hF.bind ((signCredential_moves _ _ _ _).mono fun _ _ h ↦ h.aside) fun _ ↦ ?_
  refine hF.bind (storeOrDeny_moves hF (Store.updateRow_moves _ _ _ _ _)
    fun _ _ h ↦ Aside.of_settings h) fun _ ↦ ?_
  exact hF.bind (Aside.modifyAuth fun _ ↦ ⟨rfl, rfl⟩) fun _ ↦ hF.pure _

theorem getAssertion_moves (body : List UInt8) : Moves Aside (getAssertion crates env body) := by
  have hF := Aside.frame
  have hselect : Moves Aside (selectAssertion crates env body) := by
    refine hF.bind (hF.ofExcept _) fun request ↦ hF.bind (hF.ofExcept _) fun r ↦ ?_
    refine hF.bind ((validatePinUvAuth_moves _ _ _ _ _ _).mono fun _ _ h ↦ h.aside) fun _ ↦ ?_
    refine hF.bind (hF.ofExcept _) fun _ ↦ hF.bind (hF.ofExcept _) fun _ ↦ ?_
    refine hF.bind (hF.bind (hF.gets _) fun a ↦ Moves.ite ?_ (hF.pure _)) fun _ ↦ ?_
    · refine hF.bind ((loadCredentialsFromDisk_moves _ _).mono fun _ _ h ↦ h.aside) fun _ ↦ ?_
      exact Aside.modifyAuth fun _ ↦ ⟨rfl, rfl⟩
    · refine hF.bind (hF.gets _) fun a ↦ ?_
      split
      · exact hF.throw _
      · exact hF.bind (hF.throwIf _ _) fun _ ↦ hF.pure _
  refine hF.bind (hF.bind hselect fun x ↦ ?_) fun _ ↦ hF.pure _
  refine hF.bind (Aside.modifyAuth fun _ ↦ ⟨rfl, rfl⟩) fun _ ↦ ?_
  exact hF.bind (releaseAssertion_moves _ _ _) fun _ ↦ hF.pure _

theorem getNextAssertion_moves (body : List UInt8) :
    Moves Aside (getNextAssertion crates env body) := by
  have hF := Aside.frame
  refine hF.bind (hF.bind (hF.throwIf _ _) fun _ ↦ hF.bind (hF.gets _) fun a ↦ ?_)
    fun _ ↦ hF.pure _
  refine hF.bind (hF.ofOption _ _) fun p ↦ ?_
  refine hF.bind (Aside.modifyAuth fun _ ↦ ⟨rfl, rfl⟩) fun _ ↦ hF.bind (hF.throwIf _ _) fun _ ↦ ?_
  split
  · exact hF.throw _
  · exact hF.bind (Aside.modifyAuth fun _ ↦ ⟨rfl, rfl⟩) fun _ ↦ releaseAssertion_moves _ _ _

theorem handleTpmCommand_moves (command : TpmCommand) :
    Moves Aside (handleTpmCommand crates env command) := by
  have hF := Aside.frame
  have hopen : Moves Aside (requireTpm crates env) := requireTpm_moves.mono fun _ _ h ↦ h.aside
  cases command with
  | pcrPolicyUpdate id authority authorityName policyRef =>
    refine hF.bind hopen fun _ ↦ hF.bind (hF.ofOption _ _) fun _ ↦ ?_
    exact storeOrDeny_moves hF (Store.updateRow_moves _ _ _ _ _) fun _ _ h ↦ Aside.of_settings h
  | passphraseChange id recoveryKey newHash newSalt kdf =>
    refine hF.bind hopen fun _ ↦ hF.bind (hF.ofOption _ _) fun _ ↦ ?_
    exact storeOrDeny_moves hF (Store.updateRecoverySlot_moves _ _ _ _ _ _ _)
      fun _ _ h ↦ Aside.of_settings h
  | pcrDigestCheck indices =>
    refine hF.bind (hF.ofOption _ _) fun _ ↦ hF.bind hopen fun _ ↦ ?_
    exact hF.bind (hF.ofOption _ _) fun _ ↦ hF.pure _

/-- The management thread leaves the list in memory alone. -/
theorem handleTpmCommand_credentials (command : TpmCommand) :
    Moves (fun w w' ↦ w'.auth.credentials = w.auth.credentials)
      (handleTpmCommand crates env command) := by
  have hF : Frame fun w w' : World ↦ w'.auth.credentials = w.auth.credentials := Frame.keeps _
  have hopen : Moves _ (requireTpm crates env) := requireTpm_moves.mono fun _ _ h ↦ h.credentials
  have hstore {α : Type} (m : StoreM α) :
      Moves (fun w w' ↦ w'.auth.credentials = w.auth.credentials) (storeOrDeny m) := fun w ↦ by
    rw [storeOrDeny_snd]
  cases command with
  | pcrPolicyUpdate id authority authorityName policyRef =>
    exact hF.bind hopen fun _ ↦ hF.bind (hF.ofOption _ _) fun _ ↦ hstore _
  | passphraseChange id recoveryKey newHash newSalt kdf =>
    exact hF.bind hopen fun _ ↦ hF.bind (hF.ofOption _ _) fun _ ↦ hstore _
  | pcrDigestCheck indices =>
    refine hF.bind (hF.ofOption _ _) fun _ ↦ hF.bind hopen fun _ ↦ ?_
    exact hF.bind (hF.ofOption _ _) fun _ ↦ hF.pure _

/-- A new authenticator has nothing to continue. -/
theorem newAuthenticator_idle (crates : Crates) (env : Env) (tpmPath : Option String)
    (s : Store) : (newAuthenticator crates env tpmPath s).auth.management = none ∧
      (newAuthenticator crates env tpmPath s).auth.pendingAssertion = none := by
  let Idle (w w' : World) : Prop :=
    w'.auth.management = w.auth.management ∧ w'.auth.pendingAssertion = w.auth.pendingAssertion
  have hF : Frame Idle :=
    ⟨fun _ ↦ ⟨rfl, rfl⟩, fun h₁ h₂ ↦ ⟨h₂.1.trans h₁.1, h₂.2.trans h₁.2⟩⟩
  have h : Moves Idle (loadAll crates env) := by
    refine hF.bind (hF.gets _) fun a ↦ hF.bind ((loadCredentialsFromDisk_moves _ _).mono
      fun _ _ h ↦ ⟨h.management, h.pendingAssertion⟩) fun cs ↦ ?_
    refine hF.bind (Moves.modify fun _ ↦ ⟨rfl, rfl⟩) fun _ ↦
      hF.bind (hF.bind ?_ fun r ↦ ?_) fun _ ↦ Moves.modify fun _ ↦ ⟨rfl, rfl⟩
    · intro w
      rw [store_snd]
      exact ⟨rfl, rfl⟩
    · cases r <;> exact hF.pure _
  exact h _

end Ctap2
end TpmFido2
