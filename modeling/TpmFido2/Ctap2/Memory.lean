import TpmFido2.Ctap2.StepEffects
import TpmFido2.Store.RoundTrip

/-!
# What is in memory

A credential gets into the list in memory in one of two ways: a row was loaded, or a registration
has made it.  After that, only its counter and what is known of its user change.
`Effect.cachedOrigin` says so, and what is true of loaded and of new credentials is true of all.

The result of this file is that the list can be saved: **`Effect.storable`**, every credential in
memory is one the encoders of the store take.  For that, the TPM has to create points of P-256, the
packages have to read only what they can write, and the salt and hash of the daemon passphrase have
to fit into a PHC string.
-/

set_option autoImplicit false

namespace TpmFido2
namespace Ctap2

open Handler

variable {crates : Crates} {w w' : World} {event : Event}

/-! ## Where credentials come from -/

/-- The same credential, with another counter or other user data. -/
structure SameCredential (c₀ c : Credential) : Prop where
  id : c.id = c₀.id
  userId : c.userId = c₀.userId
  key : c.key = c₀.key
  policy : c.policy = c₀.policy
  recovery : c.recovery = c₀.recovery

theorem SameCredential.refl (c : Credential) : SameCredential c c := ⟨rfl, rfl, rfl, rfl, rfl⟩

/-- Where a credential in memory comes from. -/
inductive CachedOrigin (crates : Crates) (w : World) (event : Event) (w' : World)
    (c : Credential) : Prop where
  /-- It was there. -/
  | kept {c₀ : Credential} (h : c₀ ∈ w.auth.credentials) (same : SameCredential c₀ c)
    (uid : w'.auth.session.uid = w.auth.session.uid) : CachedOrigin crates w event w' c
  /-- It was loaded. -/
  | loaded {c₀ : Credential} {row : CredentialRow}
    (h : row ∈ Store.selectCredentials w'.auth.session.uid w.store)
    (describes : Store.Describes crates w'.auth.session.uid row c₀) (same : SameCredential c₀ c) :
    CachedOrigin crates w event w' c
  /-- It was made. -/
  | made {env : Env} {payload : List UInt8} (he : event = .cbor env payload)
    (hcommand : event.hasCommand .makeCredential)
    (made : Made crates env w.store w.auth.session.uid c)
    (cached : w'.auth.credentials = w.auth.credentials ++ [c])
    (uid : w'.auth.session.uid = w.auth.session.uid) : CachedOrigin crates w event w' c

/-- A change of one credential of a list. -/
theorem exists_of_mem_modify {cs : List Credential} {index : Nat} {f : Credential → Credential}
    {c : Credential} (hc : c ∈ cs.modify index f) (hf : ∀ c, SameCredential c (f c)) :
    ∃ c₀ ∈ cs, SameCredential c₀ c := by
  obtain ⟨i, hi⟩ := List.mem_iff_getElem?.mp hc
  rw [List.getElem?_modify] at hi
  obtain ⟨c₀, hc₀, rfl⟩ := Option.map_eq_some_iff.mp hi
  refine ⟨c₀, List.mem_of_getElem? hc₀, ?_⟩
  split
  · exact hf c₀
  · exact .refl c₀

theorem Release.exists_of_mem {index : Nat} {x : Option Assertion} (h : Release w index x w')
    {c : Credential} (hc : c ∈ w'.auth.credentials) :
    ∃ c₀ ∈ w.auth.credentials, SameCredential c₀ c := by
  cases h with
  | failed hsame _ => exact ⟨c, hsame.cached ▸ hc, .refl c⟩
  | done _ _ _ _ _ cached _ =>
    rw [cached] at hc
    exact exists_of_mem_modify hc fun _ ↦ ⟨rfl, rfl, rfl, rfl, rfl⟩

/-- **Where the credentials in memory come from.** -/
theorem Effect.cachedOrigin (h : Effect crates w event w') {c : Credential}
    (hc : c ∈ w'.auth.credentials) : CachedOrigin crates w event w' c := by
  have uid {w' : World} (h : SameContext w w') : w'.auth.session.uid = w.auth.session.uid :=
    congrArg SessionContext.uid h.session
  have disk {u : Option UInt32} {cs : List Credential} (hcs : FromDisk crates u w.store cs)
      (hu : w'.auth.session.uid = u) {c₀ : Credential} (hc₀ : c₀ ∈ cs)
        (same : SameCredential c₀ c) :
      CachedOrigin crates w event w' c := by
    subst hu
    obtain ⟨row, hrow, hdescribes⟩ := hcs.exists_row hc₀
    exact .loaded hrow hdescribes same
  cases h with
  | kept hsame _ _ _ => exact .kept (hsame.cached ▸ hc) (.refl c) (uid hsame.toSameContext)
  | reloaded hsame _ cached _ _ _ => exact disk cached (uid hsame) hc (.refl c)
  | asserted _ _ _ _ hsame _ cached _ _ hrel _ =>
    have huid := (congrArg SessionContext.uid hrel.sameContext.session).trans (uid hsame)
    obtain ⟨c₀, hc₀, same⟩ := hrel.exists_of_mem hc
    rcases cached with hcached | hcached
    · exact .kept (hcached ▸ hc₀) same huid
    · exact disk hcached huid hc₀ same
  | continued _ _ _ _ hsame _ cached _ hrel _ =>
    have huid := (congrArg SessionContext.uid hrel.sameContext.session).trans (uid hsame)
    obtain ⟨c₀, hc₀, same⟩ := hrel.exists_of_mem hc
    exact .kept (cached ▸ hc₀) same huid
  | created he hp made hsame cached _ _ _ =>
    have hc₀ := hc
    rw [cached, List.mem_append, List.mem_singleton] at hc₀
    rcases hc₀ with hc₀ | rfl
    · exact .kept hc₀ (.refl c) (uid hsame)
    · exact .made he (by simp [he, Event.hasCommand, hp]) made cached (uid hsame)
  | renamed _ _ hsame cached _ _ _ _ =>
    rw [cached] at hc
    obtain ⟨c₀, hc₀, same⟩ := exists_of_mem_modify hc fun _ ↦ ⟨rfl, rfl, rfl, rfl, rfl⟩
    exact .kept hc₀ same (uid hsame)
  | deleted hsame _ _ _ cached _ _ _ _ =>
    rw [cached] at hc
    exact .kept (List.mem_of_mem_eraseIdx hc) (.refl c) (uid hsame)
  | wiped _ _ _ _ cached _ _ _ =>
    rw [cached] at hc
    cases hc
  | updated _ _ _ hsame _ cached _ _ _ => exact .kept (cached ▸ hc) (.refl c) (uid hsame)
  | started _ session _ cached _ _ _ =>
    exact disk cached (congrArg SessionContext.uid session) hc (.refl c)

/-! ## Points and salts -/

/-- The salt and the hash of the daemon passphrase, if it can be read, fit into a PHC string. -/
def passphraseFits (crates : Crates) (s : Store) : Bool :=
  (s.daemonPassphrase.bind crates.readPassphrase).all
    fun (hash, salt, memoryKib, iterations, parallelism) ↦
      (crates.toPhc memoryKib iterations parallelism salt hash).isSome

/-- The device that a request is answered with. -/
def Event.device (event : Event) : Option TpmDevice :=
  match event with
  | .cbor env _ => some env.tpm
  | _ => none

theorem isPoint_of_createCredentialKey {device : TpmDevice} (hdevice : device.CreatesPoints crates)
    {policy : Option PcrPolicyBinding} {authValue : Option (List UInt8)} {key : TpmCredential}
    (h : createCredentialKey device policy authValue = some key) : Store.IsPoint crates key := by
  obtain ⟨⟨privateArea, publicArea, x, y⟩, hkey, rfl⟩ := Option.map_eq_some_iff.mp h
  obtain ⟨hpoint, hx, hy⟩ := hdevice _ _ _ _ _ _ hkey
  exact ⟨hpoint, hx, hy⟩

/-- What a call to the store delivers as the daemon passphrase is what is stored. -/
theorem passphraseIn_some {fault : StoreFault} {s : Store} {salt hash : List UInt8}
    {kdf : RecoveryKdf} (h : passphraseIn crates fault s = some (salt, hash, kdf)) :
    ∃ blob memoryKib iterations parallelism, s.daemonPassphrase = some blob ∧
      crates.readPassphrase blob = some (hash, salt, memoryKib, iterations, parallelism) ∧
      kdf = .argon2id memoryKib iterations parallelism := by
  rw [passphraseIn] at h
  cases e : Store.loadDaemonPassphrase crates fault s with
  | mk o s' =>
    rw [e] at h
    cases o with
    | error _ => cases h
    | panicked => cases h
    | ok passphrase =>
      obtain rfl : passphrase = some (salt, hash, kdf) := h
      obtain ⟨_, s₁, e₁, h₁⟩ := bind_ok e
      obtain ⟨-, rfl⟩ := throwIf_ok e₁
      obtain ⟨cur, s₂, e₂, h₂⟩ := bind_ok h₁
      cases e₂
      cases hblob : s₁.daemonPassphrase with
      | none => rw [hblob] at h₂; cases h₂
      | some blob =>
        rw [hblob] at h₂
        obtain ⟨⟨hash', salt', memoryKib, iterations, parallelism⟩, s₃, e₃, h₃⟩ := bind_ok h₂
        obtain ⟨hread, rfl⟩ := ofOption_ok e₃
        cases h₃
        exact ⟨blob, memoryKib, iterations, parallelism, rfl, hread, rfl⟩

/-- A new credential can be saved. -/
theorem Made.storable {env : Env} {s : Store} {uid : Option UInt32} {c : Credential}
    (h : Made crates env s uid c) (hdevice : env.tpm.CreatesPoints crates)
    (hpassphrase : passphraseFits crates s) : Store.Storable crates c := by
  obtain ⟨tpm, policy, material, hmaterial, -, hrecovery⟩ := h.material
  obtain ⟨_, -, h₁⟩ := Option.bind_eq_some_iff.mp hmaterial
  obtain ⟨p, -, h₂⟩ := Option.bind_eq_some_iff.mp h₁
  obtain ⟨key, hkey, h₃⟩ := Option.bind_eq_some_iff.mp h₂
  cases h₃
  have hslot : ∀ r, c.recovery = some r → Store.IsPoint crates r.key ∧
      (kdfParamsToString crates r.kdf r.passphraseSalt r.passphraseHash).isSome := by
    intro r hr
    obtain ⟨hpass, hrecoveryKey⟩ := createCredentialMaterial_slot hmaterial (hrecovery ▸ hr)
    refine ⟨isPoint_of_createCredentialKey hdevice hrecoveryKey, ?_⟩
    obtain ⟨blob, memoryKib, iterations, parallelism, hblob, hread, hkdf⟩ := passphraseIn_some hpass
    have hfits : (crates.toPhc memoryKib iterations parallelism r.passphraseSalt
        r.passphraseHash).isSome := by
      simpa [passphraseFits, hblob, hread] using hpassphrase
    rw [hkdf]
    exact hfits
  exact ⟨isPoint_of_createCredentialKey hdevice hkey, fun r hr ↦ (hslot r hr).1,
    fun r hr ↦ (hslot r hr).2⟩

theorem isPoint_of_tpmKeyFromBlob (hcrates : crates.ReadsWritable) {data : List UInt8}
    {publicKey : String} {key : TpmCredential}
    (h : tpmKeyFromBlob crates data publicKey = some key) : Store.IsPoint crates key := by
  obtain ⟨⟨privateArea, publicArea, authValue⟩, -, h₁⟩ := Option.bind_eq_some_iff.mp h
  obtain ⟨⟨x, y⟩, hpem, h₂⟩ := Option.bind_eq_some_iff.mp h₁
  cases h₂
  obtain ⟨hpoint, hx, hy⟩ := hcrates.point _ _ _ hpem
  exact ⟨hpoint, hx, hy⟩

/-- A credential with the key and the recovery slot that were read from slots. -/
theorem storable_of_slots (hcrates : crates.ReadsWritable) {c : Credential} {primary : KeyslotRow}
    {recovery : Option KeyslotRow}
    (hkey : tpmKeyFromBlob crates primary.tpmKey primary.publicKey = some c.key)
    (hrecovery : Store.recoveryOfRow crates recovery = some c.recovery) :
    Store.Storable crates c := by
  have hslot : ∀ r, c.recovery = some r → Store.IsPoint crates r.key ∧
      (kdfParamsToString crates r.kdf r.passphraseSalt r.passphraseHash).isSome := by
    intro r hr
    rw [hr] at hrecovery
    cases hrow : recovery with
    | none => rw [hrow] at hrecovery; cases hrecovery
    | some slot =>
      rw [hrow, Store.recoveryOfRow] at hrecovery
      cases htoken : slot.token with
      | none => simp [htoken] at hrecovery
      | some token =>
        simp only [htoken] at hrecovery
        obtain ⟨⟨salt, hash, kdf⟩, hkdf, h₁⟩ := Option.bind_eq_some_iff.mp hrecovery
        obtain ⟨key, hkey, h₂⟩ := Option.bind_eq_some_iff.mp h₁
        cases h₂
        obtain ⟨⟨salt, hash, memoryKib, iterations, parallelism⟩, hphc, h₃⟩ :=
          Option.map_eq_some_iff.mp hkdf
        cases h₃
        exact ⟨isPoint_of_tpmKeyFromBlob hcrates hkey, hcrates.phc _ _ _ _ _ _ hphc⟩
  exact ⟨isPoint_of_tpmKeyFromBlob hcrates hkey, fun r hr ↦ (hslot r hr).1,
    fun r hr ↦ (hslot r hr).2⟩

/-- What was loaded can be saved again. -/
theorem storable_of_describes (hcrates : crates.ReadsWritable) {uid : Option UInt32}
    {row : CredentialRow} {c : Credential} (h : Store.Describes crates uid row c) :
    Store.Storable crates c := by
  obtain ⟨slot, version, -, -, hkey, -⟩ := h.primary
  exact storable_of_slots hcrates hkey h.recovery

theorem SameCredential.storable {c₀ c : Credential} (h : SameCredential c₀ c)
    (hc : Store.Storable crates c₀) : Store.Storable crates c := by
  obtain ⟨hkey, hrecoveryKey, hphc⟩ := hc
  exact ⟨h.key ▸ hkey, fun r hr ↦ hrecoveryKey r (h.recovery ▸ hr),
    fun r hr ↦ hphc r (h.recovery ▸ hr)⟩

/-- **The list in memory can be saved**, before and after every step. -/
theorem Effect.storable (h : Effect crates w event w') (hcrates : crates.ReadsWritable)
    (hdevice : ∀ device, event.device = some device → device.CreatesPoints crates)
    (hpassphrase : event.hasCommand .makeCredential → passphraseFits crates w.store)
    (hw : ∀ c ∈ w.auth.credentials, Store.Storable crates c) :
    ∀ c ∈ w'.auth.credentials, Store.Storable crates c := by
  intro c hc
  cases h.cachedOrigin hc with
  | kept hc₀ same _ => exact same.storable (hw _ hc₀)
  | loaded _ describes same => exact same.storable (storable_of_describes hcrates describes)
  | made he hcommand made _ _ =>
    exact made.storable (hdevice _ (by rw [he]; rfl)) (hpassphrase hcommand)

/-- What a start loads can be saved. -/
theorem newAuthenticator_storable (hcrates : crates.ReadsWritable) (env : Env)
    (tpmPath : Option String) (s : Store) :
    ∀ c ∈ (newAuthenticator crates env tpmPath s).auth.credentials, Store.Storable crates c := by
  intro c hc
  obtain ⟨row, -, hdescribes⟩ := (newAuthenticator_started crates env tpmPath s).cached.exists_row
    hc
  exact storable_of_describes hcrates hdescribes

end Ctap2
end TpmFido2
