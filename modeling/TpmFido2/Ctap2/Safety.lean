import TpmFido2.Ctap2.Authorisation
import TpmFido2.Ctap2.Memory
import TpmFido2.Ctap2.Pending

/-!
# Requests that panic

A panic ends the daemon, so a request that can cause one is a way to switch the authenticator off.
The places at which `handle_cbor` can panic are these.

* Three commands are `todo!()`.
* The list in memory is indexed with what a pending assertion and an enumeration remember.
* Saving the list encodes it, and the encoders expect points of P-256 and short salts and hashes.
* Opening the TPM shifts by the numbers of the default PCRs.

`Sound` is the invariant behind the second and the third: everything remembered is an index of the
list, and everything in the list can be saved.  `handleCbor_safe` is that no command panics in a
sound world, and `step_sound` that steps lead from sound worlds to sound worlds.  One kind of step
does not: deleteCredential makes the list shorter and leaves the pending assertion, which can then
point behind its end.  `Careful` rules that out, and what it takes to get to the other places.
-/

set_option autoImplicit false

namespace TpmFido2

open Handler

/-! ## The store -/

namespace Store

variable {crates : Crates} {fault : StoreFault}

theorem loadDaemonPassphrase_safe (s : Store) : Safe (loadDaemonPassphrase crates fault) s := by
  refine .bind (.throwIf _ _ _) fun _ s₁ _ ↦ .bind (.get _) fun cur s₂ _ ↦ ?_
  split
  · exact .pure _ _
  · exact .bind (.ofOption _ _ _) fun x s₃ _ ↦ .pure _ _

theorem loadDefaultPcrPolicy_safe (s : Store) : Safe (loadDefaultPcrPolicy crates fault) s := by
  refine .bind (.throwIf _ _ _) fun _ s₁ _ ↦ .bind (.get _) fun cur s₂ _ ↦ ?_
  split
  · exact .pure _ _
  · exact .bind (.ofOption _ _ _) fun x s₃ _ ↦ .pure _ _

theorem saveClientPinState_safe (state : StoredClientPinState) (s : Store) :
    Safe (saveClientPinState crates fault state) s := by
  refine .bind (.throwIf _ _ _) fun _ s₁ _ ↦ .bind (.throwIf _ _ _) fun _ s₂ _ ↦ ?_
  refine .bind (loadOrGenerateHmacKey_safe 0 s₂) fun key s₃ _ ↦ ?_
  refine .bind (.ofOption _ _ _) fun row s₄ _ ↦ .bind (.throwIf _ _ _) fun _ s₅ _ ↦ ?_
  exact .modify _ _

theorem deleteClientPinState_safe (s : Store) : Safe (deleteClientPinState fault) s :=
  .bind (.throwIf _ _ _) fun _ _ _ ↦ .modify _ _

theorem deleteCtap2Credential_safe (id : List UInt8) (s : Store) :
    Safe (deleteCtap2Credential fault id) s :=
  .bind (.throwIf _ _ _) fun _ _ _ ↦ .bind (.get _) fun _ _ _ ↦
    .bind (.throwIf _ _ _) fun _ _ _ ↦ .modify _ _

theorem updateRow_safe (id : List UInt8) (applies : CredentialRow → Bool)
    (f : CredentialRow → CredentialRow) (hf : ∀ r, (f r).credentialId = r.credentialId)
    (s : Store) :
    Safe (updateRow fault id applies f hf) s := by
  rw [Safe]
  rcases updateRow_cases fault id applies f hf s with ⟨e, he⟩ | ⟨row, -, -, -, he⟩
  · rw [he]
    exact Outcome.error_ne_panicked _
  · rw [he]
    exact Outcome.ok_ne_panicked _

end Store

namespace Ctap2

open CommandM

variable {crates : Crates} {env : Env} {w w' : World} {event : Event}
  {payload body : List UInt8}

/-! ## Calls that never panic -/

theorem CommandM.store_safe {α : Type} {m : StoreM α} (h : Safe m w.store) : Safe (store m) w :=
  .zoom h

theorem CommandM.storeOrDeny_safe {α : Type} {m : StoreM α} (h : Safe m w.store) :
    Safe (storeOrDeny m) w := by
  refine .bind (store_safe h) fun r w₁ _ ↦ ?_
  cases r with
  | ok a => exact .pure _ _
  | error e => exact .throw _ _

theorem ensureTpm_safe (w : World) : Safe (ensureTpm crates env) w := by
  refine .bind (.gets _ _) fun a w₁ _ ↦ ?_
  split
  · exact .pure _ _
  · exact .pure _ _
  · refine .bind (store_safe (Store.loadDefaultPcrPolicy_safe _)) fun indices w₂ _ ↦ ?_
    split
    · exact .pure _ _
    · exact .bind (.modify _ _) fun _ w₃ _ ↦ .pure _ _

theorem validatePinUvAuth_safe (n : Nat) (protocol : Option Int) (authParam : Option (List UInt8))
    (message : List UInt8) (permission : Ctap2PermissionFlags) (rpId : Option String) (w : World) :
    Safe (validatePinUvAuth crates env n protocol authParam message permission rpId) w := by
  refine .bind (.gets _ _) fun a w₁ _ ↦ ?_
  split
  · exact .pure _ _
  · exact .pure _ _
  · exact .throw _ _
  · exact .bind (.modify _ _) fun _ w₂ _ ↦ .throw _ _

theorem requirePassphrase_safe (command : Ctap2Command) (w : World) :
    Safe (requirePassphrase crates env command) w := by
  rw [requirePassphrase]
  split
  · exact .bind (storeOrDeny_safe (Store.loadDaemonPassphrase_safe _)) fun _ w₁ _ ↦ .throwIf _ _ _
  · exact .pure _ _

theorem persistClientPin_safe (n : Nat) (state : StoredClientPinState) (w : World) :
    Safe (persistClientPin crates env n state) w :=
  storeOrDeny_safe (Store.saveClientPinState_safe _ _)

theorem authenticatePin_safe (pinHash : List UInt8) (w : World) :
    Safe (authenticatePin crates env pinHash) w := by
  refine .bind (.throwIf _ _ _) fun _ w₁ _ ↦ .bind (.gets _ _) fun a w₂ _ ↦ ?_
  split
  · exact .throw _ _
  · refine .bind (.throwIf _ _ _) fun _ w₃ _ ↦ ?_
    split
    · split
      · exact .bind (.modify _ _) fun _ w₄ _ ↦ persistClientPin_safe _ _ _
      · exact .pure _ _
    · refine .bind (.modify _ _) fun _ w₄ _ ↦ ?_
      exact .bind (persistClientPin_safe _ _ _) fun _ w₅ _ ↦ .throw _ _

/-- authenticatorClientPIN. -/
theorem clientPin_safe (body : List UInt8) (w : World) : Safe (clientPin crates env body) w := by
  refine .bind (.ofExcept _ _) fun x w₁ _ ↦ ?_
  obtain ⟨subCommand, request⟩ := x
  have issue (aesKey macKey : List UInt8) (permissions : Ctap2PermissionFlags)
      (rpId : Option String) (w : World) :
      Safe (issueToken crates env aesKey macKey permissions rpId) w :=
    .bind (.modify _ _) fun _ _ _ ↦ .pure _ _
  have choose (state : StoredClientPinState) (w : World) :
      Safe (persistClientPin crates env 1 state >>= fun _ ↦ setClientPin (some state) >>= fun _ ↦
        pure (emptyResponse crates)) w :=
    .bind (persistClientPin_safe _ _ _) fun _ _ _ ↦ .bind (.modify _ _) fun _ _ _ ↦ .pure _ _
  cases subCommand with
  | getRetries =>
    exact .bind (.throwIf _ _ _) fun _ w₂ _ ↦ .bind (.gets _ _) fun a w₃ _ ↦ .pure _ _
  | getKeyAgreement =>
    exact .bind (.throwIf _ _ _) fun _ w₂ _ ↦ .bind (.modify _ _) fun _ w₃ _ ↦ .pure _ _
  | setPin =>
    refine .bind (.ofOption _ _ _) fun _ w₂ _ ↦ .bind (.ofOption _ _ _) fun _ w₃ _ ↦ ?_
    exact .bind (.gets _ _) fun a w₄ _ ↦ .bind (.ofExcept _ _) fun newPin w₅ _ ↦ choose _ _
  | changePin =>
    refine .bind (.ofOption _ _ _) fun _ w₂ _ ↦ .bind (.ofOption _ _ _) fun _ w₃ _ ↦ ?_
    refine .bind (.ofOption _ _ _) fun _ w₄ _ ↦ .bind (.gets _ _) fun a w₅ _ ↦ ?_
    refine .bind (.ofExcept _ _) fun x w₆ _ ↦ ?_
    exact .bind (authenticatePin_safe _ _) fun _ w₇ _ ↦ choose _ _
  | getPinUvAuthToken =>
    refine .bind (.ofOption _ _ _) fun _ w₂ _ ↦ .bind (.ofOption _ _ _) fun _ w₃ _ ↦ ?_
    refine .bind (.gets _ _) fun a w₄ _ ↦ .bind (.ofExcept _ _) fun x w₅ _ ↦ ?_
    exact .bind (authenticatePin_safe _ _) fun _ w₆ _ ↦ issue _ _ _ _ _
  | getPinUvAuthTokenUsingUv =>
    refine .bind (.ofOption _ _ _) fun _ w₂ _ ↦ .bind (.ofExcept _ _) fun _ w₃ _ ↦ ?_
    refine .bind (.gets _ _) fun a w₄ _ ↦ .bind (.throwIf _ _ _) fun _ w₅ _ ↦ ?_
    exact .bind (.ofExcept _ _) fun x w₆ _ ↦ issue _ _ _ _ _

/-- authenticatorReset. -/
theorem reset_safe (w : World) : Safe (reset crates env) w := by
  have hall : ∀ (cs : List Credential) (n : Nat) (w : World), Safe (deleteAll env n cs) w := by
    intro cs
    induction cs with
    | nil => exact fun _ _ ↦ .pure _ _
    | cons c cs ih =>
      intro n w
      exact .bind (store_safe (Store.deleteCtap2Credential_safe _ _)) fun _ w₁ _ ↦ ih _ _
  have hpin (w : World) : Safe (resetPin env) w := by
    refine .bind (.gets _ _) fun a w₁ _ ↦ ?_
    split
    · exact .bind (store_safe (Store.deleteClientPinState_safe _)) fun _ w₂ _ ↦ .modify _ _
    · exact .pure _ _
  refine .bind (.gets _ _) fun a w₁ _ ↦ .bind (.throwIf _ _ _) fun _ w₂ _ ↦ ?_
  refine .bind (hpin _) fun _ w₃ _ ↦ .bind (hall _ _ _) fun _ w₄ _ ↦ ?_
  exact .bind (.modify _ _) fun _ w₅ _ ↦ .pure _ _

theorem prepareCredential_safe (body : List UInt8) (w : World) :
    Safe (prepareCredential crates env body) w := by
  refine .bind (.ofExcept _ _) fun request w₁ _ ↦ .bind (.ofExcept _ _) fun r w₂ _ ↦ ?_
  refine .bind (validatePinUvAuth_safe _ _ _ _ _ _ _) fun verified w₃ _ ↦ ?_
  refine .bind (.ofExcept _ _) fun _ w₄ _ ↦ .bind (.ofExcept _ _) fun _ w₅ _ ↦ ?_
  refine .bind (.gets _ _) fun a w₆ _ ↦ .bind (.throwIf _ _ _) fun _ w₇ _ ↦ ?_
  refine .bind (.throwIf _ _ _) fun _ w₈ _ ↦ ?_
  refine .bind (store_safe (Store.loadDaemonPassphrase_safe _)) fun passphrase w₉ _ ↦ ?_
  refine .bind (ensureTpm_safe _) fun tpm? w₁₀ _ ↦ .bind (.ofOption _ _ _) fun tpm w₁₁ _ ↦ ?_
  exact .bind (.ofOption _ _ _) fun x w₁₂ _ ↦ .pure _ _

theorem signCredential_safe (key : TpmCredential) (policy : Option StoredPcrPolicy)
    (authority : Option StoredRecoverySlot) (signedData : List UInt8) (w : World) :
    Safe (signCredential crates env key policy authority signedData) w := by
  refine .bind (.throwIf _ _ _) fun _ w₁ _ ↦ .bind (ensureTpm_safe _) fun tpm? w₂ _ ↦ ?_
  exact .bind (.ofOption _ _ _) fun tpm w₃ _ ↦ .ofOption _ _ _

theorem reloadCredentials_safe (w : World) : Safe (reloadCredentials crates env) w := by
  refine .bind (.gets _ _) fun a w₁ _ ↦ ?_
  split
  · have hload : Safe (loadCredentialsFromDisk crates (env.store 1) a.session.uid) w₁ := by
      refine .bind (store_safe (Store.loadCtap2Credentials_safe _ _)) fun r w₂ _ ↦ ?_
      cases r with
      | ok credentials => exact .pure _ _
      | error e => exact .pure _ _
    exact .bind hload fun _ w₂ _ ↦ .modify _ _
  · exact .pure _ _

theorem selectAssertion_safe (body : List UInt8) (w : World) :
    Safe (selectAssertion crates env body) w := by
  refine .bind (.ofExcept _ _) fun request w₁ _ ↦ .bind (.ofExcept _ _) fun r w₂ _ ↦ ?_
  refine .bind (validatePinUvAuth_safe _ _ _ _ _ _ _) fun verified w₃ _ ↦ ?_
  refine .bind (.ofExcept _ _) fun _ w₄ _ ↦ .bind (.ofExcept _ _) fun _ w₅ _ ↦ ?_
  refine .bind (reloadCredentials_safe _) fun _ w₆ _ ↦ .bind (.gets _ _) fun a w₇ _ ↦ ?_
  split
  · exact .throw _ _
  · exact .bind (.throwIf _ _ _) fun _ w₈ _ ↦ .pure _ _

theorem authoriseManagement_safe (body : List UInt8) (w : World) :
    Safe (authoriseManagement crates env body) w := by
  refine .bind (.gets _ _) fun a w₁ _ ↦ .bind (.throwIf _ _ _) fun _ w₂ _ ↦ ?_
  refine .bind (.ofExcept _ _) fun request w₃ _ ↦ .bind (.ofOption _ _ _) fun n w₄ _ ↦ ?_
  refine .bind (.throwIf _ _ _) fun _ w₅ _ ↦ ?_
  refine .bind (validatePinUvAuth_safe _ _ _ _ _ _ _) fun _ w₆ _ ↦ ?_
  exact .bind (.modify _ _) fun _ w₇ _ ↦ .pure _ _

/-! ## Calls that panic in some worlds -/

theorem releaseAssertion_safe {index : Nat} (hindex : index < w.auth.credentials.length)
    (clientDataHash : List UInt8) (userVerified : Bool) :
    Safe (releaseAssertion crates env index clientDataHash userVerified) w := by
  refine .bind (.gets _ _) fun a w₁ e₁ ↦ ?_
  cases e₁
  refine .bind (.expect (by simpa using hindex) _) fun c w₂ _ ↦ ?_
  refine .bind (signCredential_safe _ _ _ _ _) fun signature w₃ _ ↦ ?_
  refine .bind (storeOrDeny_safe (Store.updateRow_safe _ _ _ _ _)) fun _ w₄ _ ↦ ?_
  exact .bind (.modify _ _) fun _ w₅ _ ↦ .pure _ _

theorem saveCredentials_safe (h : ∀ c ∈ w.auth.credentials, Store.Storable crates c) :
    Safe (saveCredentials crates env) w := by
  refine .bind (.gets _ _) fun a w₁ e₁ ↦ ?_
  cases e₁
  refine .bind (store_safe (Store.saveCtap2Credentials_safe (fun c hc ↦ ?_) _)) fun _ w₂ _ ↦
    .pure _ _
  exact Store.isSome_rowOfCredential (h c hc)

/-- What is remembered of the list is in it, and what is in it can be saved. -/
structure Sound (crates : Crates) (w : World) : Prop where
  storable : ∀ c ∈ w.auth.credentials, Store.Storable crates c
  pending : ∀ p ∈ w.auth.pendingAssertion, ∀ i ∈ p.credentialIndexes,
    i < w.auth.credentials.length
  rps : ∀ state ∈ w.auth.management, ∀ i ∈ state.rpIndexes, i < w.auth.credentials.length
  credentials : ∀ state ∈ w.auth.management, ∀ i ∈ state.credentialIndexes,
    i < w.auth.credentials.length

theorem Sound.enter (h : Sound crates w) (command : Ctap2Command) :
    Sound crates (w.enter command) := by
  refine ⟨h.storable, fun p hp ↦ h.pending p ?_, fun state hstate ↦ h.rps state ?_,
    fun state hstate ↦ h.credentials state ?_⟩
  · rcases (quiet_enter w command).pendingAssertion with hnone | hsame
    · rw [hnone] at hp
      cases hp
    · exact hsame ▸ hp
  · rcases enter_management w command with hnone | ⟨hsame, -⟩
    · rw [hnone] at hstate
      cases hstate
    · exact hsame ▸ hstate
  · rcases enter_management w command with hnone | ⟨hsame, -⟩
    · rw [hnone] at hstate
      cases hstate
    · exact hsame ▸ hstate

/-- authenticatorMakeCredential. -/
theorem makeCredential_safe (hw : ∀ c ∈ w.auth.credentials, Store.Storable crates c)
    (hdevice : env.tpm.CreatesPoints crates) (hpassphrase : passphraseFits crates w.store)
    (body : List UInt8) : Safe (makeCredential crates env body) w := by
  refine .bind (prepareCredential_safe _ _) fun x w₁ e₁ ↦ ?_
  obtain ⟨c, response⟩ := x
  have hmade := (prepareCredential_ok e₁).storable hdevice hpassphrase
  have hcached := (Moves.of_eq (prepareCredential_moves body) e₁).credentials
  refine .bind (.modify _ _) fun _ w₂ e₂ ↦ ?_
  cases e₂
  refine .bind (saveCredentials_safe fun d hd ↦ ?_) fun _ w₃ _ ↦ .pure _ _
  rcases List.mem_append.mp hd with hd | hd
  · exact hw d (hcached ▸ hd)
  · rw [List.mem_singleton.mp hd]
    exact hmade

/-- authenticatorGetAssertion. -/
theorem getAssertion_safe (body : List UInt8) (w : World) :
    Safe (getAssertion crates env body) w := by
  refine .bind (.bind (selectAssertion_safe _ _) fun x w₁ e₁ ↦ ?_) fun y w₂ _ ↦ .pure _ _
  obtain ⟨r, userVerified, first, remaining⟩ := x
  obtain ⟨request, -, -, hidx⟩ := selectAssertion_ok e₁
  have hfirst : first < w₁.auth.credentials.length := by
    have hmem : first ∈ first :: remaining := List.mem_cons_self
    rw [← hidx] at hmem
    exact lt_of_mem_filter_range hmem
  refine .bind (.modify _ _) fun _ w₂ e₂ ↦ ?_
  cases e₂
  refine .bind ?_ fun _ w₃ _ ↦ .pure _ _
  apply releaseAssertion_safe
  exact hfirst

/-- authenticatorGetNextAssertion. -/
theorem getNextAssertion_safe (hw : Sound crates w) (body : List UInt8) :
    Safe (getNextAssertion crates env body) w := by
  refine .bind ?_ fun y w₁ _ ↦ .pure _ _
  refine .bind (.throwIf _ _ _) fun _ w₁ e₁ ↦ ?_
  obtain ⟨-, rfl⟩ := throwIf_ok e₁
  refine .bind (.gets _ _) fun a w₂ e₂ ↦ ?_
  cases e₂
  refine .bind (.ofOption _ _ _) fun p w₂ e₂ ↦ ?_
  obtain ⟨hp, rfl⟩ := ofOption_ok e₂
  refine .bind (.modify _ _) fun _ w₃ e₃ ↦ ?_
  cases e₃
  refine .bind (.throwIf _ _ _) fun _ w₄ e₄ ↦ ?_
  obtain ⟨-, rfl⟩ := throwIf_ok e₄
  split
  · exact .throw _ _
  · next index remaining hindexes =>
    refine .bind (.modify _ _) fun _ w₅ e₅ ↦ ?_
    cases e₅
    have hindex := hw.pending p hp index (by rw [hindexes]; exact List.mem_cons_self)
    apply releaseAssertion_safe
    exact hindex

/-- A credential that an enumeration comes to. -/
theorem enumerated_safe {α : Type} {state : Option ManagementState} {cs : List Credential}
    {index : Nat} (hindex : index < cs.length) (f : Credential → α) (w : World) :
    Safe (setManagement state >>= fun _ ↦ (expect cs[index]? : CommandM Credential) >>=
      fun c ↦ pure (f c)) w :=
  .bind (.modify _ _) fun _ _ _ ↦ .bind (.expect (by simpa using hindex) _) fun _ _ _ ↦ .pure _ _

/-- The sub-commands of authenticatorCredentialManagement. -/
theorem managementSubCommand_safe (hw : Sound crates w) (subCommand : ManagementSubCommand)
    (params : Option Entries) : Safe (managementSubCommand crates env subCommand params) w := by
  cases subCommand with
  | getCredsMetadata => exact .bind (.gets _ _) fun a w₁ _ ↦ .pure _ _
  | enumerateRpsBegin =>
    refine .bind (.gets _ _) fun a w₁ e₁ ↦ ?_
    cases e₁
    refine .bind (.ofOption _ _ _) fun first w₁ e₁ ↦ ?_
    obtain ⟨hfirst, rfl⟩ := ofOption_ok e₁
    exact enumerated_safe (lt_of_mem_filter_range (List.mem_of_mem_head? hfirst)) _ _
  | enumerateRpsNext =>
    refine .bind (.gets _ _) fun a w₁ e₁ ↦ ?_
    cases e₁
    refine .bind (.ofOption _ _ _) fun state w₁ e₁ ↦ ?_
    obtain ⟨hstate, rfl⟩ := ofOption_ok e₁
    refine .bind (.ofOption _ _ _) fun index w₂ e₂ ↦ ?_
    obtain ⟨hindex, rfl⟩ := ofOption_ok e₂
    exact enumerated_safe (hw.rps state hstate index (List.mem_of_getElem? hindex)) _ _
  | enumerateCredentialsBegin =>
    refine .bind (.ofOption _ _ _) fun params w₁ e₁ ↦ ?_
    refine .bind (.ofOption _ _ _) fun rpHash w₂ e₂ ↦ .bind (.throwIf _ _ _) fun _ w₃ e₃ ↦ ?_
    refine .bind (.gets _ _) fun a w₄ e₄ ↦ ?_
    cases e₄
    refine .bind (.ofOption _ _ _) fun first w₅ e₅ ↦ ?_
    obtain ⟨hfirst, rfl⟩ := ofOption_ok e₅
    exact enumerated_safe (lt_of_mem_filter_range (List.mem_of_mem_head? hfirst)) _ _
  | enumerateCredentialsNext =>
    refine .bind (.gets _ _) fun a w₁ e₁ ↦ ?_
    cases e₁
    refine .bind (.ofOption _ _ _) fun state w₁ e₁ ↦ ?_
    obtain ⟨hstate, rfl⟩ := ofOption_ok e₁
    refine .bind (.ofOption _ _ _) fun index w₂ e₂ ↦ ?_
    obtain ⟨hindex, rfl⟩ := ofOption_ok e₂
    exact enumerated_safe (hw.credentials state hstate index (List.mem_of_getElem? hindex)) _ _
  | deleteCredential =>
    refine .bind (.ofExcept _ _) fun id w₁ _ ↦ .bind (.gets _ _) fun a w₂ _ ↦ ?_
    refine .bind (.ofOption _ _ _) fun index w₃ _ ↦ ?_
    refine .bind (storeOrDeny_safe (Store.deleteCtap2Credential_safe _ _)) fun _ w₄ _ ↦ ?_
    exact .bind (.modify _ _) fun _ w₅ _ ↦ .pure _ _
  | updateUserInformation =>
    refine .bind (.gets _ _) fun a w₁ e₁ ↦ ?_
    cases e₁
    refine .bind (.ofExcept _ _) fun x w₁ e₁ ↦ ?_
    obtain ⟨-, rfl⟩ := ofExcept_ok e₁
    obtain ⟨index, user⟩ := x
    refine .bind (.modify _ _) fun _ w₂ e₂ ↦ ?_
    cases e₂
    refine .bind (saveCredentials_safe fun c hc ↦ ?_) fun _ w₃ _ ↦ ?_
    · obtain ⟨c₀, hc₀, same⟩ := exists_of_mem_modify hc fun _ ↦ ⟨rfl, rfl, rfl, rfl, rfl⟩
      exact same.storable (hw.storable c₀ hc₀)
    · exact .bind (.modify _ _) fun _ w₄ _ ↦ .pure _ _

/-- authenticatorCredentialManagement. -/
theorem credentialManagement_safe (hw : Sound crates w) (body : List UInt8) :
    Safe (credentialManagement crates env body) w := by
  refine .bind (authoriseManagement_safe _ _) fun x w₁ e₁ ↦ ?_
  obtain ⟨n, params⟩ := x
  have hauth := authoriseManagement_ok e₁
  have hw₁ : Sound crates w₁ := by
    have hcached : w₁.auth.credentials = w.auth.credentials := by
      rw [hauth.world]
      rfl
    have hpending : w₁.auth.pendingAssertion = w.auth.pendingAssertion := by
      rw [hauth.world]
      rfl
    have hmanagement : ∀ state ∈ w₁.auth.management, state ∈ w.auth.management := by
      intro state hstate
      rcases hauth.management with hnone | hsame
      · rw [hnone] at hstate
        cases hstate
      · exact hsame ▸ hstate
    refine ⟨hcached ▸ hw.storable, ?_, fun state hstate ↦ ?_, fun state hstate ↦ ?_⟩
    · rw [hcached, hpending]
      exact hw.pending
    · rw [hcached]
      exact hw.rps state (hmanagement state hstate)
    · rw [hcached]
      exact hw.credentials state (hmanagement state hstate)
  refine .bind (.ofOption _ _ _) fun subCommand w₂ e₂ ↦ ?_
  obtain ⟨-, rfl⟩ := ofOption_ok e₂
  exact managementSubCommand_safe hw₁ _ _

/-! ## Careful steps -/

/-- The commands that are not implemented. -/
def Ctap2Command.isTodo : Ctap2Command → Bool
  | .bioEnrollment | .bioEnrollmentPreview | .largeBlobs | .config => true
  | _ => false

/-- The event is a request of a command that is not implemented. -/
def Event.isTodo (event : Event) : Bool :=
  match event with
  | .cbor _ payload => (parsePayload payload).any fun x ↦ x.1.isTodo
  | _ => false

section
variable (crates : Crates)

/-- The numbers of the default PCRs in the store. -/
def storedIndices (s : Store) : List UInt32 := (s.defaultPcrPolicy.bind crates.readIndices).getD []

/-- The numbers that opening the TPM shifts by; nothing if it is open already, or cannot be. -/
def shiftedBy (env : Env) (w : World) : List UInt32 :=
  match w.auth.tpm, w.auth.tpmPath with
  | none, some _ =>
    ((Store.loadDefaultPcrPolicy crates (env.store 2) w.store).1.toOption.join).getD [7]
  | _, _ => []

/-- What a step must not do for the daemon to survive it and the requests after it. -/
structure Careful (w : World) (event : Event) : Prop where
  implemented : ¬ event.isTodo
  pending : (deletionTarget crates w event).isSome → ∀ p ∈ w.auth.pendingAssertion,
    ∀ i ∈ p.credentialIndexes, i + 1 < w.auth.credentials.length
  passphrase : event.hasCommand .makeCredential → passphraseFits crates w.store
  indices : ∀ i ∈ storedIndices crates w.store, i < 32

instance (w : World) (event : Event) : Decidable (Careful crates w event) :=
  -- by looking at the indices, and not at all numbers of 32 bits
  haveI : Decidable (∀ i ∈ storedIndices crates w.store, i < 32) := List.decidableBAll _ _
  decidable_of_iff (_ ∧ _ ∧ _ ∧ _)
    ⟨fun h ↦ ⟨h.1, h.2.1, h.2.2.1, h.2.2.2⟩,
      fun h ↦ ⟨h.implemented, h.pending, h.passphrase, h.indices⟩⟩

end

/-! ## One step -/

/-- **No command panics in a sound world**, if it is implemented. -/
theorem gatedCommand_safe {command : Ctap2Command} (hw : Sound crates w)
    (htodo : ¬ command.isTodo) (hdevice : env.tpm.CreatesPoints crates)
    (hpassphrase : command = .makeCredential → passphraseFits crates w.store) :
    Safe (gatedCommand crates env command body) w := by
  refine .bind (requirePassphrase_safe _ _) fun _ w₁ e₁ ↦ ?_
  obtain rfl := (requirePassphrase_eq command).of_eq e₁
  cases command with
  | getInfo => exact .bind (.gets _ _) fun a w₁ _ ↦ .pure _ _
  | clientPin => exact clientPin_safe _ _
  | makeCredential => exact makeCredential_safe hw.storable hdevice (hpassphrase rfl) _
  | getAssertion => exact getAssertion_safe _ _
  | getNextAssertion => exact getNextAssertion_safe hw _
  | credentialManagement => exact credentialManagement_safe hw _
  | credentialManagementPreview => exact credentialManagement_safe hw _
  | reset => exact reset_safe _
  | selection => exact .bind (.gets _ _) fun a w₁ _ ↦ .bind (.throwIf _ _ _) fun _ w₂ _ ↦ .pure _ _
  | bioEnrollment => exact absurd rfl htodo
  | bioEnrollmentPreview => exact absurd rfl htodo
  | largeBlobs => exact absurd rfl htodo
  | config => exact absurd rfl htodo

theorem Release.length_eq {index : Nat} {x : Option Assertion} (h : Release w index x w') :
    w'.auth.credentials.length = w.auth.credentials.length := by
  cases h with
  | failed hsame _ => rw [hsame.cached]
  | done _ _ _ _ _ cached _ => rw [cached, List.length_modify]

/-- The indexes of the pending assertion stay in the list. -/
theorem Effect.pendingInRange (h : Effect crates w event w')
    (hw : ∀ p ∈ w.auth.pendingAssertion, ∀ i ∈ p.credentialIndexes, i < w.auth.credentials.length)
    (hcareful : (deletionTarget crates w event).isSome → ∀ p ∈ w.auth.pendingAssertion,
      ∀ i ∈ p.credentialIndexes, i + 1 < w.auth.credentials.length) :
    ∀ p ∈ w'.auth.pendingAssertion, ∀ i ∈ p.credentialIndexes, i < w'.auth.credentials.length := by
  -- the assertion was dropped, or is the same and the list is as long as it was
  have kept (hpending : w'.auth.pendingAssertion = none ∨
        w'.auth.pendingAssertion = w.auth.pendingAssertion)
      (hlength : w'.auth.credentials.length = w.auth.credentials.length) :
      ∀ p ∈ w'.auth.pendingAssertion, ∀ i ∈ p.credentialIndexes,
        i < w'.auth.credentials.length := by
    intro p hp
    rcases hpending with hnone | hsame
    · rw [hnone] at hp
      cases hp
    · rw [hlength]
      exact hw p (hsame ▸ hp)
  have dropped (hpending : w'.auth.pendingAssertion = none) :
      ∀ p ∈ w'.auth.pendingAssertion, ∀ i ∈ p.credentialIndexes,
        i < w'.auth.credentials.length := by
    rw [hpending]
    exact nofun
  cases h with
  | kept hsame _ _ _ => exact kept hsame.pending (by rw [hsame.cached])
  | reloaded _ _ _ pending _ _ => exact dropped pending
  | @asserted _ _ _ _ _ _ first _ _ _ _ _ _ _ _ _ hidx pending hrel _ =>
    intro p' hp' i hi
    rw [hrel.pendingAssertion, pending] at hp'
    obtain rfl := pendingFor_eq_some hp'
    rw [hrel.length_eq]
    have hmem := List.mem_cons_of_mem first hi
    rw [← hidx] at hmem
    exact lt_of_mem_filter_range hmem
  | continued _ _ hpending hidx _ _ cached pending hrel _ =>
    intro p' hp' i hi
    rw [hrel.pendingAssertion, pending] at hp'
    obtain rfl := pendingFor_eq_some hp'
    rw [hrel.length_eq, cached]
    exact hw _ hpending i (by rw [hidx]; exact List.mem_cons_of_mem _ hi)
  | created _ _ _ _ _ pending _ _ => exact dropped pending
  | renamed _ _ _ cached pending _ _ _ => exact kept pending (by rw [cached, List.length_modify])
  | deleted _ htarget position _ cached pending _ _ _ =>
    intro p hp i hi
    rcases pending with hnone | hsame
    · rw [hnone] at hp
      cases hp
    · have hlt := hcareful (by rw [htarget]; rfl) p (hsame ▸ hp) i hi
      obtain ⟨c, hc, -⟩ := exists_of_discoverablePosition position
      rw [cached, List.length_eraseIdx_of_lt (List.getElem?_eq_some_iff.mp hc).1]
      omega
  | wiped _ _ _ _ _ pending _ _ => exact dropped pending
  | updated _ _ _ _ _ cached pending _ _ => exact kept (.inr pending) (by rw [cached])
  | started _ _ _ _ pending _ _ => exact dropped pending

/-- **A careful step leads from a sound world to another.** -/
theorem step_sound (hcrates : crates.ReadsWritable)
    (hdevice : ∀ device, event.device = some device → device.CreatesPoints crates)
    (hw : Sound crates w) (hcareful : Careful crates w event) :
    Sound crates (step crates w event).2 := by
  have heffect := step_effect crates w event
  have henumeration := step_enumeration crates w event
  refine ⟨heffect.storable hcrates hdevice hcareful.passphrase hw.storable,
    heffect.pendingInRange hw.pending hcareful.pending, fun state hstate i hi ↦ ?_,
    fun state hstate i hi ↦ ?_⟩
  · rw [show (step crates w event).2.auth.management = some state from hstate] at henumeration
    cases henumeration with
    | kept hbefore hrps _ _ _ hlength =>
      rw [hlength]
      exact hw.rps _ hbefore i (hrps ▸ hi)
    | beganRps _ _ _ hrange => exact hrange i hi
    | beganCredentials _ _ hrps _ =>
      rw [hrps] at hi
      cases hi
  · rw [show (step crates w event).2.auth.management = some state from hstate] at henumeration
    cases henumeration with
    | kept hbefore _ hcredentials _ _ hlength =>
      rw [hlength]
      exact hw.credentials _ hbefore i (hcredentials ▸ hi)
    | beganRps _ _ hcredentials _ =>
      rw [hcredentials] at hi
      cases hi
    | beganCredentials _ _ _ hrange => exact hrange i hi

theorem newAuthenticator_sound (hcrates : crates.ReadsWritable) (env : Env)
    (tpmPath : Option String) (s : Store) :
    Sound crates (newAuthenticator crates env tpmPath s) := by
  obtain ⟨hmanagement, hpending⟩ := newAuthenticator_idle crates env tpmPath s
  refine ⟨newAuthenticator_storable hcrates env tpmPath s, ?_, ?_, ?_⟩
  · rw [hpending]
    exact nofun
  · rw [hmanagement]
    exact nofun
  · rw [hmanagement]
    exact nofun

/-- `handle_cbor` returns, in a sound world. -/
theorem handleCbor_safe (hw : Sound crates w) (hdevice : env.tpm.CreatesPoints crates)
    (hcareful : Careful crates w (.cbor env payload)) :
    Safe (handleCbor crates env payload) w := by
  rw [Safe, handleCbor]
  split
  · exact Outcome.ok_ne_panicked _
  · next command body hp =>
    have htodo : ¬ command.isTodo := by
      have h := hcareful.implemented
      simpa [Event.isTodo, hp] using h
    have hpassphrase : command = .makeCredential → passphraseFits crates w.store := by
      rintro rfl
      exact hcareful.passphrase (by simp [Event.hasCommand, hp])
    have hsafe : Safe (gatedCommand crates env command body) (w.enter command) :=
      gatedCommand_safe (hw.enter command) htodo hdevice hpassphrase
    change (respond (gatedCommand crates env command body (w.enter command))).1 ≠ .panicked
    rw [Safe] at hsafe
    generalize gatedCommand crates env command body (w.enter command) = r at hsafe ⊢
    obtain ⟨o, w'⟩ := r
    cases o with
    | ok _ => exact Outcome.ok_ne_panicked _
    | error _ => exact Outcome.ok_ne_panicked _
    | panicked => exact absurd rfl hsafe

/-- The numbers that a shift is by are those in the store, or 7. -/
theorem shiftedBy_lt (h : ∀ i ∈ storedIndices crates w.store, i < 32) :
    ∀ i ∈ shiftedBy crates env w, i < 32 := by
  have hdefault : ∀ i ∈ ([7] : List UInt32), i < 32 := by simp
  rw [shiftedBy]
  split
  · cases e : Store.loadDefaultPcrPolicy crates (env.store 2) w.store with
    | mk o s =>
      cases o with
      | error _ => exact hdefault
      | panicked => exact hdefault
      | ok indices =>
        cases indices with
        | none => exact hdefault
        | some indices =>
          obtain ⟨_, s₁, e₁, h₁⟩ := bind_ok e
          obtain ⟨-, rfl⟩ := throwIf_ok e₁
          obtain ⟨cur, s₂, e₂, h₂⟩ := bind_ok h₁
          cases e₂
          have hread : w.store.defaultPcrPolicy.bind crates.readIndices = some indices := by
            cases hblob : w.store.defaultPcrPolicy with
            | none => rw [hblob] at h₂; cases h₂
            | some blob =>
              rw [hblob] at h₂
              obtain ⟨indices', s₃, e₃, h₃⟩ := bind_ok h₂
              obtain ⟨hread, rfl⟩ := ofOption_ok e₃
              cases h₃
              exact hread
          rw [storedIndices, hread] at h
          exact h
  · exact nofun

end Ctap2
end TpmFido2
