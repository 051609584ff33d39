import TpmFido2.Ctap2.StepEffects

/-!
# Where a request is authenticated with the token

Registrations, assertions and credential management all call `validate_pin_uv_auth`, each with its
own message and permission.  `validation` has the call a step makes as a function of the step's
start: there is none if the request fails before it gets to the call.  What the call decides is
`Validation.verdict`, and it is all that decides what becomes of the token (`TokenEffect`); the
rest of those commands leaves it alone.
-/

set_option autoImplicit false

namespace TpmFido2
namespace Ctap2

open Handler CommandM Bytes

/-- A call of `validate_pin_uv_auth`, with its arguments. -/
structure Validation where
  env : Env
  look : Nat
  protocol : Option Int
  authParam : Option (List UInt8)
  message : List UInt8
  permission : Ctap2PermissionFlags
  rpId : Option String

section
variable (crates : Crates)

/-- The decision of the call. -/
def Validation.verdict (v : Validation) (a : Authenticator) : PinUvVerdict :=
  a.pinUvVerdict crates v.env v.look v.protocol v.authParam v.message v.permission v.rpId

/-- The call. -/
def Validation.call (v : Validation) : CommandM Bool :=
  validatePinUvAuth crates v.env v.look v.protocol v.authParam v.message v.permission v.rpId

/-! ## The calls -/

/-- A registration up to the call. -/
def registrationHead (env : Env) (body : List UInt8) :
    CommandM (Entries × MakeCredentialRequest) := do
  requirePassphrase crates env .makeCredential
  let request ← ofExcept (decodeMap crates body)
  let r ← ofExcept (makeCredentialRequest request)
  pure (request, r)

/-- The call of a registration. -/
def registrationValidation (env : Env) (x : Entries × MakeCredentialRequest) : Validation :=
  ⟨env, 0, mapInteger x.1 (.int 9), mapBytes x.1 (.int 8), x.2.clientDataHash ++ utf8 x.2.rpId,
    .makeCredential, some x.2.rpId⟩

/-- getAssertion up to the call. -/
def assertionHead (env : Env) (body : List UInt8) : CommandM (Entries × GetAssertionRequest) := do
  requirePassphrase crates env .getAssertion
  let request ← ofExcept (decodeMap crates body)
  let r ← ofExcept (getAssertionRequest request)
  pure (request, r)

/-- The call of getAssertion. -/
def assertionValidation (env : Env) (x : Entries × GetAssertionRequest) : Validation :=
  ⟨env, 0, mapInteger x.1 (.int 7), mapBytes x.1 (.int 6), x.2.clientDataHash, .getAssertion,
    some x.2.rpId⟩

/-- Credential management up to the call. -/
def managementHead (env : Env) (command : Ctap2Command) (body : List UInt8) :
    CommandM (Entries × Int) := do
  requirePassphrase crates env command
  let a ← auth
  throwIf (¬ a.session.matchesCurrent env 0) .operationDenied
  let request ← ofExcept (decodeMap crates body)
  let subCommand ← ofOption (mapInteger request (.int 1)) .missingParameter
  throwIf (a.clientPin.isNone) .pinNotSet
  pure (request, subCommand)

/-- The call of credential management. -/
def managementValidation (env : Env) (x : Entries × Int) : Validation :=
  ⟨env, 1, mapInteger x.1 (.int 3), mapBytes x.1 (.int 4),
    managementAuthMessage crates x.2 (mapMap x.1 (.int 2)), .credentialManagement, none⟩

/-- The call a step makes. -/
def validation (w : World) (event : Event) : Option Validation :=
  match event with
  | .cbor env payload =>
    match parsePayload payload with
    | some (.makeCredential, body) =>
      (registrationHead crates env body (w.enter .makeCredential)).1.toOption.map
        (registrationValidation env)
    | some (.getAssertion, body) =>
      (assertionHead crates env body (w.enter .getAssertion)).1.toOption.map
        (assertionValidation env)
    | some (.credentialManagement, body) =>
      (managementHead crates env .credentialManagement body
        (w.enter .credentialManagement)).1.toOption.map (managementValidation crates env)
    | some (.credentialManagementPreview, body) =>
      (managementHead crates env .credentialManagementPreview body
        (w.enter .credentialManagementPreview)).1.toOption.map (managementValidation crates env)
    | _ => none
  | _ => none

/-- What a step that does not issue a token does to it. -/
inductive TokenEffect (w : World) (event : Event) (w' : World) : Prop where
  | unused (h : validation crates w event = none)
    (token : w'.auth.pinUvAuthToken = w.auth.pinUvAuthToken)
  | kept {v : Validation} (h : validation crates w event = some v)
    (hverdict : v.verdict crates w.auth ≠ .revoked)
    (token : w'.auth.pinUvAuthToken = w.auth.pinUvAuthToken)
  | revoked {v : Validation} (h : validation crates w event = some v)
    (hverdict : v.verdict crates w.auth = .revoked) (token : w'.auth.pinUvAuthToken = none)

end

variable {crates : Crates} {env : Env} {w : World} {payload body : List UInt8}

/-! ## What leaves the token alone -/

/-- The token is as it was. -/
def SameToken (w w' : World) : Prop := w'.auth.pinUvAuthToken = w.auth.pinUvAuthToken

theorem SameToken.frame : Frame SameToken := Frame.keeps fun w : World ↦ w.auth.pinUvAuthToken

theorem SameToken.store {α : Type} (m : StoreM α) : Moves SameToken (CommandM.store m) := by
  intro w
  rw [store_snd]
  rfl

theorem SameToken.storeOrDeny {α : Type} (m : StoreM α) :
    Moves SameToken (CommandM.storeOrDeny m) := by
  intro w
  rw [storeOrDeny_snd]
  rfl

theorem ensureTpm_sameToken : Moves SameToken (ensureTpm crates env) := by
  have hF := SameToken.frame
  refine hF.bind (hF.gets _) fun a ↦ ?_
  split
  · exact hF.pure _
  · exact hF.pure _
  · refine hF.bind (SameToken.store _) fun indices ↦ ?_
    split
    · exact hF.pure _
    · exact hF.bind (Moves.modify fun _ ↦ rfl) fun _ ↦ hF.pure _

theorem requireTpm_sameToken : Moves SameToken (requireTpm crates env) :=
  SameToken.frame.bind ensureTpm_sameToken fun _ ↦ SameToken.frame.ofOption _ _

theorem saveCredentials_sameToken : Moves SameToken (saveCredentials crates env) := by
  have hF := SameToken.frame
  exact hF.bind (hF.gets _) fun a ↦ hF.bind (SameToken.store _) fun _ ↦ hF.pure _

theorem loadCredentialsFromDisk_sameToken (fault : StoreFault) (uid : Option UInt32) :
    Moves SameToken (loadCredentialsFromDisk crates fault uid) := by
  have hF := SameToken.frame
  refine hF.bind (SameToken.store _) fun r ↦ ?_
  cases r <;> exact hF.pure _

theorem releaseAssertion_sameToken (index : Nat) (clientDataHash : List UInt8)
    (userVerified : Bool) :
    Moves SameToken (releaseAssertion crates env index clientDataHash userVerified) := by
  have hF := SameToken.frame
  refine hF.bind (hF.gets _) fun a ↦ hF.bind (hF.expect _) fun c ↦ ?_
  refine hF.bind (hF.bind (hF.throwIf _ _) fun _ ↦ hF.bind ensureTpm_sameToken fun tpm ↦
    hF.bind (hF.ofOption _ _) fun _ ↦ hF.ofOption _ _) fun _ ↦ ?_
  refine hF.bind (SameToken.storeOrDeny _) fun _ ↦ ?_
  exact hF.bind (Moves.modify fun _ ↦ rfl) fun _ ↦ hF.pure _

theorem managementSubCommand_sameToken (subCommand : ManagementSubCommand)
    (params : Option Entries) :
    Moves SameToken (managementSubCommand crates env subCommand params) := by
  have hF := SameToken.frame
  have hset : ∀ state, Moves SameToken (setManagement state) := fun _ ↦ Moves.modify fun _ ↦ rfl
  cases subCommand with
  | getCredsMetadata => exact hF.bind (hF.gets _) fun a ↦ hF.pure _
  | enumerateRpsBegin =>
    refine hF.bind (hF.gets _) fun a ↦ hF.bind (hF.ofOption _ _) fun first ↦ ?_
    exact hF.bind (hset _) fun _ ↦ hF.bind (hF.expect _) fun _ ↦ hF.pure _
  | enumerateRpsNext =>
    refine hF.bind (hF.gets _) fun a ↦ hF.bind (hF.ofOption _ _) fun state ↦ ?_
    refine hF.bind (hF.ofOption _ _) fun index ↦ hF.bind (hset _) fun _ ↦ ?_
    exact hF.bind (hF.expect _) fun _ ↦ hF.pure _
  | enumerateCredentialsBegin =>
    refine hF.bind (hF.ofOption _ _) fun params ↦ hF.bind (hF.ofOption _ _) fun rpHash ↦ ?_
    refine hF.bind (hF.throwIf _ _) fun _ ↦ hF.bind (hF.gets _) fun a ↦ ?_
    refine hF.bind (hF.ofOption _ _) fun first ↦ hF.bind (hset _) fun _ ↦ ?_
    exact hF.bind (hF.expect _) fun _ ↦ hF.pure _
  | enumerateCredentialsNext =>
    refine hF.bind (hF.gets _) fun a ↦ hF.bind (hF.ofOption _ _) fun state ↦ ?_
    refine hF.bind (hF.ofOption _ _) fun index ↦ hF.bind (hset _) fun _ ↦ ?_
    exact hF.bind (hF.expect _) fun _ ↦ hF.pure _
  | deleteCredential =>
    refine hF.bind (hF.ofExcept _) fun id ↦ hF.bind (hF.gets _) fun a ↦ ?_
    refine hF.bind (hF.ofOption _ _) fun index ↦ hF.bind (SameToken.storeOrDeny _) fun _ ↦ ?_
    exact hF.bind (Moves.modify fun _ ↦ rfl) fun _ ↦ hF.pure _
  | updateUserInformation =>
    refine hF.bind (hF.gets _) fun a ↦ hF.bind (hF.ofExcept _) fun x ↦ ?_
    refine hF.bind (Moves.modify fun _ ↦ rfl) fun _ ↦ hF.bind saveCredentials_sameToken fun _ ↦ ?_
    exact hF.bind (hset _) fun _ ↦ hF.pure _

theorem getNextAssertion_sameToken (body : List UInt8) :
    Moves SameToken (getNextAssertion crates env body) := by
  have hF := SameToken.frame
  refine hF.bind (hF.bind (hF.throwIf _ _) fun _ ↦ hF.bind (hF.gets _) fun a ↦ ?_)
    fun _ ↦ hF.pure _
  refine hF.bind (hF.ofOption _ _) fun p ↦ hF.bind (Moves.modify fun _ ↦ rfl) fun _ ↦ ?_
  refine hF.bind (hF.throwIf _ _) fun _ ↦ ?_
  split
  · exact hF.throw _
  · exact hF.bind (Moves.modify fun _ ↦ rfl) fun _ ↦ releaseAssertion_sameToken _ _ _

theorem handleTpmCommand_sameToken (command : TpmCommand) :
    Moves SameToken (handleTpmCommand crates env command) := by
  have hF := SameToken.frame
  cases command with
  | pcrPolicyUpdate id authority authorityName policyRef =>
    exact hF.bind requireTpm_sameToken fun _ ↦ hF.bind (hF.ofOption _ _) fun _ ↦
      SameToken.storeOrDeny _
  | passphraseChange id recoveryKey newHash newSalt kdf =>
    exact hF.bind requireTpm_sameToken fun _ ↦ hF.bind (hF.ofOption _ _) fun _ ↦
      SameToken.storeOrDeny _
  | pcrDigestCheck indices =>
    refine hF.bind (hF.ofOption _ _) fun _ ↦ hF.bind requireTpm_sameToken fun _ ↦ ?_
    exact hF.bind (hF.ofOption _ _) fun _ ↦ hF.pure _

/-! ## The three commands -/

/-- The call, by what it decides. -/
theorem Validation.call_eq (v : Validation) (w : World) : v.call crates w =
    match v.verdict crates w.auth with
    | .absent => (.ok false, w)
    | .verified => (.ok true, w)
    | .rejected e => (.error e, w)
    | .revoked =>
      (.error .pinAuthInvalid, { w with auth := { w.auth with pinUvAuthToken := none } }) := by
  have hsplit : v.call crates w = (match v.verdict crates w.auth with
      | .absent => pure false
      | .verified => pure true
      | .rejected e => throw e
      | .revoked => do
        modifyAuth fun a ↦ { a with pinUvAuthToken := none }
        throw .pinAuthInvalid : CommandM Bool) w := rfl
  rw [hsplit]
  cases v.verdict crates w.auth <;> rfl

/-- The call drops the token exactly if it is revoked. -/
theorem Validation.call_token (v : Validation) (w : World) :
    (v.verdict crates w.auth = .revoked ∧ ∃ e, v.call crates w =
      (.error e, { w with auth := { w.auth with pinUvAuthToken := none } })) ∨
    v.verdict crates w.auth ≠ .revoked ∧ ∃ o, v.call crates w = (o, w) := by
  rw [call_eq]
  cases v.verdict crates w.auth with
  | absent => exact .inr ⟨nofun, _, rfl⟩
  | verified => exact .inr ⟨nofun, _, rfl⟩
  | rejected e => exact .inr ⟨nofun, _, rfl⟩
  | revoked => exact .inl ⟨rfl, _, rfl⟩

section
variable {event : Event} {command : Ctap2Command} {α β : Type}

/-- One check before the call. -/
theorem TokenEffect.check {γ : Type} {m : CommandM γ} (hm : Moves Eq m) {f : γ → CommandM β}
    {g : γ → CommandM α} {v : α → Validation}
    (hv : validation crates w event = ((m >>= g) (w.enter command)).1.toOption.map v)
    (h : ∀ c, validation crates w event = (g c (w.enter command)).1.toOption.map v →
      TokenEffect crates w event (f c (w.enter command)).2) :
    TokenEffect crates w event ((m >>= f) (w.enter command)).2 := by
  have hw := hm (w.enter command)
  rw [bind_def] at hv ⊢
  cases e : m (w.enter command) with
  | mk o w₁ =>
    rw [e] at hv hw
    obtain rfl : w.enter command = w₁ := hw
    cases o with
    | ok c => exact h c hv
    | error _ => exact .unused hv rfl
    | panicked => exact .unused hv rfl

/-- The call, and a rest that leaves the token alone. -/
theorem TokenEffect.call {v : Validation} (hv : validation crates w event = some v)
    {f : Bool → CommandM β} (hf : ∀ b, Moves SameToken (f b)) :
    TokenEffect crates w event ((v.call crates >>= f) (w.enter command)).2 := by
  rw [bind_def]
  rcases v.call_token (w.enter command) with ⟨hverdict, e, he⟩ | ⟨hverdict, o, he⟩
  · rw [he]
    exact .revoked hv hverdict rfl
  · rw [he]
    refine .kept hv hverdict ?_
    cases o with
    | ok b => exact hf b (w.enter command)
    | error _ => rfl
    | panicked => rfl

end

theorem makeCredential_tokenEffect (hp : parsePayload payload = some (.makeCredential, body)) :
    TokenEffect crates w (.cbor env payload)
      (gatedCommand crates env .makeCredential body (w.enter .makeCredential)).2 := by
  have hE : Frame (Eq : World → World → Prop) := Frame.eq
  have hF := SameToken.frame
  have hv : validation crates w (.cbor env payload) =
      (registrationHead crates env body (w.enter .makeCredential)).1.toOption.map
        (registrationValidation env) := by
    simp only [validation, hp]
  refine .check (requirePassphrase_eq _) hv fun _ hv ↦ ?_
  change TokenEffect crates w _ ((prepareCredential crates env body >>= fun x ↦ do
    modifyAuth fun a ↦ { a with credentials := a.credentials ++ [x.1] }
    saveCredentials crates env
    pure x.2) (w.enter .makeCredential)).2
  rw [prepareCredential, bind_assoc]
  refine .check (hE.ofExcept _) hv fun request hv ↦ ?_
  rw [bind_assoc]
  refine .check (hE.ofExcept _) hv fun r hv ↦ ?_
  rw [bind_assoc]
  refine .call (v := registrationValidation env (request, r)) hv fun verified ↦ ?_
  refine hF.bind ?_ fun x ↦ hF.bind (Moves.modify fun _ ↦ rfl) fun _ ↦
    hF.bind saveCredentials_sameToken fun _ ↦ hF.pure _
  refine hF.bind (hF.ofExcept _) fun _ ↦ hF.bind (hF.ofExcept _) fun _ ↦ ?_
  refine hF.bind (hF.gets _) fun a ↦ hF.bind (hF.throwIf _ _) fun _ ↦ ?_
  refine hF.bind (hF.throwIf _ _) fun _ ↦ hF.bind (SameToken.store _) fun passphrase ↦ ?_
  refine hF.bind ensureTpm_sameToken fun tpm ↦ hF.bind (hF.ofOption _ _) fun tpm ↦ ?_
  exact hF.bind (hF.ofOption _ _) fun _ ↦ hF.pure _

theorem getAssertion_tokenEffect (hp : parsePayload payload = some (.getAssertion, body)) :
    TokenEffect crates w (.cbor env payload)
      (gatedCommand crates env .getAssertion body (w.enter .getAssertion)).2 := by
  have hE : Frame (Eq : World → World → Prop) := Frame.eq
  have hF := SameToken.frame
  have hv : validation crates w (.cbor env payload) =
      (assertionHead crates env body (w.enter .getAssertion)).1.toOption.map
        (assertionValidation env) := by
    simp only [validation, hp]
  refine .check (requirePassphrase_eq _) hv fun _ hv ↦ ?_
  change TokenEffect crates w _ ((getAssertionReleased crates env body >>= fun x ↦
    pure (x.1.response crates x.2)) (w.enter .getAssertion)).2
  rw [getAssertionReleased, bind_assoc, selectAssertion, bind_assoc]
  refine .check (hE.ofExcept _) hv fun request hv ↦ ?_
  rw [bind_assoc]
  refine .check (hE.ofExcept _) hv fun r hv ↦ ?_
  rw [bind_assoc]
  refine .call (v := assertionValidation env (request, r)) hv fun verified ↦ ?_
  refine hF.bind ?_ fun x ↦ hF.bind (hF.bind (Moves.modify fun _ ↦ rfl) fun _ ↦
    hF.bind (releaseAssertion_sameToken _ _ _) fun _ ↦ hF.pure _) fun _ ↦ hF.pure _
  refine hF.bind (hF.ofExcept _) fun _ ↦ hF.bind (hF.ofExcept _) fun _ ↦ ?_
  refine hF.bind (hF.bind (hF.gets _) fun a ↦ Moves.ite ?_ (hF.pure _)) fun _ ↦ ?_
  · exact hF.bind (loadCredentialsFromDisk_sameToken _ _) fun _ ↦ Moves.modify fun _ ↦ rfl
  · refine hF.bind (hF.gets _) fun a ↦ ?_
    split
    · exact hF.throw _
    · exact hF.bind (hF.throwIf _ _) fun _ ↦ hF.pure _

theorem management_tokenEffect {command : Ctap2Command} (hc : command.isManagement)
    (hp : parsePayload payload = some (command, body)) :
    TokenEffect crates w (.cbor env payload)
      (gatedCommand crates env command body (w.enter command)).2 := by
  have hE : Frame (Eq : World → World → Prop) := Frame.eq
  have hF := SameToken.frame
  have hv : validation crates w (.cbor env payload) =
      (managementHead crates env command body (w.enter command)).1.toOption.map
        (managementValidation crates env) := by
    rcases hc with rfl | rfl <;> simp only [validation, hp]
  rw [gatedCommand_management hc, authorisedRequest, bind_assoc]
  refine .check (requirePassphrase_eq _) hv fun _ hv ↦ ?_
  rw [authoriseManagement, bind_assoc]
  refine .check (hE.gets _) hv fun a hv ↦ ?_
  rw [bind_assoc]
  refine .check (hE.throwIf _ _) hv fun _ hv ↦ ?_
  rw [bind_assoc]
  refine .check (hE.ofExcept _) hv fun request hv ↦ ?_
  rw [bind_assoc]
  refine .check (hE.ofOption _ _) hv fun n hv ↦ ?_
  rw [bind_assoc]
  refine .check (hE.throwIf _ _) hv fun _ hv ↦ ?_
  rw [bind_assoc]
  refine .call (v := managementValidation crates env (request, n)) hv fun _ ↦ ?_
  refine hF.bind (hF.bind (Moves.modify fun _ ↦ rfl) fun _ ↦ hF.pure _) fun x ↦ ?_
  exact hF.bind (hF.ofOption _ _) fun _ ↦ managementSubCommand_sameToken _ _

/-- **Every command but clientPIN and reset.** -/
theorem gatedCommand_tokenEffect {command : Ctap2Command} (hclient : command ≠ .clientPin)
    (hreset : command ≠ .reset) (hp : parsePayload payload = some (command, body)) :
    TokenEffect crates w (.cbor env payload)
      (gatedCommand crates env command body (w.enter command)).2 := by
  have hF := SameToken.frame
  -- the commands that make no call
  have unused (h : Moves SameToken (runCommand crates env command body))
      (hv : validation crates w (.cbor env payload) = none) :
      TokenEffect crates w (.cbor env payload)
        (gatedCommand crates env command body (w.enter command)).2 := by
    refine .unused hv (hF.bind ((requirePassphrase_eq command).mono ?_) (fun _ ↦ h) _)
    rintro w _ rfl
    rfl
  cases command with
  | clientPin => exact absurd rfl hclient
  | reset => exact absurd rfl hreset
  | makeCredential => exact makeCredential_tokenEffect hp
  | getAssertion => exact getAssertion_tokenEffect hp
  | credentialManagement => exact management_tokenEffect (.inl rfl) hp
  | credentialManagementPreview => exact management_tokenEffect (.inr rfl) hp
  | getNextAssertion =>
    exact unused (getNextAssertion_sameToken body) (by simp only [validation, hp])
  | getInfo =>
    exact unused (hF.bind (hF.gets _) fun a ↦ hF.pure _) (by simp only [validation, hp])
  | selection =>
    exact unused (hF.bind (hF.gets _) fun a ↦ hF.bind (hF.throwIf _ _) fun _ ↦ hF.pure _)
      (by simp only [validation, hp])
  | bioEnrollment => exact unused hF.panic (by simp only [validation, hp])
  | bioEnrollmentPreview => exact unused hF.panic (by simp only [validation, hp])
  | largeBlobs => exact unused hF.panic (by simp only [validation, hp])
  | config => exact unused hF.panic (by simp only [validation, hp])

end Ctap2
end TpmFido2
