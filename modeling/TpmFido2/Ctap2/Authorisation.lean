import TpmFido2.Ctap2.Sample
import TpmFido2.Ctap2.StepEffects

/-!
# Credential management is authorised

What a platform may learn and change through authenticatorCredentialManagement is protected by
the PIN/UV token: a request carries a code under a token that the user got with the PIN, and an
enumeration that was begun so may be continued without one.  `ManagementAuthorised` says this of a
run.

The code does not ensure it.  `validate_pin_uv_auth` answers a request that carries neither a
protocol nor a code with `Ok(false)`, and `credential_management` takes that for success.
`managementAuthorised_of_carriesAuth` is what holds: the property, for runs whose requests carry
one of the two.  `deleteCredential_unauthorised` is a run that deletes a credential without.

The argument is about two things: what the success of one request says
(`management_success`), and which steps leave an enumeration open (`step_enumeration`).
-/

set_option autoImplicit false

namespace TpmFido2
namespace Ctap2

open Handler CommandM

/-! ## The property -/

/-- The request carries the code of its message, 16 or 32 bytes of it, under the authenticator's
token, and the token has not expired, is for credential management and is for no RP. -/
def TokenAuthorises (crates : Crates) (env : Env) (a : Authenticator) (request : Entries)
    (n : Int) : Prop :=
  ∃ token authParam, a.pinUvAuthToken = some token ∧ env.now 0 - token.issuedAt ≤ seconds 600 ∧
    token.permissions.contains .credentialManagement ∧ token.rpId = none ∧
    mapBytes request (.int 4) = some authParam ∧
    (authParam.length = 16 ∨ authParam.length = 32) ∧
    authParam <+: crates.hmacSha256 token.value
      (managementAuthMessage crates n (mapMap request (.int 2)))

/-- What ends an enumeration: a cancellation, a restart, and every other command. -/
def endsEnumeration : Event → Bool
  | .cbor _ payload =>
    match parsePayload payload with
    | some (command, _) => command ≠ .credentialManagement
    | none => false
  | .cancel => true
  | .start _ _ => true
  | _ => false

/-- The past ends in an enumeration that is open: an authorised request with the sub-command
`begin` succeeded, and nothing since has ended it or begun another or changed the credentials. -/
def Enumerating (crates : Crates) (begin : Int) (past : List Step) : Prop :=
  ∃ pre b mid, past = pre ++ b :: mid ∧
    (∃ env request, managementRequest crates b.input = some (env, request, begin) ∧
      b.output.succeeded ∧ TokenAuthorises crates env b.before.auth request begin) ∧
    ∀ m ∈ mid, ¬ endsEnumeration m.input ∧ ∀ env request n,
      managementRequest crates m.input = some (env, request, n) → m.output.succeeded →
        n ∈ [1, 3, 5]

/-- **Credential management is authorised.**  Every request that succeeds is authorised by the
token or, if it is one of the two that continue an enumeration, continues one that was. -/
def ManagementAuthorised (crates : Crates) (steps : List Step) : Prop :=
  ∀ pre t post, steps = pre ++ t :: post → ∀ env request n,
    managementRequest crates t.input = some (env, request, n) → t.output.succeeded →
      (n ∈ [1, 2, 4, 6, 7] → TokenAuthorises crates env t.before.auth request n) ∧
      (n = 3 → Enumerating crates 2 pre) ∧ (n = 5 → Enumerating crates 4 pre)

/-- The event, if it is a management request other than to continue an enumeration, carries a
protocol or a code. -/
def carriesAuth (crates : Crates) (event : Event) : Bool :=
  match managementRequest crates event with
  | some (_, request, n) =>
    n ∉ [1, 2, 4, 6, 7] || (mapInteger request (.int 3)).isSome ||
      (mapBytes request (.int 4)).isSome
  | none => true

variable {crates : Crates} {env : Env} {w : World} {payload body : List UInt8}

/-! ## What success says -/

/-- What is known when a token check comes out positive. -/
theorem tokenAuthorises_of_verified {a : Authenticator} {request : Entries} {n : Int}
    (h : a.pinUvVerdict crates env 1 (mapInteger request (.int 3)) (mapBytes request (.int 4))
      (managementAuthMessage crates n (mapMap request (.int 2))) .credentialManagement none =
        .verified) : TokenAuthorises crates env a request n := by
  unfold Authenticator.pinUvVerdict at h
  split at h
  · cases h
  · split at h
    · cases h
    · split at h
      · cases h
      · cases h
      · next authParam _ hparam =>
        split at h
        · cases h
        · next token htoken =>
          split at h
          · next hok =>
            rw [Authenticator.liveToken, Option.filter_eq_some_iff] at htoken
            rw [Bool.and_eq_true, PinUvAuthToken.permits, isAuthParam] at hok
            simp only [Bool.and_eq_true, Bool.or_eq_true, decide_eq_true_eq, or_self,
              Store.constantTimeEqual_iff] at hok htoken
            obtain ⟨⟨hpermission, hrp⟩, hlength, hcode⟩ := hok
            refine ⟨token, authParam, htoken.1, htoken.2, hpermission, hrp, hparam, hlength, ?_⟩
            rw [← hcode]
            exact List.take_prefix _ _
          · cases h

theorem pinUvVerdict_absent {a : Authenticator} {n : Nat} {protocol : Option Int}
    {authParam : Option (List UInt8)} {message : List UInt8} {permission : Ctap2PermissionFlags}
    {rpId : Option String}
    (h : a.pinUvVerdict crates env n protocol authParam message permission rpId = .absent) :
    protocol = none ∧ authParam = none := by
  unfold Authenticator.pinUvVerdict at h
  split at h
  · cases h
  · split at h
    · next hnone => simpa using hnone
    · split at h
      · cases h
      · cases h
      · split at h
        · cases h
        · split at h <;> cases h

/-- A request that is refused leaves the enumeration as it was. -/
theorem authorisedRequest_refused {command : Ctap2Command} {w w' : World}
    {o : Outcome ErrorStatus (Int × Option Entries)}
    (e : authorisedRequest crates env command body w = (o, w')) (ho : o.toOption = none) :
    Incidental w w' := by
  have hF := Incidental.frame
  let Refusal (r : Outcome ErrorStatus (Int × Option Entries) × World) : Prop :=
    r.1.toOption = none → Incidental w r.2
  have main : Refusal (authorisedRequest crates env command body w) := by
    refine Moves.bind_elim (motive := Refusal) (requirePassphrase_eq _)
      (fun _ _ _ h _ ↦ h ▸ hF.refl w) fun _ w₁ _ h₁ ↦ ?_
    subst h₁
    refine Moves.bind_elim (motive := Refusal) (hF.gets _) (fun _ _ _ h _ ↦ h) fun a w₁ e₁ _ ↦ ?_
    cases e₁
    refine Moves.bind_elim (motive := Refusal) (hF.throwIf _ _) (fun _ _ _ h _ ↦ h)
      fun _ w₂ e₂ _ ↦ ?_
    obtain ⟨-, rfl⟩ := throwIf_ok e₂
    refine Moves.bind_elim (motive := Refusal) (hF.ofExcept _) (fun _ _ _ h _ ↦ h)
      fun request w₃ e₃ _ ↦ ?_
    obtain ⟨-, rfl⟩ := ofExcept_ok e₃
    refine Moves.bind_elim (motive := Refusal) (hF.ofOption _ _) (fun _ _ _ h _ ↦ h)
      fun n w₄ e₄ _ ↦ ?_
    obtain ⟨-, rfl⟩ := ofOption_ok e₄
    refine Moves.bind_elim (motive := Refusal) (hF.throwIf _ _) (fun _ _ _ h _ ↦ h)
      fun _ w₅ e₅ _ ↦ ?_
    obtain ⟨-, rfl⟩ := throwIf_ok e₅
    refine Moves.bind_elim (motive := Refusal) (validatePinUvAuth_moves _ _ _ _ _ _)
      (fun _ _ _ h _ ↦ h) fun _ w₆ _ _ ↦ ?_
    -- nothing after the check of the authentication fails
    exact nofun
  rw [e] at main
  exact main ho

/-- What a management request can end in: it is refused, or names no sub-command, or it is
authorised and the sub-command decides. -/
inductive Managed (crates : Crates) (env : Env) (body : List UInt8) (w : World) :
    Outcome ErrorStatus (List UInt8) × World → Prop where
  | refused {w' : World} (o : Outcome ErrorStatus (List UInt8)) (ho : o.toOption = none)
    (h : Incidental w w') : Managed crates env body w (o, w')
  | unknown {w₁ : World} {n : Int} {params : Option Entries}
    (h : Authorised crates env body n params w w₁) :
    Managed crates env body w (.error .invalidCommand, w₁)
  | ran {w₁ : World} {n : Int} {params : Option Entries} {subCommand : ManagementSubCommand}
    (h : Authorised crates env body n params w w₁)
    (hsub : ManagementSubCommand.ofInteger n = some subCommand) :
    Managed crates env body w (managementSubCommand crates env subCommand params w₁)

theorem gatedCommand_managed {command : Ctap2Command} (hc : command.isManagement) (w : World) :
    Managed crates env body w (gatedCommand crates env command body w) := by
  rw [gatedCommand_management hc]
  rw [bind_def]
  cases e : authorisedRequest crates env command body w with
  | mk o w₁ =>
    cases o with
    | error status => exact .refused _ rfl (authorisedRequest_refused e rfl)
    | panicked => exact .refused _ rfl (authorisedRequest_refused e rfl)
    | ok x =>
      obtain ⟨n, params⟩ := x
      obtain ⟨_, w₂, e₂, h₂⟩ := bind_ok e
      obtain rfl := (requirePassphrase_eq command).of_eq e₂
      have hauth := authoriseManagement_ok h₂
      change Managed crates env body w ((ofOption (ManagementSubCommand.ofInteger n)
        .invalidCommand >>= fun subCommand ↦ managementSubCommand crates env subCommand params) w₁)
      cases hsub : ManagementSubCommand.ofInteger n with
      | none => exact .unknown hauth
      | some subCommand => exact .ran hauth hsub

/-! ## Enumerations -/

/-- A command of another kind leaves no enumeration. -/
theorem gatedCommand_management_none {command : Ctap2Command} (hc : ¬ command.isManagement)
    (w : World) :
    (gatedCommand crates env command body (w.enter command)).2.auth.management = none := by
  let NoneBegun (w w' : World) : Prop :=
    w'.auth.management = none ∨ w'.auth.management = w.auth.management
  have hF : Frame NoneBegun := ⟨fun _ ↦ .inr rfl, fun h₁ h₂ ↦ by
    rcases h₂ with h | h
    · exact .inl h
    · change _ ∨ _
      rw [h]
      exact h₁⟩
  have hrun : Moves NoneBegun (runCommand crates env command body) := by
    cases command with
    | getInfo => exact hF.bind (hF.gets _) fun a ↦ hF.pure _
    | clientPin => exact (clientPin_moves body).mono fun _ _ h ↦ .inr h.management
    | makeCredential => exact (makeCredential_moves body).mono fun _ _ h ↦ h.management
    | getAssertion => exact (getAssertion_moves body).mono fun _ _ h ↦ h.management
    | getNextAssertion => exact (getNextAssertion_moves body).mono fun _ _ h ↦ h.management
    | reset =>
      intro w
      have h := reset_resetting crates env w
      change NoneBegun w (reset crates env w).2
      generalize reset crates env w = r at h ⊢
      cases h with
      | refused _ => exact .inr rfl
      | done _ _ _ => exact .inl rfl
    | selection => exact hF.bind (hF.gets _) fun a ↦ hF.bind (hF.throwIf _ _) fun _ ↦ hF.pure _
    | credentialManagement => exact absurd (.inl rfl) hc
    | credentialManagementPreview => exact absurd (.inr rfl) hc
    | bioEnrollment => exact hF.panic
    | bioEnrollmentPreview => exact hF.panic
    | largeBlobs => exact hF.panic
    | config => exact hF.panic
  have hgated : Moves NoneBegun (gatedCommand crates env command body) :=
    hF.bind ((requirePassphrase_moves _).mono fun _ _ h ↦ .inr h.management) fun _ ↦ hrun
  have henter : (w.enter command).auth.management = none := if_neg fun h ↦ hc (.inl h)
  rcases hgated (w.enter command) with h | h
  · exact h
  · exact h.trans henter

/-- The sub-commands that neither begin an enumeration nor change a credential. -/
def ManagementSubCommand.continues : ManagementSubCommand → Bool
  | .getCredsMetadata | .enumerateRpsNext | .enumerateCredentialsNext => true
  | _ => false

/-- What a sub-command does to the enumeration. -/
inductive Enumerated (subCommand : ManagementSubCommand) (w : World)
    (r : Outcome ErrorStatus (List UInt8) × World) : Prop where
  | dropped (h : r.2.auth.management = none)
  | kept {state state' : ManagementState} (before : w.auth.management = some state)
    (after : r.2.auth.management = some state') (hrps : state'.rpIndexes = state.rpIndexes)
    (hcredentials : state'.credentialIndexes = state.credentialIndexes)
    (hquiet : r.1.toOption.isSome → subCommand.continues)
    (hlength : r.2.auth.credentials.length = w.auth.credentials.length)
  | beganRps {state : ManagementState} {rest : List UInt8} (hsub : subCommand = .enumerateRpsBegin)
    (hok : r.1 = .ok (0x00 :: rest)) (after : r.2.auth.management = some state)
    (hcredentials : state.credentialIndexes = [])
    (hrange : ∀ i ∈ state.rpIndexes, i < r.2.auth.credentials.length)
  | beganCredentials {state : ManagementState} {rest : List UInt8}
    (hsub : subCommand = .enumerateCredentialsBegin) (hok : r.1 = .ok (0x00 :: rest))
    (after : r.2.auth.management = some state) (hrps : state.rpIndexes = [])
    (hrange : ∀ i ∈ state.credentialIndexes, i < r.2.auth.credentials.length)

theorem Enumerated.of_same {subCommand : ManagementSubCommand} {w : World}
    {r : Outcome ErrorStatus (List UInt8) × World}
    (h : r.2.auth.management = w.auth.management)
    (hlength : r.2.auth.credentials.length = w.auth.credentials.length)
    (hquiet : r.1.toOption.isSome → subCommand.continues) : Enumerated subCommand w r := by
  cases hw : w.auth.management with
  | none => exact .dropped (h.trans hw)
  | some state => exact .kept hw (h.trans hw) rfl rfl hquiet hlength

/-- What is in the list of a filter on the positions of a list is a position of it. -/
theorem lt_of_mem_filter_range {n i : Nat} {p : Nat → Bool} (h : i ∈ (List.range n).filter p) :
    i < n :=
  List.mem_range.mp (List.mem_of_mem_filter h)

theorem getElem?_of_head?_filter {α : Type} {l : List α} {p : Nat → Bool} {i : Nat}
    (h : ((List.range l.length).filter p).head? = some i) : ∃ c, l[i]? = some c :=
  ⟨_, List.getElem?_eq_getElem (lt_of_mem_filter_range (List.mem_of_mem_head? h))⟩

theorem setManagement_expect {α : Type} (state : Option ManagementState) (o : Option α)
    (f : α → List UInt8) (w : World) :
    ((setManagement state >>= fun _ ↦ expect o >>= fun c ↦ pure (f c)) w).2.auth.management =
        state ∧
      ((setManagement state >>= fun _ ↦ expect o >>= fun c ↦ pure (f c)) w).2.auth.credentials =
        w.auth.credentials := by
  cases o <;> exact ⟨rfl, rfl⟩

theorem managementSubCommand_enumerated (crates : Crates) (env : Env)
    (subCommand : ManagementSubCommand) (params : Option Entries) (w : World) :
    Enumerated subCommand w (managementSubCommand crates env subCommand params w) := by
  have fails : ∀ (o : Outcome ErrorStatus (List UInt8)) w₁, o.toOption = none → w = w₁ →
      Enumerated subCommand w (o, w₁) := by
    rintro o _ ho rfl
    exact .of_same rfl rfl (by rw [show (o, w).1.toOption = none from ho]; exact nofun)
  cases subCommand with
  | getCredsMetadata => exact .of_same rfl rfl fun _ ↦ rfl
  | enumerateRpsBegin =>
    refine Moves.bind_elim (Frame.eq.gets _) fails fun a w₁ e₁ _ ↦ ?_
    cases e₁
    refine Moves.bind_elim (Frame.eq.ofOption _ _) fails fun first w₁ e₁ _ ↦ ?_
    obtain ⟨hfirst, rfl⟩ := ofOption_ok e₁
    obtain ⟨c, hc⟩ := getElem?_of_head?_filter hfirst
    rw [bind_def]
    dsimp only [setManagement, modifyAuth, modify_apply]
    rw [hc]
    exact .beganRps rfl rfl rfl rfl fun i hi ↦ lt_of_mem_filter_range hi
  | enumerateRpsNext =>
    refine Moves.bind_elim (Frame.eq.gets _) fails fun a w₁ e₁ _ ↦ ?_
    cases e₁
    refine Moves.bind_elim (Frame.eq.ofOption _ _) fails fun state w₁ e₁ _ ↦ ?_
    obtain ⟨hstate, rfl⟩ := ofOption_ok e₁
    refine Moves.bind_elim (Frame.eq.ofOption _ _) fails fun index w₂ e₂ _ ↦ ?_
    obtain ⟨-, rfl⟩ := ofOption_ok e₂
    exact .kept hstate (setManagement_expect _ _ _ _).1 rfl rfl (fun _ ↦ rfl)
      (congrArg List.length (setManagement_expect _ _ _ _).2)
  | enumerateCredentialsBegin =>
    refine Moves.bind_elim (Frame.eq.ofOption _ _) fails fun params w₁ e₁ _ ↦ ?_
    obtain ⟨-, rfl⟩ := ofOption_ok e₁
    refine Moves.bind_elim (Frame.eq.ofOption _ _) fails fun rpHash w₂ e₂ _ ↦ ?_
    obtain ⟨-, rfl⟩ := ofOption_ok e₂
    refine Moves.bind_elim (Frame.eq.throwIf _ _) fails fun _ w₃ e₃ _ ↦ ?_
    obtain ⟨-, rfl⟩ := throwIf_ok e₃
    refine Moves.bind_elim (Frame.eq.gets _) fails fun a w₄ e₄ _ ↦ ?_
    cases e₄
    refine Moves.bind_elim (Frame.eq.ofOption _ _) fails fun first w₅ e₅ _ ↦ ?_
    obtain ⟨hfirst, rfl⟩ := ofOption_ok e₅
    obtain ⟨c, hc⟩ := getElem?_of_head?_filter hfirst
    rw [bind_def]
    dsimp only [setManagement, modifyAuth, modify_apply]
    rw [hc]
    exact .beganCredentials rfl rfl rfl rfl fun i hi ↦ lt_of_mem_filter_range hi
  | enumerateCredentialsNext =>
    refine Moves.bind_elim (Frame.eq.gets _) fails fun a w₁ e₁ _ ↦ ?_
    cases e₁
    refine Moves.bind_elim (Frame.eq.ofOption _ _) fails fun state w₁ e₁ _ ↦ ?_
    obtain ⟨hstate, rfl⟩ := ofOption_ok e₁
    refine Moves.bind_elim (Frame.eq.ofOption _ _) fails fun index w₂ e₂ _ ↦ ?_
    obtain ⟨-, rfl⟩ := ofOption_ok e₂
    exact .kept hstate (setManagement_expect _ _ _ _).1 rfl rfl (fun _ ↦ rfl)
      (congrArg List.length (setManagement_expect _ _ _ _).2)
  | deleteCredential =>
    have h := deleteCredential_deletion crates env params w
    change Enumerated _ w (deleteCredential crates env params w)
    generalize deleteCredential crates env params w = r at h ⊢
    cases h with
    | failed o ho => exact fails o w ho rfl
    | done _ _ => exact .dropped rfl
  | updateUserInformation =>
    have h := updateUserInformation_renaming crates env params w
    change Enumerated _ w (updateUserInformation crates env params w)
    generalize updateUserInformation crates env params w = r at h ⊢
    cases h with
    | failed _ => exact fails _ w rfl rfl
    | done _ hauth hended _ _ =>
      rcases hended with ⟨rfl, -⟩ | ⟨rfl, rfl⟩
      · exact .dropped (congrArg Authenticator.management hauth)
      · have hsame := congrArg Authenticator.management hauth
        exact .of_same hsame (by rw [hauth]; exact List.length_modify ..) nofun

/-- What a step does to the enumeration, if it leaves a list of the given length. -/
inductive EnumerationStep (crates : Crates) (w : World) (event : Event) (reply : Reply)
    (length : Nat) : Option ManagementState → Prop where
  | dropped : EnumerationStep crates w event reply length none
  | kept {state state' : ManagementState} (h : w.auth.management = some state)
    (hrps : state'.rpIndexes = state.rpIndexes)
    (hcredentials : state'.credentialIndexes = state.credentialIndexes)
    (hends : ¬ endsEnumeration event)
    (hquiet : ∀ env request n, managementRequest crates event = some (env, request, n) →
      reply.succeeded → n ∈ [1, 3, 5]) (hlength : length = w.auth.credentials.length) :
    EnumerationStep crates w event reply length (some state')
  | beganRps {state : ManagementState} {env : Env} {request : Entries}
    (hrequest : managementRequest crates event = some (env, request, 2)) (hok : reply.succeeded)
    (hcredentials : state.credentialIndexes = []) (hrange : ∀ i ∈ state.rpIndexes, i < length) :
    EnumerationStep crates w event reply length (some state)
  | beganCredentials {state : ManagementState} {env : Env} {request : Entries}
    (hrequest : managementRequest crates event = some (env, request, 4)) (hok : reply.succeeded)
    (hrps : state.rpIndexes = []) (hrange : ∀ i ∈ state.credentialIndexes, i < length) :
    EnumerationStep crates w event reply length (some state)

/-- The enumeration a management request meets is the one there is, or none. -/
theorem enter_management (w : World) (command : Ctap2Command) :
    (w.enter command).auth.management = none ∨
      (w.enter command).auth.management = w.auth.management ∧ command = .credentialManagement := by
  rw [World.enter, Authenticator.enter]
  dsimp only
  split
  · next h => exact .inr ⟨rfl, h⟩
  · exact .inl rfl

theorem ManagementSubCommand.number_of_continues {subCommand : ManagementSubCommand}
    (h : subCommand.continues) : subCommand.number ∈ [1, 3, 5] := by
  cases subCommand <;> first | decide | cases h

/-- A request that leaves the enumeration to go on, if there is one. -/
theorem EnumerationStep.of_enter {command : Ctap2Command}
    (hp : parsePayload payload = some (command, body)) {w : World} {reply : Reply} {length : Nat}
    {state state' : ManagementState} (h : (w.enter command).auth.management = some state)
    (hrps : state'.rpIndexes = state.rpIndexes)
    (hcredentials : state'.credentialIndexes = state.credentialIndexes)
    (hquiet : ∀ env' request n, managementRequest crates (.cbor env payload) =
      some (env', request, n) → reply.succeeded → n ∈ [1, 3, 5])
    (hlength : length = w.auth.credentials.length) :
    EnumerationStep crates w (.cbor env payload) reply length (some state') := by
  rcases enter_management w command with hnone | ⟨hsame, rfl⟩
  · rw [hnone] at h
    cases h
  · refine .kept (hsame ▸ h) hrps hcredentials ?_ hquiet hlength
    simp [endsEnumeration, hp]

/-- What a management request does to the enumeration. -/
theorem management_enumeration {command : Ctap2Command} (hc : command.isManagement)
    (hp : parsePayload payload = some (command, body)) (w : World) :
    EnumerationStep crates w (.cbor env payload)
      (Reply.ofCbor (respond (gatedCommand crates env command body (w.enter command))).1)
      (gatedCommand crates env command body (w.enter command)).2.auth.credentials.length
      (gatedCommand crates env command body (w.enter command)).2.auth.management := by
  have h : Managed crates env body (w.enter command)
    (gatedCommand crates env command body (w.enter command)) := gatedCommand_managed hc _
  generalize gatedCommand crates env command body (w.enter command) = r at h ⊢
  have of_same : ∀ {o : Outcome ErrorStatus (List UInt8)} {w' : World}, o.toOption = none →
      w'.auth.management = none ∨ w'.auth.management = (w.enter command).auth.management →
      w'.auth.credentials = w.auth.credentials →
      EnumerationStep crates w (.cbor env payload) (Reply.ofCbor (respond (o, w')).1)
        w'.auth.credentials.length w'.auth.management := by
    intro o w' ho hm hcached
    cases hstate : w'.auth.management with
    | none => exact .dropped
    | some state =>
      rw [hstate] at hm
      rcases hm with hm | hm
      · cases hm
      · refine .of_enter hp hm.symm rfl rfl (fun _ _ _ _ hok ↦ ?_) (congrArg List.length hcached)
        have hsome := isSome_of_succeeded hok
        rw [show (o, w').1.toOption = none from ho] at hsome
        cases hsome
  cases h with
  | refused o ho hinc => exact of_same ho (.inr hinc.management) hinc.credentials
  | unknown hauth => exact of_same rfl hauth.management (by rw [hauth.world]; rfl)
  | @ran w₁ n params subCommand hauth hsub =>
    obtain ⟨request, hrequest, hn, -, -⟩ := hauth.request
    have hreq : managementRequest crates (.cbor env payload) = some (env, request, n) :=
      managementRequest_cbor hc hp hrequest hn
    obtain rfl := ManagementSubCommand.number_of_ofInteger hsub
    have h := managementSubCommand_enumerated crates env subCommand params w₁
    generalize managementSubCommand crates env subCommand params w₁ = r at h ⊢
    cases h with
    | dropped h =>
      rw [h]
      exact .dropped
    | kept before after hrps hcredentials hquiet hlength =>
      rw [after]
      have hcached : w₁.auth.credentials = w.auth.credentials := by
        rw [hauth.world]
        rfl
      have henter := hauth.management
      rw [before] at henter
      rcases henter with henter | henter
      · cases henter
      · refine .of_enter hp henter.symm hrps hcredentials (fun env' request' n' hreq' hok ↦ ?_)
          (hlength.trans (congrArg List.length hcached))
        rw [hreq] at hreq'
        cases hreq'
        exact ManagementSubCommand.number_of_continues (hquiet (isSome_of_succeeded hok))
    | beganRps hsub hok after hcredentials hrange =>
      subst hsub
      rw [after]
      refine .beganRps hreq ?_ hcredentials hrange
      obtain ⟨o, w'⟩ := r
      cases hok
      rfl
    | beganCredentials hsub hok after hrps hrange =>
      subst hsub
      rw [after]
      refine .beganCredentials hreq ?_ hrps hrange
      obtain ⟨o, w'⟩ := r
      cases hok
      rfl

/-- **What a step does to the enumeration.** -/
theorem step_enumeration (crates : Crates) (w : World) (event : Event) :
    EnumerationStep crates w event (step crates w event).1
      (step crates w event).2.auth.credentials.length
      (step crates w event).2.auth.management := by
  have of_same : ∀ {reply : Reply}, ¬ endsEnumeration event →
      managementRequest crates event = none →
      EnumerationStep crates w event reply w.auth.credentials.length w.auth.management := by
    intro reply hends hnone
    cases hstate : w.auth.management with
    | none => exact .dropped
    | some state => exact .kept hstate rfl rfl hends (by simp [hnone]) rfl
  cases event with
  | cbor env payload =>
    cases hp : parsePayload payload with
    | none =>
      have hstep : (step crates w (.cbor env payload)).2 = w := by simp only [step, handleCbor, hp]
      rw [hstep]
      exact of_same (by simp [endsEnumeration, hp]) (by simp only [managementRequest, hp])
    | some x =>
      obtain ⟨command, body⟩ := x
      rw [step_cbor hp]
      by_cases hc : command.isManagement
      · exact management_enumeration hc hp w
      · dsimp only
        rw [gatedCommand_management_none hc w]
        exact .dropped
  | cancel => exact .dropped
  | tpm env command =>
    have hcached : (handleTpmCommand crates env command w).2.auth.credentials =
        w.auth.credentials :=
      handleTpmCommand_credentials command w
    change EnumerationStep crates w _ _
      (handleTpmCommand crates env command w).2.auth.credentials.length
      (handleTpmCommand crates env command w).2.auth.management
    rcases (handleTpmCommand_moves command w).management with h | h
    · exact h ▸ .dropped
    · rw [hcached, h]
      exact of_same Bool.false_ne_true rfl
  | setPassphrase fault salt hash kdf => exact of_same Bool.false_ne_true rfl
  | setPcrPolicy fault indices => exact of_same Bool.false_ne_true rfl
  | start env tpmPath =>
    change EnumerationStep crates w _ _ _
      (newAuthenticator crates env tpmPath w.store).auth.management
    rw [(newAuthenticator_idle crates env tpmPath w.store).1]
    exact .dropped
  | damage hmacKey pinMac => exact of_same Bool.false_ne_true rfl

/-! ## Runs -/

/-- What is true between the steps of a run: an enumeration in progress was begun by an authorised
request, and nothing since has ended it. -/
def OpenEnumeration (crates : Crates) (past : List Step) (w : World) : Prop :=
  ∀ state, w.auth.management = some state →
    (state.rpIndexes ≠ [] → Enumerating crates 2 past) ∧
      (state.credentialIndexes ≠ [] → Enumerating crates 4 past)

/-- **What the success of a management request says.**  It got through the checks, and its
sub-command returned. -/
theorem management_success {event : Event} {request : Entries} {n : Int}
    (hrequest : managementRequest crates event = some (env, request, n))
    (hok : (step crates w event).1.succeeded) :
    ∃ payload command body w₁ subCommand response w', event = .cbor env payload ∧
      parsePayload payload = some (command, body) ∧
      Authorised crates env body n (mapMap request (.int 2)) (w.enter command) w₁ ∧
      decodeMap crates body = .ok request ∧ n = subCommand.number ∧
      managementSubCommand crates env subCommand (mapMap request (.int 2)) w₁ =
        (.ok response, w') ∧ step crates w event = (.cbor response, w') := by
  obtain ⟨payload, command, body, rfl, hp, hc, hdecode, hn⟩ := managementRequest_eq_some hrequest
  have hstep : step crates w (.cbor env payload) =
      (Reply.ofCbor (respond (gatedCommand crates env command body (w.enter command))).1,
        (gatedCommand crates env command body (w.enter command)).2) := step_cbor hp w
  rw [hstep] at hok
  have h : Managed crates env body (w.enter command)
    (gatedCommand crates env command body (w.enter command)) := gatedCommand_managed hc _
  replace hok := isSome_of_succeeded hok
  generalize gatedCommand crates env command body (w.enter command) = r at h hok hstep
  cases h with
  | refused o ho _ =>
    rw [show (o, _).1.toOption = none from ho] at hok
    cases hok
  | unknown _ => cases hok
  | @ran w₁ n' params subCommand hauth hsub =>
    obtain ⟨request', hdecode', hn', rfl, -⟩ := hauth.request
    rw [hdecode] at hdecode'
    cases hdecode'
    rw [hn] at hn'
    cases hn'
    cases e : managementSubCommand crates env subCommand (mapMap request (.int 2)) w₁ with
    | mk o w' =>
      rw [e] at hok hstep
      cases o with
      | ok response =>
        exact ⟨payload, command, body, w₁, subCommand, response, w', rfl, hp, hauth, hdecode,
          ManagementSubCommand.number_of_ofInteger hsub, e, hstep⟩
      | error _ => cases hok
      | panicked => cases hok

/-- A successful request is authorised, if it carries anything to be authorised by. -/
theorem tokenAuthorises_of_succeeded {event : Event} {request : Entries} {n : Int}
    (hrequest : managementRequest crates event = some (env, request, n))
    (hn : n ∈ [1, 2, 4, 6, 7]) (hcarries : carriesAuth crates event)
    (hok : (step crates w event).1.succeeded) : TokenAuthorises crates env w.auth request n := by
  obtain ⟨payload, command, body, w₁, subCommand, response, w', rfl, hp, hauth, hdecode, -, -⟩ :=
    management_success hrequest hok
  obtain ⟨request', hdecode', -, -, hverdict⟩ := hauth.request
  rw [hdecode] at hdecode'
  cases hdecode'
  rcases hverdict with habsent | hverified
  · obtain ⟨hprotocol, hparam⟩ := pinUvVerdict_absent habsent
    simp only [carriesAuth, hrequest, hprotocol, hparam, hn, not_true_eq_false, decide_false,
      Option.isSome_none, Bool.or_false, Bool.false_eq_true] at hcarries
  · exact tokenAuthorises_of_verified hverified

/-- A request to continue finds an enumeration of its kind. -/
theorem enumeration_of_succeeded {event : Event} {request : Entries} {n : Int}
    (hrequest : managementRequest crates event = some (env, request, n))
    (hok : (step crates w event).1.succeeded) :
    (n = 3 → ∃ state, w.auth.management = some state ∧ state.rpIndexes ≠ []) ∧
      (n = 5 → ∃ state, w.auth.management = some state ∧ state.credentialIndexes ≠ []) := by
  obtain ⟨payload, command, body, w₁, subCommand, response, w', rfl, hp, hauth, -, hn, hsub, -⟩ :=
    management_success hrequest hok
  -- what the sub-command finds was there when the command came in
  have hbefore : ∀ state, w₁.auth.management = some state → w.auth.management = some state := by
    intro state hstate
    rcases hauth.management with h | h
    · rw [h] at hstate
      cases hstate
    · rw [h] at hstate
      rcases enter_management w command with h' | ⟨h', -⟩
      · rw [h'] at hstate
        cases hstate
      · exact h' ▸ hstate
  constructor
  · intro h3
    cases subCommand with
    | enumerateRpsNext =>
      obtain ⟨a, w₂, e₂, h₂⟩ := bind_ok hsub
      cases e₂
      obtain ⟨state, w₃, e₃, h₃⟩ := bind_ok h₂
      obtain ⟨index, w₄, e₄, -⟩ := bind_ok h₃
      refine ⟨state, hbefore state (ofOption_ok e₃).1, fun hnil ↦ ?_⟩
      have hindex := (ofOption_ok e₄).1
      rw [hnil] at hindex
      cases hindex
    | _ => cases hn.symm.trans h3
  · intro h5
    cases subCommand with
    | enumerateCredentialsNext =>
      obtain ⟨a, w₂, e₂, h₂⟩ := bind_ok hsub
      cases e₂
      obtain ⟨state, w₃, e₃, h₃⟩ := bind_ok h₂
      obtain ⟨index, w₄, e₄, -⟩ := bind_ok h₃
      refine ⟨state, hbefore state (ofOption_ok e₃).1, fun hnil ↦ ?_⟩
      have hindex := (ofOption_ok e₄).1
      rw [hnil] at hindex
      cases hindex
    | _ => cases hn.symm.trans h5

/-- An open enumeration is still open after a step that does not touch it. -/
theorem Enumerating.concat {begin : Int} {past : List Step} {t : Step}
    (h : Enumerating crates begin past) (hends : ¬ endsEnumeration t.input)
    (hquiet : ∀ env request n, managementRequest crates t.input = some (env, request, n) →
      t.output.succeeded → n ∈ [1, 3, 5]) : Enumerating crates begin (past ++ [t]) := by
  obtain ⟨pre, b, mid, rfl, hb, hmid⟩ := h
  refine ⟨pre, b, mid ++ [t], by simp, hb, fun m hm ↦ ?_⟩
  rcases List.mem_append.mp hm with hm | hm
  · exact hmid m hm
  · rw [List.mem_singleton.mp hm]
    exact ⟨hends, hquiet⟩

/-- The step that begins one. -/
theorem Enumerating.begun {begin : Int} (past : List Step) {t : Step} {request : Entries}
    (hrequest : managementRequest crates t.input = some (env, request, begin))
    (hok : t.output.succeeded) (h : TokenAuthorises crates env t.before.auth request begin) :
    Enumerating crates begin (past ++ [t]) :=
  ⟨past, t, [], rfl, ⟨env, request, hrequest, hok, h⟩, fun _ hm ↦ (nomatch hm)⟩

/-- The step lemma. -/
theorem OpenEnumeration.step {past : List Step} {w : World} {event : Event}
    (h : OpenEnumeration crates past w) (hcarries : carriesAuth crates event) :
    OpenEnumeration crates (past ++ [Run.transition (step crates) w event])
      (step crates w event).2 := by
  intro state hstate
  have hstep := step_enumeration crates w event
  rw [hstate] at hstep
  cases hstep with
  | kept hbefore hrps hcredentials hends hquiet _ =>
    obtain ⟨h₂, h₄⟩ := h _ hbefore
    rw [hrps, hcredentials]
    exact ⟨fun hne ↦ (h₂ hne).concat hends hquiet, fun hne ↦ (h₄ hne).concat hends hquiet⟩
  | beganRps hrequest hok hcredentials _ =>
    have hauth := tokenAuthorises_of_succeeded hrequest (by decide) hcarries hok
    exact ⟨fun _ ↦ .begun past hrequest hok hauth, fun hne ↦ absurd hcredentials hne⟩
  | beganCredentials hrequest hok hrps _ =>
    have hauth := tokenAuthorises_of_succeeded hrequest (by decide) hcarries hok
    exact ⟨fun hne ↦ absurd hrps hne, fun _ ↦ .begun past hrequest hok hauth⟩

/-- **Management is authorised as long as requests carry authentication.**  From any start of the
daemon on any store, if every management request but those to continue an enumeration carries a
protocol or a code, then credential management is authorised. -/
theorem managementAuthorised_of_carriesAuth (env : Env) (tpmPath : Option String) (s : Store)
    (events : List Event) (hcarries : ∀ event ∈ events, carriesAuth crates event) :
    ManagementAuthorised crates (run crates (newAuthenticator crates env tpmPath s) events) := by
  intro pre t post hrun env' request n hrequest hok
  have hinit : OpenEnumeration crates [] (newAuthenticator crates env tpmPath s) := by
    intro state hstate
    rw [(newAuthenticator_idle crates env tpmPath s).1] at hstate
    cases hstate
  have hC : ∀ u ∈ run crates (newAuthenticator crates env tpmPath s) events,
      carriesAuth crates u.input :=
    fun u hu ↦ hcarries u.input (Run.input_mem_of_mem_transitions hu)
  obtain ⟨hopen, hcarries', ht⟩ := Run.history_invariant_before
    (H := OpenEnumeration crates) (C := fun _ event ↦ carriesAuth crates event) hinit
    (fun past cur event h hc ↦ h.step hc) hC hrun
  rw [show t.output = (step crates t.before t.input).1 from congrArg Run.Transition.output ht]
    at hok
  obtain ⟨h3, h5⟩ := enumeration_of_succeeded hrequest hok
  refine ⟨fun hn ↦ tokenAuthorises_of_succeeded hrequest hn hcarries' hok, fun hn ↦ ?_, fun hn ↦ ?_⟩
  · obtain ⟨state, hstate, hne⟩ := h3 hn
    exact (hopen state hstate).1 hne
  · obtain ⟨state, hstate, hne⟩ := h5 hn
    exact (hopen state hstate).2 hne

/-! ## Runs with and without authentication -/

/-- A run that ends in a request without a code that succeeds is not authorised. -/
theorem not_managementAuthorised {events : List Event} {event : Event} {n : Int}
    (hrequest : (managementRequest crates event).map
      (fun x ↦ (x.2.2, mapBytes x.2.1 (.int 4))) = some (n, none))
    (hn : n ∈ [1, 2, 4, 6, 7]) (hok : (step crates (after crates w events) event).1.succeeded) :
    ¬ ManagementAuthorised crates (run crates w (events ++ [event])) := by
  intro h
  obtain ⟨⟨env, request, n'⟩, hrequest', heq⟩ := Option.map_eq_some_iff.mp hrequest
  obtain ⟨hn', hnone⟩ := Prod.mk.inj heq
  subst hn'
  obtain ⟨hauth, -⟩ := h _ _ [] (Run.transitions_concat w events event) env request _ hrequest' hok
  obtain ⟨token, authParam, -, -, -, -, hparam, -⟩ := hauth hn
  rw [hparam] at hnone
  cases hnone

namespace Sample

/-- The requests of the two runs. -/
def managementCrates : Crates :=
  packages [getKeyAgreement, setPin [49, 50, 51, 52], getToken, getCredsMetadata,
    makeCredential "a", deleteCredential (credentialId 1)]

/-- A user with a PIN gets a token and asks for the metadata with it. -/
def managementEvents : List Event :=
  setPassphrase :: choosePin 1000 ++
    [request (session 1000 0) 0x06 getToken, request (session 1000 0) 0x0a getCredsMetadata]

/-- A user with a PIN registers a credential. -/
def registrationEvents : List Event :=
  setPassphrase :: choosePin 1000 ++ [request (session 1000 1) 0x01 (makeCredential "a")]

/-- Somebody deletes it, with neither protocol nor code. -/
def deletionEvent : Event := request (session 1000 0) 0x0a (deleteCredential (credentialId 1))

end Sample

open Sample in
/-- The requests of this run carry authentication, and the last of them succeeds. -/
theorem managementAuthorised_of_carriesAuth_metadata :
    (run managementCrates (newAuthenticator managementCrates (session 1000 0) (some "")
      Store.fresh) managementEvents).getLast?.any (fun t ↦ t.output.succeeded) ∧
    ManagementAuthorised managementCrates (run managementCrates
      (newAuthenticator managementCrates (session 1000 0) (some "") Store.fresh)
      managementEvents) :=
  ⟨by decide +kernel, managementAuthorised_of_carriesAuth (session 1000 0) (some "") Store.fresh
    managementEvents (by decide +kernel)⟩

open Sample in
/-- A credential is deleted, in memory and in the store of an authenticator with a PIN, by a
request that carries no authentication. -/
theorem deleteCredential_unauthorised :
    let w := after managementCrates (newAuthenticator managementCrates (session 1000 0) (some "")
      Store.fresh) registrationEvents
    w.auth.clientPin.isSome ∧ w.auth.credentials.length = 1 ∧ w.store.credentials.rows.length = 1 ∧
      (step managementCrates w deletionEvent).1.succeeded ∧
      (step managementCrates w deletionEvent).2.auth.credentials = [] ∧
      (step managementCrates w deletionEvent).2.store.credentials.rows = [] ∧
      ¬ ManagementAuthorised managementCrates (run managementCrates
        (newAuthenticator managementCrates (session 1000 0) (some "") Store.fresh)
        (registrationEvents ++ [deletionEvent])) := by
  refine ⟨by decide +kernel, by decide +kernel, by decide +kernel, by decide +kernel,
    by decide +kernel, by decide +kernel, not_managementAuthorised (n := 6) ?_ (by decide) ?_⟩
  · decide +kernel
  · decide +kernel

end Ctap2
end TpmFido2
