import TpmFido2.Ctap2.FailedAssertions
import TpmFido2.Ctap2.PinEffects
import TpmFido2.Session.Approval

/-!
# Nothing without consent

The authenticator asks before it registers, authenticates, resets, or hands out a token for user
verification.  In `src/ctap2.rs` the question is always asked in the same way: the session is looked
at, the user is asked, and the session is looked at again.

This file follows the answers back to where they come from.  A `Scene` is what the daemon finds
outside while it handles one request: each look at the session may find something else, and the
question is put at another moment still.  A `Seat` is the daemon together with the session it was
started for.  **`consent_kept`**: in every run, with restarts, and whatever happens outside,

* a new credential, an assertion, a reset, a selection and a token for user verification each come
  with an approval: polkit has authorised the leader of the session, or, where polkit could not be
  asked, somebody has answered yes on the terminal to a prompt that names what is done; and both
  before and after that the session that logind shows is the one the daemon serves;
* a new credential is for the RP and the user that its request has, and the prompt names these;
* getNextAssertion asks nobody, but the session is still the same, and the getAssertion request that
  it continues was approved, under this start of the daemon.

Polkit itself never hears what it is asked for: `Authorised` has no prompt.
-/

set_option autoImplicit false

namespace TpmFido2
namespace Session

open Handler Ctap2
open Ctap2.CommandM (auth)

/-! ## What a request meets -/

/-- What is found outside during a request: look by look, and when the user is asked. -/
structure Scene where
  look : Nat → Outside
  asked : Outside

/-- The environment of a request is what the scene shows a daemon that serves the session. -/
structure Shows (ctx : SessionContext) (scene : Scene) (env : Env) : Prop where
  detect : ∀ n, env.detect n = (SessionContext.detect (scene.look n)).compared
  approve : ∀ prompt, approve scene.asked prompt ctx = .ok (env.approve prompt)

/-- **An approval**, by polkit or of the prompt on the terminal; the session was the one that is
served before and after. -/
structure Approved (ctx : SessionContext) (scene : Scene) (n : Nat) (prompt : String) : Prop where
  before : ctx.verifyMatchesCurrent (scene.look n)
  approved : Authorised scene.asked ctx ∨ AnsweredYes scene.asked ctx prompt
  after : ctx.verifyMatchesCurrent (scene.look (n + 1))

/-- A daemon with the session it was started for. -/
structure Seat where
  ctx : SessionContext
  world : World

/-- A start of the daemon. -/
def isStart : Event → Bool
  | .start _ _ => true
  | _ => false

/-- What happens, and what is found outside while it does. -/
abbrev Happening := Event × Scene

section
variable (crates : Crates)

/-- One step of the daemon; a start looks for the session. -/
def Seat.step (d : Seat) (input : Happening) : Reply × Seat :=
  let r := Ctap2.step crates d.world input.1
  (r.1, ⟨if isStart input.1 then SessionContext.detect (input.2.look 0) else d.ctx, r.2⟩)

/-- A daemon that has just been started. -/
def Seat.start (env : Env) (tpmPath : Option String) (s : Store) (scene : Scene) : Seat :=
  ⟨SessionContext.detect (scene.look 0), newAuthenticator crates env tpmPath s⟩

/-- A step of a run. -/
abbrev SeatStep := Run.Transition Seat Happening Reply

end

/-- What an event learns of the session is what is found outside. -/
def Placed (d : Seat) (input : Happening) : Prop :=
  match input.1 with
  | .cbor env _ => Shows d.ctx input.2 env
  | .start env _ => env.detect 0 = (SessionContext.detect (input.2.look 0)).compared
  | _ => True

/-- The prompt of an authentication. -/
def assertionPrompt (rpId : String) : String := "Authenticate with passkey for " ++ rpId

/-- The step is an approved getAssertion request for an RP. -/
def ApprovedFor (ctx : SessionContext) (rpId : String) (t : SeatStep) : Prop :=
  t.input.1.hasCommand .getAssertion ∧ t.before.ctx = ctx ∧
    Approved ctx t.input.2 1 (assertionPrompt rpId)

/-- The daemon has not been started again since a request for an RP was approved. -/
def ApprovedBefore (past : List SeatStep) (ctx : SessionContext) (rpId : String) : Prop :=
  ∃ pre o mid, past = pre ++ o :: mid ∧ ApprovedFor ctx rpId o ∧ ∀ m ∈ mid, ¬ isStart m.input.1

/-- The prompt that names a credential, with the name that the request gives to the RP. -/
def namingPrompt (rpName : Option String) (c : Credential) : String :=
  "Register a new passkey for " ++ displayRpLabel rpName c.rpId ++ " as " ++
    (c.userDisplayName.or c.userName).getD "unknown user"

/-- The body of the request has the maps of the RP and of the user. -/
def Concerns (crates : Crates) (body : List UInt8) (rp user : Entries) : Prop :=
  ∃ request, decodeMap crates body = .ok request ∧ mapMap request (.int 2) = some rp ∧
    mapMap request (.int 3) = some user

/-- The credential is for the RP and the user of those maps. -/
structure IsFor (rp user : Entries) (c : Credential) : Prop where
  rpId : mapText rp (.text "id") = some c.rpId
  userHandle : mapBytes user (.text "id") = some c.userHandle
  userName : mapText user (.text "name") = c.userName
  userDisplayName : mapText user (.text "displayName") = c.userDisplayName

/-- **A step that nobody has to complain about**, after what came before it. -/
structure ConsentKept (crates : Crates) (past : List SeatStep) (t : SeatStep) : Prop where
  registered : ∀ env payload body, t.input.1 = .cbor env payload →
    parsePayload payload = some (.makeCredential, body) → t.output.succeeded →
      ∃ c rp user, Concerns crates body rp user ∧ IsFor rp user c ∧
        t.after.world.auth.credentials = t.before.world.auth.credentials ++ [c] ∧
        Approved t.before.ctx t.input.2 1 (namingPrompt (mapText rp (.text "name")) c)
  asserted : t.input.1.hasCommand .getAssertion → ∀ x,
    released crates t.before.world t.input.1 = some x →
      Approved t.before.ctx t.input.2 1 (assertionPrompt x.credential.rpId)
  continued : t.input.1.hasCommand .getNextAssertion → ∀ x,
    released crates t.before.world t.input.1 = some x →
      t.before.ctx.verifyMatchesCurrent (t.input.2.look 0) ∧
        ∃ p, t.before.world.auth.pendingAssertion = some p ∧
          ApprovedBefore past t.before.ctx p.rpId
  erased : t.input.1.hasCommand .reset → t.output.succeeded →
    Approved t.before.ctx t.input.2 0 (assertionPrompt "reset")
  selected : t.input.1.hasCommand .selection → t.output.succeeded →
    Approved t.before.ctx t.input.2 0 (assertionPrompt "selection")
  verified : ∀ env request,
    pinRequest crates t.input.1 = some (env, .getPinUvAuthTokenUsingUv, request) →
      t.output.succeeded → Approved t.before.ctx t.input.2 0 "Verify identity for a FIDO2 operation"

/-! ## What the authenticator asks -/

section
variable {crates : Crates} {env : Env} {w : World} {payload body : List UInt8}

/-- The three questions in a row, as the authenticator sees them. -/
def AskedAt (env : Env) (session : Ctap2.SessionContext) (n : Nat) (prompt : String) : Prop :=
  session.matchesCurrent env n ∧ env.approve prompt ∧ session.matchesCurrent env (n + 1)

theorem assertionApproved_iff {a : Authenticator} {n : Nat} {rpId : String} :
    a.assertionApproved env n rpId ↔ AskedAt env a.session n (assertionPrompt rpId) := by
  rw [Authenticator.assertionApproved, Bool.and_eq_true, Bool.and_eq_true, and_assoc]
  exact Iff.rfl

theorem Shows.matches {ctx : SessionContext} {scene : Scene} {session : Ctap2.SessionContext}
    {n : Nat} (h : Shows ctx scene env) (hsession : session = ctx.compared)
    (hcurrent : session.matchesCurrent env n) : ctx.verifyMatchesCurrent (scene.look n) := by
  simpa [Ctap2.SessionContext.matchesCurrent, SessionContext.verifyMatchesCurrent, h.detect n,
    hsession, SessionContext.compared] using hcurrent

/-- **What the authenticator sees is what is outside.** -/
theorem Shows.approved {ctx : SessionContext} {scene : Scene} {session : Ctap2.SessionContext}
    {n : Nat} {prompt : String} (h : Shows ctx scene env) (hsession : session = ctx.compared)
    (hasked : AskedAt env session n prompt) : Approved ctx scene n prompt := by
  refine ⟨h.matches hsession hasked.1, approve_eq_true_iff.mp ?_, h.matches hsession hasked.2.2⟩
  rw [h.approve, hasked.2.1]

/-- What a registration request is read from. -/
theorem makeCredentialRequest_ok {request : Entries} {r : MakeCredentialRequest}
    (h : makeCredentialRequest request = .ok r) :
    ∃ rp user, mapMap request (.int 2) = some rp ∧ mapMap request (.int 3) = some user ∧
      mapText rp (.text "id") = some r.rpId ∧ mapText rp (.text "name") = r.rpName ∧
      mapBytes user (.text "id") = some r.userHandle ∧ mapText user (.text "name") = r.userName ∧
      mapText user (.text "displayName") = r.userDisplayName := by
  rw [makeCredentialRequest] at h
  split at h
  · cases h
  · next hash hhash =>
    obtain ⟨_, -, h⟩ := except_bind_ok h
    split at h
    · next rp user params hrp huser hparams =>
      obtain ⟨_, -, h⟩ := except_bind_ok h
      split at h
      · cases h
      · split at h
        · next rpId userHandle hid hhandle =>
          cases h
          exact ⟨rp, user, hrp, huser, hid, rfl, hhandle, rfl, rfl⟩
        · cases h
    · cases h

/-- A registration is for the RP and the user of the request, and these are what the prompt
names. -/
theorem prepareCredential_asked {w' : World} {c : Credential} {response : List UInt8}
    (h : prepareCredential crates env body w = (.ok (c, response), w')) :
    ∃ rp user, Concerns crates body rp user ∧ IsFor rp user c ∧
      AskedAt env w.auth.session 1 (namingPrompt (mapText rp (.text "name")) c) := by
  obtain ⟨request, w₁, e₁, h₁⟩ := bind_ok h
  obtain ⟨hrequest, rfl⟩ := ofExcept_ok e₁
  obtain ⟨r, w₂, e₂, h₂⟩ := bind_ok h₁
  obtain ⟨hr, rfl⟩ := ofExcept_ok e₂
  obtain ⟨rp, user, hrp, huser, hid, hname, hhandle, huserName, hdisplay⟩ :=
    makeCredentialRequest_ok hr
  obtain ⟨verified, w₃, e₃, h₃⟩ := bind_ok h₂
  obtain ⟨rfl, -⟩ := validatePinUvAuth_ok e₃
  obtain ⟨_, w₄, e₄, h₄⟩ := bind_ok h₃
  obtain ⟨-, rfl⟩ := ofExcept_ok e₄
  obtain ⟨_, w₅, e₅, h₅⟩ := bind_ok h₄
  obtain ⟨-, rfl⟩ := ofExcept_ok e₅
  obtain ⟨a, w₆, e₆, h₆⟩ := bind_ok h₅
  cases e₆
  obtain ⟨_, w₇, e₇, h₇⟩ := bind_ok h₆
  obtain ⟨-, rfl⟩ := throwIf_ok e₇
  obtain ⟨_, w₈, e₈, h₈⟩ := bind_ok h₇
  obtain ⟨hasked, rfl⟩ := throwIf_ok e₈
  -- the credential has what the request has
  obtain ⟨_, w₉, -, h₉⟩ := bind_ok h₈
  obtain ⟨_, w₁₀, -, h₁₀⟩ := bind_ok h₉
  obtain ⟨_, w₁₁, -, h₁₁⟩ := bind_ok h₁₀
  obtain ⟨⟨key, policy, material⟩, w₁₂, -, h₁₂⟩ := bind_ok h₁₁
  cases h₁₂
  refine ⟨rp, user, ⟨request, hrequest, hrp, huser⟩, ⟨hid, hhandle, huserName, hdisplay⟩, ?_⟩
  rw [hname]
  exact not_not.mp hasked

/-- A request that succeeds is a command that returns. -/
theorem gatedCommand_of_succeeded {command : Ctap2Command}
    (hp : parsePayload payload = some (command, body))
    (hok : (step crates w (.cbor env payload)).1.succeeded) :
    ∃ response, gatedCommand crates env command body (w.enter command) =
      (.ok response, (step crates w (.cbor env payload)).2) := by
  rw [step_cbor hp] at hok ⊢
  obtain ⟨response, hr⟩ := Option.isSome_iff_exists.mp (isSome_of_succeeded hok)
  exact ⟨response, Outcome.pair_eq_ok hr⟩

/-- makeCredential. -/
theorem registered_asked (hp : parsePayload payload = some (.makeCredential, body))
    (hok : (step crates w (.cbor env payload)).1.succeeded) :
    ∃ c rp user, Concerns crates body rp user ∧ IsFor rp user c ∧
      (step crates w (.cbor env payload)).2.auth.credentials = w.auth.credentials ++ [c] ∧
      AskedAt env w.auth.session 1 (namingPrompt (mapText rp (.text "name")) c) := by
  obtain ⟨response, hcommand⟩ := gatedCommand_of_succeeded hp hok
  have h := hcommand
  rw [gatedCommand_makeCredential] at h
  obtain ⟨⟨c, _⟩, w₁, e₁, -⟩ := bind_ok h
  have hafter : (step crates w (.cbor env payload)).2 = _ :=
    (congrArg Prod.snd hcommand).symm.trans (gatedCommand_makeCredential_snd e₁)
  obtain ⟨_, w₂, e₂, h₂⟩ := bind_ok e₁
  obtain rfl := (requirePassphrase_eq _).of_eq e₂
  obtain ⟨rp, user, hconcerns, hfor, hasked⟩ := prepareCredential_asked h₂
  have hcached : w₁.auth.credentials = w.auth.credentials :=
    (Moves.of_eq (prepareCredential_moves body) h₂).credentials
  refine ⟨c, rp, user, hconcerns, hfor, ?_, hasked⟩
  rw [hafter, (saveCredentials_saved crates env _).auth]
  exact congrArg (· ++ [c]) hcached

/-- What getAssertion does, it does for the RP that the prompt names. -/
theorem selectAssertion_asked {w' : World} {r : GetAssertionRequest} {userVerified : Bool}
    {first : Nat} {remaining : List Nat}
    (h : selectAssertion crates env body w = (.ok (r, userVerified, first, remaining), w')) :
    AskedAt env w.auth.session 1 (assertionPrompt r.rpId) := by
  cases hc : assertionChecks crates env w body with
  | none =>
    have hrefused := (selectAssertion_of_refused hc).1
    rw [h] at hrefused
    cases hrefused
  | some x =>
    obtain ⟨r', allowList, verified⟩ := x
    rw [selectAssertion_of_checks hc] at h
    split at h
    · simp at h
    · by_cases happroved : w.auth.assertionApproved env 1 r'.rpId
      · rw [if_pos happroved] at h
        obtain rfl : r' = r := by
          simp only [Prod.mk.injEq, Outcome.ok.injEq] at h
          exact h.1.1
        exact assertionApproved_iff.mp happroved
      · rw [if_neg happroved] at h
        simp at h

theorem credential_of_releaseAssertion {index : Nat} {hash : List UInt8} {userVerified : Bool}
    {w' : World} {x : Assertion}
    (h : releaseAssertion crates env index hash userVerified w = (.ok x, w')) :
    w.auth.credentials[index]? = some x.credential := by
  have hrelease : Release w index (releaseAssertion crates env index hash userVerified w).1.toOption
      (releaseAssertion crates env index hash userVerified w).2 := releaseAssertion_release ..
  rw [h] at hrelease
  cases hrelease with
  | done _ credential => exact credential

/-- getAssertion. -/
theorem asserted_asked (hp : parsePayload payload = some (.getAssertion, body)) {x : Assertion}
    (hx : released crates w (.cbor env payload) = some x) :
    AskedAt env w.auth.session 1 (assertionPrompt x.credential.rpId) := by
  simp only [released, hp, Option.map_eq_some_iff] at hx
  obtain ⟨⟨x, total⟩, hx, rfl⟩ := hx
  obtain ⟨_, w₁, e₁, h₁⟩ := bind_ok (Outcome.pair_eq_ok hx)
  obtain rfl := (requirePassphrase_eq _).of_eq e₁
  obtain ⟨⟨r, userVerified, first, remaining⟩, w₂, e₂, h₂⟩ := bind_ok h₁
  obtain ⟨_, w₃, e₃, h₃⟩ := bind_ok h₂
  cases e₃
  obtain ⟨y, w₄, e₄, h₄⟩ := bind_ok h₃
  cases h₄
  -- the credential matches the RP of the request
  have hcredential := credential_of_releaseAssertion e₄
  obtain ⟨request, -, -, hidx⟩ := selectAssertion_ok e₂
  have hfirst : first ∈ matchingCredentialIndexes w₂.auth.credentials r.rpId
      (mapArray request (.int 3)) := by simp [hidx]
  obtain ⟨c, hc, hmatches⟩ := mem_matchingCredentialIndexes hfirst
  have hrp : x.credential.rpId = r.rpId := by
    obtain rfl : c = x.credential := Option.some.inj (hc.symm.trans hcredential)
    simp only [matchesRequest, Bool.and_eq_true, decide_eq_true_eq] at hmatches
    exact hmatches.1
  have hasked := selectAssertion_asked e₂
  rwa [← hrp] at hasked

/-- What getAssertion leaves pending. -/
theorem pending_asked (hp : parsePayload payload = some (.getAssertion, body))
    {p : PendingAssertion}
    (hpending : (step crates w (.cbor env payload)).2.auth.pendingAssertion = some p) :
    AskedAt env w.auth.session 1 (assertionPrompt p.rpId) := by
  have hnone : (w.enter .getAssertion).auth.pendingAssertion = none := rfl
  rw [step_cbor hp, gatedCommand_getAssertion, bind_snd fun _ _ ↦ rfl, firstAssertion, bind_def,
    requirePassphrase_apply] at hpending
  split at hpending
  · next e =>
    simp only [Prod.mk.injEq] at e
    obtain ⟨-, rfl⟩ := e
    rw [getAssertionReleased, bind_def] at hpending
    cases hselect : selectAssertion crates env body (w.enter .getAssertion) with
    | mk o w₁ =>
      have hlooked := Moves.of_eq (selectAssertion_moves body) hselect
      rw [hselect] at hpending
      cases o with
      | ok x =>
        obtain ⟨r, userVerified, first, remaining⟩ := x
        simp only [bind_def, CommandM.modifyAuth_apply] at hpending
        rw [← bind_def, bind_snd fun _ _ ↦ rfl,
          (releaseAssertion_release _ _ _ _).pendingAssertion] at hpending
        have hasked := selectAssertion_asked hselect
        rwa [pendingFor_eq_some hpending]
      | error status => cases (hlooked.pending.trans hnone).symm.trans hpending
      | panicked => cases (hlooked.pending.trans hnone).symm.trans hpending
  all_goals
    next e =>
      simp only [Prod.mk.injEq] at e
      obtain ⟨-, rfl⟩ := e
      cases hpending

/-- getNextAssertion. -/
theorem continued_asked (hp : parsePayload payload = some (.getNextAssertion, body)) {x : Assertion}
    (hx : released crates w (.cbor env payload) = some x) :
    w.auth.session.matchesCurrent env 0 ∧ w.auth.pendingAssertion.isSome := by
  simp only [released, hp] at hx
  obtain ⟨_, w₁, e₁, h₁⟩ := bind_ok (Outcome.pair_eq_ok hx)
  obtain rfl := (requirePassphrase_eq _).of_eq e₁
  obtain ⟨_, w₂, e₂, h₂⟩ := bind_ok h₁
  obtain ⟨-, rfl⟩ := throwIf_ok e₂
  obtain ⟨a, w₃, e₃, h₃⟩ := bind_ok h₂
  cases e₃
  obtain ⟨p, w₄, e₄, h₄⟩ := bind_ok h₃
  obtain ⟨hpending, rfl⟩ := ofOption_ok e₄
  obtain ⟨_, w₅, e₅, h₅⟩ := bind_ok h₄
  cases e₅
  obtain ⟨_, w₆, e₆, -⟩ := bind_ok h₅
  obtain ⟨hcurrent, rfl⟩ := throwIf_ok e₆
  simp only [not_or, not_not] at hcurrent
  exact ⟨hcurrent.2.2, Option.isSome_of_mem hpending⟩

/-- authenticatorReset and authenticatorSelection. -/
theorem erased_asked (hp : parsePayload payload = some (.reset, body))
    (hok : (step crates w (.cbor env payload)).1.succeeded) :
    AskedAt env w.auth.session 0 (assertionPrompt "reset") := by
  obtain ⟨response, h⟩ := gatedCommand_of_succeeded hp hok
  obtain ⟨_, w₁, e₁, h₁⟩ := bind_ok h
  obtain rfl := (requirePassphrase_eq _).of_eq e₁
  obtain ⟨a, w₂, e₂, h₂⟩ := bind_ok h₁
  cases e₂
  obtain ⟨_, w₃, e₃, -⟩ := bind_ok h₂
  exact assertionApproved_iff.mp (not_not.mp (throwIf_ok e₃).1)

theorem selected_asked (hp : parsePayload payload = some (.selection, body))
    (hok : (step crates w (.cbor env payload)).1.succeeded) :
    AskedAt env w.auth.session 0 (assertionPrompt "selection") := by
  obtain ⟨response, h⟩ := gatedCommand_of_succeeded hp hok
  obtain ⟨_, w₁, e₁, h₁⟩ := bind_ok h
  obtain rfl := (requirePassphrase_eq _).of_eq e₁
  obtain ⟨a, w₂, e₂, h₂⟩ := bind_ok h₁
  cases e₂
  obtain ⟨_, w₃, e₃, -⟩ := bind_ok h₂
  exact assertionApproved_iff.mp (not_not.mp (throwIf_ok e₃).1)

theorem exists_payload_of_pinRequest {event : Event} {subCommand : ClientPinSubCommand}
    {request : Entries} (h : pinRequest crates event = some (env, subCommand, request)) :
    ∃ payload body, event = .cbor env payload ∧ parsePayload payload = some (.clientPin, body) ∧
      clientPinRequest crates body = .ok (subCommand, request) := by
  cases event with
  | cbor env' payload =>
    simp only [pinRequest] at h
    split at h
    · next body hp =>
      split at h
      · next hread =>
        cases h
        exact ⟨payload, body, rfl, hp, hread⟩
      · cases h
    · cases h
  | _ => cases h

/-- getPinUvAuthTokenUsingUvWithPermissions. -/
theorem verified_asked {event : Event} {request : Entries}
    (hreq : pinRequest crates event = some (env, .getPinUvAuthTokenUsingUv, request))
    (hok : (step crates w event).1.succeeded) :
    AskedAt env w.auth.session 0 "Verify identity for a FIDO2 operation" := by
  obtain ⟨payload, body, rfl, hp, hread⟩ := exists_payload_of_pinRequest hreq
  obtain ⟨response, h⟩ := gatedCommand_of_succeeded hp hok
  obtain ⟨_, w₁, e₁, h₁⟩ := bind_ok h
  obtain rfl := (requirePassphrase_eq _).of_eq e₁
  obtain ⟨x, w₂, e₂, h₂⟩ := bind_ok h₁
  obtain ⟨hx, rfl⟩ := ofExcept_ok e₂
  cases hx.symm.trans hread
  obtain ⟨permissions, w₃, e₃, h₃⟩ := bind_ok h₂
  obtain ⟨-, rfl⟩ := ofOption_ok e₃
  obtain ⟨_, w₄, e₄, h₄⟩ := bind_ok h₃
  obtain ⟨-, rfl⟩ := ofExcept_ok e₄
  obtain ⟨a, w₅, e₅, h₅⟩ := bind_ok h₄
  cases e₅
  obtain ⟨_, w₆, e₆, -⟩ := bind_ok h₅
  exact not_not.mp (throwIf_ok e₆).1

/-! ## Runs -/

/-- A start takes the session it finds, and has nothing pending. -/
theorem newAuthenticator_session (crates : Crates) (env : Env) (tpmPath : Option String)
    (s : Store) : (newAuthenticator crates env tpmPath s).auth.session = env.detect 0 ∧
      (newAuthenticator crates env tpmPath s).auth.pendingAssertion = none := by
  obtain ⟨cs, pin, t, heq, -⟩ := newAuthenticator_pin crates env tpmPath s
  rw [heq]
  exact ⟨rfl, rfl⟩

theorem release_session {w' : World} {index : Nat} {x : Option Assertion}
    (h : Release w index x w') : w'.auth.session = w.auth.session := by
  cases h with
  | failed h _ => exact h.session
  | done h _ _ _ _ _ _ => exact h.session

/-- The session stays until the next start, and what is pending was pending before or is what
getAssertion has left. -/
theorem step_session (crates : Crates) (w : World) {event : Event} (hstart : ¬ isStart event) :
    (step crates w event).2.auth.session = w.auth.session ∧
      ∀ p, (step crates w event).2.auth.pendingAssertion = some p →
        event.hasCommand .getAssertion ∨
          ∃ p₀, w.auth.pendingAssertion = some p₀ ∧ p₀.rpId = p.rpId := by
  have heffect := step_effect crates w event
  generalize (step crates w event).2 = w' at heffect ⊢
  have kept {w₁ : World} (h : w₁.auth.pendingAssertion = none ∨
      w₁.auth.pendingAssertion = w.auth.pendingAssertion) : ∀ p,
        w₁.auth.pendingAssertion = some p → event.hasCommand .getAssertion ∨
          ∃ p₀, w.auth.pendingAssertion = some p₀ ∧ p₀.rpId = p.rpId := by
    intro p hp
    rcases h with h | h
    · simp [h] at hp
    · exact .inr ⟨p, h ▸ hp, rfl⟩
  cases heffect with
  | kept h _ _ _ => exact ⟨h.session, kept h.pending⟩
  | reloaded h _ _ pending _ _ => exact ⟨h.session, kept (.inl pending)⟩
  | asserted he hp _ _ h _ _ _ _ hrel _ =>
    refine ⟨(release_session hrel).trans h.session, fun _ _ ↦ .inl ?_⟩
    simp [he, Event.hasCommand, hp]
  | @continued w₁ _ env payload body index remaining p _ _ hpending _ h _ _ pending hrel _ =>
    refine ⟨(release_session hrel).trans h.session, fun p' hp' ↦ .inr ⟨p, hpending, ?_⟩⟩
    rw [hrel.pendingAssertion, pending] at hp'
    rw [pendingFor_eq_some hp']
  | created _ _ _ h _ pending _ _ => exact ⟨h.session, kept (.inl pending)⟩
  | renamed _ _ h _ pending _ _ _ => exact ⟨h.session, kept pending⟩
  | deleted h _ _ _ _ pending _ _ _ => exact ⟨h.session, kept pending⟩
  | wiped _ h _ _ _ pending _ _ => exact ⟨h.session, kept (.inl pending)⟩
  | updated _ _ _ h _ _ pending _ _ => exact ⟨h.session, kept (.inr pending)⟩
  | started he _ _ _ _ _ _ => simp [he, isStart] at hstart

/-- What a run keeps: the daemon serves its session, and what is pending was approved. -/
structure Seated (past : List SeatStep) (d : Seat) : Prop where
  session : d.world.auth.session = d.ctx.compared
  pending : ∀ p, d.world.auth.pendingAssertion = some p → ApprovedBefore past d.ctx p.rpId

/-- **The step lemma.** -/
theorem Seated.step {past : List SeatStep} {d : Seat} {input : Happening}
    (h : Seated past d) (hplaced : Placed d input) :
    Seated (past ++ [Run.transition (Seat.step crates) d input]) (d.step crates input).2 := by
  obtain ⟨event, scene⟩ := input
  by_cases hstart : isStart event
  · cases event with
    | start env path =>
      obtain ⟨hsession, hpending⟩ := newAuthenticator_session crates env path d.world.store
      exact ⟨hsession.trans hplaced, fun p hp ↦ by cases hpending.symm.trans hp⟩
    | _ => cases hstart
  · have hnext : (d.step crates (event, scene)).2 =
        ⟨d.ctx, (Ctap2.step crates d.world event).2⟩ := by simp [Seat.step, hstart]
    obtain ⟨hsession, hpending⟩ := step_session crates d.world hstart
    rw [hnext]
    refine ⟨hsession.trans h.session, fun p hp ↦ ?_⟩
    rcases hpending p hp with hget | ⟨p₀, hp₀, hrp⟩
    · obtain ⟨env, payload, body, rfl, hparse⟩ := exists_payload_of_hasCommand hget
      refine ⟨past, _, [], rfl, ⟨hget, rfl, ?_⟩, by simp⟩
      exact Shows.approved hplaced h.session (pending_asked hparse hp)
    · obtain ⟨pre, o, mid, rfl, happroved, hmid⟩ := h.pending p₀ hp₀
      refine ⟨pre, o, mid ++ [Run.transition (Seat.step crates) d (event, scene)], by simp,
        hrp ▸ happroved, fun m hm ↦ ?_⟩
      rcases List.mem_append.mp hm with hm | hm
      · exact hmid m hm
      · rw [List.mem_singleton.mp hm]
        exact hstart

/-- A step of the daemon, where it has been kept so far. -/
theorem Seated.consentKept {past : List SeatStep} {d : Seat} {input : Happening}
    (h : Seated past d) (hplaced : Placed d input) :
    ConsentKept crates past (Run.transition (Seat.step crates) d input) := by
  obtain ⟨event, scene⟩ := input
  have hshows {command : Ctap2Command} (hc : event.hasCommand command) :
      ∃ env payload body, event = .cbor env payload ∧
        parsePayload payload = some (command, body) ∧ Shows d.ctx scene env := by
    obtain ⟨env, payload, body, rfl, hp⟩ := exists_payload_of_hasCommand hc
    exact ⟨env, payload, body, rfl, hp, hplaced⟩
  constructor
  · rintro env payload body rfl hp hok
    obtain ⟨c, rp, user, hconcerns, hfor, hcached, hasked⟩ := registered_asked hp hok
    exact ⟨c, rp, user, hconcerns, hfor, hcached, Shows.approved hplaced h.session hasked⟩
  · intro hc x hx
    obtain ⟨env, payload, body, rfl, hp, hs⟩ := hshows hc
    exact hs.approved h.session (asserted_asked hp hx)
  · intro hc x hx
    obtain ⟨env, payload, body, rfl, hp, hs⟩ := hshows hc
    obtain ⟨hcurrent, hpending⟩ := continued_asked hp hx
    obtain ⟨p, hpend⟩ := Option.isSome_iff_exists.mp hpending
    exact ⟨hs.matches h.session hcurrent, p, hpend, h.pending p hpend⟩
  · intro hc hok
    obtain ⟨env, payload, body, rfl, hp, hs⟩ := hshows hc
    exact hs.approved h.session (erased_asked hp hok)
  · intro hc hok
    obtain ⟨env, payload, body, rfl, hp, hs⟩ := hshows hc
    exact hs.approved h.session (selected_asked hp hok)
  · intro env request hreq hok
    obtain ⟨payload, body, rfl, -, -⟩ := exists_payload_of_pinRequest hreq
    exact Shows.approved hplaced h.session (verified_asked hreq hok)

end

/-- **Nothing without consent.**  Every step of every run of the daemon, from its start on. -/
theorem consent_kept (crates : Crates) (env : Env) (tpmPath : Option String) (s : Store)
    (scene : Scene) (hdetect : env.detect 0 = (SessionContext.detect (scene.look 0)).compared)
    (inputs : List Happening)
    (hplaced : ∀ t ∈ Run.transitions (Seat.step crates) (.start crates env tpmPath s scene) inputs,
      Placed t.before t.input) {past later : List SeatStep} {t : SeatStep}
    (hrun : Run.transitions (Seat.step crates) (.start crates env tpmPath s scene) inputs =
      past ++ t :: later) :
    ConsentKept crates past t := by
  obtain ⟨hsession, hpending⟩ := newAuthenticator_session crates env tpmPath s
  have hinit : Seated [] (.start crates env tpmPath s scene) :=
    ⟨hsession.trans hdetect, fun p hp ↦ by cases hpending.symm.trans hp⟩
  obtain ⟨hseated, hp, ht⟩ := Run.history_invariant_before hinit
    (fun past cur input h hC ↦ Seated.step h hC) hplaced hrun
  rw [ht]
  exact hseated.consentKept hp

/-! ### Somebody at the desk -/

namespace Desk

open Ctap2.Sample

/-- Two people are logged in, one of them on the seat; the leader of that session runs under a name
with a parenthesis, and polkit authorises it. -/
def outside : Outside where
  sessions := some [⟨"1", 1001, "bob", ""⟩, ⟨"c2", 1000, "alice", "seat0"⟩]
  property n p :=
    match n, p with
    | 1, .active => some (.bool true)
    | 1, .type => some (.text "wayland")
    | 1, .leader => some (.u32 1234)
    | 1, .display => some (.text "")
    | _, _ => none
  var _ := none
  euid := 0
  stat _ := some "1234 (a) R) S 0 0 0 0 0 0 0 0 0 0 0 0 0 0 0 0 0 0 5150 0\n"
  checkAuthorization subject := some (subject = ⟨1234, 5150, 1000⟩)
  prints _ := false
  line := none

/-- Polkit is gone, and somebody answers on the terminal. -/
def terminal : Outside :=
  { outside with checkAuthorization := fun _ ↦ none, prints := fun _ ↦ true, line := some "yes\n" }

/-- The session stays; only the asking differs. -/
def scene (asked : Outside) : Scene := ⟨fun _ ↦ outside, asked⟩

/-- What a request sees. -/
def env (random : UInt8) : Env :=
  { strictSession 1000 random with detect := fun _ ↦ ⟨some 1000, some "c2"⟩ }

/-- Two registrations, once there is a daemon passphrase: one with polkit and one without. -/
def inputs : List Happening :=
  [(setPassphrase, scene outside),
    (request (env 1) 0x01 (Sample.makeCredential "a"), scene outside),
    (request (env 2) 0x01 (Sample.makeCredential "b"), scene terminal)]

def packages : Crates := strictPackages [Sample.makeCredential "a", Sample.makeCredential "b"]

theorem detect_outside : (SessionContext.detect outside).compared = ⟨some 1000, some "c2"⟩ := by
  decide +kernel

theorem authorised_outside : Authorised outside (SessionContext.detect outside) :=
  ⟨by decide +kernel, 1234, 1000, 5150, by decide +kernel, by decide +kernel, rfl,
    by decide +kernel⟩

theorem answeredYes_terminal (prompt : String) :
    AnsweredYes terminal (SessionContext.detect outside) prompt :=
  ⟨fun _ _ _ _ _ ↦ rfl, rfl, "yes\n", rfl, by decide +kernel⟩

theorem not_authorised_terminal (ctx : SessionContext) : ¬ Authorised terminal ctx := by
  rintro ⟨-, pid, uid, startTime, -, -, -, h⟩
  cases h

/-- The run of the registrations. -/
abbrev run : List SeatStep :=
  Run.transitions (Seat.step packages)
    (.start packages (env 0) (some "") Store.fresh (scene outside)) inputs

theorem placed : ∀ t ∈ run, Placed t.before t.input := by
  intro t ht
  simp only [run, inputs, Run.transitions, List.mem_cons, List.not_mem_nil, or_false] at ht
  rcases ht with rfl | rfl | rfl
  · trivial
  · exact ⟨fun _ ↦ detect_outside.symm, authorised_outside.approve⟩
  · exact ⟨fun _ ↦ detect_outside.symm,
      fun prompt ↦ approve_eq_true_iff.mpr (.inr (answeredYes_terminal prompt))⟩

end Desk

/-- Both registrations succeed with an approval, and polkit has not given the second. -/
theorem consent_kept_desk :
    ∃ past t t', Desk.run = past ++ [t, t'] ∧
      (t.input.1.hasCommand .makeCredential ∧ t.output.succeeded) ∧
      (t'.input.1.hasCommand .makeCredential ∧ t'.output.succeeded) ∧
      ConsentKept Desk.packages past t ∧ ConsentKept Desk.packages (past ++ [t]) t' ∧
      ¬ Authorised t'.input.2.asked t'.before.ctx := by
  obtain ⟨past, t, t', hrun, hfirst, hsecond, hnot⟩ : ∃ past t t', Desk.run = past ++ [t, t'] ∧
      (t.input.1.hasCommand .makeCredential ∧ t.output.succeeded) ∧
      (t'.input.1.hasCommand .makeCredential ∧ t'.output.succeeded) ∧
      ¬ Authorised t'.input.2.asked t'.before.ctx :=
    ⟨[_], _, _, rfl, by decide +kernel, by decide +kernel, Desk.not_authorised_terminal _⟩
  have hkept {past later : List SeatStep} {t : SeatStep} (h : Desk.run = past ++ t :: later) :
      ConsentKept Desk.packages past t :=
    consent_kept Desk.packages (Desk.env 0) (some "") Store.fresh (Desk.scene Desk.outside)
      Desk.detect_outside.symm Desk.inputs Desk.placed h
  exact ⟨past, t, t', hrun, hfirst, hsecond, hkept hrun, hkept (by simpa using hrun), hnot⟩

end Session
end TpmFido2
