import TpmFido2.Ctap2.PinEffects
import TpmFido2.Ctap2.Sample

/-!
# The life of a token

There is one token at a time, in memory only.  Two sub-commands of clientPIN issue one, a cancel
and a validation that fails drop it, and a start has none.

* **`tokensSound`**: whatever `validate_pin_uv_auth` accepts was computed with a token that an
  earlier step of the run issued, for a PIN or with the user's approval, for this permission and
  RP, not longer than 600 s ago, and no step since has issued, cancelled or rejected.
* **`tokensDie_of_findsNoToken`**: a token does not outlive the PIN it came from, as long as a
  changePIN with the right PIN finds no token, and a reset none that it does not know to drop.
-/

set_option autoImplicit false

namespace TpmFido2
namespace Ctap2

open Handler

section
variable (crates : Crates)

/-! ## The property -/

/-- The token a request is answered with. -/
def tokenOf (env : Env) (request : Entries) : Option PinUvAuthToken :=
  (pinPermissions request).map fun permissions ↦
    ⟨fillRandom 32 (env.random 0), permissions, tokenRpIdOf request, env.now 0⟩

/-- The token a step issues. -/
def issuedToken (t : Step) : Option PinUvAuthToken :=
  if t.output.succeeded then
    match pinRequest crates t.input with
    | some (env, .getPinUvAuthToken, request) => tokenOf env request
    | some (env, .getPinUvAuthTokenUsingUv, request) => tokenOf env request
    | _ => none
  else none

/-- A step presents the right PIN, or the user has approved it. -/
def Authenticated (t : Step) : Prop :=
  (∃ pin pinHash, comparison crates t.before t.input = some (pin, pinHash) ∧
    pinMatches crates pin pinHash) ∨
  ∃ env request, pinRequest crates t.input = some (env, .getPinUvAuthTokenUsingUv, request) ∧
    env.approve "Verify identity for a FIDO2 operation"

/-- A step validates a request and finds its authentication invalid. -/
def Rejects (t : Step) : Prop :=
  ∃ v, validation crates t.before t.input = some v ∧
    (v.call crates t.before).1 = .error .pinAuthInvalid

/-- A step neither cancels nor rejects, and issues a token only with authentication. -/
structure LeavesToken (t : Step) : Prop where
  notCancelled : t.input ≠ .cancel
  notRejected : ¬ Rejects crates t
  authenticated : (issuedToken crates t).isSome → Authenticated crates t

/-- A validation is covered by a token: it is the one in memory, the last that was issued, and
every step from the one that issued it on has left it. -/
structure Vouched (past : List Step) (a : Authenticator) (v : Validation)
    (token : PinUvAuthToken) : Prop where
  stored : a.pinUvAuthToken = some token
  issued : Run.Latest (issuedToken crates) (LeavesToken crates) past token
  permission : token.permissions.contains v.permission
  scope : token.rpId = none ∨ token.rpId = v.rpId
  fresh : v.env.now 0 - token.issuedAt ≤ seconds 600
  code : ∃ param, v.authParam = some param ∧ (param.length = 16 ∨ param.length = 32) ∧
    param = (crates.hmacSha256 token.value v.message).take param.length

/-- What is accepted in a run is covered by a token, and what is rejected drops the token. -/
structure TokensSound (steps : List Step) : Prop where
  vouched : ∀ past t later v, steps = past ++ t :: later →
    validation crates t.before t.input = some v → (v.call crates t.before).1 = .ok true →
    ∃ token, Vouched crates past t.before.auth v token
  dropped : ∀ t ∈ steps, Rejects crates t → t.after.auth.pinUvAuthToken = none

/-- A step ends the PIN the tokens came from: a changePIN or a reset that succeeds. -/
def endsTokens (t : Step) : Bool :=
  t.output.succeeded && ((pinRequest crates t.input).any (fun x ↦ x.2.1 = .changePin) ||
    t.input.hasCommand .reset)

/-- What is accepted after such a step is covered by a token issued after it. -/
def TokensDie (steps : List Step) : Prop :=
  ∀ pre t past u later v, steps = pre ++ t :: (past ++ u :: later) → endsTokens crates t →
    validation crates u.before u.input = some v → (v.call crates u.before).1 = .ok true →
    ∃ token, Vouched crates past u.before.auth v token

/-- A changePIN with the right PIN finds no token, and a reset none that it leaves. -/
def findsNoToken (w : World) (event : Event) : Bool :=
  w.auth.pinUvAuthToken.isNone ||
    !((pinRequest crates event).any (fun x ↦ x.2.1 = .changePin) &&
        (comparison crates w event).any (fun x ↦ pinMatches crates x.1 x.2)) &&
    !(approvedReset w event && w.auth.clientPin.isNone)

end

variable {crates : Crates} {env : Env} {w w' : World} {event : Event} {reply : Reply}

/-! ## Validations -/

/-- The call accepts exactly what the verdict says. -/
theorem Validation.call_accepts {v : Validation} :
    (v.call crates w).1 = .ok true ↔ v.verdict crates w.auth = .verified := by
  rw [call_eq]
  cases v.verdict crates w.auth <;> simp

theorem validatePinUvProtocol_error {protocol : Option Int} {e : ErrorStatus}
    (h : validatePinUvProtocol protocol = .error e) : e ≠ .pinAuthInvalid := by
  unfold validatePinUvProtocol at h
  repeat' split at h
  all_goals cases h
  all_goals exact nofun

/-- Nothing is found invalid without dropping the token. -/
theorem Validation.verdict_ne_rejected {v : Validation} {a : Authenticator} :
    v.verdict crates a ≠ .rejected .pinAuthInvalid := by
  unfold verdict Authenticator.pinUvVerdict
  split
  · exact nofun
  split
  · exact nofun
  cases hprotocol : validatePinUvProtocol v.protocol with
  | error e =>
    intro h
    cases h
    exact validatePinUvProtocol_error hprotocol rfl
  | ok _ =>
    cases v.authParam with
    | none => exact nofun
    | some param =>
      dsimp only
      split
      · exact nofun
      · split <;> exact nofun

theorem Validation.call_invalid {v : Validation} :
    (v.call crates w).1 = .error .pinAuthInvalid ↔ v.verdict crates w.auth = .revoked := by
  have hne : v.verdict crates w.auth ≠ .rejected .pinAuthInvalid := verdict_ne_rejected
  rw [call_eq]
  cases h : v.verdict crates w.auth with
  | rejected e =>
    rw [h] at hne
    simpa using hne
  | absent => simp
  | verified => simp
  | revoked => simp

/-- What a request must get right to be accepted. -/
theorem Validation.accepted {v : Validation} {a : Authenticator}
    (h : v.verdict crates a = .verified) :
    ∃ token, a.pinUvAuthToken = some token ∧ v.env.now 0 - token.issuedAt ≤ seconds 600 ∧
      token.permissions.contains v.permission ∧ (token.rpId = none ∨ token.rpId = v.rpId) ∧
      ∃ param, v.authParam = some param ∧ (param.length = 16 ∨ param.length = 32) ∧
        param = (crates.hmacSha256 token.value v.message).take param.length := by
  unfold verdict Authenticator.pinUvVerdict at h
  split at h
  · cases h
  split at h
  · cases h
  cases hprotocol : validatePinUvProtocol v.protocol with
  | error e =>
    rw [hprotocol] at h
    cases h
  | ok _ =>
    rw [hprotocol] at h
    cases hparam : v.authParam with
    | none =>
      rw [hparam] at h
      cases h
    | some param =>
      rw [hparam] at h
      dsimp only at h
      split at h
      · cases h
      · next token htoken =>
        split at h
        · next hok =>
          obtain ⟨hstored, hfresh⟩ := Option.filter_eq_some_iff.mp htoken
          rw [Bool.and_eq_true, PinUvAuthToken.permits, Bool.and_eq_true, isAuthParam,
            Bool.and_eq_true, Bool.or_eq_true, Bool.or_eq_true] at hok
          obtain ⟨⟨hpermission, hscope⟩, hlength, hcode⟩ := hok
          refine ⟨token, hstored, of_decide_eq_true hfresh, hpermission, ?_, param, rfl, ?_, ?_⟩
          · exact hscope.imp of_decide_eq_true of_decide_eq_true
          · exact hlength.imp of_decide_eq_true of_decide_eq_true
          · exact (Store.constantTimeEqual_iff.mp hcode).symm
        · cases h

/-! ## What a step does to the token -/

theorem exists_command_of_validation {v : Validation} (h : validation crates w event = some v) :
    ∃ env payload command body, event = .cbor env payload ∧
      parsePayload payload = some (command, body) ∧ command ≠ .clientPin ∧ command ≠ .reset := by
  cases event with
  | cbor env payload =>
    cases hp : parsePayload payload with
    | none => simp only [validation, hp] at h; cases h
    | some x =>
      obtain ⟨command, body⟩ := x
      refine ⟨env, payload, command, body, rfl, hp, ?_, ?_⟩
      · rintro rfl
        simp only [validation, hp] at h
        cases h
      · rintro rfl
        simp only [validation, hp] at h
        cases h
  | _ => cases h

/-- **A rejected request drops the token.** -/
theorem dropped_of_rejects (h : Rejects crates (Run.transition (step crates) w event)) :
    (step crates w event).2.auth.pinUvAuthToken = none := by
  obtain ⟨v, hv, hinvalid⟩ := h
  obtain ⟨env, payload, command, body, rfl, hp, hclient, hreset⟩ := exists_command_of_validation hv
  have hrevoked : v.verdict crates w.auth = .revoked := Validation.call_invalid.mp hinvalid
  have heffect : TokenEffect crates w (.cbor env payload)
      (gatedCommand crates env command body (w.enter command)).2 :=
    gatedCommand_tokenEffect hclient hreset hp
  rw [step_cbor hp]
  cases heffect with
  | unused hnone _ => cases hv.symm.trans hnone
  | kept hv' hverdict _ =>
    cases hv.symm.trans hv'
    exact absurd hrevoked hverdict
  | revoked _ _ token => exact token

/-- The token after a step is the one it issued, with authentication, or the one before it. -/
theorem PinEffect.token (h : PinEffect crates w event reply w') {token : PinUvAuthToken}
    (htoken : w'.auth.pinUvAuthToken = some token) :
    (issuedToken crates ⟨w, event, reply, w'⟩ = some token ∧
      Authenticated crates ⟨w, event, reply, w'⟩) ∨
    issuedToken crates ⟨w, event, reply, w'⟩ = none ∧ w.auth.pinUvAuthToken = some token := by
  have refused (hreply : ¬ reply.succeeded) : issuedToken crates ⟨w, event, reply, w'⟩ = none := by
    simp [issuedToken, hreply]
  have unasked (hreq : pinRequest crates event = none) :
      issuedToken crates ⟨w, event, reply, w'⟩ = none := by
    simp [issuedToken, hreq]
  cases h with
  | kept h _ hgrants _ _ _ =>
    have hissued : issuedToken crates ⟨w, event, reply, w'⟩ = none := by
      cases hreq : pinRequest crates event with
      | none => exact unasked hreq
      | some x =>
        obtain ⟨env, subCommand, request⟩ := x
        by_cases hg : subCommand.grants
        · exact refused (hgrants _ hreq hg)
        · cases subCommand <;> simp_all [issuedToken, ClientPinSubCommand.grants]
    rcases h.token with hsame | hnone
    · exact .inr ⟨hissued, hsame ▸ htoken⟩
    · cases htoken.symm.trans hnone
  | set hreq _ _ _ _ _ hsame _ => exact .inr ⟨by simp [issuedToken, hreq], hsame ▸ htoken⟩
  | wrong _ _ _ _ _ hsame hreply => exact .inr ⟨refused hreply, hsame ▸ htoken⟩
  | unsaved _ _ _ _ _ _ _ hsame hreply => exact .inr ⟨refused hreply, hsame ▸ htoken⟩
  | unchanged _ _ _ _ _ hsame hreply => exact .inr ⟨refused hreply, hsame ▸ htoken⟩
  | changed hreq _ _ _ _ _ _ hsame _ => exact .inr ⟨by simp [issuedToken, hreq], hsame ▸ htoken⟩
  | issued hreq hcompare hmatch _ _ hpermissions hnew hreply =>
    refine .inl ⟨?_, .inl ⟨_, _, hcompare, hmatch⟩⟩
    simp [issuedToken, hreq, hreply, tokenOf, hpermissions, ← hnew, htoken]
  | approved hreq _ happroved _ _ hpermissions hnew hreply =>
    refine .inl ⟨?_, .inr ⟨_, _, hreq, happroved⟩⟩
    simp [issuedToken, hreq, hreply, tokenOf, hpermissions, ← hnew, htoken]
  | reset he hp _ _ h _ _ =>
    have hreq : pinRequest crates event = none := by
      rw [he]
      exact pinRequest_of_ne _ hp (by decide)
    rcases h with ⟨-, -, hsame, -⟩ | ⟨-, hnone, -⟩
    · exact .inr ⟨unasked hreq, hsame ▸ htoken⟩
    · cases htoken.symm.trans hnone
  | started _ _ _ _ hnone _ => cases htoken.symm.trans hnone
  | damaged he _ _ _ hsame => exact .inr ⟨unasked (by rw [he]; rfl), hsame ▸ htoken⟩

/-- A step after which there is a token has left it. -/
theorem leavesToken_of_some {token : PinUvAuthToken}
    (htoken : (step crates w event).2.auth.pinUvAuthToken = some token) :
    LeavesToken crates (Run.transition (step crates) w event) where
  notCancelled hcancel := by
    obtain rfl : event = .cancel := hcancel
    cases htoken
  notRejected hrejects := by cases htoken.symm.trans (dropped_of_rejects hrejects)
  authenticated hissued := by
    rcases (step_pinEffect crates w event).token htoken with ⟨-, hauth⟩ | ⟨hnone, -⟩
    · exact hauth
    · have hnone' : issuedToken crates (Run.transition (step crates) w event) = none := hnone
      rw [hnone'] at hissued
      cases hissued

/-! ## Whole runs -/

/-- From a state without a token, the one in memory is the last that was issued. -/
theorem tokensSound_of_none (hnone : w.auth.pinUvAuthToken = none) (events : List Event) :
    TokensSound crates (run crates w events) where
  vouched past t later v hsplit hv hok := by
    obtain ⟨hlatest, -, -⟩ := Run.history_invariant_before
      (H := fun past cur ↦ ∀ token, cur.auth.pinUvAuthToken = some token →
        Run.Latest (issuedToken crates) (LeavesToken crates) past token)
      (C := fun _ _ ↦ True) (fun token htoken ↦ by cases hnone.symm.trans htoken)
      (fun past cur event hcur _ token htoken ↦ by
        have hleaves := leavesToken_of_some htoken
        rcases (step_pinEffect crates cur event).token htoken with ⟨hissued, -⟩ | ⟨hkept, hsame⟩
        · exact Run.latest_of_write hissued hleaves
        · exact (hcur token hsame).concat hkept hleaves)
      (fun _ _ ↦ trivial) hsplit
    obtain ⟨token, hstored, hfresh, hpermission, hscope, hcode⟩ :=
      Validation.accepted (Validation.call_accepts.mp hok)
    exact ⟨token, hstored, hlatest token hstored, hpermission, hscope, hfresh, hcode⟩
  dropped t ht hrejects := by
    have heq := Run.eq_transition_of_mem ht
    rw [heq] at hrejects ⊢
    exact dropped_of_rejects hrejects

theorem newAuthenticator_token (crates : Crates) (env : Env) (tpmPath : Option String) (s : Store) :
    (newAuthenticator crates env tpmPath s).auth.pinUvAuthToken = none := by
  obtain ⟨cs, pin, t, he, -⟩ := newAuthenticator_pin crates env tpmPath s
  rw [he]
  rfl

/-- **Every accepted request is covered by a token of the run.** -/
theorem tokensSound (crates : Crates) (env : Env) (tpmPath : Option String) (s : Store)
    (events : List Event) :
    TokensSound crates (run crates (newAuthenticator crates env tpmPath s) events) :=
  tokensSound_of_none (newAuthenticator_token crates env tpmPath s) events

/-! ## The end of a PIN -/

/-- A changePIN or a reset that succeeds and found no token it would leave, leaves none. -/
theorem PinEffect.ended (h : PinEffect crates w event reply w')
    (hends : endsTokens crates ⟨w, event, reply, w'⟩) (hfinds : findsNoToken crates w event) :
    w'.auth.pinUvAuthToken = none := by
  rw [endsTokens, Bool.and_eq_true, Bool.or_eq_true] at hends
  obtain ⟨hok, hends⟩ := hends
  dsimp only at hok hends
  -- another sub-command of clientPIN ends nothing
  have notEnds {x : Env × ClientPinSubCommand × Entries} (hreq : pinRequest crates event = some x)
      (hsub : x.2.1 ≠ .changePin) : False := by
    rcases hends with hchange | hreset
    · simp [hreq, hsub] at hchange
    · obtain ⟨env, payload, body, rfl, hp⟩ := exists_payload_of_hasCommand hreset
      cases hreq.symm.trans (pinRequest_of_ne env hp (by decide))
  have outside (hreq : pinRequest crates event = none) (hreset : ¬ event.hasCommand .reset) :
      False := by
    simp [hreq, hreset] at hends
  cases h with
  | kept _ _ hgrants hreset _ _ =>
    rcases hends with hchange | hr
    · obtain ⟨x, hreq, hx⟩ := (Option.any_eq_true _ _).mp hchange
      refine absurd hok (hgrants x hreq ?_)
      rw [of_decide_eq_true hx]
      rfl
    · exact absurd hok (hreset hr)
  | set hreq _ _ _ _ _ _ _ => exact (notEnds hreq (by rintro ⟨⟩)).elim
  | wrong _ _ _ _ _ _ hreply => exact absurd hok hreply
  | unsaved _ _ _ _ _ _ _ _ hreply => exact absurd hok hreply
  | unchanged _ _ _ _ _ _ hreply => exact absurd hok hreply
  | changed hreq hcompare hmatch _ _ _ _ hsame _ =>
    rw [hsame]
    simpa [findsNoToken, hreq, hcompare, hmatch] using hfinds
  | issued hreq _ _ _ _ _ _ _ => exact (notEnds hreq (by rintro ⟨⟩)).elim
  | approved hreq _ _ _ _ _ _ _ => exact (notEnds hreq (by rintro ⟨⟩)).elim
  | reset he hp happroved _ h _ _ =>
    rcases h with ⟨hunset, -, hsame, -⟩ | ⟨-, hnone, -⟩
    · have hreset : approvedReset w event := by simp [approvedReset, he, hp, happroved]
      rw [hsame]
      simpa [findsNoToken, hreset, hunset] using hfinds
    · exact hnone
  | started _ _ _ _ hnone _ => exact hnone
  | damaged he _ _ _ _ => exact (outside (by rw [he]; rfl) (by rw [he]; rintro ⟨⟩)).elim

/-- **Tokens die with the PIN they came from**, where changePIN and reset find none to leave. -/
theorem tokensDie_of_findsNoToken (crates : Crates) (env : Env) (tpmPath : Option String)
    (s : Store) (events : List Event)
    (h : ∀ t ∈ run crates (newAuthenticator crates env tpmPath s) events,
      findsNoToken crates t.before t.input) :
    TokensDie crates (run crates (newAuthenticator crates env tpmPath s) events) := by
  intro pre t past u later v hsplit hends hv hok
  have hmem : t ∈ run crates (newAuthenticator crates env tpmPath s) events := by
    rw [hsplit]
    exact List.mem_append_right _ List.mem_cons_self
  obtain ⟨-, is, -, -, -, hrest⟩ := Run.split_of_transitions_eq hsplit
  have heq := Run.eq_transition_of_mem hmem
  have hnone : t.after.auth.pinUvAuthToken = none := by
    rw [heq] at hends ⊢
    exact (step_pinEffect crates t.before t.input).ended hends (h t hmem)
  -- the rest is a run from a state without a token
  exact (tokensSound_of_none hnone is).vouched past u later v hrest.symm hv hok

namespace Sample

/-- changePIN, with the right PIN. -/
def changePin : Cbor.Value :=
  .map [(.integer 1, .integer 2), (.integer 2, .integer 4), (.integer 3, platformKey),
    (.integer 4, .bytes (List.replicate 16 0)),
    (.integer 5, .bytes (List.replicate 16 0 ++ [53, 54, 55, 56] ++ List.replicate 12 0)),
    (.integer 6, .bytes (List.replicate 32 0))]

/-- A token for registrations, with the approval of the user. -/
def getTokenUsingUv : Cbor.Value :=
  .map [(.integer 1, .integer 2), (.integer 2, .integer 10), (.integer 3, platformKey),
    (.integer 9, .integer 1)]

/-- A registration with the code of the sample packages. -/
def makeCredentialWithToken : Cbor.Value :=
  .map [(.integer 1, .bytes (List.replicate 32 0)), (.integer 2, .map [(.text "id", .text "")]),
    (.integer 3, .map [(.text "id", .bytes [])]),
    (.integer 4, .array [.map [(.text "type", .text "public-key"), (.text "alg", .integer (-7))]]),
    (.integer 8, .bytes (List.replicate 16 0)), (.integer 9, .integer 2)]

/-- The packages of the runs about tokens. -/
def tokenPackages : Crates :=
  packages [getKeyAgreement, setPin [49, 50, 51, 52], getToken, changePin, getTokenUsingUv,
    getCredsMetadata, makeCredentialWithToken]

/-- The daemon of those runs, with a passphrase. -/
def tokenStart : World :=
  newAuthenticator tokenPackages (session 1000 0) (some "") Store.fresh

/-- A request in the runs about tokens. -/
def ask (command : UInt8) (v : Cbor.Value) : Event := request (session 1000 0) command v

/-- What comes before the end of a PIN, the end, and the use of the token after it: a token of the
PIN before changePIN, and a token of the user before a reset without a PIN. -/
def tokenRuns : List (List Event × Event × Event) :=
  [(setPassphrase :: choosePin 1000 ++ [ask 0x06 getToken], ask 0x06 Sample.changePin,
      ask 0x0a getCredsMetadata),
    ([setPassphrase, ask 0x06 getKeyAgreement, ask 0x06 getTokenUsingUv],
      .cbor (session 1000 0) [0x07], ask 0x01 makeCredentialWithToken)]

end Sample

open Sample in
/-- A token issued after changePIN is accepted. -/
theorem tokensDie_of_findsNoToken_change :
    let events := setPassphrase :: choosePin 1000 ++ [ask 0x06 Sample.changePin,
      ask 0x06 getToken, ask 0x0a Sample.getCredsMetadata]
    TokensDie tokenPackages (run tokenPackages tokenStart events) ∧
      (run tokenPackages tokenStart events).map (fun t ↦ t.output.succeeded) =
        [false, true, true, true, true, true] :=
  ⟨tokensDie_of_findsNoToken _ _ _ _ _ (by decide +kernel), by decide +kernel⟩

open Sample in
/-- A token is accepted after the changePIN, and after the reset, that should have ended it. -/
theorem token_outlives_pin :
    tokenRuns.Forall fun r ↦
      let w := after tokenPackages tokenStart r.1
      let w' := (step tokenPackages w r.2.1).2
      endsTokens tokenPackages (Run.transition (step tokenPackages) w r.2.1) ∧
        (validation tokenPackages w' r.2.2).any (fun v ↦
          v.verdict tokenPackages w'.auth = .verified) ∧
        (step tokenPackages w' r.2.2).1.succeeded ∧
        ¬ TokensDie tokenPackages (run tokenPackages tokenStart (r.1 ++ [r.2.1, r.2.2])) := by
  refine List.forall_iff_forall_mem.mpr fun r hr ↦ ?_
  have hall : ∀ r ∈ tokenRuns,
      let w := after tokenPackages tokenStart r.1
      let w' := (step tokenPackages w r.2.1).2
      endsTokens tokenPackages (Run.transition (step tokenPackages) w r.2.1) ∧
        (validation tokenPackages w' r.2.2).any (fun v ↦
          v.verdict tokenPackages w'.auth = .verified) ∧
        (step tokenPackages w' r.2.2).1.succeeded := by decide +kernel
  obtain ⟨hends, haccepts, hok⟩ := hall r hr
  refine ⟨hends, haccepts, hok, fun h ↦ ?_⟩
  obtain ⟨v, hv, hverdict⟩ := (Option.any_eq_true _ _).mp haccepts
  rw [run, Run.transitions_append] at h
  -- no step in between has issued a token
  obtain ⟨token, hvouched⟩ := h _ _ [] _ [] v rfl hends hv
    (Validation.call_accepts.mpr (of_decide_eq_true hverdict))
  exact Run.not_latest_nil hvouched.issued

end Ctap2
end TpmFido2
