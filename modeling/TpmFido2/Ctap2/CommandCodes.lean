import TpmFido2.Ctap2.Selection

/-!
# The two codes of credential management

authenticatorCredentialManagement has two codes, 0x0a and 0x41, the second from before the command
was standardised.  One function answers both.  What `handle_cbor` does before it calls that function
depends on the code, though, and in each of the three places only 0x0a is listed: a request with
0x41 drops the pending assertion, drops the enumeration, and need not wait for a daemon passphrase.

So the codes agree exactly in the worlds where none of this matters (`codesAgree_iff`): nothing is
pending, no enumeration has begun, and either there is a passphrase or the request is refused
anyway.  It is enough to try the empty body: a request without one fails early and leaves everything
else as it was, so that the differences stay.

`preview_differs` has the two ways to see it: an enumeration that cannot be continued, and a request
that is answered before there is a passphrase.
-/

set_option autoImplicit false

namespace TpmFido2
namespace Ctap2

open Handler CommandM

/-! ## The property -/

section
variable (crates : Crates)

/-- **The codes agree** in a world and an environment: with either code, every body gets the same
response and leads to the same world. -/
def CodesAgree (env : Env) (w : World) : Prop :=
  ∀ body, step crates w (.cbor env (0x41 :: body)) = step crates w (.cbor env (0x0a :: body))

/-- Nothing that a request with 0x41 passes over is there. -/
structure NothingToPass (env : Env) (w : World) : Prop where
  pending : w.auth.pendingAssertion = none
  management : w.auth.management = none
  passphrase : w.auth.session.matchesCurrent env 0 → passphraseSet crates (env.store 0) w.store

instance (env : Env) (w : World) : Decidable (NothingToPass crates env w) :=
  decidable_of_iff (_ ∧ _ ∧ _)
    ⟨fun h ↦ ⟨h.1, h.2.1, h.2.2⟩, fun h ↦ ⟨h.pending, h.management, h.passphrase⟩⟩

/-- The request with 0x0a in the place of 0x41. -/
def Event.standardised : Event → Event
  | .cbor env (code :: body) => .cbor env ((if code = 0x41 then 0x0a else code) :: body)
  | event => event

/-- The environment of a request with 0x41. -/
def Event.previewEnv : Event → Option Env
  | .cbor env (code :: _) => if code = 0x41 then some env else none
  | _ => none

/-- A run has the responses and the worlds that it has with 0x0a throughout. -/
def RunsAgree (w : World) (events : List Event) : Prop :=
  (run crates w (events.map Event.standardised)).map (fun t ↦ (t.output, t.after)) =
    (run crates w events).map fun t ↦ (t.output, t.after)

end

variable {crates : Crates} {env : Env} {w : World} {body : List UInt8}

/-! ## What the codes do -/

/-- A request with 0x41. -/
theorem handleCbor_preview (env : Env) (w : World) (body : List UInt8) :
    handleCbor crates env (0x41 :: body) w =
      respond (credentialManagement crates env body
        { w with auth := { w.auth with pendingAssertion := none, management := none } }) := rfl

/-- A request with 0x0a. -/
theorem handleCbor_standard (env : Env) (w : World) (body : List UInt8) :
    handleCbor crates env (0x0a :: body) w =
      if passphraseSet crates (env.store 0) w.store then
        respond (credentialManagement crates env body w)
      else (.ok [ErrorStatus.operationDenied.byte], w) := by
  change respond ((requirePassphrase crates env .credentialManagement >>= fun _ ↦
    credentialManagement crates env body) w) = _
  rw [bind_def, requirePassphrase_apply]
  cases passphraseSet crates (env.store 0) w.store <;> rfl

/-- A request after the user has changed. -/
theorem credentialManagement_other (h : w.auth.session.matchesCurrent env 0 = false) :
    credentialManagement crates env body w = (.error .operationDenied, w) := by
  simp [credentialManagement, authoriseManagement, bind_def, auth, gets, throwIf, h, Handler.throw]

/-- A request without a body. -/
theorem credentialManagement_nil (hempty : crates.fromReader [] = none) (w : World) :
    credentialManagement crates env [] w =
      (.error (if w.auth.session.matchesCurrent env 0 then .invalidCbor else .operationDenied),
        w) := by
  cases h : w.auth.session.matchesCurrent env 0 with
  | false => exact credentialManagement_other h
  | true =>
    have hdecode : decodeMap crates [] = .error .invalidCbor := by rw [decodeMap, hempty]
    simp [credentialManagement, authoriseManagement, hdecode, bind_def, auth, gets, throwIf, h,
      Handler.ofExcept, Handler.throw]

/-! ## One request -/

/-- **Where the codes agree.** -/
theorem codesAgree_iff_nothingToPass (hempty : crates.fromReader [] = none) (env : Env)
    (w : World) :
    CodesAgree crates env w ↔ NothingToPass crates env w := by
  constructor
  · intro h
    -- the request without a body
    have hpreview : step crates w (.cbor env [0x41]) =
        (.cbor [(if w.auth.session.matchesCurrent env 0 then ErrorStatus.invalidCbor
          else .operationDenied).byte],
          { w with auth := { w.auth with pendingAssertion := none, management := none } }) := by
      rw [step, handleCbor_preview, credentialManagement_nil hempty]
      rfl
    have hstandard : step crates w (.cbor env [0x0a]) =
        (.cbor [(if w.auth.session.matchesCurrent env 0 ∧
          passphraseSet crates (env.store 0) w.store then ErrorStatus.invalidCbor
          else .operationDenied).byte], w) := by
      rw [step, handleCbor_standard, credentialManagement_nil hempty]
      cases passphraseSet crates (env.store 0) w.store <;> simp [respond, Reply.ofCbor]
    have hsame := h []
    rw [hpreview, hstandard, Prod.mk.injEq, Reply.cbor.injEq] at hsame
    obtain ⟨hresponse, hworld⟩ := hsame
    refine ⟨?_, ?_, fun hmatches ↦ ?_⟩
    · rw [← hworld]
    · rw [← hworld]
    · by_contra hunset
      rw [if_pos hmatches, if_neg fun hset ↦ hunset hset.2] at hresponse
      exact absurd hresponse (by decide)
  · rintro ⟨hpending, hmanagement, hpassphrase⟩ body
    have hworld : { w with auth := { w.auth with pendingAssertion := none, management := none } } =
        w := by
      rw [← hpending, ← hmanagement]
    rw [step, step, handleCbor_preview, handleCbor_standard, hworld]
    cases hset : passphraseSet crates (env.store 0) w.store with
    | true => rfl
    | false =>
      -- without a passphrase, the user is another one, which is an error with either code
      have hother : w.auth.session.matchesCurrent env 0 = false := by
        simpa [hset] using hpassphrase
      rw [credentialManagement_other hother]
      rfl

/-! ## Runs -/

/-- An event that is not a request with 0x41 is its own standard form. -/
theorem Event.standardised_eq_self {event : Event} (h : event.previewEnv = none) :
    event.standardised = event := by
  cases event with
  | cbor env payload =>
    cases payload with
    | nil => rfl
    | cons code body =>
      have hcode : code ≠ 0x41 := by
        rintro rfl
        cases h
      simp [Event.standardised, hcode]
  | _ => rfl

theorem step_standardised {event : Event} (h : ∀ env ∈ event.previewEnv, CodesAgree crates env w) :
    step crates w event.standardised = step crates w event := by
  cases hpreview : event.previewEnv with
  | none => rw [Event.standardised_eq_self hpreview]
  | some env =>
    rw [Event.previewEnv.eq_def] at hpreview
    split at hpreview
    · split at hpreview
      · next body hcode =>
        subst hcode
        cases hpreview
        exact (h env rfl body).symm
      · cases hpreview
    · cases hpreview

/-- **The codes agree where there is nothing to pass over**, and nowhere else; and a run in which
that is so at every request with 0x41 could as well be made with 0x0a. -/
theorem codesAgree_iff (hempty : crates.fromReader [] = none) :
    (∀ env w, CodesAgree crates env w ↔ NothingToPass crates env w) ∧
      ∀ w events, (∀ t ∈ run crates w events, ∀ env ∈ t.input.previewEnv,
        NothingToPass crates env t.before) → RunsAgree crates w events := by
  refine ⟨codesAgree_iff_nothingToPass hempty, fun w events h ↦ ?_⟩
  refine Run.map_transitions_of_agree fun t ht ↦ step_standardised fun env henv ↦ ?_
  exact (codesAgree_iff_nothingToPass hempty env t.before).mpr (h t ht env henv)

namespace Sample

/-- A sub-command of credential management without parameters or authentication. -/
def manage (subCommand : Int) : Cbor.Value := .map [(.integer 1, .integer subCommand)]

/-- The packages of the runs below. -/
def codePackages : Crates :=
  packages [getKeyAgreement, Sample.setPin [49, 50, 51, 52], Sample.makeCredential "a",
    Sample.makeCredential "b", manage 1, manage 2, manage 3]

/-- The daemon of those runs. -/
def codeStart : World := newAuthenticator codePackages (session 1000 0) (some "") Store.fresh

/-- A user with a PIN registers with two RPs. -/
def codeEvents : List Event :=
  setPassphrase :: choosePin 1000 ++
    [request (session 1000 1) 0x01 (Sample.makeCredential "a"),
      request (session 1000 2) 0x01 (Sample.makeCredential "b")]

end Sample

theorem CodesAgree.request (h : CodesAgree crates env w) (v : Cbor.Value) :
    step crates w (Sample.request env 0x41 v) = step crates w (Sample.request env 0x0a v) :=
  h (Cbor.encode v)

open Sample in
/-- Counting the credentials with 0x41 and then beginning an enumeration works as with 0x0a. -/
theorem codesAgree_metadata :
    RunsAgree codePackages codeStart (codeEvents ++
      [request (session 1000 0) 0x41 (manage 1), request (session 1000 0) 0x41 (manage 2)]) :=
  (codesAgree_iff (by decide)).2 _ _ (by decide +kernel)

open Sample in
/-- **Where the codes differ.**  The enumeration that was begun with 0x41 has a second RP, which
0x41 does not get; and before there is a daemon passphrase, 0x41 is answered. -/
theorem preview_differs :
    let enumerating := after codePackages codeStart
      (codeEvents ++ [request (session 1000 0) 0x41 (manage 2)])
    let unset := after codePackages codeStart (choosePin 1000)
    (step codePackages enumerating (request (session 1000 0) 0x0a (manage 3))).1.succeeded ∧
      (step codePackages enumerating (request (session 1000 0) 0x41 (manage 3))).1 =
        .cbor [ErrorStatus.noCredentials.byte] ∧
      ¬ CodesAgree codePackages (session 1000 0) enumerating ∧
      (step codePackages unset (request (session 1000 0) 0x41 (manage 1))).1.succeeded ∧
      (step codePackages unset (request (session 1000 0) 0x0a (manage 1))).1 =
        .cbor [ErrorStatus.operationDenied.byte] ∧
      ¬ CodesAgree codePackages (session 1000 0) unset := by
  intro enumerating unset
  have hnext : (step codePackages enumerating
      (request (session 1000 0) 0x0a (manage 3))).1.succeeded := by decide +kernel
  have hlost : (step codePackages enumerating (request (session 1000 0) 0x41 (manage 3))).1 =
      .cbor [ErrorStatus.noCredentials.byte] := by decide +kernel
  have hanswered : (step codePackages unset
      (request (session 1000 0) 0x41 (manage 1))).1.succeeded := by decide +kernel
  have hrefused : (step codePackages unset (request (session 1000 0) 0x0a (manage 1))).1 =
      .cbor [ErrorStatus.operationDenied.byte] := by decide +kernel
  refine ⟨hnext, hlost, fun h ↦ ?_, hanswered, hrefused, fun h ↦ ?_⟩
  · rw [← h.request, hlost] at hnext
    cases hnext
  · rw [h.request, hrefused] at hanswered
    cases hanswered

end Ctap2
end TpmFido2
