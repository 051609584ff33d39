import TpmFido2.Ctap2.Counters
import TpmFido2.Ctap2.Pending
import TpmFido2.Ctap2.Selection

/-!
# Authentications that fail

`get_assertion` keeps the credentials that remain for getNextAssertion as soon as it has chosen, and
signs afterwards.  If signing or writing the counter fails, the choice stays: the request is
answered with an error, and getNextAssertion goes on with the second credential.

The counters are not touched by a failure.  Those in memory are read again from the store on the
way, and come out as they were because both places agree in every reachable state
(`countersAgree_before`).

So a failed request leaves nothing behind exactly if it did not come to choose from several
credentials (`nothingLeft_iff_not_severalChosen`), and `next_after_failure` is a run where it did.
-/

set_option autoImplicit false

namespace TpmFido2
namespace Ctap2

open Handler CommandM

/-! ## The property -/

/-- The reply is a status other than 0x00, and nothing else. -/
def Reply.IsError (reply : Reply) : Prop := ∃ status : ErrorStatus, reply = .cbor [status.byte]

section
variable (crates : Crates)

/-- **A step leaves nothing behind** of an authentication. -/
structure NothingLeft (t : Step) : Prop where
  pending : t.after.auth.pendingAssertion = none
  /-- No getNextAssertion can follow. -/
  next : ∀ env body, ¬ (step crates t.after (.cbor env (0x08 :: body))).1.succeeded
  cached : ∀ c ∈ t.before.auth.credentials, ∀ c' ∈ t.after.auth.credentials, c'.id = c.id →
    c'.signCount = c.signCount
  stored : t.after.store.credentials = t.before.store.credentials

/-- The request comes to choose from several credentials: it passes the checks, at least two
credentials match, and the user approves. -/
def severalChosen (w : World) (event : Event) : Bool :=
  match event with
  | .cbor env payload =>
    match parsePayload payload with
    | some (.getAssertion, body) =>
      passphraseSet crates (env.store 0) w.store &&
        match assertionChecks crates env w body with
        | some (r, allowList, _) =>
          decide (2 ≤ (matchingCredentialIndexes (readAgain crates env w).auth.credentials r.rpId
            allowList).length) && w.auth.assertionApproved env 1 r.rpId
        | none => false
    | _ => false
  | _ => false

end

variable {crates : Crates} {env : Env} {w : World} {payload body : List UInt8}

/-! ## What is pending afterwards -/

theorem pendingFor_isSome (p : PendingAssertion) (remaining : List Nat) :
    (pendingFor p remaining).isSome = decide (2 ≤ remaining.length + 1) := by
  cases remaining with
  | nil => rfl
  | cons i is => simp [pendingFor]

/-- Reading again does not depend on what is pending. -/
theorem readAgain_enter (command : Ctap2Command) (w : World) :
    readAgain crates env (w.enter command) = (readAgain crates env w).enter command := by
  have hpath : (w.enter command).auth.tpmPath = w.auth.tpmPath := rfl
  rw [readAgain, readAgain, hpath]
  split <;> rfl

/-- After the choice, the credentials that remain are pending, whatever comes of the first. -/
theorem pending_getAssertionReleased {r : GetAssertionRequest}
    {allowList : Option (List Cbor.Value)}
    {userVerified : Bool} (hpending : w.auth.pendingAssertion = none)
    (h : assertionChecks crates env w body = some (r, allowList, userVerified)) :
    (getAssertionReleased crates env body w).2.auth.pendingAssertion.isSome =
      (decide (2 ≤ (matchingCredentialIndexes (readAgain crates env w).auth.credentials r.rpId
        allowList).length) && w.auth.assertionApproved env 1 r.rpId) := by
  have hselect := selectAssertion_of_checks h
  have hpending' : (readAgain crates env w).auth.pendingAssertion = none :=
    (readAgain_looked crates env w).pending.trans hpending
  rw [getAssertionReleased, bind_def]
  cases hidx : matchingCredentialIndexes (readAgain crates env w).auth.credentials r.rpId
      allowList with
  | nil =>
    rw [hidx] at hselect
    simp [hselect, hpending']
  | cons first remaining =>
    rw [hidx] at hselect
    cases happroved : w.auth.assertionApproved env 1 r.rpId with
    | false =>
      rw [happroved] at hselect
      simp [hselect, hpending']
    | true =>
      rw [happroved] at hselect
      simp only [hselect, if_true, Bool.and_true, List.length_cons]
      rw [bind_def]
      simp only [modifyAuth, modify_apply]
      rw [bind_snd fun _ _ ↦ rfl, (releaseAssertion_release _ _ _ _).pendingAssertion]
      exact pendingFor_isSome _ _

/-- **What is pending** after a getAssertion request. -/
theorem pending_getAssertion {event : Event} (h : event.hasCommand .getAssertion) :
    (step crates w event).2.auth.pendingAssertion.isSome = severalChosen crates w event := by
  obtain ⟨env, payload, body, rfl, hp⟩ := exists_payload_of_hasCommand h
  have hnone : (w.enter .getAssertion).auth.pendingAssertion = none := rfl
  have hstore : (w.enter .getAssertion).store = w.store := rfl
  rw [step_cbor hp, gatedCommand_getAssertion]
  simp only [severalChosen, hp]
  rw [bind_snd fun _ _ ↦ rfl, firstAssertion]
  cases hset : passphraseSet crates (env.store 0) w.store with
  | false =>
    rw [bind_of_error _ (requirePassphrase_of_unset rfl (hstore ▸ hset))]
    rfl
  | true =>
    rw [bind_of_ok _ (requirePassphrase_of_set _ (hstore ▸ hset))]
    have hchecks : assertionChecks crates env (w.enter .getAssertion) body =
      assertionChecks crates env w body := rfl
    cases hc : assertionChecks crates env w body with
    | none =>
      obtain ⟨hrefused, hsame⟩ := selectAssertion_of_refused (hchecks.trans hc)
      rw [getAssertionReleased, bind_snd_of_none _ hrefused, hsame.pendingAssertion, hnone]
      rfl
    | some x =>
      obtain ⟨r, allowList, userVerified⟩ := x
      rw [pending_getAssertionReleased hnone (hchecks.trans hc), readAgain_enter]
      rfl

/-- Without a pending assertion getNextAssertion fails. -/
theorem not_succeeded_of_not_pending (h : w.auth.pendingAssertion = none) (env : Env)
    {payload body : List UInt8} (hp : parsePayload payload = some (.getNextAssertion, body)) :
    ¬ (step crates w (.cbor env payload)).1.succeeded := by
  intro hok
  obtain ⟨x, hx, -⟩ := released_of_getNextAssertion (by simp [Event.hasCommand, hp]) hok
  simp only [released, hp] at hx
  cases e : nextAssertion crates env body (w.enter .getNextAssertion) with
  | mk o w' =>
    rw [e] at hx
    cases o with
    | ok y =>
      obtain ⟨_, w₁, e₁, h₁⟩ := bind_ok e
      obtain ⟨_, w₂, e₂, h₂⟩ := bind_ok h₁
      obtain ⟨-, rfl⟩ := throwIf_ok e₂
      obtain ⟨a, w₃, e₃, h₃⟩ := bind_ok h₂
      cases e₃
      obtain ⟨p, w₄, e₄, -⟩ := bind_ok h₃
      obtain ⟨hpending, -⟩ := ofOption_ok e₄
      have hsame : Incidental (w.enter .getNextAssertion) w₂ :=
        Moves.of_eq (requirePassphrase_moves _) e₁
      cases (hsame.pendingAssertion.symm.trans hpending).symm.trans h
    | error e => cases hx
    | panicked => cases hx

/-! ## What a failure does to the counters -/

/-- An error means that nothing was let out. -/
theorem released_of_isError {event : Event} (h : event.hasCommand .getAssertion)
    (herror : (step crates w event).1.IsError) : released crates w event = none := by
  obtain ⟨env, payload, body, rfl, hp⟩ := exists_payload_of_hasCommand h
  obtain ⟨status, hstatus⟩ := herror
  rw [step_cbor hp, gatedCommand_getAssertion, bind_def] at hstatus
  simp only [released, hp]
  cases e : firstAssertion crates env body (w.enter .getAssertion) with
  | mk o w₁ =>
    rw [e] at hstatus
    cases o with
    | ok x =>
      have hbyte : (0x00 : UInt8) = status.byte :=
        (List.cons.inj (Reply.cbor.inj hstatus)).1
      exact absurd hbyte.symm status.byte_ne_zero
    | error _ => rfl
    | panicked => rfl

/-- A getAssertion request that lets nothing out leaves the table, and has the list as it was or
as it is in the table. -/
theorem Effect.of_not_released {event : Event} {w' : World} (h : Effect crates w event w')
    (hget : event.hasCommand .getAssertion) (hnone : released crates w event = none) :
    w'.store.credentials = w.store.credentials ∧
      (w'.auth.credentials = w.auth.credentials ∨
        FromDisk crates w.auth.session.uid w.store w'.auth.credentials) := by
  cases h with
  | kept hsame _ _ _ => exact ⟨hsame.stored, .inl hsame.cached⟩
  | reloaded _ stored cached _ _ _ => exact ⟨stored, .inr cached⟩
  | asserted _ _ _ _ _ stored cached _ _ hrel _ =>
    rw [hnone] at hrel
    cases hrel with
    | failed hsame _ =>
      rw [hsame.stored, hsame.cached]
      exact ⟨stored, cached⟩
  | continued he hp _ _ _ _ _ _ _ _ => exact absurd (he ▸ hget) (not_hasCommand _ hp (by decide))
  | created he hp _ _ _ _ _ _ => exact absurd (he ▸ hget) (not_hasCommand _ hp (by decide))
  | renamed _ _ _ _ _ fresh _ _ => exact absurd hget fresh
  | deleted _ _ _ _ _ _ fresh _ _ => exact absurd hget fresh
  | wiped hreset _ _ _ _ _ _ _ =>
    obtain ⟨env, payload, body, rfl, hp⟩ := exists_payload_of_hasCommand hreset
    exact absurd hget (not_hasCommand env hp (by decide))
  | updated he _ _ _ _ _ _ _ _ => cases he ▸ hget
  | started he _ _ _ _ _ _ => cases he ▸ hget

/-- The counts in memory are the same as before, since those in the table are. -/
theorem signCount_eq_of_not_released {event : Event} (hw : CountersAgree w)
    (hget : event.hasCommand .getAssertion) (hnone : released crates w event = none)
    {c c' : Credential} (hc : c ∈ w.auth.credentials)
    (hc' : c' ∈ (step crates w event).2.auth.credentials) (hid : c'.id = c.id) :
    c'.signCount = c.signCount := by
  have hcopy : (c'.id, c'.signCount.toNat) ∈ copies w := by
    rcases ((step_effect crates w event).of_not_released hget hnone).2 with hsame | hdisk
    · exact mem_copies_of_cached (hsame ▸ hc')
    · exact hdisk.mem_copies hc'
  rw [hid] at hcopy
  exact UInt32.toNat_inj.mp (hw.agree _ _ _ hcopy (mem_copies_of_cached hc))

/-! ## Runs -/

/-- **A failed authentication leaves nothing behind**, in every reachable state, exactly if it did
not come to choose from several credentials. -/
theorem nothingLeft_iff_not_severalChosen (crates : Crates) (env : Env) (tpmPath : Option String)
    (s : Store) (events : List Event) (hdraws : DrawsDistinct s events) (t : Step)
    (ht : t ∈ run crates (newAuthenticator crates env tpmPath s) events)
    (hget : t.input.hasCommand .getAssertion) (herror : t.output.IsError) :
    NothingLeft crates t ↔ ¬ severalChosen crates t.before t.input := by
  have hw := countersAgree_before hdraws ht
  rw [Run.eq_transition_of_mem ht] at herror ⊢
  simp only [Run.transition] at herror ⊢
  have hnone := released_of_isError hget herror
  have hpending : (step crates t.before t.input).2.auth.pendingAssertion.isSome =
    severalChosen crates t.before t.input := pending_getAssertion hget
  constructor
  · intro h
    have hempty : (step crates t.before t.input).2.auth.pendingAssertion = none := h.pending
    rw [← hpending, hempty]
    exact Bool.false_ne_true
  · intro hfew
    have hempty : (step crates t.before t.input).2.auth.pendingAssertion = none := by
      rwa [← hpending, Option.not_isSome_iff_eq_none] at hfew
    exact ⟨hempty, fun env _ ↦ not_succeeded_of_not_pending hempty env rfl,
      fun c hc c' hc' ↦ signCount_eq_of_not_released hw hget hnone hc hc',
      ((step_effect crates t.before t.input).of_not_released hget hnone).1⟩

namespace Sample

/-- The packages of the runs about failures. -/
def failurePackages : Crates := packages [makeCredential "a", getAssertion "a"]

/-- The daemon after registrations with the given random bytes. -/
def registered (randoms : List UInt8) : List Event :=
  setPassphrase :: randoms.map fun random ↦ request (session 1000 random) 0x01 (makeCredential "a")

/-- An authentication whose counter cannot be written. -/
def failingAssertion : Event := request (failingAt 3) 0x02 (getAssertion "a")

end Sample

open Sample in
/-- With one credential, a failed authentication leaves nothing behind. -/
theorem nothingLeft_one_credential :
    let w := newAuthenticator failurePackages (session 1000 0) (some "") Store.fresh
    let t := Run.transition (step failurePackages) (after failurePackages w (registered [1]))
      failingAssertion
    t.before.auth.credentials.length = 1 ∧ t.output = .cbor [ErrorStatus.operationDenied.byte] ∧
      NothingLeft failurePackages t := by
  intro w t
  have herror : t.output = .cbor [ErrorStatus.operationDenied.byte] := by decide +kernel
  have ht : t ∈ run failurePackages w (registered [1] ++ [failingAssertion]) := by
    rw [run, Run.transitions_concat]
    exact List.mem_append_right _ List.mem_cons_self
  exact ⟨by decide +kernel, herror, (nothingLeft_iff_not_severalChosen failurePackages
    (session 1000 0) (some "") Store.fresh _ (by decide +kernel) t ht rfl ⟨_, herror⟩).mpr
      (by decide +kernel)⟩

open Sample in
/-- With two, the second can be used after the request has failed. -/
theorem next_after_failure :
    let w := newAuthenticator failurePackages (session 1000 0) (some "") Store.fresh
    let t := Run.transition (step failurePackages) (after failurePackages w (registered [1, 2]))
      failingAssertion
    t.output = .cbor [ErrorStatus.operationDenied.byte] ∧
      t.after.auth.pendingAssertion.isSome ∧
      (step failurePackages t.after nextEvent).1.succeeded ∧
      (released failurePackages t.after nextEvent).map (fun x ↦ x.credential.id) =
        some (credentialId 2) ∧ ¬ NothingLeft failurePackages t := by
  intro w t
  have hpending : t.after.auth.pendingAssertion.isSome := by decide +kernel
  refine ⟨by decide +kernel, hpending, by decide +kernel, by decide +kernel, fun h ↦ ?_⟩
  rw [h.pending] at hpending
  cases hpending

end Ctap2
end TpmFido2
