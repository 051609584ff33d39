import TpmFido2.Ctap2.Sample
import TpmFido2.Ctap2.StepEffects

/-!
# Pending assertions

A getAssertion request that several credentials match leaves a pending assertion behind: the
indexes of the credentials that are still to be offered, into the list in memory.  The user has
approved these credentials for one RP, and getNextAssertion signs with one after the other without
asking again.  So between the two the indexes must go on to denote what they denoted.

`PendingSound` says that they do.  Every command but one either keeps the list as it is up to
counters and user names, or drops the pending assertion.  The exception is deleteCredential, which
shortens the list and keeps the pending assertion: `assertionsApproved_of_sparesPending` holds for
runs in which it only removes credentials behind the pending ones, and
`getNextAssertion_other_rp` is a run in which it does not, and an assertion for another RP gets
out.
-/

set_option autoImplicit false

namespace TpmFido2
namespace Ctap2

open Handler CommandM

/-! ## The property -/

/-- The step is a getAssertion request that left an assertion pending, for the credentials that
matched its RP and its allow list. -/
structure Origin (crates : Crates) (o : Step) (p : PendingAssertion)
    (allowList : Option (List Cbor.Value)) : Prop where
  request : ∃ env payload body request, o.input = .cbor env payload ∧
    parsePayload payload = some (.getAssertion, body) ∧ decodeMap crates body = .ok request ∧
    mapText request (.int 1) = some p.rpId ∧ mapArray request (.int 3) = allowList
  pending : o.after.auth.pendingAssertion = some p
  matching : ∀ i ∈ p.credentialIndexes, ∃ c, o.after.auth.credentials[i]? = some c ∧
    matchesRequest p.rpId allowList c

/-- The pending assertion is what is left of the one the last getAssertion request created, and its
indexes denote in `cs` what they denoted then. -/
def Approved (crates : Crates) (past : List Step) (p : PendingAssertion)
    (cs : List Credential) : Prop :=
  ∃ pre o mid p₀ allowList, past = pre ++ o :: mid ∧ Origin crates o p₀ allowList ∧
    (∀ m ∈ mid, ¬ m.input.hasCommand .getAssertion) ∧
    p = { p₀ with credentialIndexes := p.credentialIndexes } ∧
    p.credentialIndexes <:+ p₀.credentialIndexes ∧
    ∀ i ∈ p.credentialIndexes, ∃ c₀ c, o.after.auth.credentials[i]? = some c₀ ∧
      cs[i]? = some c ∧ c.id = c₀.id ∧ c.rpId = c₀.rpId

/-- **Indexes stay valid.**  Whatever is pending is approved, in the list in memory. -/
def PendingSound (crates : Crates) (past : List Step) (w : World) : Prop :=
  ∀ p, w.auth.pendingAssertion = some p → Approved crates past p w.auth.credentials

/-- The credential is one of those that matched the last getAssertion request. -/
def MatchedLast (crates : Crates) (past : List Step) (c : Credential) : Prop :=
  ∃ pre o mid p allowList i c₀, past = pre ++ o :: mid ∧ Origin crates o p allowList ∧
    (∀ m ∈ mid, ¬ m.input.hasCommand .getAssertion) ∧ i ∈ p.credentialIndexes ∧
    o.after.auth.credentials[i]? = some c₀ ∧ matchesRequest p.rpId allowList c₀ ∧
    c.id = c₀.id ∧ c.rpId = c₀.rpId

/-- **Assertions are released for the RP the user approved.**  At every point of the run the
pending indexes are valid, and each success of getNextAssertion is an assertion with a credential
that matched the last getAssertion request and is still in the store. -/
structure AssertionsApproved (crates : Crates) (w : World) (events : List Event) : Prop where
  pending : ∀ n, PendingSound crates (run crates w (events.take n))
    (after crates w (events.take n))
  released : ∀ pre t post, run crates w events = pre ++ t :: post →
    t.input.hasCommand .getNextAssertion → t.output.succeeded →
    ∃ x, released crates t.before t.input = some x ∧ t.output = .cbor (x.response crates 0) ∧
      MatchedLast crates pre x.credential ∧
      ∃ row ∈ t.after.store.credentials.rows, row.credentialId = x.credential.id

/-- The event is no request to delete a credential whose position is not behind every pending
index. -/
def sparesPending (crates : Crates) (w : World) (event : Event) : Bool :=
  match w.auth.pendingAssertion, deletionTarget crates w event with
  | some p, some index => p.credentialIndexes.all (· < index)
  | _, _ => true

variable {crates : Crates}

/-! ## One step -/

/-- The two lists have the same credentials at an index, as far as an assertion goes. -/
def SameAt (cs cs' : List Credential) (i : Nat) : Prop :=
  ∀ c, cs[i]? = some c → ∃ c', cs'[i]? = some c' ∧ c'.id = c.id ∧ c'.rpId = c.rpId ∧
    c'.discoverable = c.discoverable

theorem SameAt.refl (cs : List Credential) (i : Nat) : SameAt cs cs i :=
  fun c h ↦ ⟨c, h, rfl, rfl, rfl⟩

/-- A change of one credential that keeps what an assertion depends on. -/
theorem SameAt.modify (cs : List Credential) (j : Nat) {f : Credential → Credential}
    (hf : ∀ c, (f c).id = c.id ∧ (f c).rpId = c.rpId ∧ (f c).discoverable = c.discoverable)
    (i : Nat) : SameAt cs (cs.modify j f) i := by
  intro c hc
  rw [List.getElem?_modify, hc]
  by_cases hij : j = i
  · exact ⟨f c, by simp [hij], hf c⟩
  · exact ⟨c, by simp [hij], rfl, rfl, rfl⟩

/-- A credential behind an index can be removed. -/
theorem SameAt.eraseIdx (cs : List Credential) {i j : Nat} (h : i < j) :
    SameAt cs (cs.eraseIdx j) i := by
  intro c hc
  exact ⟨c, by rw [List.getElem?_eraseIdx_of_lt h, hc], rfl, rfl, rfl⟩

theorem matchesRequest_congr {rpId : String} {allowList : Option (List Cbor.Value)}
    {c c' : Credential} (hid : c'.id = c.id) (hrp : c'.rpId = c.rpId)
    (hdisc : c'.discoverable = c.discoverable) (h : matchesRequest rpId allowList c) :
    matchesRequest rpId allowList c' := by
  unfold matchesRequest at h ⊢
  rw [hid, hrp, hdisc]
  exact h

/-- Letting an assertion out changes nothing an assertion depends on. -/
theorem Release.sameAt {w w' : World} {index : Nat} {x : Option Assertion}
    (h : Release w index x w') (i : Nat) : SameAt w.auth.credentials w'.auth.credentials i := by
  cases h with
  | failed h _ =>
    rw [h.cached]
    exact .refl _ i
  | done _ _ _ _ _ cached _ =>
    rw [cached]
    refine SameAt.modify _ _ ?_ i
    exact fun c ↦ ⟨rfl, rfl, rfl⟩

theorem Release.pendingAssertion {w w' : World} {index : Nat} {x : Option Assertion}
    (h : Release w index x w') : w'.auth.pendingAssertion = w.auth.pendingAssertion := by
  cases h with
  | failed _ pending => exact pending
  | done _ _ _ _ _ _ pending => exact pending

theorem pendingFor_eq_some {p p' : PendingAssertion} {remaining : List Nat}
    (h : pendingFor p remaining = some p') : p' = { p with credentialIndexes := remaining } := by
  rw [pendingFor] at h
  split at h
  · cases h
  · exact (Option.some.inj h).symm

theorem mem_matchingCredentialIndexes {cs : List Credential} {rpId : String}
    {allowList : Option (List Cbor.Value)} {i : Nat}
    (h : i ∈ matchingCredentialIndexes cs rpId allowList) :
    ∃ c, cs[i]? = some c ∧ matchesRequest rpId allowList c := by
  obtain ⟨-, h⟩ := List.mem_filter.mp h
  cases hc : cs[i]? with
  | none =>
    rw [hc] at h
    cases h
  | some c =>
    rw [hc] at h
    exact ⟨c, rfl, h⟩

/-- What is approved stays so over a step that is no getAssertion, for the indexes that are left
and still denote the same. -/
theorem Approved.concat {past : List Step} {p : PendingAssertion} {cs cs' : List Credential}
    {t : Step} {indexes : List Nat} (h : Approved crates past p cs)
    (hfresh : ¬ t.input.hasCommand .getAssertion) (hsuffix : indexes <:+ p.credentialIndexes)
    (hsame : ∀ i ∈ indexes, SameAt cs cs' i) :
    Approved crates (past ++ [t]) { p with credentialIndexes := indexes } cs' := by
  obtain ⟨pre, o, mid, p₀, allowList, rfl, horigin, hmid, hp, hindexes, hdenotes⟩ := h
  refine ⟨pre, o, mid ++ [t], p₀, allowList, by simp, horigin, fun m hm ↦ ?_, ?_,
    hsuffix.trans hindexes, fun i hi ↦ ?_⟩
  · rcases List.mem_append.mp hm with hm | hm
    · exact hmid m hm
    · rw [List.mem_singleton.mp hm]
      exact hfresh
  · rw [hp]
  · obtain ⟨c₀, c, hc₀, hc, hid, hrp⟩ := hdenotes i (hsuffix.subset hi)
    obtain ⟨c', hc', hid', hrp', -⟩ := hsame i hi c hc
    exact ⟨c₀, c', hc₀, hc', hid'.trans hid, hrp'.trans hrp⟩

/-- The pending assertion goes on unchanged. -/
theorem PendingSound.kept {past : List Step} {w w' : World} {t : Step}
    (h : PendingSound crates past w)
    (hpending : w'.auth.pendingAssertion = none ∨
      w'.auth.pendingAssertion = w.auth.pendingAssertion)
    (hfresh : t.input.hasCommand .getAssertion → w'.auth.pendingAssertion = none)
    (hsame : ∀ p, w.auth.pendingAssertion = some p → ∀ i ∈ p.credentialIndexes,
      SameAt w.auth.credentials w'.auth.credentials i) :
    PendingSound crates (past ++ [t]) w' := by
  intro p hp
  rcases hpending with hnone | hsame'
  · rw [hnone] at hp
    cases hp
  · have hp₀ : w.auth.pendingAssertion = some p := hsame' ▸ hp
    refine (h p hp₀).concat (fun hget ↦ ?_) (List.suffix_refl _) (hsame p hp₀)
    rw [hfresh hget] at hp
    cases hp

theorem PendingSound.dropped {past : List Step} {w : World}
    (h : w.auth.pendingAssertion = none) : PendingSound crates past w := by
  intro p hp
  rw [h] at hp
  cases hp

/-- **The step lemma.** -/
theorem PendingSound.step {past : List Step} {w : World} {event : Event}
    (h : PendingSound crates past w) (hspares : sparesPending crates w event) :
    PendingSound crates (past ++ [Run.transition (step crates) w event])
      (step crates w event).2 := by
  have heffect := step_effect crates w event
  have htransition : (Run.transition (Ctap2.step crates) w event).after =
    (Ctap2.step crates w event).2 := rfl
  have hinput : (Run.transition (Ctap2.step crates) w event).input = event := rfl
  generalize Run.transition (Ctap2.step crates) w event = t at htransition hinput ⊢
  generalize (Ctap2.step crates w event).2 = w' at heffect htransition ⊢
  subst hinput
  cases heffect with
  | kept hsame fresh _ _ =>
    refine h.kept hsame.pending fresh fun p _ i _ ↦ ?_
    rw [hsame.cached]
    exact .refl _ i
  | reloaded _ _ _ pending _ _ => exact .dropped pending
  | created _ _ _ _ _ pending _ _ => exact .dropped pending
  | wiped _ _ _ _ _ pending _ _ => exact .dropped pending
  | started _ _ _ _ pending _ _ => exact .dropped pending
  | @asserted w₁ w' env payload body request first remaining p he hp hreq hrp _ _ _ hidx pending
      hrel _ =>
    intro p' hp'
    rw [hrel.pendingAssertion, pending] at hp'
    have hp₀ := pendingFor_eq_some hp'
    subst hp₀
    -- this request is the origin: what matched is in the list it left
    have hmatching : ∀ i ∈ remaining, ∃ c, w'.auth.credentials[i]? = some c ∧
        matchesRequest p.rpId (mapArray request (.int 3)) c := by
      intro i hi
      have hmem : i ∈ matchingCredentialIndexes w₁.auth.credentials p.rpId
          (mapArray request (.int 3)) := hidx ▸ List.mem_cons_of_mem first hi
      obtain ⟨c, hc, hmatch⟩ := mem_matchingCredentialIndexes hmem
      obtain ⟨c', hc', hid, hrp', hdisc⟩ := hrel.sameAt i c hc
      exact ⟨c', hc', matchesRequest_congr hid hrp' hdisc hmatch⟩
    refine ⟨past, t, [], { p with credentialIndexes := remaining }, mapArray request (.int 3), rfl,
      ⟨⟨env, payload, body, request, he, hp, hreq, hrp, rfl⟩, ?_, ?_⟩, fun _ hm ↦ (nomatch hm), rfl,
      List.suffix_refl _, fun i hi ↦ ?_⟩
    · rw [htransition, hrel.pendingAssertion, pending, hp']
    · rw [htransition]
      exact hmatching
    · obtain ⟨c, hc, -⟩ := hmatching i hi
      rw [htransition]
      exact ⟨c, c, hc, hc, rfl, rfl⟩
  | @continued w₁ w' env payload body index remaining p he hp hpending hidx _ _ cached pending hrel
      _ =>
    intro p' hp'
    rw [hrel.pendingAssertion, pending] at hp'
    have hp₀ := pendingFor_eq_some hp'
    subst hp₀
    have hfresh : ¬ t.input.hasCommand .getAssertion := he ▸ not_hasCommand env hp (by decide)
    refine (h p hpending).concat hfresh ?_ fun i _ ↦ ?_
    · rw [hidx]
      exact List.suffix_cons index remaining
    · rw [← cached]
      exact hrel.sameAt i
  | renamed _ _ _ cached pending fresh _ _ =>
    refine h.kept pending (fun hget ↦ absurd hget fresh) fun p _ i _ ↦ ?_
    rw [cached]
    refine SameAt.modify _ _ ?_ i
    exact fun c ↦ ⟨rfl, rfl, rfl⟩
  | @deleted w' index id _ htarget _ _ cached pending fresh _ _ =>
    refine h.kept pending (fun hget ↦ absurd hget fresh) fun p hp i hi ↦ ?_
    rw [cached]
    simp only [sparesPending, hp, htarget, List.all_eq_true, decide_eq_true_eq] at hspares
    exact .eraseIdx _ (hspares i hi)
  | updated he _ _ _ _ cached pending _ _ =>
    refine h.kept (.inr pending) (fun hget ↦ ?_) fun p _ i _ ↦ ?_
    · rw [he] at hget
      cases hget
    · rw [cached]
      exact .refl _ i

/-! ## Runs -/

/-- What getNextAssertion lets out was approved, and its row is there. -/
theorem MatchedLast.of_released {past : List Step} {w : World} {event : Event} {x : Assertion}
    (h : PendingSound crates past w) (hnext : event.hasCommand .getNextAssertion)
    (hx : released crates w event = some x) :
    MatchedLast crates past x.credential ∧
      ∃ row ∈ (step crates w event).2.store.credentials.rows,
        row.credentialId = x.credential.id := by
  have heffect := step_effect crates w event
  generalize (step crates w event).2 = w' at heffect ⊢
  cases heffect with
  | continued he hp hpending hidx _ stored cached _ hrel _ =>
    rw [hx] at hrel
    cases hrel with
    | done _ credential _ row stored' _ _ =>
      constructor
      · obtain ⟨pre, o, mid, p₀, allowList, rfl, horigin, hmid, hp₀, hindexes, hdenotes⟩ :=
          h _ hpending
        rw [hidx] at hindexes hdenotes
        obtain ⟨c₀, c, hc₀, hc, hid, hrp⟩ := hdenotes _ List.mem_cons_self
        rw [cached, hc] at credential
        cases credential
        have hmem := hindexes.subset List.mem_cons_self
        obtain ⟨c₁, hc₁, hmatch⟩ := horigin.matching _ hmem
        rw [hc₀] at hc₁
        cases hc₁
        exact ⟨pre, o, mid, p₀, allowList, _, c₀, rfl, horigin, hmid, hmem, hc₀, hmatch, hid, hrp⟩
      · obtain ⟨row, hrow, hid⟩ := row
        rw [stored']
        exact ⟨_, Table.mem_update_self hrow hid, hid⟩
  | asserted he hp _ _ _ _ _ _ _ _ _ =>
    obtain ⟨env, payload, body, he', hp'⟩ := exists_payload_of_hasCommand hnext
    rw [he] at he'
    cases he'
    rw [hp] at hp'
    cases hp'
  | _ =>
    -- nothing else lets an assertion out
    have hnone : released crates w event = none := by assumption
    cases hnone.symm.trans hx

/-- **Assertions are released for the RP the user approved, as long as deletions spare what is
pending.** -/
theorem assertionsApproved_of_sparesPending (env : Env) (tpmPath : Option String) (s : Store)
    (events : List Event)
    (hspares : ∀ t ∈ run crates (newAuthenticator crates env tpmPath s) events,
      sparesPending crates t.before t.input) :
    AssertionsApproved crates (newAuthenticator crates env tpmPath s) events := by
  have hinit : PendingSound crates [] (newAuthenticator crates env tpmPath s) :=
    .dropped (newAuthenticator_idle crates env tpmPath s).2
  constructor
  · intro n
    refine Run.history_invariant (H := PendingSound crates)
      (C := fun w event ↦ sparesPending crates w event) hinit (fun _ _ _ h hc ↦ h.step hc) _
      fun t ht ↦ hspares t ?_
    rw [← List.take_append_drop n events, run, Run.transitions_append]
    exact List.mem_append_left _ ht
  · intro pre t post hrun hnext hok
    obtain ⟨hsound, -, ht⟩ := Run.history_invariant_before (H := PendingSound crates)
      (C := fun w event ↦ sparesPending crates w event) hinit (fun _ _ _ h hc ↦ h.step hc)
      hspares hrun
    have houtput : t.output = (step crates t.before t.input).1 :=
      congrArg Run.Transition.output ht
    have hafter : t.after = (step crates t.before t.input).2 := congrArg Run.Transition.after ht
    rw [houtput] at hok
    obtain ⟨x, hx, hresponse⟩ := released_of_getNextAssertion hnext hok
    obtain ⟨hmatched, hrow⟩ := MatchedLast.of_released hsound hnext hx
    exact ⟨x, hx, houtput.trans hresponse, hmatched, hafter ▸ hrow⟩

/-! ## A deletion in between -/

/-- The RP a getAssertion request is for. -/
def assertionRp (crates : Crates) (event : Event) : Option String :=
  match event with
  | .cbor _ payload =>
    match parsePayload payload with
    | some (_, body) => (decodeMap crates body).toOption.bind fun request ↦ mapText request (.int 1)
    | none => none
  | _ => none

theorem Origin.assertionRp_eq {o : Step} {p : PendingAssertion}
    {allowList : Option (List Cbor.Value)} (h : Origin crates o p allowList) :
    o.input.hasCommand .getAssertion ∧ assertionRp crates o.input = some p.rpId := by
  obtain ⟨env, payload, body, request, he, hp, hrequest, hrp, -⟩ := h.request
  rw [he]
  exact ⟨by simp [Event.hasCommand, hp], by simp [assertionRp, hp, hrequest, Except.toOption, hrp]⟩

/-- What is released after nothing but requests for one RP is for that RP. -/
theorem MatchedLast.rpId_eq {past : List Step} {c : Credential} {rpId : String}
    (h : MatchedLast crates past c)
    (hpast : ∀ t ∈ past, t.input.hasCommand .getAssertion →
      assertionRp crates t.input = some rpId) : c.rpId = rpId := by
  obtain ⟨pre, o, mid, p, allowList, i, c₀, rfl, horigin, -, -, -, hmatch, -, hrp⟩ := h
  obtain ⟨hcommand, hassertion⟩ := horigin.assertionRp_eq
  have hp := hpast o (by simp) hcommand
  rw [hassertion] at hp
  unfold matchesRequest at hmatch
  rw [Bool.and_eq_true, decide_eq_true_eq] at hmatch
  rw [hrp, hmatch.1, Option.some.inj hp]

namespace Sample

/-- The requests of the two runs. -/
def pendingPackages : Crates :=
  packages [getKeyAgreement, setPin [49, 50, 51, 52], getToken, makeCredential "a",
    makeCredential "b", getAssertion "a", deleteCredentialWithToken (credentialId 1)]

/-- A user with a PIN and a token registers two credentials for one RP and one for another, and
authenticates to the first RP. -/
def pendingEvents : List Event :=
  setPassphrase :: choosePin 1000 ++
    [request (session 1000 0) 0x06 getToken,
      request (session 1000 1) 0x01 (makeCredential "a"),
      request (session 1000 2) 0x01 (makeCredential "a"),
      request (session 1000 3) 0x01 (makeCredential "b"),
      request (session 1000 0) 0x02 (getAssertion "a")]

/-- The credential of the first assertion is deleted. -/
def pendingDeletion : Event :=
  request (session 1000 0) 0x0a (deleteCredentialWithToken (credentialId 1))

/-- getNextAssertion. -/
def nextEvent : Event := .cbor (session 1000 0) [0x08]

end Sample

open Sample in
/-- Without a deletion the second assertion is for the second credential. -/
theorem assertionsApproved_of_sparesPending_next :
    (run pendingPackages (newAuthenticator pendingPackages (session 1000 0) (some "") Store.fresh)
      (pendingEvents ++ [nextEvent])).getLast?.any (fun t ↦ t.output.succeeded) ∧
    AssertionsApproved pendingPackages
      (newAuthenticator pendingPackages (session 1000 0) (some "") Store.fresh)
      (pendingEvents ++ [nextEvent]) :=
  ⟨by decide +kernel, assertionsApproved_of_sparesPending (session 1000 0) (some "") Store.fresh
    (pendingEvents ++ [nextEvent]) (by decide +kernel)⟩

open Sample in
/-- With the deletion it is for the credential of the other RP, which the user was never asked
about. -/
theorem getNextAssertion_other_rp :
    let w₀ := newAuthenticator pendingPackages (session 1000 0) (some "") Store.fresh
    let w := after pendingPackages w₀ (pendingEvents ++ [pendingDeletion])
    (step pendingPackages w nextEvent).1.succeeded ∧
      (released pendingPackages w nextEvent).map (fun x ↦ x.credential.rpId) = some "b" ∧
      (∀ event ∈ pendingEvents, event.hasCommand .getAssertion →
        assertionRp pendingPackages event = some "a") ∧
      ¬ AssertionsApproved pendingPackages w₀
        ((pendingEvents ++ [pendingDeletion]) ++ [nextEvent]) := by
  have hother : (released pendingPackages (after pendingPackages
      (newAuthenticator pendingPackages (session 1000 0) (some "") Store.fresh)
      (pendingEvents ++ [pendingDeletion])) nextEvent).map (fun x ↦ x.credential.rpId) =
      some "b" := by decide +kernel
  refine ⟨by decide +kernel, hother, by decide +kernel, fun h ↦ ?_⟩
  obtain ⟨x, hx, -, hmatched, -⟩ := h.released _ _ [] (Run.transitions_concat _ _ _) rfl
    (by decide +kernel)
  have hrp : x.credential.rpId = "a" := by
    refine hmatched.rpId_eq fun t ht ↦ ?_
    have hall : ∀ event ∈ pendingEvents ++ [pendingDeletion], event.hasCommand .getAssertion →
        assertionRp pendingPackages event = some "a" := by decide +kernel
    exact hall t.input (Run.input_mem_of_mem_transitions ht)
  simp only [Run.transition] at hx
  rw [hx, Option.map_some, hrp] at hother
  exact absurd hother (by decide)

end Ctap2
end TpmFido2
