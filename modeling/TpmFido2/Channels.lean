import TpmFido2.Transport
import TpmFido2.Ctap2.CommandCodes
import TpmFido2.Ctap2.FailedAssertions
import TpmFido2.Lib.Lists

/-!
# Two clients on two channels

Reports carry a channel ID, and the packet handler reassembles the requests of each channel by
themselves.  Behind it there is one authenticator with one pending assertion and one enumeration,
and neither knows the channel of the request that left it.  So a request on one channel can go on
with what a request on another has begun (`continued_from_another_channel`).

What a request finds is what the request before it left, whatever their channels.  Most commands
drop it before they do anything else; getNextAssertion keeps the pending assertion, and credential
management keeps both.  `channelsApart_of_handsOver` shows that the channels are apart as long as a
client that takes over from another begins with a command that drops what it finds, or finds
nothing: then whatever there is has been left on the channel of the last request
(`LeftOnLast.step`).
-/

set_option autoImplicit false

namespace TpmFido2
namespace CtapHid

open Ctap2 (World Env Ctap2Command parsePayload managementRequest)

/-! ## The property -/

/-- The CTAP2 request that a report completes, with its channel. -/
def completed (h : PacketHandler World) (report : List UInt8) : Option (UInt32 × List UInt8) :=
  match (receive report h.pending).1 with
  | .dispatch cid .cbor payload => some (cid, payload)
  | _ => none

/-- The channel and the command of the request that a step completes, if the command is known. -/
def requested (t : HidStep) : Option (UInt32 × Ctap2Command) :=
  (completed t.before t.input.2).bind fun x ↦ (parsePayload x.2).map fun y ↦ (x.1, y.1)

/-- The channel and the sub-command of a management request. -/
def managed (crates : Crates) (t : HidStep) : Option (UInt32 × Int) :=
  (completed t.before t.input.2).bind fun x ↦
    (managementRequest crates (.cbor t.input.1 x.2)).map fun y ↦ (x.1, y.2.2)

/-- The response of the step has the status 0x00. -/
def succeeded (t : HidStep) : Bool :=
  match t.output with
  | .ok (some (.response r)) => (Ctap2.Reply.cbor r.payload).succeeded
  | _ => false

/-- The channel of a request. -/
def channel (t : HidStep) : Option UInt32 := (requested t).map Prod.fst

/-- The channel of a getAssertion request. -/
def assertionChannel (t : HidStep) : Option UInt32 :=
  ((requested t).filter fun x ↦ x.2 = .getAssertion).map Prod.fst

/-- The channel of a request that has begun an enumeration. -/
def enumerationChannel (crates : Crates) (t : HidStep) : Option UInt32 :=
  ((managed crates t).filter fun x ↦ (x.2 = 2 || x.2 = 4) && succeeded t).map Prod.fst

/-- The last value of a past. -/
def latest (f : HidStep → Option UInt32) (past : List HidStep) : Option UInt32 :=
  (past.filterMap f).getLast?

/-- **Channels are apart.**  A request that goes on with something is on the channel of the request
that began it. -/
structure ChannelsApart (crates : Crates) (w : World) (inputs : List (Env × List UInt8)) :
    Prop where
  assertions : ∀ pre t post cid, hidRun crates w inputs = pre ++ t :: post →
    requested t = some (cid, .getNextAssertion) → succeeded t →
    ∀ other, latest assertionChannel pre = some other → other = cid
  enumerations : ∀ pre t post cid n, hidRun crates w inputs = pre ++ t :: post →
    managed crates t = some (cid, n) → n = 3 ∨ n = 5 → succeeded t →
    ∀ other, latest (enumerationChannel crates) pre = some other → other = cid

/-! ## The condition -/

/-- The command finds neither a pending assertion nor an enumeration, or drops what it finds. -/
def findsNothing (w : World) (command : Ctap2Command) : Bool :=
  (w.auth.pendingAssertion.isNone || command ∉ [.getNextAssertion, .credentialManagement]) &&
    (w.auth.management.isNone || command ≠ .credentialManagement)

/-- The request of the step is on the channel of the last one, or finds nothing. -/
def handedOver (last : Option UInt32) (t : HidStep) : Bool :=
  (requested t).all fun x ↦ last.all (· = x.1) || findsNothing t.before.authenticator x.2

/-- A client that takes over from another finds nothing. -/
def handsOver : Option UInt32 → List HidStep → Bool
  | _, [] => true
  | last, t :: steps => handedOver last t && handsOver ((channel t).or last) steps

theorem latest_concat (f : HidStep → Option UInt32) (past : List HidStep) (t : HidStep) :
    latest f (past ++ [t]) = (f t).or (latest f past) := by
  rw [latest, List.filterMap_append, List.getLast?_append]
  cases h : f t <;> simp [h, latest]

theorem latest_cons (f : HidStep → Option UInt32) (t : HidStep) (past : List HidStep) :
    latest f (t :: past) = (latest f past).or (f t) := by
  rw [← List.singleton_append, latest, List.filterMap_append, List.getLast?_append]
  cases h : f t <;> simp [h, latest]

/-- What the condition says at one step. -/
theorem handedOver_of_handsOver {last : Option UInt32} {pre post : List HidStep} {t : HidStep}
    (h : handsOver last (pre ++ t :: post)) : handedOver ((latest channel pre).or last) t := by
  induction pre generalizing last with
  | nil => exact (Bool.and_eq_true_iff.mp h).1
  | cons u pre ih =>
    rw [latest_cons, Option.or_assoc]
    exact ih (Bool.and_eq_true_iff.mp h).2

theorem handsOver_of_append {last : Option UInt32} {pre post : List HidStep}
    (h : handsOver last (pre ++ post)) : handsOver last pre := by
  induction pre generalizing last with
  | nil => rfl
  | cons u pre ih =>
    obtain ⟨hu, hpre⟩ := Bool.and_eq_true_iff.mp h
    exact Bool.and_eq_true_iff.mpr ⟨hu, ih hpre⟩

variable {crates : Crates} {h : PacketHandler World} {input : Env × List UInt8}

/-! ## One step -/

/-- A report that completes a CTAP2 request is a step of the authenticator. -/
theorem step_of_completed {cid : UInt32} {payload : List UInt8}
    (hc : completed h input.2 = some (cid, payload)) :
    (PacketHandler.step (ctap2Authn crates) h input).2.authenticator =
        (Ctap2.step crates h.authenticator (.cbor input.1 payload)).2 ∧
      succeeded (Run.transition (PacketHandler.step (ctap2Authn crates)) h input) =
        (Ctap2.step crates h.authenticator (.cbor input.1 payload)).1.succeeded := by
  rw [completed] at hc
  split at hc
  · next hverdict =>
    cases hc
    cases hr : receive input.2 h.pending with
    | mk verdict pending =>
      rw [hr] at hverdict
      cases hverdict
      have hstep : PacketHandler.step (ctap2Authn crates) h input = PacketHandler.respond
          (PacketHandler.dispatch (ctap2Authn crates) input.1 cid .cbor payload
            { h with pending := pending }) := by
        simp only [PacketHandler.step, PacketHandler.handlePacket, hr]
      simp only [succeeded, Run.transition, hstep]
      simp only [PacketHandler.dispatch, ctap2Authn, Ctap2.step]
      cases Ctap2.handleCbor crates input.1 payload h.authenticator with
      | mk o w' =>
        cases o with
        | ok response => exact ⟨rfl, rfl⟩
        | error e => exact e.elim
        | panicked => exact ⟨rfl, rfl⟩
  · cases hc

/-- Any other report leaves what there is, or cancels it. -/
theorem step_of_not_completed (hc : completed h input.2 = none) :
    (PacketHandler.step (ctap2Authn crates) h input).2.authenticator = h.authenticator ∨
      (PacketHandler.step (ctap2Authn crates) h input).2.authenticator =
        { h.authenticator with auth := h.authenticator.auth.cancelPending } := by
  rw [PacketHandler.step, PacketHandler.handlePacket]
  rw [completed] at hc
  cases hr : receive input.2 h.pending with
  | mk verdict pending =>
    rw [hr] at hc
    cases verdict with
    | ignored => exact .inl rfl
    | reply response => exact .inl rfl
    | needMore => exact .inl rfl
    | panicked => exact .inl rfl
    | dispatch cid command payload =>
      cases command with
      | cbor => cases hc
      | cancel => exact .inr rfl
      | ping => exact .inl rfl
      | wink => exact .inl rfl
      | error => exact .inl rfl
      | init =>
        dsimp only [PacketHandler.dispatch]
        split <;> exact .inl rfl

/-- To enter a command twice makes no difference. -/
theorem step_enter {w : World} {env : Env} {payload body : List UInt8} {command : Ctap2Command}
    (hp : parsePayload payload = some (command, body)) :
    Ctap2.step crates (w.enter command) (.cbor env payload) =
      Ctap2.step crates w (.cbor env payload) := by
  have henter : (w.enter command).enter command = w.enter command := by
    simp only [World.enter, Ctap2.Authenticator.enter]
    split <;> split <;> rfl
  rw [Ctap2.step_cbor hp, Ctap2.step_cbor hp, henter]

/-- What a command that is no getAssertion leaves pending, it has found. -/
theorem pending_of_step {w : World} {env : Env} {payload body : List UInt8} {command : Ctap2Command}
    (hp : parsePayload payload = some (command, body)) (hne : command ≠ .getAssertion)
    (hafter : (Ctap2.step crates w (.cbor env payload)).2.auth.pendingAssertion ≠ none) :
    (w.enter command).auth.pendingAssertion ≠ none := by
  rw [← step_enter hp] at hafter
  intro hnone
  have heffect := Ctap2.step_effect crates (w.enter command) (.cbor env payload)
  generalize (Ctap2.step crates (w.enter command) (.cbor env payload)).2 = w' at heffect hafter
  have of_kept : w'.auth.pendingAssertion = none ∨
      w'.auth.pendingAssertion = (w.enter command).auth.pendingAssertion → False := by
    rintro (h | h)
    · exact hafter h
    · exact hafter (h.trans hnone)
  cases heffect with
  | kept hsame _ _ _ => exact of_kept hsame.pending
  | reloaded _ _ _ pending _ _ => exact hafter pending
  | asserted he hp' _ _ _ _ _ _ _ _ _ =>
    cases he
    rw [hp] at hp'
    cases hp'
    exact hne rfl
  | continued _ _ hpending _ _ _ _ _ _ _ => exact absurd hnone (by rw [hpending]; simp)
  | created _ _ _ _ _ pending _ _ => exact hafter pending
  | renamed _ _ _ _ pending _ _ _ => exact of_kept pending
  | deleted _ _ _ _ _ pending _ _ _ => exact of_kept pending
  | wiped _ _ _ _ _ pending _ _ => exact hafter pending
  | updated he _ _ _ _ _ _ _ _ => cases he
  | started _ _ _ _ pending _ _ => exact hafter pending

theorem enter_of_findsNothing {w : World} {command : Ctap2Command}
    (h : findsNothing w command) :
    (w.enter command).auth.pendingAssertion = none ∧ (w.enter command).auth.management = none := by
  simp only [findsNothing, Bool.and_eq_true, Bool.or_eq_true, Option.isNone_iff_eq_none,
    decide_eq_true_eq, List.mem_cons, List.not_mem_nil, or_false] at h
  constructor
  · simp only [World.enter, Ctap2.Authenticator.enter]
    split
    · next hc => exact h.1.resolve_right (absurd hc)
    · rfl
  · simp only [World.enter, Ctap2.Authenticator.enter]
    split
    · next hc => exact h.2.resolve_right (absurd hc)
    · rfl

/-- What is found was left on the channel it is found on. -/
theorem eq_of_handedOver {t : HidStep} {cid other : UInt32} {command : Ctap2Command}
    (hover : handedOver (some other) t) (hrequested : requested t = some (cid, command))
    (hfinds : (t.before.authenticator.enter command).auth.pendingAssertion ≠ none ∨
      (t.before.authenticator.enter command).auth.management ≠ none) : other = cid := by
  rw [handedOver, hrequested, Option.all_some, Option.all_some, Bool.or_eq_true,
    decide_eq_true_eq] at hover
  rcases hover with hsame | hnothing
  · exact hsame
  · obtain ⟨hpending, hmanagement⟩ := enter_of_findsNothing hnothing
    rcases hfinds with hfinds | hfinds
    · exact absurd hpending hfinds
    · exact absurd hmanagement hfinds

theorem pendingAssertion_of_enter {w : World} {command : Ctap2Command}
    (h : (w.enter command).auth.pendingAssertion ≠ none) : w.auth.pendingAssertion ≠ none := by
  intro hnone
  apply h
  simp only [World.enter, Ctap2.Authenticator.enter, hnone, ite_self]

theorem management_of_enter {w : World} {command : Ctap2Command}
    (h : (w.enter command).auth.management ≠ none) : w.auth.management ≠ none := by
  intro hnone
  apply h
  simp only [World.enter, Ctap2.Authenticator.enter, hnone, ite_self]

/-! ## Runs -/

/-- Whatever there is has been left on the channel of the last request. -/
structure LeftOnLast (crates : Crates) (past : List HidStep) (w : World) : Prop where
  pending : w.auth.pendingAssertion ≠ none →
    ∀ cid, latest assertionChannel past = some cid → latest channel past = some cid
  management : w.auth.management ≠ none →
    ∀ cid, latest (enumerationChannel crates) past = some cid → latest channel past = some cid

section
variable {past : List HidStep} {t : HidStep} {cid : UInt32} {command : Ctap2Command}
  {payload body : List UInt8}

/-- A step that is no request. -/
theorem LeftOnLast.unasked {w w' : World} (hinv : LeftOnLast crates past w)
    (hrequested : requested t = none) (hmanaged : managed crates t = none)
    (hpending : w'.auth.pendingAssertion = none ∨
      w'.auth.pendingAssertion = w.auth.pendingAssertion)
    (hmanagement : w'.auth.management = none ∨ w'.auth.management = w.auth.management) :
    LeftOnLast crates (past ++ [t]) w' := by
  have hchannel : channel t = none := by rw [channel, hrequested]; rfl
  have hassertion : assertionChannel t = none := by rw [assertionChannel, hrequested]; rfl
  have henumeration : enumerationChannel crates t = none := by
    rw [enumerationChannel, hmanaged]
    rfl
  constructor
  · intro hne cid
    rw [latest_concat, latest_concat, hchannel, hassertion, Option.none_or, Option.none_or]
    rcases hpending with h | h
    · exact absurd h hne
    · exact hinv.pending (h ▸ hne) cid
  · intro hne cid
    rw [latest_concat, latest_concat, hchannel, henumeration, Option.none_or, Option.none_or]
    rcases hmanagement with h | h
    · exact absurd h hne
    · exact hinv.management (h ▸ hne) cid

theorem latest_channel (hrequested : requested t = some (cid, command)) :
    latest channel (past ++ [t]) = some cid := by
  rw [latest_concat, channel, hrequested]
  rfl

/-- A request, and the pending assertion. -/
theorem LeftOnLast.pending_asked (hinv : LeftOnLast crates past t.before.authenticator)
    (hover : handedOver (latest channel past) t) (hrequested : requested t = some (cid, command))
    (hp : parsePayload payload = some (command, body))
    (hafter : (Ctap2.step crates t.before.authenticator
      (.cbor t.input.1 payload)).2.auth.pendingAssertion ≠ none) {other : UInt32}
    (hother : latest assertionChannel (past ++ [t]) = some other) :
    latest channel (past ++ [t]) = some other := by
  rw [latest_channel hrequested]
  rw [latest_concat, assertionChannel, hrequested, Option.filter_some] at hother
  by_cases hget : command = .getAssertion
  · rw [if_pos (by simpa using hget)] at hother
    exact hother
  · have hfinds := pending_of_step hp hget hafter
    rw [if_neg (by simpa using hget), Option.map_none, Option.none_or] at hother
    rw [hinv.pending (pendingAssertion_of_enter hfinds) other hother] at hover
    rw [eq_of_handedOver hover hrequested (.inl hfinds)]

/-- A request, and the enumeration. -/
theorem LeftOnLast.management_asked (hinv : LeftOnLast crates past t.before.authenticator)
    (hover : handedOver (latest channel past) t) (hrequested : requested t = some (cid, command))
    (hp : parsePayload payload = some (command, body))
    (hmanaged : managed crates t =
      (managementRequest crates (.cbor t.input.1 payload)).map fun y ↦ (cid, y.2.2))
    (hok : succeeded t =
      (Ctap2.step crates t.before.authenticator (.cbor t.input.1 payload)).1.succeeded)
    (hafter : (Ctap2.step crates t.before.authenticator
      (.cbor t.input.1 payload)).2.auth.management ≠ none) {other : UInt32}
    (hother : latest (enumerationChannel crates) (past ++ [t]) = some other) :
    latest channel (past ++ [t]) = some other := by
  rw [latest_channel hrequested]
  rw [latest_concat, enumerationChannel, hmanaged] at hother
  have henumeration := Ctap2.step_enumeration crates t.before.authenticator
    (.cbor t.input.1 payload)
  obtain ⟨state, hstate⟩ := Option.ne_none_iff_exists'.mp hafter
  rw [hstate] at henumeration
  cases henumeration with
  | kept hbefore _ _ hends hquiet _ =>
    -- the request has begun none, so the one there is was there before
    have hcommand : command = .credentialManagement := by
      simpa [Ctap2.endsEnumeration, hp] using hends
    have hquiet' : ((managementRequest crates (.cbor t.input.1 payload)).map fun y ↦
        (cid, y.2.2)).filter (fun x ↦ (x.2 = 2 || x.2 = 4) && succeeded t) = none := by
      rw [Option.filter_eq_none_iff]
      intro x hx hbegun
      obtain ⟨⟨env, request, n⟩, hrequest, rfl⟩ := Option.map_eq_some_iff.mp hx
      rw [hok, Bool.and_eq_true] at hbegun
      have hn := hquiet env request n hrequest hbegun.2
      have hn' : n = 2 ∨ n = 4 := by simpa using hbegun.1
      rcases hn' with rfl | rfl <;> simp at hn
    rw [hquiet', Option.map_none, Option.none_or] at hother
    have hfinds : (t.before.authenticator.enter command).auth.management ≠ none := by
      subst hcommand
      exact fun hnone ↦ Option.some_ne_none _ (hbefore.symm.trans hnone)
    rw [hinv.management (management_of_enter hfinds) other hother] at hover
    rw [eq_of_handedOver hover hrequested (.inr hfinds)]
  | beganRps hrequest hbegun _ _ =>
    rw [hrequest, Option.map_some, Option.filter_some, hok, hbegun] at hother
    exact hother
  | beganCredentials hrequest hbegun _ _ =>
    rw [hrequest, Option.map_some, Option.filter_some, hok, hbegun] at hother
    exact hother

end

/-- **The step lemma.** -/
theorem LeftOnLast.step {past : List HidStep} (hinv : LeftOnLast crates past h.authenticator)
    (hover : handedOver (latest channel past)
      (Run.transition (PacketHandler.step (ctap2Authn crates)) h input)) :
    LeftOnLast crates
      (past ++ [Run.transition (PacketHandler.step (ctap2Authn crates)) h input])
      (PacketHandler.step (ctap2Authn crates) h input).2.authenticator := by
  have hrequested : requested (Run.transition (PacketHandler.step (ctap2Authn crates)) h input) =
      (completed h input.2).bind fun x ↦ (parsePayload x.2).map fun y ↦ (x.1, y.1) := rfl
  have hmanaged : managed crates
      (Run.transition (PacketHandler.step (ctap2Authn crates)) h input) =
        (completed h input.2).bind fun x ↦
          (managementRequest crates (.cbor input.1 x.2)).map fun y ↦ (x.1, y.2.2) := rfl
  cases hc : completed h input.2 with
  | none =>
    rw [hc, Option.bind_none] at hrequested hmanaged
    rcases step_of_not_completed hc with hsame | hcancelled
    · refine hinv.unasked hrequested hmanaged ?_ ?_ <;> rw [hsame] <;> exact .inr rfl
    · refine hinv.unasked hrequested hmanaged ?_ ?_ <;> rw [hcancelled] <;> exact .inl rfl
  | some x =>
    obtain ⟨cid, payload⟩ := x
    obtain ⟨hstep, hok⟩ := step_of_completed hc
    rw [hc, Option.bind_some] at hrequested hmanaged
    rw [hstep]
    cases hp : parsePayload payload with
    | none =>
      rw [hp, Option.map_none] at hrequested
      have hnone : managementRequest crates (.cbor input.1 payload) = none := by
        simp only [managementRequest, hp]
      have hsame : (Ctap2.step crates h.authenticator (.cbor input.1 payload)).2 =
          h.authenticator := by
        simp only [Ctap2.step, Ctap2.handleCbor, hp]
      rw [hnone, Option.map_none] at hmanaged
      rw [hsame]
      exact hinv.unasked hrequested hmanaged (.inr rfl) (.inr rfl)
    | some y =>
      obtain ⟨command, body⟩ := y
      rw [hp, Option.map_some] at hrequested
      exact ⟨fun hafter _ ↦ LeftOnLast.pending_asked hinv hover hrequested hp hafter,
        fun hafter _ ↦ LeftOnLast.management_asked hinv hover hrequested hp hmanaged hok hafter⟩

theorem leftOnLast_nil (w : World) : LeftOnLast crates [] w := by
  constructor
  · rintro _ _ ⟨⟩
  · rintro _ _ ⟨⟩

/-- **Channels are apart while clients take over from each other in good order.** -/
theorem channelsApart_of_handsOver (crates : Crates) (w : World) (inputs : List (Env × List UInt8))
    (hover : handsOver none (hidRun crates w inputs)) : ChannelsApart crates w inputs := by
  have hbefore : ∀ pre t post, hidRun crates w inputs = pre ++ t :: post →
      LeftOnLast crates pre t.before.authenticator ∧ handedOver (latest channel pre) t ∧
        t = Run.transition (PacketHandler.step (ctap2Authn crates)) t.before t.input := by
    intro pre t post hrun
    rw [hrun] at hover
    obtain ⟨hleft, -, ht⟩ := Run.history_invariant_before
      (H := fun past h ↦ handsOver none past → LeftOnLast crates past h.authenticator)
      (C := fun _ _ ↦ True) (fun _ ↦ leftOnLast_nil _)
      (fun past cur input hinv _ hover ↦ (hinv (handsOver_of_append hover)).step (by
        simpa using handedOver_of_handsOver hover)) (fun _ _ ↦ trivial) hrun
    exact ⟨hleft (handsOver_of_append hover), by simpa using handedOver_of_handsOver hover, ht⟩
  constructor
  · intro pre t post cid hrun hrequested hok other hother
    obtain ⟨hleft, hhanded, ht⟩ := hbefore pre t post hrun
    obtain ⟨⟨cid', payload⟩, hc, hmap⟩ := Option.bind_eq_some_iff.mp hrequested
    obtain ⟨⟨command, body⟩, hp, heq⟩ := Option.map_eq_some_iff.mp hmap
    cases heq
    rw [ht, (step_of_completed hc).2, ← step_enter hp] at hok
    have hfinds : (t.before.authenticator.enter .getNextAssertion).auth.pendingAssertion ≠ none :=
      fun hnone ↦ Ctap2.not_succeeded_of_not_pending hnone t.input.1 hp hok
    rw [hleft.pending (pendingAssertion_of_enter hfinds) other hother] at hhanded
    exact eq_of_handedOver hhanded hrequested (.inl hfinds)
  · intro pre t post cid n hrun hmanaged hn hok other hother
    obtain ⟨hleft, hhanded, ht⟩ := hbefore pre t post hrun
    obtain ⟨⟨cid', payload⟩, hc, hmap⟩ := Option.bind_eq_some_iff.mp hmanaged
    obtain ⟨⟨env, request, n'⟩, hrequest, heq⟩ := Option.map_eq_some_iff.mp hmap
    cases heq
    obtain ⟨payload', command, body, he, hp, -⟩ := Ctap2.managementRequest_eq_some hrequest
    cases he
    have hrequested : requested t = some (cid', command) := by
      rw [requested, hc, Option.bind_some, hp, Option.map_some]
    rw [ht, (step_of_completed hc).2, ← step_enter hp] at hok
    obtain ⟨h3, h5⟩ := Ctap2.enumeration_of_succeeded hrequest hok
    have hfinds : (t.before.authenticator.enter command).auth.management ≠ none := by
      rcases hn with hn | hn
      · obtain ⟨state, hstate, -⟩ := h3 hn
        rw [hstate]
        exact Option.some_ne_none _
      · obtain ⟨state, hstate, -⟩ := h5 hn
        rw [hstate]
        exact Option.some_ne_none _
    rw [hleft.management (management_of_enter hfinds) other hother] at hhanded
    exact eq_of_handedOver hhanded hrequested (.inr hfinds)

namespace Sample

open Ctap2.Sample

/-- The requests of the two clients. -/
def channelPackages : Crates :=
  packages [getKeyAgreement, setPin [49, 50, 51, 52], makeCredential "a", makeCredential "b",
    getAssertion "a", manage 2, manage 3]

/-- A daemon on which a user with a PIN has registered twice with one RP and once with another. -/
def channelWorld : World :=
  Ctap2.after channelPackages
    (Ctap2.newAuthenticator channelPackages (session 1000 0) (some "") Store.fresh)
    (setPassphrase :: choosePin 1000 ++ [request (session 1000 1) 0x01 (makeCredential "a"),
      request (session 1000 2) 0x01 (makeCredential "b"),
      request (session 1000 3) 0x01 (makeCredential "a")])

/-- Requests for assertions and for a list of RPs, on the channels given. -/
def exchange (first second third fourth : UInt32) : List (Env × List UInt8) :=
  requestReports first (session 1000 0, 0x02 :: Cbor.encode (getAssertion "a")) ++
    requestReports second (session 1000 0, [0x08]) ++
    requestReports third (session 1000 0, 0x0a :: Cbor.encode (manage 2)) ++
    requestReports fourth (session 1000 0, 0x0a :: Cbor.encode (manage 3))

end Sample

open Sample in
/-- One client after the other. -/
theorem channelsApart_two_clients :
    (hidRun channelPackages channelWorld (exchange 1 1 2 2)).filterMap
        (fun t ↦ (channel t).map fun cid ↦ (cid, succeeded t)) =
      [(1, true), (1, true), (2, true), (2, true)] ∧
    ChannelsApart channelPackages channelWorld (exchange 1 1 2 2) :=
  ⟨by decide +kernel, channelsApart_of_handsOver _ _ _ (by decide +kernel)⟩

open Sample in
/-- **A request goes on with what was begun on another channel.**  The second client gets the
second assertion of the first, and in another run its second RP. -/
theorem continued_from_another_channel :
    ¬ ChannelsApart channelPackages channelWorld (exchange 1 2 1 1) ∧
      ¬ ChannelsApart channelPackages channelWorld (exchange 1 1 1 2) := by
  constructor
  · intro h
    have hnext : ((hidRun channelPackages channelWorld (exchange 1 2 1 1))[1]?).map
        (fun t ↦ (requested t, succeeded t)) = some (some (2, .getNextAssertion), true) := by
      decide +kernel
    have hother : latest assertionChannel
        ((hidRun channelPackages channelWorld (exchange 1 2 1 1)).take 1) = some 1 := by
      decide +kernel
    obtain ⟨t, ht, heq⟩ := Option.map_eq_some_iff.mp hnext
    obtain ⟨hrequested, hok⟩ := Prod.mk.inj heq
    exact absurd (h.assertions _ t _ 2 (List.split_at_getElem? ht) hrequested hok 1 hother)
      (by decide)
  · intro h
    have hnext : ((hidRun channelPackages channelWorld (exchange 1 1 1 2))[3]?).map
        (fun t ↦ (managed channelPackages t, succeeded t)) = some (some (2, 3), true) := by
      decide +kernel
    have hother : latest (enumerationChannel channelPackages)
        ((hidRun channelPackages channelWorld (exchange 1 1 1 2)).take 3) = some 1 := by
      decide +kernel
    obtain ⟨t, ht, heq⟩ := Option.map_eq_some_iff.mp hnext
    obtain ⟨hmanaged, hok⟩ := Prod.mk.inj heq
    exact absurd (h.enumerations _ t _ 2 3 (List.split_at_getElem? ht) hmanaged (.inl rfl) hok 1
      hother) (by decide)

end CtapHid
end TpmFido2
