import Mathlib.Data.List.Basic
import Mathlib.Data.List.Induction

/-!
# Runs of a deterministic machine

A machine is a function `step : σ → ι → ο × σ`: in state `s`, on input `i`, it produces an output
and a next state.  Everything a component does over time — in any order, with any inputs — is the
list of `Transition`s of one of its runs, and properties of whole runs are properties of that
list.

* `transitions step s is` is the run on the inputs `is` from `s`, `final step s is` the state it
  ends in; both split along `++`.
* `map_transitions_of_agree` exchanges inputs that make no difference.
* `history_invariant` is the rule every run property is proved with.  The invariant may speak of
  the past as well as of the current state, so "an earlier step did such-and-such" needs no ghost
  field in the state; and it may assume a side condition `C` on every step of the run.
* `history_invariant_before` reads the invariant off at an inner point of the run.
* `countP_add_le` bounds how often something happens in a run by a potential of the state.
* `Latest` picks the last value the past has written to some register, as long as the register has
  not been discarded since.
-/

set_option autoImplicit false

namespace Run

variable {σ ι ο : Type}

/-- One step of a run, with the states around it. -/
structure Transition (σ ι ο : Type) where
  /-- The state the step starts in. -/
  before : σ
  /-- What arrived. -/
  input : ι
  /-- What was answered. -/
  output : ο
  /-- The state the step ends in. -/
  after : σ

/-- The transition the machine makes in state `s` on input `i`. -/
def transition (step : σ → ι → ο × σ) (s : σ) (i : ι) : Transition σ ι ο :=
  ⟨s, i, (step s i).1, (step s i).2⟩

/-- The state a run ends in. -/
def final (step : σ → ι → ο × σ) : σ → List ι → σ
  | s, [] => s
  | s, i :: is => final step (step s i).2 is

/-- The transitions of a run, in order. -/
def transitions (step : σ → ι → ο × σ) : σ → List ι → List (Transition σ ι ο)
  | _, [] => []
  | s, i :: is => transition step s i :: transitions step (step s i).2 is

variable {step : σ → ι → ο × σ}

theorem final_append (s : σ) (is js : List ι) :
    final step s (is ++ js) = final step (final step s is) js := by
  induction is generalizing s with
  | nil => rfl
  | cons i is ih => exact ih _

theorem transitions_append (s : σ) (is js : List ι) :
    transitions step s (is ++ js) =
      transitions step s is ++ transitions step (final step s is) js := by
  induction is generalizing s with
  | nil => rfl
  | cons i is ih => rw [List.cons_append, transitions, transitions, ih, final, List.cons_append]

theorem transitions_concat (s : σ) (is : List ι) (i : ι) :
    transitions step s (is ++ [i]) =
      transitions step s is ++ [transition step (final step s is) i] :=
  transitions_append s is [i]

theorem map_input_transitions (s : σ) (is : List ι) :
    (transitions step s is).map Transition.input = is := by
  induction is generalizing s with
  | nil => rfl
  | cons i is ih => rw [transitions, List.map_cons, ih]; rfl

theorem input_mem_of_mem_transitions {s : σ} {is : List ι} {t : Transition σ ι ο}
    (h : t ∈ transitions step s is) : t.input ∈ is := by
  rw [← map_input_transitions s is]
  exact List.mem_map_of_mem h

/-- **Cutting a run at a transition.**  Whatever stands before a transition of a run is itself
the run on a prefix of the inputs, and the transition starts where that run ends. -/
theorem split_of_transitions_eq {s : σ} {is : List ι} {pre post : List (Transition σ ι ο)}
    {t : Transition σ ι ο} (h : transitions step s is = pre ++ t :: post) :
    ∃ is₁ is₂, is = is₁ ++ t.input :: is₂ ∧ pre = transitions step s is₁ ∧
      t = transition step (final step s is₁) t.input ∧
      post = transitions step t.after is₂ := by
  induction is generalizing s pre with
  | nil => simp [transitions] at h
  | cons i is ih =>
    rw [transitions] at h
    cases pre with
    | nil =>
      rw [List.nil_append, List.cons.injEq] at h
      obtain ⟨rfl, rfl⟩ := h
      exact ⟨[], is, rfl, rfl, rfl, rfl⟩
    | cons t₀ pre =>
      rw [List.cons_append, List.cons.injEq] at h
      obtain ⟨rfl, h⟩ := h
      obtain ⟨is₁, is₂, rfl, rfl, ht, hpost⟩ := ih h
      exact ⟨i :: is₁, is₂, rfl, rfl, ht, hpost⟩

theorem eq_transition_of_mem {s : σ} {is : List ι} {t : Transition σ ι ο}
    (h : t ∈ transitions step s is) : t = transition step t.before t.input := by
  obtain ⟨pre, post, h⟩ := List.append_of_mem h
  obtain ⟨is₁, -, -, -, ht, -⟩ := split_of_transitions_eq h
  rw [ht]
  rfl

/-- **Exchanging inputs.**  If on every step of a run the input could be exchanged for another one
without any difference, exchanging them all makes none. -/
theorem map_transitions_of_agree {f : ι → ι} {s : σ} {is : List ι}
    (h : ∀ t ∈ transitions step s is, step t.before (f t.input) = step t.before t.input) :
    (transitions step s (is.map f)).map (fun t ↦ (t.output, t.after)) =
      (transitions step s is).map fun t ↦ (t.output, t.after) := by
  induction is generalizing s with
  | nil => rfl
  | cons i is ih =>
    have hfirst : step s (f i) = step s i := h _ List.mem_cons_self
    rw [List.map_cons, transitions, transitions, List.map_cons, List.map_cons, transition,
      transition, hfirst, ih fun t ht ↦ h t (List.mem_cons_of_mem _ ht)]

/-! ## Invariants of a run -/

/-- **The rule for history invariants.**  `H past s` relates a state to the transitions that led
to it.  If it holds at the start and every step that meets the side condition `C` extends it,
it holds at the end of every run whose steps all meet `C`. -/
theorem history_invariant {H : List (Transition σ ι ο) → σ → Prop} {C : σ → ι → Prop} {s : σ}
    (hinit : H [] s)
    (hstep : ∀ past cur i, H past cur → C cur i →
      H (past ++ [transition step cur i]) (step cur i).2)
    (is : List ι) (hC : ∀ t ∈ transitions step s is, C t.before t.input) :
    H (transitions step s is) (final step s is) := by
  -- the past grows at its end, so the induction takes the inputs from the right
  induction is using List.reverseRecOn with
  | nil => exact hinit
  | append_singleton is i ih =>
    rw [transitions_concat] at hC ⊢
    rw [final_append]
    refine hstep _ _ _ (ih fun t ht => hC t (List.mem_append_left _ ht)) ?_
    exact hC _ (List.mem_append_right _ (List.mem_singleton_self _))

/-- The same rule read at an inner point of the run: the invariant holds between what came before
a transition and the state the transition starts in. -/
theorem history_invariant_before {H : List (Transition σ ι ο) → σ → Prop} {C : σ → ι → Prop}
    {s : σ} (hinit : H [] s)
    (hstep : ∀ past cur i, H past cur → C cur i →
      H (past ++ [transition step cur i]) (step cur i).2)
    {is : List ι} (hC : ∀ t ∈ transitions step s is, C t.before t.input)
    {pre post : List (Transition σ ι ο)} {t : Transition σ ι ο}
    (h : transitions step s is = pre ++ t :: post) :
    H pre t.before ∧ C t.before t.input ∧ t = transition step t.before t.input := by
  obtain ⟨is₁, is₂, rfl, rfl, ht, -⟩ := split_of_transitions_eq h
  have hb : t.before = final step s is₁ := by rw [ht]; rfl
  refine ⟨?_, hC t (by rw [h]; simp), ?_⟩
  · rw [hb]
    exact history_invariant hinit hstep is₁ fun u hu => hC u (by rw [h]; simp [hu])
  · rw [hb]
    exact ht

/-- The rule for invariants of the state alone. -/
theorem state_invariant {I : σ → Prop} {C : σ → ι → Prop} {s : σ} (hinit : I s)
    (hstep : ∀ cur i, I cur → C cur i → I (step cur i).2) (is : List ι)
    (hC : ∀ t ∈ transitions step s is, C t.before t.input) : I (final step s is) :=
  history_invariant (H := fun _ cur => I cur) hinit (fun _ cur i h hc => hstep cur i h hc) is hC

/-- **The rule for bounded events.**  If every step pays for itself out of a potential, one unit
for each that is counted, no more are counted than the potential there was at the start. -/
theorem countP_add_le {p : Transition σ ι ο → Bool} {μ : σ → Nat} {I : σ → Prop}
    {C : σ → ι → Prop}
    (hstep : ∀ cur i, I cur → C cur i → I (step cur i).2 ∧
      (if p (transition step cur i) then 1 else 0) + μ (step cur i).2 ≤ μ cur)
    {s : σ} (hinit : I s) (is : List ι) (hC : ∀ t ∈ transitions step s is, C t.before t.input) :
    (transitions step s is).countP p + μ (final step s is) ≤ μ s := by
  induction is generalizing s with
  | nil => simp [transitions, final]
  | cons i is ih =>
    obtain ⟨hnext, hpaid⟩ := hstep s i hinit (hC _ List.mem_cons_self)
    have hrest := ih hnext fun t ht ↦ hC t (List.mem_cons_of_mem _ ht)
    rw [transitions, List.countP_cons, final]
    omega

/-! ## What was written last -/

/-- `v` is the last value the past has written, and every step since, the writing one included,
left the register `alive`. -/
def Latest {τ α : Type} (write : τ → Option α) (alive : τ → Prop) (past : List τ) (v : α) : Prop :=
  ∃ pre t post, past = pre ++ t :: post ∧ write t = some v ∧ alive t ∧
    ∀ u ∈ post, write u = none ∧ alive u

section
variable {τ α : Type} {write : τ → Option α} {alive : τ → Prop} {past : List τ} {v : α}

theorem not_latest_nil : ¬ Latest write alive [] v := by
  rintro ⟨pre, t, post, h, -⟩
  exact absurd h.symm (List.append_ne_nil_of_right_ne_nil pre (List.cons_ne_nil t post))

/-- What the last step writes is the latest. -/
theorem latest_of_write {t : τ} (hwrite : write t = some v) (halive : alive t) :
    Latest write alive (past ++ [t]) v :=
  ⟨past, t, [], rfl, hwrite, halive, nofun⟩

/-- A step that does not write leaves what was the latest. -/
theorem Latest.concat {t : τ} (h : Latest write alive past v) (hwrite : write t = none)
    (halive : alive t) : Latest write alive (past ++ [t]) v := by
  obtain ⟨pre, t', post, rfl, hwrite', halive', hpost⟩ := h
  refine ⟨pre, t', post ++ [t], by simp, hwrite', halive', fun u hu ↦ ?_⟩
  rcases List.mem_append.mp hu with hu | hu
  · exact hpost u hu
  · rw [List.mem_singleton.mp hu]
    exact ⟨hwrite, halive⟩

/-- **One more step** either writes, or leaves what was written. -/
theorem latest_concat {t : τ} (h : Latest write alive (past ++ [t]) v) :
    alive t ∧ (write t = some v ∨ write t = none ∧ Latest write alive past v) := by
  obtain ⟨pre, t', post, heq, hwrite, halive, hpost⟩ := h
  rcases List.eq_nil_or_concat' post with rfl | ⟨post, u, rfl⟩
  · obtain ⟨-, h⟩ := List.append_inj' heq rfl
    cases h
    exact ⟨halive, .inl hwrite⟩
  · rw [← List.cons_append, ← List.append_assoc] at heq
    obtain ⟨rfl, h⟩ := List.append_inj' heq rfl
    cases h
    obtain ⟨hnone, ht⟩ := hpost t (by simp)
    exact ⟨ht, .inr ⟨hnone, pre, t', post, rfl, hwrite, halive,
      fun u hu ↦ hpost u (List.mem_append_left _ hu)⟩⟩

end

end Run
