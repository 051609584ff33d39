import Mathlib.Data.Set.Basic
import TpmFido2.Lib.Run

/-!
# Counters that are kept in copies

A system issues numbers, for each of a growing set of keys in increasing order.  It has no single
counter for a key but copies of it, in memory and on disk say, which get written over each other,
vanish and come back from one another.  All that matters is the set of copies, as pairs of a key and
a number.

`Move` is what a step may do to that set: it copies and forgets, it may begin to count for a
fresh key, and if it issues a number then the number follows one of the copies.  So no key comes
from nowhere (`issued_known`).  `Advance` adds that no other copy is left behind the number issued,
and `issued_increasing` is the consequence for whole runs: as long as fresh keys are fresh, the
numbers issued for a key increase, up to a largest number at which they stay.
-/

set_option autoImplicit false

namespace Counter

open Run

variable {K : Type}

/-- **What a step may do** to the copies, if it may begin with the key `fresh` and issues the
number `issued`. -/
structure Move (top : Nat) (copies copies' : Set (K × Nat)) (fresh : Option K)
    (issued : Option (K × Nat)) : Prop where
  origin : ∀ p ∈ copies', p ∈ copies ∨ fresh = some p.1 ∨ issued = some p
  next : ∀ p, issued = some p → ∃ n, (p.1, n) ∈ copies ∧ p.2 = min (n + 1) top

/-- A step that leaves no copy behind the number it issues. -/
structure Advance (top : Nat) (copies copies' : Set (K × Nat)) (fresh : Option K)
    (issued : Option (K × Nat)) : Prop extends Move top copies copies' fresh issued where
  synced : ∀ p, issued = some p → ∀ n, (p.1, n) ∈ copies' → n = p.2

variable {top : Nat} {copies copies' : Set (K × Nat)} {fresh : Option K} {issued : Option (K × Nat)}

/-- A step that issues nothing and only copies and forgets. -/
theorem Move.of_subset (h : copies' ⊆ copies) : Move top copies copies' fresh none where
  origin _ hp := .inl (h hp)
  next _ h := nomatch h

/-- Copying and forgetting may come first. -/
theorem Move.mono {copies₁ : Set (K × Nat)} (h : Move top copies₁ copies' none issued)
    (hsub : copies₁ ⊆ copies) : Move top copies copies' fresh issued where
  origin p hp := by
    rcases h.origin p hp with hp | hp | hp
    · exact .inl (hsub hp)
    · cases hp
    · exact .inr (.inr hp)
  next p hp := by
    obtain ⟨n, hn, hnext⟩ := h.next p hp
    exact ⟨n, hsub hn, hnext⟩

/-- All copies of a counter say the same. -/
def Agree (copies : Set (K × Nat)) : Prop :=
  ∀ k n m, (k, n) ∈ copies → (k, m) ∈ copies → n = m

/-- A step that leaves no copy behind keeps the copies in agreement, if it begins with one number
for a fresh key. -/
theorem Advance.agree (h : Advance top copies copies' fresh issued) (hagree : Agree copies)
    (hfirst : ∀ k, fresh = some k → ∀ n m, (k, n) ∈ copies' → (k, m) ∈ copies' → n = m) :
    Agree copies' := by
  intro k n m hn hm
  by_cases hfresh : fresh = some k
  · exact hfirst k hfresh n m hn hm
  by_cases hissued : ∃ i, issued = some (k, i)
  · obtain ⟨i, hi⟩ := hissued
    rw [h.synced _ hi n hn, h.synced _ hi m hm]
  -- neither fresh nor issued: both are copies of before
  have hold {i : Nat} (hi : (k, i) ∈ copies') : (k, i) ∈ copies := by
    rcases h.origin _ hi with hi | hi | hi
    · exact hi
    · exact absurd hi hfresh
    · exact absurd ⟨i, hi⟩ hissued
  exact hagree k n m (hold hn) (hold hm)

/-- The keys are new to the copies, and each of them is there once. -/
structure FreshKeys (copies : Set (K × Nat)) (keys : List K) : Prop where
  nodup : keys.Nodup
  new : ∀ k ∈ keys, ∀ n, (k, n) ∉ copies

/-! ## Whole runs -/

section
variable {σ ι ο : Type} {step : σ → ι → ο × σ}

/-- Of two steps, the later one issues the larger number, unless both issue the largest. -/
def Increasing (top : Nat) (issued : σ → ι → Option (K × Nat)) (t u : Transition σ ι ο) : Prop :=
  ∀ k n m, issued t.before t.input = some (k, n) → issued u.before u.input = some (k, m) →
    n < m ∨ n = top ∧ m = top

/-- A key is one of the start, or has been fresh. -/
def Known (fresh : ι → Option K) (start : Set (K × Nat)) (past : List (Transition σ ι ο))
    (k : K) : Prop :=
  (∃ n, (k, n) ∈ start) ∨ k ∈ past.filterMap fun t ↦ fresh t.input

/-- What a past leaves: every key is known, and no copy is behind a number that has been issued. -/
structure Ledger (top : Nat) (copies : σ → Set (K × Nat)) (fresh : ι → Option K)
    (issued : σ → ι → Option (K × Nat)) (start : Set (K × Nat)) (past : List (Transition σ ι ο))
    (cur : σ) : Prop where
  known : ∀ p ∈ copies cur, Known fresh start past p.1
  issuedKnown : ∀ t ∈ past, ∀ p, issued t.before t.input = some p → Known fresh start past p.1
  le : ∀ t ∈ past, ∀ p, issued t.before t.input = some p →
    p.2 ≤ top ∧ ∀ n, (p.1, n) ∈ copies cur → p.2 ≤ n
  increasing : past.Pairwise (Increasing top issued)

variable {copies : σ → Set (K × Nat)} {fresh : ι → Option K}
  {issued : σ → ι → Option (K × Nat)} {start : Set (K × Nat)} {past : List (Transition σ ι ο)}
  {cur : σ}

theorem Known.concat {k : K} (h : Known fresh start past k) (t : Transition σ ι ο) :
    Known fresh start (past ++ [t]) k := by
  rcases h with h | h
  · exact .inl h
  · rw [Known, List.filterMap_append]
    exact .inr (List.mem_append_left _ h)

/-- A step that moves the copies has known keys only, if there were no others. -/
theorem Move.known {i : ι}
    (h : Move top (copies cur) (copies (step cur i).2) (fresh i) (issued cur i))
    (hknown : ∀ p ∈ copies cur, Known fresh start past p.1) :
    ∀ p ∈ copies (step cur i).2, Known fresh start (past ++ [transition step cur i]) p.1 := by
  intro p hp
  rcases h.origin p hp with hp | hp | hp
  · exact (hknown p hp).concat _
  · exact .inr (by simp [transition, hp])
  · obtain ⟨n, hn, -⟩ := h.next p hp
    exact (hknown (p.1, n) hn).concat _

/-- **No key comes from nowhere.**  A machine whose steps move its copies issues numbers for keys
of the start, and for those that have been fresh. -/
theorem issued_known (top : Nat) (copies : σ → Set (K × Nat)) (fresh : ι → Option K)
    (issued : σ → ι → Option (K × Nat))
    (hstep : ∀ cur i, Move top (copies cur) (copies (step cur i).2) (fresh i) (issued cur i))
    {s : σ} {is : List ι} {pre post : List (Transition σ ι ο)} {t : Transition σ ι ο}
    (hsplit : transitions step s is = pre ++ t :: post) {p : K × Nat}
    (hp : issued t.before t.input = some p) : Known fresh (copies s) pre p.1 := by
  obtain ⟨hknown, -, -⟩ := history_invariant_before (C := fun _ _ ↦ True)
    (H := fun past cur ↦ ∀ p ∈ copies cur, Known fresh (copies s) past p.1)
    (fun p hp ↦ .inl ⟨p.2, hp⟩) (fun _ cur i h _ ↦ (hstep cur i).known h) (fun _ _ ↦ trivial) hsplit
  obtain ⟨n, hn, -⟩ := (hstep t.before t.input).next p hp
  exact hknown (p.1, n) hn

/-- A key that is fresh after some past is none the past has left. -/
theorem FreshKeys.unknown {i : ι}
    (h : FreshKeys start ((past ++ [transition step cur i]).filterMap fun t ↦ fresh t.input))
    {k : K} (hk : fresh i = some k) :
    ¬ Known fresh start past k := by
  rintro (⟨n, hn⟩ | hmem)
  · refine h.new k ?_ n hn
    simp [transition, hk]
  · have hnodup := h.nodup
    rw [List.filterMap_append, List.nodup_append] at hnodup
    refine hnodup.2.2 k hmem k ?_ rfl
    simp [transition, hk]

theorem FreshKeys.before {t : Transition σ ι ο}
    (h : FreshKeys start ((past ++ [t]).filterMap fun t ↦ fresh t.input)) :
    FreshKeys start (past.filterMap fun t ↦ fresh t.input) := by
  rw [List.filterMap_append] at h
  exact ⟨h.nodup.sublist (List.sublist_append_left _ _),
    fun k hk ↦ h.new k (List.mem_append_left _ hk)⟩

/-- **Fresh keys are new** to the copies when their turn comes. -/
theorem not_mem_copies_of_fresh (top : Nat) (copies : σ → Set (K × Nat)) (fresh : ι → Option K)
    (issued : σ → ι → Option (K × Nat))
    (hstep : ∀ cur i, Move top (copies cur) (copies (step cur i).2) (fresh i) (issued cur i))
    {s : σ} {is : List ι} (hfresh : FreshKeys (copies s) (is.filterMap fresh))
    {t : Transition σ ι ο} (ht : t ∈ transitions step s is) {k : K} (hk : fresh t.input = some k)
    (n : Nat) : (k, n) ∉ copies t.before := by
  obtain ⟨pre, post, hsplit⟩ := List.append_of_mem ht
  obtain ⟨hknown, -, -⟩ := history_invariant_before (C := fun _ _ ↦ True)
    (H := fun past cur ↦ ∀ p ∈ copies cur, Known fresh (copies s) past p.1)
    (fun p hp ↦ .inl ⟨p.2, hp⟩) (fun _ cur i h _ ↦ (hstep cur i).known h) (fun _ _ ↦ trivial) hsplit
  intro hn
  have hinputs : (transitions step s is).map Transition.input = is := map_input_transitions s is
  rw [← hinputs, hsplit, List.map_append, List.map_cons, List.filterMap_append,
    List.filterMap_cons, hk, List.filterMap_map] at hfresh
  rcases hknown _ hn with ⟨m, hm⟩ | hmem
  · exact hfresh.new k (List.mem_append_right _ List.mem_cons_self) m hm
  · exact (List.nodup_append.mp hfresh.nodup).2.2 k hmem k List.mem_cons_self rfl

/-- **One step.** -/
theorem Ledger.advance {i : ι} (h : Ledger top copies fresh issued start past cur)
    (hkeys : FreshKeys start ((past ++ [transition step cur i]).filterMap fun t ↦ fresh t.input))
    (hadvance : Advance top (copies cur) (copies (step cur i).2) (fresh i) (issued cur i)) :
    Ledger top copies fresh issued start (past ++ [transition step cur i]) (step cur i).2 := by
  refine ⟨hadvance.known h.known, fun t ht p hp ↦ ?_, fun t ht p hp ↦ ?_, ?_⟩
  · rcases List.mem_append.mp ht with ht | ht
    · exact (h.issuedKnown t ht p hp).concat _
    · cases List.mem_singleton.mp ht
      obtain ⟨n, hn, -⟩ := hadvance.next p hp
      exact (h.known (p.1, n) hn).concat _
  · rcases List.mem_append.mp ht with ht | ht
    · obtain ⟨htop, hle⟩ := h.le t ht p hp
      refine ⟨htop, fun n hn ↦ ?_⟩
      rcases hadvance.origin _ hn with hn | hn | hn
      · exact hle n hn
      · exact absurd (h.issuedKnown t ht p hp) (hkeys.unknown hn)
      · obtain ⟨m, hm, hnext⟩ := hadvance.next _ hn
        have := hle m hm
        simp only at hnext
        omega
    · cases List.mem_singleton.mp ht
      obtain ⟨m, -, hnext⟩ := hadvance.next p hp
      refine ⟨by omega, fun n hn ↦ ?_⟩
      exact le_of_eq (hadvance.synced p hp n hn).symm
  · refine List.pairwise_append.mpr ⟨h.increasing, List.pairwise_singleton _ _, ?_⟩
    intro t ht u hu k n m hn hm
    cases List.mem_singleton.mp hu
    obtain ⟨htop, hle⟩ := h.le t ht _ hn
    obtain ⟨m₀, hm₀, hnext⟩ := hadvance.next _ hm
    have := hle m₀ hm₀
    simp only at hnext htop this
    omega

/-- **Numbers increase.**  A machine whose steps advance its copies, in states of some invariant,
issues increasing numbers for each key in every run whose fresh keys are fresh. -/
theorem issued_increasing (top : Nat) (copies : σ → Set (K × Nat)) (fresh : ι → Option K)
    (issued : σ → ι → Option (K × Nat)) {I : σ → Prop} {s : σ} (hinit : I s)
    (hstep : ∀ cur i, I cur → (∀ k, fresh i = some k → ∀ n, (k, n) ∉ copies cur) →
      I (step cur i).2 ∧
        Advance top (copies cur) (copies (step cur i).2) (fresh i) (issued cur i))
    {is : List ι} (hfresh : FreshKeys (copies s) (is.filterMap fresh)) :
    (transitions step s is).Pairwise (Increasing top issued) := by
  have h := history_invariant (C := fun _ _ ↦ True)
    (H := fun (past : List (Transition σ ι ο)) cur ↦
      FreshKeys (copies s) (past.filterMap fun t ↦ fresh t.input) → I cur ∧
        Ledger top copies fresh issued (copies s) past cur)
    (fun _ ↦ ⟨hinit, ⟨fun p hp ↦ .inl ⟨p.2, hp⟩, nofun, nofun, .nil⟩⟩)
    (fun past cur i h _ hkeys ↦ by
      obtain ⟨hI, hledger⟩ := h hkeys.before
      obtain ⟨hI', hadvance⟩ := hstep cur i hI fun k hk n hn ↦
        hkeys.unknown hk (hledger.known _ hn)
      exact ⟨hI', hledger.advance hkeys hadvance⟩)
    is (fun _ _ ↦ trivial)
  refine (h ?_).2.increasing
  have hmap : ((transitions step s is).map Transition.input).filterMap fresh =
      (transitions step s is).filterMap fun t ↦ fresh t.input := List.filterMap_map
  rwa [← hmap, map_input_transitions]

end

end Counter
