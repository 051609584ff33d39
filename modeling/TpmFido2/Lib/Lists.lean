import Mathlib.Data.List.Basic

/-!
# Lists and options

Facts about lists and options that more than one development could use, and that the library does
not have in this form.
-/

set_option autoImplicit false

namespace List

variable {α β γ : Type}

/-- A list is cut around one of its elements. -/
theorem split_at_getElem? {l : List α} {i : Nat} {a : α} (h : l[i]? = some a) :
    l = l.take i ++ a :: l.drop (i + 1) := by
  obtain ⟨hlt, rfl⟩ := List.getElem?_eq_some_iff.mp h
  rw [← List.drop_eq_getElem_cons hlt, List.take_append_drop]

theorem length_filter_eq_count (p : α → Bool) (l : List α) :
    (l.filter p).length = (l.map p).count true := by
  rw [← List.countP_eq_length_filter, List.count, List.countP_map]
  congr 1
  funext a
  simp

theorem takeWhile_append_drop_length (p : α → Bool) (l : List α) :
    l.takeWhile p ++ l.drop (l.takeWhile p).length = l := by
  have hsplit : l.takeWhile p ++ l.dropWhile p = l := List.takeWhile_append_dropWhile
  have hdrop := congrArg (List.drop (l.takeWhile p).length) hsplit
  rw [List.drop_left] at hdrop
  rw [← hdrop, hsplit]

/-- Blocks of one length can be told apart in their concatenation. -/
theorem flatten_map_inj {n : Nat} {f g : α → List β} (hf : ∀ a, (f a).length = n)
    (hg : ∀ a, (g a).length = n) {l : List α} (h : (l.map f).flatten = (l.map g).flatten) :
    ∀ a ∈ l, f a = g a := by
  induction l with
  | nil => exact fun a ha ↦ absurd ha List.not_mem_nil
  | cons a l ih =>
    obtain ⟨ha, hl⟩ := List.append_inj h ((hf a).trans (hg a).symm)
    exact List.forall_mem_cons.mpr ⟨ha, ih hl⟩

theorem mapM_map_eq_some {f : β → Option γ} {g : α → β} {h : α → γ}
    (hf : ∀ a, f (g a) = some (h a)) (l : List α) : (l.map g).mapM f = some (l.map h) := by
  induction l with
  | nil => rfl
  | cons a l ih => rw [List.map_cons, List.mapM_cons, hf, ih]; rfl

end List

namespace Option

variable {α β : Type}

theorem bind_ite_none (p : Prop) [Decidable p] (a : α) (f : α → Option β) :
    (if p then some a else none).bind f = if p then f a else none := by
  split <;> rfl

theorem map_ite_none (p : Prop) [Decidable p] (a : α) (f : α → β) :
    (if p then some a else none).map f = if p then some (f a) else none := by
  split <;> rfl

end Option
