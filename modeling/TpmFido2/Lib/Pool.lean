import Mathlib.Data.Finset.Insert
import Mathlib.Data.Finset.Lattice.Fold
import Mathlib.Order.Lattice.Nat
import TpmFido2.Lib.Handler

/-!
# What a handler leaves behind

A handler that works with handles of some kind acquires them one at a time and releases them one at
a time; in between it makes calls, each of which may fail, and a failure ends it.  The state is the
pool of handles that are held.  How a handler ends is then a matter of where it fails: before its
first handle nothing is left behind, and after that everything is that no guard releases.

`Restores m s` says that `m` leaves the pool as it found it.  There are two ways to it.

* A body between an acquisition and a guard restores the pool if it restores the larger one
  (`Restores.acquire_guarded`).  So a handler that guards what it acquires restores the pool
  whatever fails.
* For a handler that releases at its end only there is an exact rule for each step, in two versions:
  when nothing is held yet the step may fail (`call_bind`, `acquire_bind`, `throwIf_bind`), and when
  something is it must not (`call_bind_held`, `acquire_bind_held`, `throwIf_bind_held`).
  Read from the first step to the last, they turn "the pool is restored" into a condition on what
  fails.
-/

set_option autoImplicit false

namespace Pool

open Handler

variable {ε α β : Type} {e : ε} {s t : Finset Nat}

/-- A handle that is not held. -/
def fresh (s : Finset Nat) : Nat := s.sup id + 1

theorem fresh_notMem (s : Finset Nat) : fresh s ∉ s := fun h ↦
  Nat.not_succ_le_self _ (Finset.le_sup h : id (fresh s) ≤ s.sup id)

/-- The pool with one more handle in it. -/
def grow (s : Finset Nat) : Finset Nat := insert (fresh s) s

/-- A call that acquires a handle, if it works. -/
def acquire (works : Bool) (e : ε) : Handler (Finset Nat) ε Nat :=
  if works then fun s ↦ (.ok (fresh s), grow s) else throw e

/-- A call that acquires nothing. -/
def call (works : Bool) (e : ε) (a : α) : Handler (Finset Nat) ε α :=
  if works then pure a else throw e

/-- The handle is released. -/
def release (h : Nat) (s : Finset Nat) : Finset Nat := s.erase h

theorem mem_grow (s : Finset Nat) : fresh s ∈ grow s := Finset.mem_insert_self _ _

theorem subset_grow (s : Finset Nat) : s ⊆ grow s := Finset.subset_insert _ _

/-- A pool with something in it that was not there. -/
theorem grow_ne (h : t ⊆ s) : grow s ≠ t := fun heq ↦
  fresh_notMem s (h (heq ▸ mem_grow s))

theorem release_fresh (s : Finset Nat) : release (fresh s) (grow s) = s :=
  Finset.erase_insert (fresh_notMem s)

/-- A handle that is not the newest is released. -/
theorem release_grow {h : Nat} (hs : h ∈ s) :
    release h (grow s) = insert (fresh s) (release h s) :=
  Finset.erase_insert_of_ne fun heq ↦ fresh_notMem s (heq ▸ hs)

/-! ## Guards -/

/-- The handler leaves the pool as it finds it. -/
def Restores (m : Handler (Finset Nat) ε α) : Prop := ∀ s, (m s).2 = s

theorem Restores.bind {m : Handler (Finset Nat) ε α} {f : α → Handler (Finset Nat) ε β}
    (hm : Restores m) (hf : ∀ a, Restores (f a)) : Restores (m >>= f) := by
  intro s
  have hs := hm s
  rw [bind_def]
  cases h : m s with
  | mk o s' =>
    rw [h] at hs
    obtain rfl : s' = s := hs
    cases o with
    | ok a => exact hf a s'
    | error e => rfl
    | panicked => rfl

theorem Restores.pure (a : α) : Restores (Pure.pure a : Handler (Finset Nat) ε α) := fun _ ↦ rfl

theorem Restores.call (works : Bool) (e : ε) (a : α) : Restores (call works e a) := by
  intro s
  cases works <;> rfl

theorem Restores.throwIf (c : Prop) [Decidable c] (e : ε) :
    Restores (throwIf c e : Handler (Finset Nat) ε Unit) := by
  intro s
  rw [Handler.throwIf]
  split <;> rfl

theorem Restores.ofOption (o : Option α) (e : ε) :
    Restores (ofOption o e : Handler (Finset Nat) ε α) := by
  intro s
  cases o <;> rfl

/-- **A guarded handle.** -/
theorem Restores.acquire_guarded (works : Bool) (e : ε) {f : Nat → Handler (Finset Nat) ε α}
    (hf : ∀ h, Restores (f h)) :
    Restores (acquire works e >>= fun h ↦ guarded (release h) (f h)) := by
  intro s
  cases works with
  | false => rfl
  | true =>
    change release (fresh s) (f (fresh s) (grow s)).2 = s
    rw [hf, release_fresh]

/-! ## Without guards -/

section
variable {f : α → Handler (Finset Nat) ε β} {g : Nat → Handler (Finset Nat) ε β}
  {k : Unit → Handler (Finset Nat) ε β}

theorem call_bind {works : Bool} {a : α} :
    ((call works e a >>= f) s).2 = s ↔ (works → (f a s).2 = s) := by
  cases works with
  | false => exact ⟨fun _ h ↦ absurd h Bool.false_ne_true, fun _ ↦ rfl⟩
  | true => exact ⟨fun h _ ↦ h, fun h ↦ h rfl⟩

theorem call_bind_held {works : Bool} {a : α} (h : s ≠ t) :
    ((call works e a >>= f) s).2 = t ↔ works ∧ (f a s).2 = t := by
  cases works with
  | false => exact ⟨fun hs ↦ absurd hs h, fun hboth ↦ absurd hboth.1 Bool.false_ne_true⟩
  | true => exact ⟨fun hs ↦ ⟨rfl, hs⟩, fun hboth ↦ hboth.2⟩

theorem acquire_bind {works : Bool} :
    ((acquire works e >>= g) s).2 = s ↔ (works → (g (fresh s) (grow s)).2 = s) := by
  cases works with
  | false => exact ⟨fun _ h ↦ absurd h Bool.false_ne_true, fun _ ↦ rfl⟩
  | true => exact ⟨fun h _ ↦ h, fun h ↦ h rfl⟩

theorem acquire_bind_held {works : Bool} (h : s ≠ t) :
    ((acquire works e >>= g) s).2 = t ↔ works ∧ (g (fresh s) (grow s)).2 = t := by
  cases works with
  | false => exact ⟨fun hs ↦ absurd hs h, fun hboth ↦ absurd hboth.1 Bool.false_ne_true⟩
  | true => exact ⟨fun hs ↦ ⟨rfl, hs⟩, fun hboth ↦ hboth.2⟩

theorem throwIf_bind {c : Prop} [Decidable c] :
    ((throwIf c e >>= k) s).2 = s ↔ (¬ c → (k () s).2 = s) := by
  by_cases hc : c
  · rw [bind_of_error _ (throwIf_of hc s)]
    exact ⟨fun _ h ↦ absurd hc h, fun _ ↦ rfl⟩
  · rw [bind_of_ok _ (throwIf_of_not hc s)]
    exact ⟨fun h _ ↦ h, fun h ↦ h hc⟩

theorem throwIf_bind_held {c : Prop} [Decidable c] (h : s ≠ t) :
    ((throwIf c e >>= k) s).2 = t ↔ ¬ c ∧ (k () s).2 = t := by
  by_cases hc : c
  · rw [bind_of_error _ (throwIf_of hc s)]
    exact ⟨fun hs ↦ absurd hs h, fun hboth ↦ absurd hc hboth.1⟩
  · rw [bind_of_ok _ (throwIf_of_not hc s)]
    exact ⟨fun hs ↦ ⟨hc, hs⟩, fun hboth ↦ hboth.2⟩

end

end Pool
