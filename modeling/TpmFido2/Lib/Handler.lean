import Mathlib.Logic.Basic

/-!
# Request handlers

A request handler runs in a state it may change, and ends in one of three ways: it returns a
value, it gives up with an error, or it panics.  In each case the changes made so far stay — an
error is an ordinary return value of the program, and unwinding undoes nothing.  So a handler is a
function from states to an `Outcome` *and* a state, and `do` blocks read like the code with `?`
after every fallible call.

Four kinds of rule are given, and every proof about a handler is one of the four.

* **Inversion.**  From `(m >>= f) s = (.ok b, s')` get the intermediate value and state
  (`bind_ok`), and for each primitive what its success means (`throwIf_ok`, `ofOption_ok`, …).
  Peeling a handler apart with these gives everything that is known on success.
* **Returned values.**  `m.Returns s Q` says that every value `m` returns from `s` satisfies `Q`; it
  is proved step by step with `Returns.bind`.
* **Safety.**  `m.Safe s` says that `m` does not panic in `s`; a sequence is safe if each part is in
  the states the parts before it can lead to (`Safe.bind`).
* **Frames.**  `m.Moves R` says that `R` relates the state before to the state after, however `m`
  ends.  For a reflexive and transitive `R` it is closed under sequencing (`Moves.bind`), so "this
  handler leaves that part of the state alone" is proved by walking through its steps once.
  `m.Respects R` is the same for what a handler does not look at: from states that `R` relates it
  ends alike.
-/

set_option autoImplicit false

/-- How a handler ends. -/
inductive Outcome (ε α : Type) where
  /-- It returned a value. -/
  | ok (a : α)
  /-- It returned an error. -/
  | error (e : ε)
  /-- It panicked. -/
  | panicked

theorem Outcome.ok_ne_panicked {ε α : Type} (a : α) : (.ok a : Outcome ε α) ≠ .panicked := by
  rintro ⟨⟩

theorem Outcome.error_ne_panicked {ε α : Type} (e : ε) : (.error e : Outcome ε α) ≠ .panicked := by
  rintro ⟨⟩

/-- The value, if there is one. -/
def Outcome.toOption {ε α : Type} : Outcome ε α → Option α
  | .ok a => some a
  | .error _ => none
  | .panicked => none

theorem Outcome.eq_ok {ε α : Type} {o : Outcome ε α} {a : α} (h : o.toOption = some a) :
    o = .ok a := by
  cases o with
  | ok b => exact congrArg Outcome.ok (Option.some.inj h)
  | error e => cases h
  | panicked => cases h

theorem Outcome.pair_eq_ok {ε α σ : Type} {r : Outcome ε α × σ} {a : α}
    (h : r.1.toOption = some a) : r = (.ok a, r.2) := Prod.ext (Outcome.eq_ok h) rfl

/-- A computation that reads and changes a state of type `σ` and ends in an `Outcome`. -/
def Handler (σ ε α : Type) : Type := σ → Outcome ε α × σ

namespace Handler

variable {σ ε α β : Type}

instance : Monad (Handler σ ε) where
  pure a := fun s => (.ok a, s)
  bind m f := fun s =>
    match m s with
    | (.ok a, s') => f a s'
    | (.error e, s') => (.error e, s')
    | (.panicked, s') => (.panicked, s')

/-- Give up with an error. -/
def throw (e : ε) : Handler σ ε α := fun s => (.error e, s)

/-- Panic. -/
def panic : Handler σ ε α := fun s => (.panicked, s)

/-- The current state. -/
def get : Handler σ ε σ := fun s => (.ok s, s)

/-- A reading of the current state. -/
def gets (f : σ → α) : Handler σ ε α := fun s => (.ok (f s), s)

/-- Change the state. -/
def modify (f : σ → σ) : Handler σ ε Unit := fun s => (.ok (), f s)

/-- `if c { return Err(e) }`. -/
def throwIf (c : Prop) [Decidable c] (e : ε) : Handler σ ε Unit :=
  if c then throw e else pure ()

/-- `o.ok_or(e)?`. -/
def ofOption (o : Option α) (e : ε) : Handler σ ε α :=
  match o with
  | some a => pure a
  | none => throw e

/-- The `?` operator on a result that is already there. -/
def ofExcept (x : Except ε α) : Handler σ ε α :=
  match x with
  | .ok a => pure a
  | .error e => throw e

/-- `o.expect(..)`: a missing value is a panic. -/
def expect (o : Option α) : Handler σ ε α :=
  match o with
  | some a => pure a
  | none => panic

/-- Run a handler of a part of the state, and look at its result instead of propagating it. -/
def zoom {τ ε' : Type} (read : σ → τ) (write : τ → σ → σ) (m : Handler τ ε' α) :
    Handler σ ε (Except ε' α) := fun s =>
  match m (read s) with
  | (.ok a, t) => (.ok (.ok a), write t s)
  | (.error e, t) => (.ok (.error e), write t s)
  | (.panicked, t) => (.panicked, write t s)

/-- Run a handler and look at its result instead of propagating it. -/
def attempt {ε' : Type} (m : Handler σ ε' α) : Handler σ ε (Except ε' α) := zoom id (fun t _ ↦ t) m

/-- Run a handler, and clean up however it ends: what a guard does when it is dropped. -/
def guarded (cleanup : σ → σ) (m : Handler σ ε α) : Handler σ ε α := fun s ↦
  ((m s).1, cleanup (m s).2)

/-! ## What success means -/

theorem bind_def (m : Handler σ ε α) (f : α → Handler σ ε β) (s : σ) :
    (m >>= f) s = match m s with
      | (.ok a, s') => f a s'
      | (.error e, s') => (.error e, s')
      | (.panicked, s') => (.panicked, s') := rfl

theorem bind_assoc {γ : Type} (m : Handler σ ε α) (f : α → Handler σ ε β)
    (g : β → Handler σ ε γ) : (m >>= f) >>= g = m >>= fun a => f a >>= g := by
  funext s
  simp only [bind_def]
  cases m s with
  | mk o s₁ => cases o <;> rfl

/-- A last step that leaves the state alone does not matter for the state. -/
theorem bind_snd {m : Handler σ ε α} {f : α → Handler σ ε β} {s : σ}
    (hf : ∀ a s₁, (f a s₁).2 = s₁) : ((m >>= f) s).2 = (m s).2 := by
  rw [bind_def]
  split
  · next a s₁ e => rw [hf, e]
  · next e => rw [e]
  · next e => rw [e]

/-- Nor does one that only wraps the value up matter for the value. -/
theorem map_toOption_bind_pure {m : Handler σ ε α} {f : α → β} {g : β → α} {s : σ}
    (hg : ∀ a, g (f a) = a) :
    ((m >>= fun a ↦ pure (f a) : Handler σ ε β) s).1.toOption.map g = (m s).1.toOption := by
  rw [bind_def]
  split
  · next a s₁ e => rw [e]; exact congrArg some (hg a)
  · next e => rw [e]; rfl
  · next e => rw [e]; rfl

@[simp] theorem pure_apply (a : α) (s : σ) : (pure a : Handler σ ε α) s = (.ok a, s) := rfl

@[simp] theorem throw_apply (e : ε) (s : σ) : (throw e : Handler σ ε α) s = (.error e, s) := rfl

@[simp] theorem gets_apply (f : σ → α) (s : σ) : (gets f : Handler σ ε α) s = (.ok (f s), s) := rfl

@[simp] theorem get_apply (s : σ) : (get : Handler σ ε σ) s = (.ok s, s) := rfl

@[simp] theorem modify_apply (f : σ → σ) (s : σ) :
    (modify f : Handler σ ε Unit) s = (.ok (), f s) := rfl

/-- A sequence returns only if its first part did. -/
theorem bind_ok {m : Handler σ ε α} {f : α → Handler σ ε β} {s s' : σ} {b : β}
    (h : (m >>= f) s = (.ok b, s')) : ∃ a s₁, m s = (.ok a, s₁) ∧ f a s₁ = (.ok b, s') := by
  rw [bind_def] at h
  split at h
  · next a s₁ hm => exact ⟨a, s₁, hm, h⟩
  · cases h
  · cases h

/-- If the first part did not return, that is how the sequence ends. -/
theorem bind_of_none {m : Handler σ ε α} (f : α → Handler σ ε β) {s s' : σ} {o : Outcome ε α}
    (h : m s = (o, s')) (ho : o.toOption = none) :
    ∃ o' : Outcome ε β, o'.toOption = none ∧ (m >>= f) s = (o', s') := by
  cases o with
  | ok a => cases ho
  | error e => exact ⟨.error e, rfl, by rw [bind_def, h]⟩
  | panicked => exact ⟨.panicked, rfl, by rw [bind_def, h]⟩

theorem bind_snd_of_none {m : Handler σ ε α} (f : α → Handler σ ε β) {s : σ}
    (h : (m s).1.toOption = none) : ((m >>= f) s).2 = (m s).2 := by
  obtain ⟨o', -, he⟩ := bind_of_none f (Prod.eta (m s)).symm h
  rw [he]

theorem bind_of_error {m : Handler σ ε α} (f : α → Handler σ ε β) {s s' : σ} {e : ε}
    (h : m s = (.error e, s')) : (m >>= f) s = (.error e, s') := by
  rw [bind_def, h]

theorem bind_of_ok {m : Handler σ ε α} (f : α → Handler σ ε β) {s s' : σ} {a : α}
    (h : m s = (.ok a, s')) : (m >>= f) s = f a s' := by
  rw [bind_def, h]

theorem throwIf_ok {c : Prop} [Decidable c] {e : ε} {s s' : σ} {u : Unit}
    (h : (throwIf c e : Handler σ ε Unit) s = (.ok u, s')) : ¬ c ∧ s' = s := by
  rw [throwIf] at h
  split at h
  · cases h
  · next hc => cases h; exact ⟨hc, rfl⟩

theorem throwIf_of_not {c : Prop} [Decidable c] {e : ε} (h : ¬ c) (s : σ) :
    (throwIf c e : Handler σ ε Unit) s = (.ok (), s) := by
  rw [throwIf, if_neg h]
  rfl

theorem throwIf_of {c : Prop} [Decidable c] {e : ε} (h : c) (s : σ) :
    (throwIf c e : Handler σ ε Unit) s = (.error e, s) := by
  rw [throwIf, if_pos h]
  rfl

theorem ofOption_ok {o : Option α} {e : ε} {s s' : σ} {a : α}
    (h : (ofOption o e : Handler σ ε α) s = (.ok a, s')) : o = some a ∧ s' = s := by
  cases o with
  | none => cases h
  | some x => cases h; exact ⟨rfl, rfl⟩

/-- Two lookups one after the other, with one error, are one lookup. -/
theorem ofOption_bind_ofOption {γ : Type} (o : Option α) (f : α → Option β) (e : ε)
    (k : β → Handler σ ε γ) :
    ((ofOption o e : Handler σ ε α) >>= fun a ↦ ofOption (f a) e >>= k) =
      ofOption (o.bind f) e >>= k := by
  cases o <;> rfl

theorem ofExcept_bind_map {γ : Type} (x : Except ε α) (f : α → β) (k : β → Handler σ ε γ) :
    ((ofExcept x : Handler σ ε α) >>= fun a ↦ k (f a)) = ofExcept (x.map f) >>= k := by
  cases x <;> rfl

theorem except_eq_ok {x : Except ε α} {a : α} (h : x.toOption = some a) : x = .ok a := by
  cases x with
  | ok b => exact congrArg _ (Option.some.inj h)
  | error e => cases h

theorem ofExcept_of_some {x : Except ε α} {a : α} (h : x.toOption = some a) (s : σ) :
    (ofExcept x : Handler σ ε α) s = (.ok a, s) := by
  rw [except_eq_ok h]
  rfl

theorem ofExcept_ok {x : Except ε α} {s s' : σ} {a : α}
    (h : (ofExcept x : Handler σ ε α) s = (.ok a, s')) : x = .ok a ∧ s' = s := by
  cases x with
  | error e => cases h
  | ok x => cases h; exact ⟨rfl, rfl⟩

theorem expect_ok {o : Option α} {s s' : σ} {a : α}
    (h : (expect o : Handler σ ε α) s = (.ok a, s')) : o = some a ∧ s' = s := by
  cases o with
  | none => cases h
  | some x => cases h; exact ⟨rfl, rfl⟩

/-- The same for a sequence of checks that need no state. -/
theorem attempt_ok {ε' : Type} {m : Handler σ ε' α} {s s' : σ} {a : α}
    (h : (attempt m : Handler σ ε (Except ε' α)) s = (.ok (.ok a), s')) : m s = (.ok a, s') := by
  rw [attempt, zoom] at h
  dsimp only [id] at h
  split at h
  · next e =>
    cases h
    exact e
  · cases h
  · cases h

theorem except_bind_ok {x : Except ε α} {f : α → Except ε β} {b : β} (h : (x >>= f) = .ok b) :
    ∃ a, x = .ok a ∧ f a = .ok b := by
  cases x with
  | error e => cases h
  | ok a => exact ⟨a, rfl, h⟩

/-! ## What a handler returns -/

/-- Whatever `m` returns from `s` satisfies `Q`. -/
def Returns (m : Handler σ ε α) (s : σ) (Q : α → Prop) : Prop := ∀ a s', m s = (.ok a, s') → Q a

theorem Returns.bind {m : Handler σ ε α} {f : α → Handler σ ε β} {s : σ} {Q : β → Prop}
    (h : ∀ a s₁, m s = (.ok a, s₁) → Returns (f a) s₁ Q) : Returns (m >>= f) s Q := by
  intro b s' hb
  obtain ⟨a, s₁, ha, hf⟩ := bind_ok hb
  exact h a s₁ ha b s' hf

theorem Returns.pure {a : α} {s : σ} {Q : α → Prop} (h : Q a) :
    Returns (Pure.pure a : Handler σ ε α) s Q := by
  intro _ _ e
  cases e
  exact h

theorem Returns.panic {s : σ} {Q : α → Prop} : Returns (Handler.panic : Handler σ ε α) s Q := nofun

/-! ## What does not panic -/

/-- `m` does not panic in `s`. -/
def Safe (m : Handler σ ε α) (s : σ) : Prop := (m s).1 ≠ .panicked

/-- **A sequence is safe if its parts are.** -/
theorem Safe.bind {m : Handler σ ε α} {f : α → Handler σ ε β} {s : σ} (hm : Safe m s)
    (hf : ∀ a s₁, m s = (.ok a, s₁) → Safe (f a) s₁) : Safe (m >>= f) s := by
  rw [Safe, bind_def]
  split
  · next a s₁ e => exact hf a s₁ e
  · exact nofun
  · next s₁ e =>
    rw [Safe, e] at hm
    exact absurd rfl hm

theorem Safe.pure (a : α) (s : σ) : Safe (Pure.pure a : Handler σ ε α) s := nofun

theorem Safe.throw (e : ε) (s : σ) : Safe (Handler.throw e : Handler σ ε α) s := nofun

theorem Safe.gets (f : σ → α) (s : σ) : Safe (Handler.gets f : Handler σ ε α) s := nofun

theorem Safe.get (s : σ) : Safe (Handler.get : Handler σ ε σ) s := nofun

theorem Safe.modify (f : σ → σ) (s : σ) : Safe (Handler.modify f : Handler σ ε Unit) s := nofun

theorem Safe.throwIf (c : Prop) [Decidable c] (e : ε) (s : σ) :
    Safe (Handler.throwIf c e : Handler σ ε Unit) s := by
  rw [Handler.throwIf]
  split
  · exact .throw e s
  · exact .pure () s

theorem Safe.ofOption (o : Option α) (e : ε) (s : σ) :
    Safe (Handler.ofOption o e : Handler σ ε α) s := by
  cases o with
  | none => exact .throw e s
  | some a => exact .pure a s

theorem Safe.ofExcept (x : Except ε α) (s : σ) : Safe (Handler.ofExcept x : Handler σ ε α) s := by
  cases x with
  | error e => exact .throw e s
  | ok a => exact .pure a s

theorem Safe.expect {o : Option α} (h : o.isSome) (s : σ) :
    Safe (Handler.expect o : Handler σ ε α) s := by
  cases o with
  | none => cases h
  | some a => exact .pure a s

theorem Safe.zoom {τ ε' : Type} {read : σ → τ} {write : τ → σ → σ} {m : Handler τ ε' α} {s : σ}
    (h : Safe m (read s)) : Safe (Handler.zoom read write m : Handler σ ε (Except ε' α)) s := by
  rw [Safe, Handler.zoom]
  split
  · exact nofun
  · exact nofun
  · next t e =>
    rw [Safe, e] at h
    exact absurd rfl h

theorem Safe.attempt {ε' : Type} {m : Handler σ ε' α} {s : σ} (h : Safe m s) :
    Safe (Handler.attempt m : Handler σ ε (Except ε' α)) s := .zoom h

/-- What does not panic can be attempted. -/
theorem Safe.attempt_eq {ε' : Type} {m : Handler σ ε' α} {s : σ} (h : Safe m s) :
    ∃ r, (Handler.attempt m : Handler σ ε (Except ε' α)) s = (.ok r, (m s).2) := by
  rw [Safe] at h
  rw [Handler.attempt, Handler.zoom]
  dsimp only [id]
  split
  · next e => exact ⟨_, by rw [e]⟩
  · next e => exact ⟨_, by rw [e]⟩
  · next e => exact absurd (by rw [e]) h

/-- Without a panic, an outcome without a value is an error. -/
theorem Safe.exists_error {m : Handler σ ε α} {s : σ} (h : Safe m s)
    (hm : (m s).1.toOption = none) : ∃ e, m s = (.error e, (m s).2) := by
  rw [Safe] at h
  generalize m s = r at h hm
  obtain ⟨o, s'⟩ := r
  cases o with
  | ok a => cases hm
  | error e => exact ⟨e, rfl⟩
  | panicked => exact absurd rfl h

/-! ## What a handler leaves alone -/

/-- However `m` ends, the state it leaves is related by `R` to the one it started in. -/
def Moves (R : σ → σ → Prop) (m : Handler σ ε α) : Prop := ∀ s, R s (m s).2

theorem Moves.of_eq {R : σ → σ → Prop} {m : Handler σ ε α} (h : Moves R m) {s s' : σ}
    {o : Outcome ε α} (hm : m s = (o, s')) : R s s' := by
  have hs := h s
  rwa [hm] at hs

/-- The relations frames are made of. -/
structure Frame (R : σ → σ → Prop) : Prop where
  /-- Doing nothing is allowed. -/
  refl : ∀ s, R s s
  /-- So is doing two things in a row. -/
  trans : ∀ {s t u}, R s t → R t u → R s u

/-- Keeping a reading of the state is a frame. -/
theorem Frame.keeps (f : σ → α) : Frame fun s t : σ => f t = f s :=
  ⟨fun _ => rfl, fun h₁ h₂ => h₂.trans h₁⟩

/-- Changing nothing at all is one. -/
theorem Frame.eq : Frame (Eq : σ → σ → Prop) := ⟨fun _ => rfl, Eq.trans⟩

section
variable {R : σ → σ → Prop} (hR : Frame R)
include hR

theorem Frame.pure (a : α) : Moves R (Pure.pure a : Handler σ ε α) := fun s => hR.refl s

theorem Frame.throw (e : ε) : Moves R (Handler.throw e : Handler σ ε α) := fun s => hR.refl s

theorem Frame.panic : Moves R (Handler.panic : Handler σ ε α) := fun s => hR.refl s

theorem Frame.get : Moves R (Handler.get : Handler σ ε σ) := fun s => hR.refl s

theorem Frame.gets (f : σ → α) : Moves R (Handler.gets f : Handler σ ε α) := fun s => hR.refl s

theorem Frame.throwIf (c : Prop) [Decidable c] (e : ε) :
    Moves R (Handler.throwIf c e : Handler σ ε Unit) := by
  intro s
  rw [Handler.throwIf]
  split <;> exact hR.refl s

theorem Frame.ofOption (o : Option α) (e : ε) : Moves R (Handler.ofOption o e : Handler σ ε α) := by
  intro s
  cases o <;> exact hR.refl s

theorem Frame.ofExcept (x : Except ε α) : Moves R (Handler.ofExcept x : Handler σ ε α) := by
  intro s
  cases x <;> exact hR.refl s

theorem Frame.expect (o : Option α) : Moves R (Handler.expect o : Handler σ ε α) := by
  intro s
  cases o <;> exact hR.refl s

/-- **Frames are closed under sequencing.** -/
theorem Frame.bind {m : Handler σ ε α} {f : α → Handler σ ε β} (hm : Moves R m)
    (hf : ∀ a, Moves R (f a)) : Moves R (m >>= f) := by
  intro s
  rw [bind_def]
  have h := hm s
  split
  · next a s₁ e => rw [e] at h; exact hR.trans h (hf a s₁)
  · next e => rw [e] at h; exact h
  · next e => rw [e] at h; exact h

end

theorem Moves.modify {R : σ → σ → Prop} {f : σ → σ} (h : ∀ s, R s (f s)) :
    Moves R (Handler.modify f : Handler σ ε Unit) := h

theorem Moves.ite {R : σ → σ → Prop} {c : Prop} [Decidable c] {m₁ m₂ : Handler σ ε α}
    (h₁ : Moves R m₁) (h₂ : Moves R m₂) : Moves R (if c then m₁ else m₂) := by
  split
  · exact h₁
  · exact h₂

theorem Moves.attempt {ε' : Type} {R : σ → σ → Prop} {m : Handler σ ε' α} (h : Moves R m) :
    Moves R (Handler.attempt m : Handler σ ε (Except ε' α)) := by
  intro s
  have hs := h s
  rw [Handler.attempt, zoom]
  dsimp only [id]
  split <;> next e => rw [e] at hs; exact hs

/-- **Case analysis on a sequence whose first part is a frame.**  Either the first part ended it,
having moved the state by the frame only, or the second part takes over from there. -/
theorem Moves.bind_elim {R : σ → σ → Prop} {m : Handler σ ε α} (hm : Moves R m)
    {f : α → Handler σ ε β} {s : σ} {motive : Outcome ε β × σ → Prop}
    (hfail : ∀ (o : Outcome ε β) s₁, o.toOption = none → R s s₁ → motive (o, s₁))
    (hok : ∀ a s₁, m s = (.ok a, s₁) → R s s₁ → motive (f a s₁)) : motive ((m >>= f) s) := by
  rw [bind_def]
  have h := hm s
  split
  · next a s₁ e => rw [e] at h; exact hok a s₁ e h
  · next e s₁ e' => rw [e'] at h; exact hfail _ s₁ rfl h
  · next s₁ e => rw [e] at h; exact hfail _ s₁ rfl h

theorem Moves.mono {R S : σ → σ → Prop} {m : Handler σ ε α} (h : Moves R m)
    (hRS : ∀ s t, R s t → S s t) : Moves S m := fun s => hRS _ _ (h s)

/-! ## What a handler does not look at -/

/-- From states that `R` relates, `m` ends alike, and in states that `R` relates. -/
def Respects (R : σ → σ → Prop) (m : Handler σ ε α) : Prop :=
  ∀ s t, R s t → (m s).1 = (m t).1 ∧ R (m s).2 (m t).2

section
variable {R : σ → σ → Prop}

theorem Respects.pure (a : α) : Respects R (Pure.pure a : Handler σ ε α) := fun _ _ h ↦ ⟨rfl, h⟩

theorem Respects.throwIf (c : Prop) [Decidable c] (e : ε) :
    Respects R (Handler.throwIf c e : Handler σ ε Unit) := by
  intro s t h
  rw [Handler.throwIf]
  split <;> exact ⟨rfl, h⟩

theorem Respects.ofOption (o : Option α) (e : ε) :
    Respects R (Handler.ofOption o e : Handler σ ε α) := by
  intro s t h
  cases o <;> exact ⟨rfl, h⟩

theorem Respects.gets {f : σ → α} (hf : ∀ s t, R s t → f s = f t) :
    Respects R (Handler.gets f : Handler σ ε α) := fun s t h ↦ ⟨congrArg Outcome.ok (hf s t h), h⟩

theorem Respects.bind {m : Handler σ ε α} {f : α → Handler σ ε β} (hm : Respects R m)
    (hf : ∀ a, Respects R (f a)) : Respects R (m >>= f) := by
  intro s t h
  obtain ⟨hout, hstate⟩ := hm s t h
  rw [bind_def, bind_def]
  generalize m s = r at hout hstate
  generalize m t = r' at hout hstate
  obtain ⟨o, s₁⟩ := r
  obtain ⟨o', t₁⟩ := r'
  cases hout
  cases o with
  | ok a => exact hf a s₁ t₁ hstate
  | error e => exact ⟨rfl, hstate⟩
  | panicked => exact ⟨rfl, hstate⟩

theorem Respects.attempt {ε' : Type} {m : Handler σ ε' α} (hm : Respects R m) :
    Respects R (Handler.attempt m : Handler σ ε (Except ε' α)) := by
  intro s t h
  obtain ⟨hout, hstate⟩ := hm s t h
  simp only [Handler.attempt, zoom, id]
  generalize m s = r at hout hstate
  generalize m t = r' at hout hstate
  obtain ⟨o, s₁⟩ := r
  obtain ⟨o', t₁⟩ := r'
  cases hout
  cases o <;> exact ⟨rfl, hstate⟩

end

end Handler
