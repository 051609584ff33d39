import TpmFido2.Lib.Handler

/-!
# Handlers made of partial commands

A device takes commands: in some states a command works, gives a value and changes the state, and in
the others it is refused and changes nothing.  A handler that sends such commands one after the
other has a value exactly if all of them work, and then the value is a matter of the commands alone.
The rules for `value` take a handler apart from its first step to its last and turn what it
computes into an expression over `Option`; they are meant for `simp`.

A relation between handlers that goes along with the ways they are put together (`Compatible`) holds
between two handlers of the same shape if it holds between their calls.  Two such relations are
here.

A device may also fail where it need not.  `Within m m'` says that `m` can only fail more often than
`m'`: whenever it returns, `m'` returns the same and leaves the same state.  Handlers that differ in
nothing but how often their commands fail are related, step by step.  And a frame is such a
relation, of the first of two handlers alone.
-/

set_option autoImplicit false

namespace Handler

variable {σ ε α β : Type}

/-- A command that works where `c` has a value. -/
def ofCommand (e : ε) (c : σ → Option (α × σ)) : Handler σ ε α := fun s ↦
  match c s with
  | some p => (.ok p.1, p.2)
  | none => (.error e, s)

/-- The same, on a device where it may also fail. -/
def perform (works : Bool) (e : ε) (c : σ → Option (α × σ)) : Handler σ ε α :=
  if works then ofCommand e c else throw e

/-! ## Values -/

/-- What a handler returns, if it returns. -/
def value (m : Handler σ ε α) (s : σ) : Option α := (m s).1.toOption

theorem value_bind (m : Handler σ ε α) (f : α → Handler σ ε β) (s : σ) :
    value (m >>= f) s = (value m s).bind fun a ↦ value (f a) (m s).2 := by
  rw [value, value, bind_def]
  cases m s with
  | mk o s' => cases o <;> rfl

theorem value_bind_eq_some {m : Handler σ ε α} {f : α → Handler σ ε β} {s : σ} {b : β}
    (h : value (m >>= f) s = some b) : ∃ a, value m s = some a ∧ value (f a) (m s).2 = some b := by
  rw [value_bind] at h
  exact Option.bind_eq_some_iff.mp h

@[simp] theorem value_pure (a : α) (s : σ) : value (pure a : Handler σ ε α) s = some a := rfl

@[simp] theorem value_pure_bind (a : α) (f : α → Handler σ ε β) (s : σ) :
    value (pure a >>= f) s = value (f a) s := rfl

@[simp] theorem value_bind_pure (m : Handler σ ε α) (f : α → β) (s : σ) :
    value (m >>= fun a ↦ pure (f a)) s = (value m s).map f := by
  rw [value_bind]
  cases value m s <;> rfl

@[simp] theorem value_throwIf_bind (c : Prop) {_ : Decidable c} (e : ε) (f : Unit → Handler σ ε β)
    (s : σ) : value (throwIf c e >>= f) s = if c then none else value (f ()) s := by
  rw [throwIf]
  split <;> rfl

@[simp] theorem value_ofOption_bind (o : Option α) (e : ε) (f : α → Handler σ ε β) (s : σ) :
    value (ofOption o e >>= f) s = o.bind fun a ↦ value (f a) s := by
  cases o <;> rfl

@[simp] theorem value_modify (g : σ → σ) (s : σ) :
    value (modify g : Handler σ ε Unit) s = some () := rfl

@[simp] theorem value_modify_bind (g : σ → σ) (f : Unit → Handler σ ε β) (s : σ) :
    value (modify g >>= f) s = value (f ()) (g s) := rfl

@[simp] theorem value_guarded (g : σ → σ) (m : Handler σ ε α) (s : σ) :
    value (guarded g m) s = value m s := rfl

@[simp] theorem value_perform (e : ε) (c : σ → Option (α × σ)) (s : σ) :
    value (perform true e c) s = (c s).map Prod.fst := by
  rw [perform, if_pos rfl, value, ofCommand]
  cases c s <;> rfl

@[simp] theorem value_perform_bind (e : ε) (c : σ → Option (α × σ)) (f : α → Handler σ ε β)
    (s : σ) :
    value (perform true e c >>= f) s = (c s).bind fun p ↦ value (f p.1) p.2 := by
  rw [perform, if_pos rfl, value, bind_def, ofCommand]
  cases c s <;> rfl

/-- A result that is looked at only after a cleanup. -/
@[simp] theorem value_attempt_bind (e : ε) (c : σ → Option (α × σ)) (g : σ → σ)
    (f : α → Handler σ ε β) (s : σ) :
    value (attempt (perform true e c) >>= fun x ↦ modify g >>= fun _ ↦ ofExcept x >>= f) s =
      (c s).bind fun p ↦ value (f p.1) (g p.2) := by
  rw [perform, if_pos rfl, value, bind_def, attempt, zoom, ofCommand, id]
  cases c s <;> rfl

/-- A command moves the state as far as it does where it works. -/
theorem Frame.perform {R : σ → σ → Prop} (hR : Frame R) (works : Bool) (e : ε)
    {c : σ → Option (α × σ)} (h : ∀ s, ∀ p ∈ c s, R s p.2) : Moves R (perform works e c) := by
  intro s
  cases works with
  | false => exact hR.refl s
  | true =>
    rw [Handler.perform, if_pos rfl, ofCommand]
    cases hc : c s with
    | none => exact hR.refl s
    | some p => exact h s p hc

/-! ## Handlers of the same shape -/

/-- The relation goes along with the ways handlers are put together. -/
structure Compatible (P : ∀ α : Type, Handler σ ε α → Handler σ ε α → Prop) : Prop where
  pure : ∀ {α : Type} (a : α), P α (pure a) (pure a)
  throwIf : ∀ (c : Prop) [Decidable c] (e : ε), P Unit (throwIf c e) (throwIf c e)
  ofOption : ∀ {α : Type} (o : Option α) (e : ε), P α (ofOption o e) (ofOption o e)
  bind : ∀ {α β : Type} {m m' : Handler σ ε α} {f f' : α → Handler σ ε β},
    P α m m' → (∀ a, P β (f a) (f' a)) → P β (m >>= f) (m' >>= f')
  guarded : ∀ {α : Type} {g : σ → σ} {m m' : Handler σ ε α},
    P Unit (modify g) (modify g) → P α m m' → P α (guarded g m) (guarded g m')
  /-- A result that is looked at only after a cleanup. -/
  attempt : ∀ {α β : Type} {g : σ → σ} {m m' : Handler σ ε α} {f f' : α → Handler σ ε β},
    P Unit (modify g) (modify g) → P α m m' → (∀ a, P β (f a) (f' a)) →
    P β (attempt m >>= fun x : Except ε α ↦ modify g >>= fun _ ↦ ofExcept x >>= f)
      (attempt m' >>= fun x : Except ε α ↦ modify g >>= fun _ ↦ ofExcept x >>= f')

/-- What a frame allows, of the first of two handlers. -/
theorem Frame.compatible {R : σ → σ → Prop} (hR : Frame R) :
    Compatible fun (α : Type) (m _ : Handler σ ε α) ↦ Moves R m where
  pure a := hR.pure a
  throwIf c _ e := hR.throwIf c e
  ofOption o e := hR.ofOption o e
  bind hm hf := hR.bind hm hf
  guarded hg hm := fun s ↦ hR.trans (hm s) (hg _)
  attempt hg hm hf := hR.bind hm.attempt fun x ↦ hR.bind hg fun _ ↦ hR.bind (hR.ofExcept x) hf

/-! ## Failing more often -/

/-- Whatever `m` returns, `m'` returns as well. -/
def Within (m m' : Handler σ ε α) : Prop := ∀ s a s', m s = (.ok a, s') → m' s = (.ok a, s')

section
variable {m m' : Handler σ ε α} {f f' : α → Handler σ ε β}

theorem Within.refl (m : Handler σ ε α) : Within m m := fun _ _ _ h ↦ h

theorem Within.bind (hm : Within m m') (hf : ∀ a, Within (f a) (f' a)) :
    Within (m >>= f) (m' >>= f') := by
  intro s b s' h
  obtain ⟨a, s₁, ha, hb⟩ := bind_ok h
  rw [bind_of_ok _ (hm s a s₁ ha)]
  exact hf a s₁ b s' hb

theorem Within.guarded (g : σ → σ) (hm : Within m m') : Within (guarded g m) (guarded g m') := by
  intro s a s' h
  obtain ⟨ho, hs⟩ := Prod.mk.inj h
  have hm' := hm s a (m s).2 (Prod.ext ho rfl)
  rw [Handler.guarded, hm', ← hs]

theorem Within.perform (works : Bool) (e : ε) (c : σ → Option (α × σ)) :
    Within (perform works e c) (perform true e c) := by
  cases works with
  | false => exact fun _ _ _ h ↦ by cases h
  | true => exact .refl _

/-- A result that is looked at only after a cleanup. -/
theorem Within.attempt {g : σ → σ} (hm : Within m m') (hf : ∀ a, Within (f a) (f' a)) :
    Within (attempt m >>= fun x : Except ε α ↦ modify g >>= fun _ ↦ ofExcept x >>= f)
      (attempt m' >>= fun x : Except ε α ↦ modify g >>= fun _ ↦ ofExcept x >>= f') := by
  intro s b s' h
  obtain ⟨x, s₁, hx, h⟩ := bind_ok h
  obtain ⟨u, s₂, hu, h⟩ := bind_ok h
  obtain ⟨a, s₃, ha, hb⟩ := bind_ok h
  obtain ⟨rfl, rfl⟩ := ofExcept_ok ha
  have hm' := hm s a s₁ (attempt_ok hx)
  have hx' : (Handler.attempt m' : Handler σ ε (Except ε α)) s = (.ok (.ok a), s₁) := by
    rw [Handler.attempt, zoom, id, hm']
  rw [bind_of_ok _ hx', bind_of_ok _ hu, bind_of_ok _ ha]
  exact hf a s₃ b s' hb

theorem Within.compatible : Compatible fun (α : Type) (m m' : Handler σ ε α) ↦ Within m m' where
  pure _ := .refl _
  throwIf _ _ _ := .refl _
  ofOption _ _ := .refl _
  bind hm hf := hm.bind hf
  guarded _ hm := hm.guarded _
  attempt _ hm hf := hm.attempt hf

theorem Within.value {s : σ} {a : α} (h : Within m m') (ha : value m s = some a) :
    value m' s = some a := by
  rw [Handler.value] at ha ⊢
  cases hm : m s with
  | mk o s' =>
    rw [hm] at ha
    cases o with
    | ok b =>
      rw [h s b s' hm]
      exact ha
    | error e => cases ha
    | panicked => cases ha

end

end Handler
