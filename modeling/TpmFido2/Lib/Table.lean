import Mathlib.Data.List.Basic
import Mathlib.Data.List.Forall2
import Mathlib.Data.List.Induction
import Mathlib.Data.List.Nodup
import Mathlib.Data.List.Sort

/-!
# Tables with a primary key

A `Table key` is a list of rows no two of which have the same key.  The uniqueness is a field, so
an insertion that would break the key constraint has nowhere to go and returns `none`, and every
other operation comes with the proof that it keeps the constraint.

The operations are the statements a program sends to such a table — insert, delete by key, update
by key — and each has one lemma that says which rows the result has (`mem_insert`, `mem_delete`,
`mem_update`).  A row is determined by its key (`Table.eq_of_key_eq`), so membership is all there
is to know, and looking a key up is membership again (`find_eq_some_iff`).

An `Alteration` is any change or removal of one row, and `Table.alter` makes it.  Seen through
`find` a table is a map from keys to rows, an alteration changes that map at one key
(`find_alter_self`, `find_alter_of_ne`), and alterations at different keys commute (`alter_comm`).

Rows and what they stand for are related by `List.Forall₂`; the first lemmas of the file find the
one that belongs to the other.  `List.filter_insertionSort` is about rows that may share a key: to
sort them does not change their order.
-/

set_option autoImplicit false

theorem List.Forall₂.exists_left {α β : Type} {R : α → β → Prop} {l₁ : List α} {l₂ : List β}
    (h : List.Forall₂ R l₁ l₂) {b : β} (hb : b ∈ l₂) : ∃ a ∈ l₁, R a b := by
  induction h with
  | nil => cases hb
  | @cons a b' l₁ l₂ hab _ ih =>
    rcases List.mem_cons.mp hb with rfl | hb
    · exact ⟨a, List.mem_cons_self, hab⟩
    · obtain ⟨a', ha', h⟩ := ih hb
      exact ⟨a', List.mem_cons_of_mem a ha', h⟩

theorem List.Forall₂.exists_right {α β : Type} {R : α → β → Prop} {l₁ : List α} {l₂ : List β}
    (h : List.Forall₂ R l₁ l₂) {a : α} (ha : a ∈ l₁) : ∃ b ∈ l₂, R a b :=
  List.Forall₂.exists_left h.flip ha

theorem List.Forall₂.exists_getElem? {α β : Type} {R : α → β → Prop} {l₁ : List α} {l₂ : List β}
    (h : List.Forall₂ R l₁ l₂) {n : Nat} {b : β} (hb : l₂[n]? = some b) :
    ∃ a, l₁[n]? = some a ∧ R a b := by
  induction h generalizing n with
  | nil => cases hb
  | @cons a _ _ _ hab _ ih =>
    cases n with
    | zero =>
      cases hb
      exact ⟨a, rfl, hab⟩
    | succ n => exact ih hb

/-- If the second list reads as the images of the first, so it does as a whole. -/
theorem List.Forall₂.filterMap_eq {α β γ : Type} {R : α → β → Prop} {f : β → Option γ} {g : α → γ}
    {l₁ : List α} {l₂ : List β} (h : List.Forall₂ R l₁ l₂)
    (hfg : ∀ a ∈ l₁, ∀ b, R a b → f b = some (g a)) : l₂.filterMap f = l₁.map g := by
  induction h with
  | nil => rfl
  | cons hab _ ih =>
    rw [List.forall_mem_cons] at hfg
    rw [List.filterMap_cons_some (hfg.1 _ hab), List.map_cons, ih hfg.2]

/-- What is left of two lists when both drop the members that do not pass. -/
theorem List.Forall₂.filter_filterMap {α β γ : Type} {R : α → β → Prop} {S : α → γ → Prop}
    {p : α → Bool} {f : β → Option γ} {l₁ : List α} {l₂ : List β} (h : List.Forall₂ R l₁ l₂)
    (hpass : ∀ a b, R a b → p a → ∃ c, f b = some c ∧ S a c)
    (hdrop : ∀ a b, R a b → ¬ p a → f b = none) :
    List.Forall₂ S (l₁.filter p) (l₂.filterMap f) := by
  induction h with
  | nil => exact .nil
  | @cons a b l₁ l₂ hab _ ih =>
    by_cases hp : p a
    · obtain ⟨c, hc, hS⟩ := hpass a b hab hp
      rw [List.filter_cons_of_pos hp, List.filterMap_cons_some hc]
      exact .cons hS ih
    · rw [List.filter_cons_of_neg hp, List.filterMap_cons_none (hdrop a b hab hp)]
      exact ih

/-- What members that belong together agree on, the lists agree on. -/
theorem List.Forall₂.map_eq_map {α β γ : Type} {R : α → β → Prop} {f : α → γ} {g : β → γ}
    {l₁ : List α} {l₂ : List β} (h : List.Forall₂ R l₁ l₂) (hfg : ∀ a b, R a b → f a = g b) :
    l₁.map f = l₂.map g := by
  rw [← List.forall₂_eq_eq_eq, List.forall₂_map_left_iff, List.forall₂_map_right_iff]
  exact h.imp hfg

/-- Two lists that belong to one list, each member to one, are the same. -/
theorem List.Forall₂.right_unique {α β : Type} {R : α → β → Prop} (hR : Relator.RightUnique R)
    {l : List α} {l₁ l₂ : List β} (h₁ : List.Forall₂ R l l₁) (h₂ : List.Forall₂ R l l₂) :
    l₁ = l₂ := by
  induction h₁ generalizing l₂ with
  | nil =>
    cases h₂
    rfl
  | cons hab _ ih =>
    cases h₂ with
    | cons hab' h₂ => rw [hR hab hab', ih h₂]

/-- A change of one member that a function does not see. -/
theorem List.map_modify_of_comp {α β : Type} (l : List α) (i : Nat) {f : α → α} {g : α → β}
    (h : ∀ a, g (f a) = g a) : (l.modify i f).map g = l.map g := by
  refine List.ext_getElem? fun j ↦ ?_
  rw [List.getElem?_map, List.getElem?_map, List.getElem?_modify]
  by_cases hij : i = j
  · simp [hij, Function.comp_def, h]
  · simp [hij]

/-- **Stability**: sorting does not change the order of the elements a predicate holds of, if those
tie. -/
theorem List.filter_insertionSort {α : Type} {r : α → α → Prop} [DecidableRel r] {p : α → Bool}
    (hties : ∀ a b, p a → p b → r a b) (l : List α) :
    (l.insertionSort r).filter p = l.filter p := by
  have hpairwise : (l.filter p).Pairwise r :=
    List.pairwise_of_forall_mem_list fun a ha b hb ↦
      hties a b (List.of_mem_filter ha) (List.of_mem_filter hb)
  have hsublist : ((l.filter p).filter p).Sublist ((l.insertionSort r).filter p) :=
    (List.sublist_insertionSort hpairwise List.filter_sublist).filter p
  rw [List.filter_filter] at hsublist
  simp only [Bool.and_self] at hsublist
  exact (hsublist.eq_of_length ((List.perm_insertionSort r l).filter p).length_eq.symm).symm

/-- It does not change which of them is found first. -/
theorem List.find?_insertionSort {α : Type} {r : α → α → Prop} [DecidableRel r] {p : α → Bool}
    (hties : ∀ a b, p a → p b → r a b) (l : List α) :
    (l.insertionSort r).find? p = l.find? p := by
  rw [← List.head?_filter, List.filter_insertionSort hties, List.head?_filter]

/-- Some positions of a list, and what is there. -/
theorem List.forall₂_filterMap_getElem? {α : Type} (l : List α) {is : List Nat}
    (h : ∀ i ∈ is, i < l.length) :
    List.Forall₂ (fun i a ↦ l[i]? = some a) is (is.filterMap fun i ↦ l[i]?) := by
  induction is with
  | nil => exact .nil
  | cons i is ih =>
    rw [List.forall_mem_cons] at h
    rw [List.filterMap_cons_some (List.getElem?_eq_getElem h.1)]
    exact .cons (List.getElem?_eq_getElem h.1) (ih h.2)

/-- The positions at which a predicate holds, and what is there. -/
theorem List.forall₂_filter_range {α : Type} (l : List α) (p : α → Bool) :
    List.Forall₂ (fun i a ↦ l[i]? = some a)
      ((List.range l.length).filter fun i ↦ (l[i]?).any p) (l.filter p) := by
  induction l using List.reverseRecOn with
  | nil => exact .nil
  | append_singleton l a ih =>
    -- in front of the last member everything is as without it
    have hfront : ∀ i ∈ List.range l.length, (l ++ [a])[i]? = l[i]? := fun i hi ↦
      List.getElem?_append_left (List.mem_range.mp hi)
    rw [List.length_append, List.length_singleton, List.range_succ, List.filter_append,
      List.filter_append,
      List.filter_congr fun i hi ↦ by rw [hfront i hi]]
    refine List.rel_append (R := fun i b ↦ (l ++ [a])[i]? = some b) ?_ ?_
    · refine ih.imp fun i b hb ↦ ?_
      rw [List.getElem?_append_left (List.getElem?_eq_some_iff.mp hb).1, hb]
    · cases hp : p a with
      | false => simp [hp]
      | true => simp [hp]

theorem Option.Rel.imp {α β : Type} {R S : α → β → Prop} {a : Option α} {b : Option β}
    (h : Option.Rel R a b) (hRS : ∀ a b, R a b → S a b) : Option.Rel S a b := by
  cases h with
  | none => exact .none
  | some h => exact .some (hRS _ _ h)

/-- Rows with pairwise different keys. -/
structure Table {κ ρ : Type} (key : ρ → κ) where
  /-- The rows, in no order a program may rely on. -/
  rows : List ρ
  /-- The primary key constraint. -/
  nodup : (rows.map key).Nodup

namespace Table

variable {κ ρ : Type} {key : ρ → κ}

/-- The table without rows. -/
def empty (key : ρ → κ) : Table key := ⟨[], List.nodup_nil⟩

@[simp] theorem rows_empty : (empty key).rows = [] := rfl

/-- **A row is determined by its key.** -/
theorem eq_of_key_eq (t : Table key) {r r' : ρ} (hr : r ∈ t.rows) (hr' : r' ∈ t.rows)
    (h : key r = key r') : r = r' :=
  List.inj_on_of_nodup_map t.nodup hr hr' h

variable [DecidableEq κ]

/-- The row with a given key. -/
def find (t : Table key) (k : κ) : Option ρ := t.rows.find? fun r ↦ key r = k

theorem find_eq_some_iff (t : Table key) (k : κ) (r : ρ) :
    t.find k = some r ↔ r ∈ t.rows ∧ key r = k := by
  constructor
  · intro h
    exact ⟨List.mem_of_find?_eq_some h, by simpa using List.find?_some h⟩
  · rintro ⟨hr, rfl⟩
    cases h : t.find (key r) with
    | none =>
      rw [find, List.find?_eq_none] at h
      simpa using h r hr
    | some r' =>
      have hkey : key r' = key r := by simpa using List.find?_some h
      rw [t.eq_of_key_eq (List.mem_of_find?_eq_some h) hr hkey]

theorem find_eq_none_iff (t : Table key) (k : κ) :
    t.find k = none ↔ ∀ r ∈ t.rows, key r ≠ k := by
  simp [find]

/-! ## Statements -/

/-- Insert a row; `none` when its key is taken. -/
def insert (t : Table key) (r : ρ) : Option (Table key) :=
  if h : key r ∈ t.rows.map key then none
  else some ⟨t.rows ++ [r], by
    rw [List.map_append, List.nodup_append']
    exact ⟨t.nodup, List.nodup_singleton _, by simpa using h⟩⟩

theorem insert_eq_some_iff {t t' : Table key} {r : ρ} :
    t.insert r = some t' ↔ (∀ x ∈ t.rows, key x ≠ key r) ∧ t'.rows = t.rows ++ [r] := by
  rw [insert]
  split
  · next h =>
    obtain ⟨x, hx, hk⟩ := List.mem_map.mp h
    exact ⟨fun h' ↦ (nomatch h'), fun h' ↦ absurd hk (h'.1 x hx)⟩
  · next h =>
    rw [Option.some.injEq]
    constructor
    · rintro rfl
      exact ⟨fun x hx hk ↦ h (List.mem_map.mpr ⟨x, hx, hk⟩), rfl⟩
    · rintro ⟨-, h'⟩
      cases t'
      cases h'
      rfl

theorem exists_insert {t : Table key} {r : ρ} (h : ∀ x ∈ t.rows, key x ≠ key r) :
    ∃ t', t.insert r = some t' := by
  rw [insert, dif_neg]
  · exact ⟨_, rfl⟩
  · intro hmem
    obtain ⟨x, hx, hk⟩ := List.mem_map.mp hmem
    exact h x hx hk

/-- Delete the row with a given key. -/
def delete (t : Table key) (k : κ) : Table key :=
  ⟨t.rows.filter fun r ↦ key r ≠ k, t.nodup.sublist (List.filter_sublist.map key)⟩

@[simp] theorem mem_delete {t : Table key} {k : κ} {r : ρ} :
    r ∈ (t.delete k).rows ↔ r ∈ t.rows ∧ key r ≠ k := by
  simp [delete]

/-- Change the row with a given key; the key itself is not one of the columns changed. -/
def update (t : Table key) (k : κ) (f : ρ → ρ) (hf : ∀ r, key (f r) = key r) : Table key :=
  ⟨t.rows.map fun r ↦ if key r = k then f r else r, by
    have h : key ∘ (fun r ↦ if key r = k then f r else r) = key := by
      funext r
      dsimp only [Function.comp]
      split
      · exact hf r
      · rfl
    rw [List.map_map, h]
    exact t.nodup⟩

theorem mem_update {t : Table key} {k : κ} {f : ρ → ρ} {hf : ∀ r, key (f r) = key r} {r : ρ} :
    r ∈ (t.update k f hf).rows ↔
      ∃ r₀ ∈ t.rows, r = if key r₀ = k then f r₀ else r₀ := by
  simp only [update, List.mem_map, eq_comm]

@[simp] theorem map_key_update (t : Table key) (k : κ) (f : ρ → ρ) (hf : ∀ r, key (f r) = key r) :
    (t.update k f hf).rows.map key = t.rows.map key := by
  simp only [update, List.map_map]
  refine List.map_congr_left fun r _ ↦ ?_
  dsimp only [Function.comp]
  split
  · exact hf r
  · rfl

/-- The row that was changed. -/
theorem mem_update_self {t : Table key} {k : κ} {f : ρ → ρ} {hf : ∀ r, key (f r) = key r} {r : ρ}
    (hr : r ∈ t.rows) (hk : key r = k) : f r ∈ (t.update k f hf).rows :=
  mem_update.mpr ⟨r, hr, by rw [if_pos hk]⟩

/-- The rows that were not. -/
theorem mem_update_of_ne {t : Table key} {k : κ} {f : ρ → ρ} {hf : ∀ r, key (f r) = key r} {r : ρ}
    (hk : key r ≠ k) : r ∈ (t.update k f hf).rows ↔ r ∈ t.rows := by
  rw [mem_update]
  constructor
  · rintro ⟨r₀, hr₀, rfl⟩
    split at hk
    · next h => exact absurd ((hf r₀).trans h) hk
    · next h => rwa [if_neg h]
  · intro hr
    exact ⟨r, hr, by rw [if_neg hk]⟩

/-! ## Alterations -/

/-- What becomes of one row: another row with the same key, or none. -/
structure Alteration (key : ρ → κ) where
  /-- What becomes of the row. -/
  change : ρ → Option ρ
  /-- The key is not one of the columns changed. -/
  keeps : ∀ r r', change r = some r' → key r' = key r

/-- The alteration an update makes. -/
def Alteration.update (f : ρ → ρ) (hf : ∀ r, key (f r) = key r) : Alteration key :=
  ⟨fun r ↦ some (f r), by rintro r _ ⟨⟩; exact hf r⟩

/-- The alteration a deletion makes. -/
def Alteration.delete (key : ρ → κ) : Alteration key := ⟨fun _ ↦ none, by rintro _ _ ⟨⟩⟩

/-- What becomes of a row of the table when the row with key `k` is altered. -/
def Alteration.at (a : Alteration key) (k : κ) (r : ρ) : Option ρ :=
  if key r = k then a.change r else some r

theorem Alteration.key_at {a : Alteration key} {k : κ} {r r' : ρ} (h : a.at k r = some r') :
    key r' = key r := by
  rw [Alteration.at] at h
  split at h
  · exact a.keeps r r' h
  · cases h
    rfl

/-- Alter the row with a given key. -/
def alter (t : Table key) (k : κ) (a : Alteration key) : Table key :=
  ⟨t.rows.filterMap (a.at k), by
    have hrows := t.nodup
    rw [List.Nodup, List.pairwise_map] at hrows ⊢
    rw [List.pairwise_filterMap]
    refine hrows.imp fun hne x hx y hy ↦ ?_
    rw [Alteration.key_at hx, Alteration.key_at hy]
    exact hne⟩

theorem mem_alter {t : Table key} {k : κ} {a : Alteration key} {r : ρ} :
    r ∈ (t.alter k a).rows ↔ ∃ r₀ ∈ t.rows, a.at k r₀ = some r := List.mem_filterMap

theorem find_alter_self (t : Table key) (k : κ) (a : Alteration key) :
    (t.alter k a).find k = (t.find k).bind a.change := by
  ext r
  rw [find_eq_some_iff, mem_alter, Option.bind_eq_some_iff]
  constructor
  · rintro ⟨⟨r₀, hr₀, hr⟩, hk⟩
    have hk₀ : key r₀ = k := (Alteration.key_at hr).symm.trans hk
    rw [Alteration.at, if_pos hk₀] at hr
    exact ⟨r₀, (find_eq_some_iff t k r₀).mpr ⟨hr₀, hk₀⟩, hr⟩
  · rintro ⟨r₀, hr₀, hr⟩
    obtain ⟨hmem, hk₀⟩ := (find_eq_some_iff t k r₀).mp hr₀
    have hat : a.at k r₀ = some r := by rw [Alteration.at, if_pos hk₀, hr]
    exact ⟨⟨r₀, hmem, hat⟩, (Alteration.key_at hat).trans hk₀⟩

theorem find_alter_of_ne (t : Table key) {k k' : κ} (a : Alteration key) (h : k' ≠ k) :
    (t.alter k a).find k' = t.find k' := by
  ext r
  rw [find_eq_some_iff, find_eq_some_iff, mem_alter]
  refine and_congr_left fun hk ↦ ?_
  have hne : key r ≠ k := fun heq ↦ h (hk.symm.trans heq)
  constructor
  · rintro ⟨r₀, hr₀, hr⟩
    have hne₀ : key r₀ ≠ k := fun heq ↦ hne ((Alteration.key_at hr).trans heq)
    rw [Alteration.at, if_neg hne₀, Option.some_inj] at hr
    rwa [← hr]
  · intro hr
    exact ⟨r, hr, by rw [Alteration.at, if_neg hne]⟩

/-- **Alterations at different keys commute.** -/
theorem alter_comm (t : Table key) {k k' : κ} (a a' : Alteration key) (h : k ≠ k') :
    (t.alter k a).alter k' a' = (t.alter k' a').alter k a := by
  have hrows : ((t.rows.filterMap (a.at k)).filterMap (a'.at k')) =
      (t.rows.filterMap (a'.at k')).filterMap (a.at k) := by
    rw [List.filterMap_filterMap, List.filterMap_filterMap]
    refine List.filterMap_congr fun r _ ↦ ?_
    -- whichever of the two applies to the row, the other passes its result on
    have hpasses (b b' : Alteration key) {l l' : κ} (hl : l ≠ l') (hr : key r = l) :
        (b.at l r).bind (b'.at l') = b.at l r := by
      cases hb : b.at l r with
      | none => rfl
      | some r' =>
        have hr' : key r' ≠ l' := fun heq ↦
          hl (hr.symm.trans ((Alteration.key_at hb).symm.trans heq))
        rw [Option.bind_some, Alteration.at, if_neg hr']
    have hskips (b : Alteration key) {l : κ} (hr : key r ≠ l) : b.at l r = some r := by
      rw [Alteration.at, if_neg hr]
    by_cases hk : key r = k
    · have hk' : key r ≠ k' := fun heq ↦ h (hk.symm.trans heq)
      rw [hpasses a a' h hk, hskips a' hk', Option.bind_some]
    · by_cases hk' : key r = k'
      · rw [hpasses a' a h.symm hk', hskips a hk, Option.bind_some]
      · rw [hskips a hk, hskips a' hk', Option.bind_some, Option.bind_some, hskips a hk,
          hskips a' hk']
  exact (mk.injEq _ _ _ _).mpr hrows

theorem update_eq_alter (t : Table key) (k : κ) (f : ρ → ρ) (hf : ∀ r, key (f r) = key r) :
    t.update k f hf = t.alter k (.update f hf) := by
  have hrows : t.rows.map (fun r ↦ if key r = k then f r else r) =
      t.rows.filterMap ((Alteration.update f hf).at k) := by
    rw [← List.filterMap_eq_map]
    refine List.filterMap_congr fun r _ ↦ ?_
    rw [Alteration.at, Function.comp_apply]
    split <;> rfl
  exact (mk.injEq _ _ _ _).mpr hrows

theorem delete_eq_alter (t : Table key) (k : κ) : t.delete k = t.alter k (.delete key) := by
  have hrows : t.rows.filter (fun r ↦ key r ≠ k) =
      t.rows.filterMap ((Alteration.delete key).at k) := by
    rw [← List.filterMap_eq_filter]
    refine List.filterMap_congr fun r _ ↦ ?_
    by_cases hk : key r = k <;> simp [Alteration.at, Alteration.delete, Option.guard, hk]
  exact (mk.injEq _ _ _ _).mpr hrows

end Table
