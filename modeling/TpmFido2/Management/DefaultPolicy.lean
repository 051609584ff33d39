import TpmFido2.Ctap2.Sample

/-!
# The numbers of the default PCRs

`set-default-pcr-policy` takes a list of numbers from the socket and stores it; the next start of
the daemon makes a selection of PCRs from what is stored.  Nobody looks at the numbers in between:
`handle_set_default_pcr_policy` hands them to the store, and `pcr_selection_for_indices` turns
each into a bit by a shift, asks the library whether that bit is a slot, and then has the library
build a selection of the slots, which it may refuse as well.

The shift is by the number itself, which may be 32 or more.  A build with overflow checks panics
there (`pcrSelectionChecked`), and one without them shifts by the number modulo 32, so that PCR 39
is PCR 7 (`pcrSelectionForIndices`).

* `Validated` — what is to be expected of a list: no build panics on it, and what the selection
  is made of are the PCRs listed, all of them known to the library.
* **`validated_iff`** — when it can be expected: if the first number that is not a PCR, if there is
  one, is less than 32.  Of a list that was stored as the default it is also expected that a
  selection can be made at all; that takes a list of PCRs of which the library builds one.
-/

set_option autoImplicit false

namespace TpmFido2

/-! ## Selections -/

/-- A PCR number that the library has a slot for. -/
def TpmDevice.DefinesPcr (device : TpmDevice) (i : UInt32) : Prop :=
  i < 32 ∧ device.isPcrSlot ((1 : UInt32) <<< i) = true

instance (device : TpmDevice) (i : UInt32) : Decidable (device.DefinesPcr i) :=
  inferInstanceAs (Decidable (_ ∧ _))

/-- A selection, given by the bits of its slots, has a PCR in it. -/
def Selects (selection : List UInt32) (i : UInt32) : Prop :=
  i < 32 ∧ (1 : UInt32) <<< i ∈ selection

instance (selection : List UInt32) (i : UInt32) : Decidable (Selects selection i) :=
  inferInstanceAs (Decidable (_ ∧ _))

/-- The library builds a selection of the slots of these numbers. -/
def TpmDevice.Builds (device : TpmDevice) (indices : List UInt32) : Prop :=
  device.buildsSelection (indices.map fun i ↦ (1 : UInt32) <<< i) = true

/-- The slots of `pcr_selection_for_indices` in a build with overflow checks.  The numbers are
looked at one after the other, up to the first that is not accepted. -/
def slotsChecked (device : TpmDevice) : List UInt32 → Outcome Unit (List UInt32)
  | [] => .ok []
  | i :: indices =>
    if 32 ≤ i then .panicked
    else if device.isPcrSlot ((1 : UInt32) <<< i) then
      match slotsChecked device indices with
      | .ok slots => .ok ((1 : UInt32) <<< i :: slots)
      | .error e => .error e
      | .panicked => .panicked
    else .error ()

/-- `pcr_selection_for_indices` in a build with overflow checks. -/
def pcrSelectionChecked (device : TpmDevice) (indices : List UInt32) :
    Outcome Unit (List UInt32) :=
  match slotsChecked device indices with
  | .ok slots => if device.buildsSelection slots then .ok slots else .error ()
  | .error e => .error e
  | .panicked => .panicked

/-- What is expected of a list of numbers: no panic, and a selection only of PCRs, of exactly those
listed. -/
structure Validated (device : TpmDevice) (indices : List UInt32) : Prop where
  noPanic : pcrSelectionChecked device indices ≠ .panicked
  defined : ∀ selection, pcrSelectionForIndices device indices = some selection →
    ∀ i ∈ indices, device.DefinesPcr i
  exact : ∀ selection, pcrSelectionForIndices device indices = some selection →
    ∀ i, Selects selection i ↔ i ∈ indices

variable {device : TpmDevice} {indices : List UInt32}

theorem not_definesPcr_of_le {i : UInt32} (h : 32 ≤ i) : ¬ device.DefinesPcr i := fun hd ↦
  UInt32.not_lt.mpr h hd.1

theorem pcrSelectionForIndices_eq_some {selection : List UInt32} :
    pcrSelectionForIndices device indices = some selection ↔
      (∀ i ∈ indices, device.isPcrSlot ((1 : UInt32) <<< i) = true) ∧ device.Builds indices ∧
        indices.map (fun i ↦ (1 : UInt32) <<< i) = selection := by
  simp [pcrSelectionForIndices, TpmDevice.Builds]

/-- The bit of a PCR is its own. -/
theorem shiftLeft_injective {i j : UInt32} (hi : i < 32) (hj : j < 32)
    (h : (1 : UInt32) <<< i = (1 : UInt32) <<< j) : i = j := by
  have hpow (k : UInt32) (hk : k < 32) : ((1 : UInt32) <<< k).toNat = 2 ^ k.toNat := by
    have hk' : k.toNat < 32 := UInt32.lt_iff_toNat_lt.mp hk
    have hlt : 2 ^ k.toNat < 2 ^ 32 := Nat.pow_lt_pow_right (by decide) hk'
    rw [UInt32.toNat_shiftLeft, Nat.mod_eq_of_lt hk', Nat.shiftLeft_eq]
    simpa using Nat.mod_eq_of_lt hlt
  have hpows : 2 ^ i.toNat = 2 ^ j.toNat := by rw [← hpow i hi, h, hpow j hj]
  exact UInt32.toNat_inj.mp (Nat.pow_right_injective le_rfl hpows)

theorem slotsChecked_panicked_iff :
    slotsChecked device indices = .panicked ↔
      ∃ i, indices.find? (fun i ↦ ¬ device.DefinesPcr i) = some i ∧ 32 ≤ i := by
  induction indices with
  | nil => simp [slotsChecked]
  | cons i indices ih =>
    rw [slotsChecked]
    by_cases hle : 32 ≤ i
    · simp [hle, not_definesPcr_of_le hle]
    · have hlt : i < 32 := UInt32.not_le.mp hle
      by_cases hslot : device.isPcrSlot ((1 : UInt32) <<< i) = true
      · have hdefined : device.DefinesPcr i := ⟨hlt, hslot⟩
        rw [if_neg hle, if_pos hslot, List.find?_cons_of_neg (by simpa using hdefined), ← ih]
        cases slotsChecked device indices <;> simp
      · have hdefined : ¬ device.DefinesPcr i := fun h ↦ hslot h.2
        simp [hle, hslot, hdefined]

/-- A build with overflow checks panics at the first number that is not a PCR, if it is too
large. -/
theorem pcrSelectionChecked_panicked_iff :
    pcrSelectionChecked device indices = .panicked ↔
      ∃ i, indices.find? (fun i ↦ ¬ device.DefinesPcr i) = some i ∧ 32 ≤ i := by
  rw [← slotsChecked_panicked_iff, pcrSelectionChecked]
  cases slotsChecked device indices with
  | ok slots => by_cases hbuilds : device.buildsSelection slots <;> simp [hbuilds]
  | error e => simp
  | panicked => simp

/-- On a list of PCRs the selection is made, of those listed. -/
theorem validated_of_defined (h : ∀ i ∈ indices, device.DefinesPcr i) :
    Validated device indices where
  noPanic hpanic := by
    obtain ⟨i, hfind, -⟩ := pcrSelectionChecked_panicked_iff.mp hpanic
    have hnot : ¬ device.DefinesPcr i := by simpa using List.find?_some hfind
    exact hnot (h i (List.mem_of_find?_eq_some hfind))
  defined _ _ := h
  exact selection hselection i := by
    obtain ⟨-, -, rfl⟩ := pcrSelectionForIndices_eq_some.mp hselection
    constructor
    · rintro ⟨hi, hmem⟩
      obtain ⟨j, hj, hshift⟩ := List.mem_map.mp hmem
      rwa [← shiftLeft_injective (h j hj).1 hi hshift]
    · exact fun hi ↦ ⟨(h i hi).1, List.mem_map_of_mem hi⟩

/-- A list is as expected if the first number that is not a PCR is not too large. -/
theorem validated_iff_find? :
    Validated device indices ↔
      ∀ i, indices.find? (fun i ↦ ¬ device.DefinesPcr i) = some i → i < 32 := by
  constructor
  · intro h i hfind
    by_contra hle
    exact h.noPanic (pcrSelectionChecked_panicked_iff.mpr ⟨i, hfind, UInt32.not_lt.mp hle⟩)
  · intro h
    cases hfind : indices.find? fun i ↦ ¬ device.DefinesPcr i with
    | none =>
      refine validated_of_defined fun i hi ↦ ?_
      simpa using List.find?_eq_none.mp hfind i hi
    | some i =>
      -- The library refuses that number, so there is no selection.
      have hi := h i hfind
      have hnot : ¬ device.DefinesPcr i := by simpa using List.find?_some hfind
      have hnone : ∀ selection, pcrSelectionForIndices device indices ≠ some selection :=
        fun selection hselection ↦ hnot
          ⟨hi, (pcrSelectionForIndices_eq_some.mp hselection).1 i (List.mem_of_find?_eq_some hfind)⟩
      refine ⟨fun hpanic ↦ ?_, fun selection hs ↦ absurd hs (hnone selection),
        fun selection hs ↦ absurd hs (hnone selection)⟩
      obtain ⟨j, hfind', hj⟩ := pcrSelectionChecked_panicked_iff.mp hpanic
      cases hfind.symm.trans hfind'
      exact UInt32.not_lt.mpr hj hi

/-! ## The default -/

namespace Management

open Handler

/-- The response to `ManagementRequest::SetDefaultPcrPolicy`: the numbers, or an error. -/
inductive DefaultPolicyResponse where
  | ok (pcrIndices : List UInt32)
  | error
deriving DecidableEq, Repr

/-- `handle_set_default_pcr_policy`. -/
def handleSetDefaultPcrPolicy (crates : Crates) (fault : StoreFault) (indices : List UInt32)
    (s : Store) : DefaultPolicyResponse × Store :=
  match Store.saveDefaultPcrPolicy crates fault indices s with
  | (.ok _, s') => (.ok indices, s')
  | (_, s') => (.error, s')

/-- It is what the daemon does in between two reports of a device. -/
theorem step_setPcrPolicy (crates : Crates) (fault : StoreFault) (indices : List UInt32)
    (w : Ctap2.World) :
    (Ctap2.step crates w (.setPcrPolicy fault indices)).2.store =
      (handleSetDefaultPcrPolicy crates fault indices w.store).2 := by
  rw [Ctap2.step, handleSetDefaultPcrPolicy]
  cases Store.saveDefaultPcrPolicy crates fault indices w.store with
  | mk o s => cases o <;> rfl

/-- What is expected of a list that `set-default-pcr-policy` takes: the daemon reads it back, and
can make a selection of it. -/
structure Accepted (crates : Crates) (device : TpmDevice) (indices : List UInt32) (s : Store) :
    Prop where
  validated : Validated device indices
  loads : ∀ fault : StoreFault, ¬ fault.io →
    Store.loadDefaultPcrPolicy crates fault s = (.ok (some indices), s)
  selects : (defaultPcrSelection device (some indices)).isSome

theorem loadDefaultPcrPolicy_saved {crates : Crates} {fault : StoreFault} {indices : List UInt32}
    {s s' : Store} (hcrates : crates.readIndices (crates.writeIndices indices) = some indices)
    (hok : handleSetDefaultPcrPolicy crates fault indices s = (.ok indices, s'))
    {fault' : StoreFault} (hfault : ¬ fault'.io) :
    Store.loadDefaultPcrPolicy crates fault' s' = (.ok (some indices), s') := by
  cases hsave : Store.saveDefaultPcrPolicy crates fault indices s with
  | mk o t =>
    rw [handleSetDefaultPcrPolicy, hsave] at hok
    cases o with
    | ok _ =>
      cases hok
      obtain ⟨_, s₁, hthrow, hmodify⟩ := bind_ok hsave
      obtain ⟨-, rfl⟩ := throwIf_ok hthrow
      cases hmodify
      rw [Store.loadDefaultPcrPolicy, bind_of_ok _ (throwIf_of_not hfault _),
        bind_of_ok _ (get_apply _)]
      simp only [hcrates]
      rfl
    | error _ => cases hok
    | panicked => cases hok

/-- **PCR numbers.**  Any list is as expected if the first number in it that is not a PCR is less
than 32, and only then; a list taken as the default, if there are only PCRs in it and the library
builds a selection of them, and only then. -/
theorem validated_iff (crates : Crates) (device : TpmDevice) (indices : List UInt32) :
    (Validated device indices ↔
      ∀ i, indices.find? (fun i ↦ ¬ device.DefinesPcr i) = some i → i < 32) ∧
    (crates.readIndices (crates.writeIndices indices) = some indices →
      ∀ fault s s', handleSetDefaultPcrPolicy crates fault indices s = (.ok indices, s') →
        (Accepted crates device indices s' ↔
          (∀ i ∈ indices, device.DefinesPcr i) ∧ device.Builds indices)) := by
  refine ⟨validated_iff_find?, fun hcrates fault s s' hok ↦ ⟨?_, fun h ↦ ?_⟩⟩
  · rintro ⟨hvalidated, -, hselects⟩
    obtain ⟨⟨selection, name⟩, hselection⟩ := Option.isSome_iff_exists.mp hselects
    rw [defaultPcrSelection] at hselection
    obtain ⟨selection', hselection', -⟩ := Option.bind_eq_some_iff.mp hselection
    exact ⟨hvalidated.defined selection' hselection',
      (pcrSelectionForIndices_eq_some.mp hselection').2.1⟩
  · obtain ⟨hdefined, hbuilds⟩ := h
    have hselection : pcrSelectionForIndices device indices = some _ :=
      pcrSelectionForIndices_eq_some.mpr ⟨fun i hi ↦ (hdefined i hi).2, hbuilds, rfl⟩
    refine ⟨validated_of_defined hdefined, fun fault' hfault ↦
      loadDefaultPcrPolicy_saved hcrates hok hfault, ?_⟩
    rw [defaultPcrSelection, Option.getD_some, hselection]
    rfl

/-- The usual default is accepted. -/
theorem validated_iff_seven :
    (handleSetDefaultPcrPolicy (Ctap2.Sample.packages []) Ctap2.Sample.noFault [7] .fresh).1 =
      .ok [7] ∧
    Accepted (Ctap2.Sample.packages []) (Ctap2.Sample.device []) [7]
      (handleSetDefaultPcrPolicy (Ctap2.Sample.packages []) Ctap2.Sample.noFault [7] .fresh).2 :=
  ⟨rfl, ((validated_iff (Ctap2.Sample.packages []) (Ctap2.Sample.device []) [7]).2 rfl
    Ctap2.Sample.noFault .fresh _ rfl).mpr ⟨List.forall_mem_singleton.mpr (by decide), rfl⟩⟩

/-- **PCR 39 is PCR 7.**  The number 39 is taken as the default; a build with overflow checks
panics on it, and one without them makes the selection of PCR 7, though the library has no PCR
of that number. -/
theorem thirtyNine_selects_seven :
    (handleSetDefaultPcrPolicy (Ctap2.Sample.packages []) Ctap2.Sample.noFault [39] .fresh).1 =
      .ok [39] ∧
      pcrSelectionChecked (Ctap2.Sample.device []) [39] = .panicked ∧
      ¬ (Ctap2.Sample.device []).DefinesPcr 39 ∧
      ∃ selection, pcrSelectionForIndices (Ctap2.Sample.device []) [39] = some selection ∧
        Selects selection 7 ∧ ¬ Selects selection 39 :=
  ⟨rfl, rfl, by decide, _, rfl, by decide, by decide⟩

end Management
end TpmFido2
