import TpmFido2.Lib.Lists
import TpmFido2.Lib.Text
import TpmFido2.Management.DefaultPolicy

/-!
# Selections in writing

A policy is stored with the PCRs it is for in words: `default_pcr_selection` writes
`sha256:7,11`, and `pcr_indices_from_selection` of the management thread reads it.  The two are
inverse to each other on every list with something in it (`pcrIndicesFromSelection_name`), so the
text determines the list (`selectionName_injective`).  Of an empty list there is a text but no
way back: what is split at commas has at least one part, and an empty part is not a number.  Nothing
keeps an empty list from being stored.

**`pcrIndicesFromSelection_iff`** is the round trip of the two functions, and
`nothing_is_not_read_back` the list it fails for.
-/

set_option autoImplicit false

namespace TpmFido2

/-! ## Writing -/

/-- The text of `default_pcr_selection`. -/
def selectionName (indices : List UInt32) : String :=
  "sha256:" ++ String.intercalate "," (indices.map fun i ↦ toString i.toNat)

theorem defaultPcrSelection_eq (device : TpmDevice) (indices : List UInt32) :
    defaultPcrSelection device (some indices) =
      (pcrSelectionForIndices device indices).map fun slots ↦ (slots, selectionName indices) := by
  rw [defaultPcrSelection, Option.getD_some]
  cases pcrSelectionForIndices device indices <;> rfl

namespace Management

open Text

/-! ## Reading -/

/-- `pcr_indices_from_selection`. -/
def pcrIndicesFromSelection (selection : String) : Option (List UInt32) := do
  let (_, indices) ← splitOnce ':' selection.toList
  (indices.splitOn ',').mapM fun part ↦ parseU32 (trim part)

/-! ## There and back -/

/-- **Reading a selection gives the PCRs it was written for.** -/
theorem pcrIndicesFromSelection_name {indices : List UInt32} (h : indices ≠ []) :
    pcrIndicesFromSelection (selectionName indices) = some indices := by
  have htext : (selectionName indices).toList = "sha256".toList ++ ':' ::
      [','].intercalate (indices.map fun i ↦ i.toNat.repr.toList) := by
    rw [selectionName, String.toList_append, String.toList_intercalate, List.map_map]
    rfl
  have hcomma : ∀ part ∈ indices.map (fun i ↦ i.toNat.repr.toList), ',' ∉ part := by
    intro part hpart hmem
    obtain ⟨i, -, rfl⟩ := List.mem_map.mp hpart
    exact absurd (isDigit_of_mem_repr hmem) (by decide)
  rw [pcrIndicesFromSelection, htext, splitOnce_append (by decide)]
  change (([','].intercalate (indices.map fun i ↦ i.toNat.repr.toList)).splitOn ',').mapM _ = _
  rw [List.splitOn_intercalate _ hcomma (by simpa using h)]
  refine (List.mapM_map_eq_some (fun i ↦ ?_) indices).trans (congrArg some (List.map_id indices))
  rw [trim_of_digits fun c hc ↦ isDigit_of_mem_repr hc]
  exact parseU32_repr i

theorem pcrIndicesFromSelection_name_nil : pcrIndicesFromSelection (selectionName []) = none := by
  decide +kernel

/-- **The round trip.**  What `pcr_indices_from_selection` reads from the name that
`default_pcr_selection` has made is the list, if there is something in the list. -/
theorem pcrIndicesFromSelection_iff {device : TpmDevice} {indices slots : List UInt32}
    {name : String}
    (h : defaultPcrSelection device (some indices) = some (slots, name)) :
    pcrIndicesFromSelection name = some indices ↔ indices ≠ [] := by
  rw [defaultPcrSelection_eq] at h
  obtain ⟨_, -, heq⟩ := Option.map_eq_some_iff.mp h
  obtain ⟨-, rfl⟩ := Prod.mk.inj heq
  constructor
  · rintro hread rfl
    rw [pcrIndicesFromSelection_name_nil] at hread
    cases hread
  · exact pcrIndicesFromSelection_name

/-- Repeated and maximal numbers are read back. -/
theorem repeated_and_maximal_are_read_back :
    pcrIndicesFromSelection "sha256:7,7,4294967295" = some [7, 7, 0xffffffff] := by
  have hname : defaultPcrSelection (Ctap2.Sample.device []) (some [7, 7, 0xffffffff]) =
      some ([0x80, 0x80, 0x80000000], "sha256:7,7,4294967295") := by
    decide +kernel
  exact (pcrIndicesFromSelection_iff hname).mpr (List.cons_ne_nil _ _)

/-- Packages that keep a list of small numbers. -/
def Sample.indexPackages (known : List Cbor.Value) : Crates :=
  { Ctap2.Sample.packages known with
    writeIndices := fun indices ↦ indices.map fun i ↦ UInt8.ofNat i.toNat
    readIndices := fun b ↦ some (b.map fun x ↦ UInt32.ofNat x.toNat) }

/-- **Nothing is not read back.**  The empty list is stored as the default and loaded again, and the
name made from it is no name of a selection. -/
theorem nothing_is_not_read_back :
    let stored := handleSetDefaultPcrPolicy (Sample.indexPackages []) Ctap2.Sample.noFault [] .fresh
    stored.1 = .ok [] ∧
      (Store.loadDefaultPcrPolicy (Sample.indexPackages []) Ctap2.Sample.noFault
        stored.2).1.toOption = some (some []) ∧
      defaultPcrSelection (Ctap2.Sample.device []) (some []) = some ([], "sha256:") ∧
      pcrIndicesFromSelection "sha256:" = none := by
  decide +kernel

/-- The text determines the list. -/
theorem selectionName_injective : Function.Injective selectionName := by
  intro l l' h
  have hread := congrArg pcrIndicesFromSelection h
  by_cases hl : l = [] <;> by_cases hl' : l' = []
  · rw [hl, hl']
  · rw [hl, pcrIndicesFromSelection_name_nil, pcrIndicesFromSelection_name hl'] at hread
    cases hread
  · rw [hl', pcrIndicesFromSelection_name_nil, pcrIndicesFromSelection_name hl] at hread
    cases hread
  · rw [pcrIndicesFromSelection_name hl, pcrIndicesFromSelection_name hl'] at hread
    exact Option.some.inj hread

end Management
end TpmFido2
