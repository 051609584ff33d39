import TpmFido2.Ctap2.Sample
import TpmFido2.Lib.CborOrder

/-!
# Canonical responses

`canonicalize_value` goes through a value from the inside out and sorts every map in it by the
bytes `ciborium` writes for the keys.  What that does to a value, and what it does not:

* `Ordered` — every map, at every depth, is in the order CTAP2 asks for.  The code compares bytes
  throughout; that this is the order by major type, then length, then bytes is a fact about the
  heads of CBOR (`Cbor.lexLe_encode_iff`).
* `Rearranged` — nothing is lost, added or changed but the order of entries, and entries with one
  key keep theirs: the sort is stable (`List.filter_insertionSort`).
* `mapValue_canonicalEntries` — so a lookup finds what it found before, made canonical.
* `canonicalizeValue_idem` — and there is nothing to do the second time.

**`canonicalizeValue_canonicalised`** is all of this about values without tags, under which the
code does not look, and with keys that are integers of 64 bits, texts and byte strings.
-/

set_option autoImplicit false

namespace TpmFido2

/-- `ciborium::into_writer` writes the preferred serialization of integers and strings. -/
def Crates.WritesKeys (crates : Crates) : Prop :=
  ∀ k, Cbor.IsKey k → crates.intoWriter k = Cbor.encode k

namespace Ctap2

open Bytes Cbor

/-! ## Values and what becomes of them -/

/-- The value has no tag in it, and only integers of 64 bits, texts and byte strings as keys. -/
inductive Keyed : Value → Prop
  | integer (n : Int) : Keyed (.integer n)
  | bytes (b : List UInt8) : Keyed (.bytes b)
  | float (bits : UInt64) : Keyed (.float bits)
  | text (s : String) : Keyed (.text s)
  | bool (b : Bool) : Keyed (.bool b)
  | null : Keyed .null
  | array {vs : List Value} (items : ∀ v ∈ vs, Keyed v) : Keyed (.array vs)
  | map {entries : Entries} (keys : ∀ e ∈ entries, IsKey e.1) (values : ∀ e ∈ entries, Keyed e.2) :
    Keyed (.map entries)

/-- Every map in the value is in canonical key order. -/
inductive Ordered : Value → Prop
  | integer (n : Int) : Ordered (.integer n)
  | bytes (b : List UInt8) : Ordered (.bytes b)
  | float (bits : UInt64) : Ordered (.float bits)
  | text (s : String) : Ordered (.text s)
  | bool (b : Bool) : Ordered (.bool b)
  | null : Ordered .null
  | array {vs : List Value} (items : ∀ v ∈ vs, Ordered v) : Ordered (.array vs)
  | map {entries : Entries} (order : entries.Pairwise fun e e' ↦ CanonicalLe e.1 e'.1)
    (values : ∀ e ∈ entries, Ordered e.2) : Ordered (.map entries)

open Classical in
/-- The second value is the first with the entries of its maps in another order, those with one key
in the order they had. -/
inductive Rearranged : Value → Value → Prop
  | same (v : Value) : Rearranged v v
  | array {vs vs' : List Value} (items : List.Forall₂ Rearranged vs vs') :
    Rearranged (.array vs) (.array vs')
  | map {entries middle entries' : Entries}
    (keys : entries.map Prod.fst = middle.map Prod.fst)
    (values : List.Forall₂ Rearranged (entries.map Prod.snd) (middle.map Prod.snd))
    (perm : middle.Perm entries')
    (stable : ∀ k, (middle.filter fun e ↦ e.1 = k) = entries'.filter fun e ↦ e.1 = k) :
    Rearranged (.map entries) (.map entries')

section
variable (crates : Crates)

/-- The entries of a map, in canonical order. -/
def canonicalEntries (entries : Entries) : Entries :=
  (canonicalizeEntries crates entries).insertionSort (keyLe crates)

/-- What `canonicalize_value` makes of a value is canonical, and otherwise the same. -/
structure Canonicalised (v : Value) : Prop where
  ordered : Ordered (canonicalizeValue crates v)
  rearranged : Rearranged v (canonicalizeValue crates v)
  lookups : ∀ entries, v = .map entries → ∃ entries', canonicalizeValue crates v = .map entries' ∧
    ∀ key, mapValue entries' key = (mapValue entries key).map (canonicalizeValue crates)
  idem : canonicalizeValue crates (canonicalizeValue crates v) = canonicalizeValue crates v

end

variable {crates : Crates}

/-! ## One map -/

theorem canonicalizeAll_eq_map (vs : List Value) :
    canonicalizeAll crates vs = vs.map (canonicalizeValue crates) := by
  induction vs with
  | nil => rfl
  | cons v vs ih => rw [canonicalizeAll, ih, List.map_cons]

theorem canonicalizeEntries_eq_map (entries : Entries) :
    canonicalizeEntries crates entries =
      entries.map fun e ↦ (e.1, canonicalizeValue crates e.2) := by
  induction entries with
  | nil => rfl
  | cons e entries ih => rw [canonicalizeEntries, ih, List.map_cons]

/-- An entry of the canonical map is an entry of the map, its value made canonical. -/
theorem mem_canonicalEntries {entries : Entries} {e : Value × Value} :
    e ∈ canonicalEntries crates entries ↔
      ∃ e₀ ∈ entries, (e₀.1, canonicalizeValue crates e₀.2) = e := by
  rw [canonicalEntries, (List.perm_insertionSort _ _).mem_iff, canonicalizeEntries_eq_map,
    List.mem_map]

theorem keyLe_of_eq {e e' : Value × Value} (h : e.1 = e'.1) : keyLe crates e e' := by
  rw [keyLe, h]
  exact (lexLe_total _ _).elim id id

theorem pairwise_canonicalEntries (entries : Entries) :
    (canonicalEntries crates entries).Pairwise (keyLe crates) := by
  have : Std.Total (keyLe crates) := ⟨fun a b ↦ lexLe_total _ _⟩
  have : IsTrans (Value × Value) (keyLe crates) := ⟨fun a b c ↦ lexLe_trans⟩
  exact List.pairwise_insertionSort _ _

/-! ## Lookups -/

theorem mapValue_cons (k v : Value) (entries : Entries) (key : MapKey) :
    mapValue ((k, v) :: entries) key = if key.isKey k then some v else mapValue entries key := by
  rw [mapValue, List.findSome?_cons]
  dsimp only
  cases key.isKey k <;> rfl

theorem mapValue_eq_find? (entries : Entries) (key : MapKey) :
    mapValue entries key = (entries.find? fun entry ↦ key.isKey entry.1).map Prod.snd := by
  induction entries with
  | nil => rfl
  | cons entry entries ih =>
    rw [mapValue_cons, List.find?_cons, ih]
    cases key.isKey entry.1 <;> rfl

/-- There is one value that is a given key. -/
theorem MapKey.isKey_unique {key : MapKey} {v v' : Value} (h : key.isKey v) (h' : key.isKey v') :
    v = v' := by
  cases key with
  | int n => cases v <;> cases v' <;> simp_all [MapKey.isKey, Value.asInteger]
  | text s => cases v <;> cases v' <;> simp_all [MapKey.isKey, Value.asText]

theorem mapValue_canonicalizeEntries (entries : Entries) (key : MapKey) :
    mapValue (canonicalizeEntries crates entries) key =
      (mapValue entries key).map (canonicalizeValue crates) := by
  induction entries with
  | nil => rfl
  | cons entry entries ih =>
    obtain ⟨k, v⟩ := entry
    rw [canonicalizeEntries, mapValue_cons, mapValue_cons, ih]
    cases key.isKey k <;> rfl

/-- **A lookup in the canonical map.** -/
theorem mapValue_canonicalEntries (entries : Entries) (key : MapKey) :
    mapValue (canonicalEntries crates entries) key =
      (mapValue entries key).map (canonicalizeValue crates) := by
  have hties : ∀ a b : Value × Value, key.isKey a.1 → key.isKey b.1 → keyLe crates a b := by
    intro a b ha hb
    rw [keyLe, MapKey.isKey_unique ha hb]
    exact (lexLe_total _ _).elim id id
  rw [← mapValue_canonicalizeEntries, mapValue_eq_find?, canonicalEntries,
    List.find?_insertionSort hties, ← mapValue_eq_find?]

/-! ## All maps of a value -/

theorem ordered_canonicalizeValue (hcrates : crates.WritesKeys) {v : Value} (hv : Keyed v) :
    Ordered (canonicalizeValue crates v) := by
  induction hv with
  | integer n => exact .integer n
  | bytes b => exact .bytes b
  | float bits => exact .float bits
  | text s => exact .text s
  | bool b => exact .bool b
  | null => exact .null
  | array items ih =>
    rw [canonicalizeValue, canonicalizeAll_eq_map]
    exact .array (List.forall_mem_map.mpr ih)
  | @map entries keys values ih =>
    refine .map ?_ ?_
    · refine (pairwise_canonicalEntries entries).imp_of_mem fun {e e'} he he' hle ↦ ?_
      obtain ⟨e₀, he₀, rfl⟩ := mem_canonicalEntries.mp he
      obtain ⟨e₀', he₀', rfl⟩ := mem_canonicalEntries.mp he'
      rw [keyLe, hcrates _ (keys e₀ he₀), hcrates _ (keys e₀' he₀')] at hle
      exact (lexLe_encode_iff (keys e₀ he₀) (keys e₀' he₀')).mp hle
    · intro e he
      obtain ⟨e₀, he₀, rfl⟩ := mem_canonicalEntries.mp he
      exact ih e₀ he₀

theorem rearranged_canonicalizeValue {v : Value} (hv : Keyed v) :
    Rearranged v (canonicalizeValue crates v) := by
  induction hv with
  | @array vs items ih =>
    rw [canonicalizeValue, canonicalizeAll_eq_map]
    exact .array (List.forall₂_map_right_iff.mpr (List.forall₂_same.mpr ih))
  | @map entries keys values ih =>
    have hkeys : entries.map Prod.fst = (canonicalizeEntries crates entries).map Prod.fst := by
      rw [canonicalizeEntries_eq_map, List.map_map]
      rfl
    have hvalues : List.Forall₂ Rearranged (entries.map Prod.snd)
        ((canonicalizeEntries crates entries).map Prod.snd) := by
      rw [canonicalizeEntries_eq_map, List.map_map, List.forall₂_map_left_iff,
        List.forall₂_map_right_iff]
      exact List.forall₂_same.mpr ih
    classical
    refine .map hkeys hvalues (List.perm_insertionSort _ _).symm fun k ↦ ?_
    refine (List.filter_insertionSort (fun e e' he he' ↦ keyLe_of_eq ?_) _).symm
    exact (of_decide_eq_true he).trans (of_decide_eq_true he').symm
  | _ => exact .same _

theorem canonicalizeValue_idem {v : Value} (hv : Keyed v) :
    canonicalizeValue crates (canonicalizeValue crates v) = canonicalizeValue crates v := by
  induction hv with
  | @array vs items ih =>
    rw [canonicalizeValue, canonicalizeValue, canonicalizeAll_eq_map, canonicalizeAll_eq_map,
      List.map_map]
    exact congrArg Value.array (List.map_congr_left ih)
  | @map entries keys values ih =>
    -- the values do not change again, and what is sorted is not sorted again
    have hvalues : canonicalizeEntries crates (canonicalEntries crates entries) =
        canonicalEntries crates entries := by
      rw [canonicalizeEntries_eq_map]
      refine (List.map_congr_left fun e he ↦ ?_).trans (List.map_id _)
      obtain ⟨e₀, he₀, rfl⟩ := mem_canonicalEntries.mp he
      exact Prod.ext rfl (ih e₀ he₀)
    show Value.map (canonicalEntries crates (canonicalEntries crates entries)) = _
    rw [canonicalEntries, hvalues, (pairwise_canonicalEntries entries).insertionSort_eq]
    rfl
  | _ => rfl

/-- **Canonicalisation.**  In what `canonicalize_value` returns every map is in canonical order and
has the entries it had, those with one key in the order they had; lookups find what they found,
and a second time changes nothing. -/
theorem canonicalizeValue_canonicalised (hcrates : crates.WritesKeys) {v : Value} (hv : Keyed v) :
    Canonicalised crates v where
  ordered := ordered_canonicalizeValue hcrates hv
  rearranged := rearranged_canonicalizeValue hv
  lookups entries h := ⟨canonicalEntries crates entries, by rw [h]; rfl,
    mapValue_canonicalEntries entries⟩
  idem := canonicalizeValue_idem hv

namespace Sample

/-- A map with keys of every kind out of order, one of them twice, and a map inside. -/
def disordered : Value :=
  .map [(.text "b", .map [(.integer 256, .null), (.integer 255, .null), (.bytes [1], .null)]),
    (.integer (-1), .bool true), (.text "aa", .float 0), (.integer 10, .bool false),
    (.integer (-1), .bool false), (.text "a", .array [.integer 1])]

theorem keyed_disordered : Keyed disordered := by
  have inner : Keyed (.map [(.integer 256, .null), (.integer 255, .null), (.bytes [1], .null)]) :=
    .map (by simp [IsKey]) (by simp [Keyed.null])
  refine .map ?_ ?_
  · have hb : "b".utf8ByteSize = 1 := rfl
    have haa : "aa".utf8ByteSize = 2 := rfl
    have ha : "a".utf8ByteSize = 1 := rfl
    simp [IsKey, hb, haa, ha]
  · simp [inner, Keyed.bool, Keyed.float, Keyed.array, Keyed.integer]

end Sample

/-- A disordered map. -/
theorem canonicalizeValue_canonicalised_disordered :
    Canonicalised (Sample.packages []) Sample.disordered :=
  canonicalizeValue_canonicalised (fun _ _ ↦ rfl) Sample.keyed_disordered

end Ctap2
end TpmFido2
