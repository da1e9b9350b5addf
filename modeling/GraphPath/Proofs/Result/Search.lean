import GraphPath.Proofs.Result.Decoding
import GraphPath.Proofs.Result.Slice
import Mathlib.Data.Set.Card

/-!
# One equality of rows

Rows are equal as maps. Results are compared with each other and with plain lists of objects, and
they are searched for a row; all of this goes by the one equality of rows, so that the order of the
fields never matters.

* `Row.same_iff_perm`, `Row.get?_eq_iff_perm` — the same fields in some order, equal maps;
* `Row.sameJson_toJson`, `Rows.sameJson_toJson` — comparing with objects;
* `Rows.maps`, `Rows.same_iff` — comparing position by position;
* `Rows.places`, `Rows.Finds` — the positions of a row, and what a search has to find out of them;
* `Rows.equality_coherent` — **comparing and searching agree**, also in the reversed rows and in
  every slice.
-/

namespace GraphPath

namespace Row

variable {row other : Row}

theorem nodup_fields (row : Row) : row.fields.Nodup := row.distinct.of_map

/-- Rows are the same if they have the same fields in some order. -/
theorem same_iff_perm : row.same other = true ↔ row.fields.Perm other.fields := by
  have hsame : row.same other = (row.size == other.size &&
      row.fields.all fun field => other.get? field.1 == some field.2) := rfl
  have hfields : (row.fields.all fun field => other.get? field.1 == some field.2) = true ↔
      row.fields ⊆ other.fields := by
    simp only [List.all_eq_true, beq_iff_eq]
    exact forall₂_congr fun field _ => Fields.get?_eq_some_iff other.distinct
  rw [hsame, Bool.and_eq_true, beq_iff_eq, hfields]
  constructor
  · -- fields of distinct names that are all in the other row, and equally many, are all of its
    rintro ⟨hsize, hsubset⟩
    exact (List.subperm_of_subset row.nodup_fields hsubset).perm_of_length_le hsize.ge
  · exact fun h => ⟨h.length_eq, h.subset⟩

/-- Rows are equal as maps if they have the same fields in some order. -/
theorem get?_eq_iff_perm : row.get? = other.get? ↔ row.fields.Perm other.fields := by
  rw [List.perm_ext_iff_of_nodup row.nodup_fields other.nodup_fields]
  -- both sides say that a name with a value is in one row if it is in the other
  constructor
  · rintro h ⟨name, value⟩
    rw [← Fields.get?_eq_some_iff row.distinct, ← Fields.get?_eq_some_iff other.distinct]
    exact Iff.of_eq (congrArg (· = some value) (congrFun h name))
  · refine fun h => funext fun name => Option.ext fun value => ?_
    rw [get?, get?, Fields.get?_eq_some_iff row.distinct, Fields.get?_eq_some_iff other.distinct]
    exact h (name, value)

/-- **Rows are the same just if they are equal as maps.** -/
theorem same_iff : row.same other = true ↔ row.get? = other.get? :=
  same_iff_perm.trans get?_eq_iff_perm.symm

/-- **An object is compared as the row that it is.** -/
theorem sameJson_toJson (row other : Row) : row.sameJson other.toJson = row.same other := by
  rw [toJson, sameJson, List.length_map]
  -- field by field: the value of an object made from a row is a text
  refine congrArg (row.size == other.size && row.fields.all ·) (funext fun field => ?_)
  dsimp only
  rw [Fields.get?_map, get?]
  cases Fields.get? field.1 other.fields <;> rfl

end Row

namespace Rows

variable {rows others : Rows} {wanted : Row}

/-! ### Comparing -/

/-- **The rows as maps**, in order. -/
def maps (rows : Rows) : List (Text → Option Text) := rows.toList.map Row.get?

/-- **The same rows with their fields in other orders.** -/
def Reordered (rows others : Rows) : Prop :=
  List.Forall₂ (fun row other => row.fields.Perm other.fields) rows.toList others.toList

theorem reordered_iff : rows.Reordered others ↔ rows.maps = others.maps := by
  rw [maps, maps, ← List.forall₂_eq_eq_eq, List.forall₂_map_left_iff, List.forall₂_map_right_iff]
  simp only [Row.get?_eq_iff_perm]
  rfl

/-- **Results are equal** just if they have equal maps at the same positions. -/
theorem same_iff : rows.same others = true ↔ rows.maps = others.maps := by
  rw [← reordered_iff, Reordered, List.forall₂_iff_zip, same, Bool.and_eq_true, beq_iff_eq,
    List.all_eq_true]
  -- the rows at one position are the same if their maps are
  simp only [← Row.same_iff_perm, Prod.forall]
  rfl

/-- **A list of objects is compared as the rows that they are.** -/
theorem sameJson_toJson (rows others : Rows) :
    rows.sameJson others.toJson = rows.same others := by
  rw [toJson, sameJson, same, List.zip_map_right, List.all_map, List.length_map]
  simp only [Function.comp_def, Prod.map, id, Row.sameJson_toJson]
  rfl

/-! ### Searching -/

/-- **The positions of a row**: those whose map is the same. -/
def places (rows : Rows) (wanted : Row) : Set Nat := {i | rows.maps[i]? = some wanted.get?}

/-- **What a search for a row finds out**, if these are its positions. -/
structure Finds (rows : Rows) (wanted : Row) (places : Set Nat) : Prop where
  finite : places.Finite
  count_eq : rows.count wanted.toJson = places.ncard
  contains_iff : rows.contains wanted.toJson = true ↔ 0 < rows.count wanted.toJson
  index?_eq_some_iff : ∀ i, rows.index? wanted.toJson = some i ↔ IsLeast places i
  index?_eq_none_iff : rows.index? wanted.toJson = none ↔ rows.count wanted.toJson = 0

theorem mem_places_iff {i : Nat} : i ∈ rows.places wanted ↔
    ∃ hi : i < rows.toList.length, rows.toList[i].sameJson wanted.toJson = true := by
  simp only [places, maps, Set.mem_ofPred_eq, List.getElem?_map, Option.map_eq_some_iff,
    List.getElem?_eq_some_iff, Row.sameJson_toJson, Row.same_iff]
  -- the position is that of a row, and this row is the same as the wanted one
  constructor
  · rintro ⟨row, ⟨hi, rfl⟩, hsame⟩
    exact ⟨hi, hsame⟩
  · rintro ⟨hi, hsame⟩
    exact ⟨_, ⟨hi, rfl⟩, hsame⟩

/-- The positions of a row, listed. -/
theorem coe_findIdxs (rows : Rows) (wanted : Row) :
    ((rows.toList.findIdxs (·.sameJson wanted.toJson)).toFinset : Set Nat)
      = rows.places wanted := by
  ext i
  rw [mem_places_iff, Finset.mem_coe, List.mem_toFinset, List.mem_findIdxs_iff_exists_getElem_pos]

/-- **Searching finds out the positions** whose map is the wanted one. -/
theorem finds_places (rows : Rows) (wanted : Row) : rows.Finds wanted (rows.places wanted) where
  finite := by
    rw [← coe_findIdxs]
    exact Finset.finite_toSet _
  count_eq := by
    -- counting the rows that pass is counting the positions where they stand
    rw [← coe_findIdxs, Set.ncard_coe_finset, List.toFinset_card_of_nodup List.nodup_findIdxs,
      List.length_findIdxs]
    rfl
  contains_iff := by rw [contains, count, List.any_eq_true, List.countP_pos_iff]
  index?_eq_some_iff i := by
    rw [index?, List.findIdx?_eq_some_iff_getElem]
    constructor
    · -- the first position that passes is the least one, since none before it does
      rintro ⟨hi, hfound, hbefore⟩
      refine ⟨mem_places_iff.2 ⟨hi, hfound⟩, fun j hj => Nat.le_of_not_lt fun hji => ?_⟩
      obtain ⟨_, hsame⟩ := mem_places_iff.1 hj
      exact hbefore j hji hsame
    · rintro ⟨hmem, hleast⟩
      obtain ⟨hi, hfound⟩ := mem_places_iff.1 hmem
      refine ⟨hi, hfound, fun j hji hsame => Nat.not_le_of_lt hji (hleast ?_)⟩
      exact mem_places_iff.2 ⟨hji.trans hi, hsame⟩
  index?_eq_none_iff := by
    rw [index?, count, List.findIdx?_eq_none_iff, List.countP_eq_zero]
    simp only [Bool.not_eq_true]

/-- The positions in the reversed rows are mirrored. -/
theorem places_reverse (rows : Rows) (wanted : Row) : rows.reverse.places wanted =
    {i | i < rows.size ∧ rows.size - 1 - i ∈ rows.places wanted} := by
  have hlength : rows.maps.length = rows.size := List.length_map _
  ext i
  simp only [places, maps, reverse, List.map_reverse, Set.mem_ofPred_eq]
  change rows.maps.reverse[i]? = _ ↔ _ ∧ rows.maps[_]? = _
  -- a position past the end is none of the reversed rows, either
  by_cases hi : i < rows.size
  · rw [List.getElem?_reverse (hlength ▸ hi), hlength]
    exact (and_iff_right hi).symm
  · rw [List.getElem?_eq_none (by rw [List.length_reverse, hlength]; omega)]
    simp [hi]

/-- **A slice** is there, has the same slice of the ids, and the positions in it are those that
their places in the rows give. -/
theorem slice?_places (rows : Rows) (start stop : Option Int) {step : Option Int}
    (hstep : step ≠ some 0) : ∃ slice, rows.slice? start stop step = some slice ∧
      Sequence.slice? rows.ids start stop step = some slice.ids ∧
      ∀ wanted, slice.places wanted = {i | ∃ place ∈ rows.places wanted,
        Sequence.SlicePlace rows.size start stop (step.getD 1) i place} := by
  have hgiven : step.getD 1 ≠ 0 := by
    cases step with
    | none => decide
    | some step => exact fun h => hstep (congrArg some h)
  -- the slice of the maps is the map of the slice, so their places are the same
  obtain ⟨items, hitems, -⟩ := Sequence.getElem?_slice rows.toList start stop hgiven
  obtain ⟨maps, hmaps, hplaces⟩ := Sequence.getElem?_slice rows.maps start stop hgiven
  rw [Rows.maps, Sequence.slice?_map, hitems] at hmaps
  obtain rfl := Option.some.inj hmaps
  refine ⟨⟨items⟩, by rw [slice?, hitems]; rfl, ?_, fun wanted => Set.ext fun i => ?_⟩
  · rw [ids, Sequence.slice?_map, hitems]
    rfl
  · refine (hplaces i wanted.get?).trans (exists_congr fun place => ?_)
    rw [and_comm, Rows.maps, List.length_map]
    rfl

/-! ### Comparing and searching -/

/-- **Comparing and searching agree.** Results are equal just if they have equal maps at the same
positions, and comparing with the plain objects or with the fields of any row in another order gives
the same answer. A search finds out the positions whose map is the wanted one: it counts them, finds
the row if there are any, and gives the first of them, or none if there are none. In the reversed
rows the positions are mirrored; a slice has the same slice of the ids, and the positions in it are
those that their places in the rows give. -/
theorem equality_coherent (rows others : Rows) :
    (rows.same others = true ↔ rows.maps = others.maps) ∧
    rows.sameJson others.toJson = rows.same others ∧
    (∀ rows' others', rows.Reordered rows' → others.Reordered others' →
      rows'.same others' = rows.same others ∧ rows'.sameJson others'.toJson = rows.same others) ∧
    ∀ wanted, rows.Finds wanted (rows.places wanted) ∧
      rows.reverse.Finds wanted
        {i | i < rows.size ∧ rows.size - 1 - i ∈ rows.places wanted} ∧
      ∀ start stop step, step ≠ some 0 → ∃ slice, rows.slice? start stop step = some slice ∧
        Sequence.slice? rows.ids start stop step = some slice.ids ∧
        slice.Finds wanted {i | ∃ place ∈ rows.places wanted,
          Sequence.SlicePlace rows.size start stop (step.getD 1) i place} := by
  refine ⟨same_iff, sameJson_toJson rows others, fun rows' others' hrows hothers => ?_,
    fun wanted => ⟨finds_places rows wanted, ?_, fun start stop step hstep => ?_⟩⟩
  · -- other orders of the fields leave the maps as they are
    have hsame : rows'.same others' = rows.same others := by
      rw [Bool.eq_iff_iff, same_iff, same_iff, reordered_iff.1 hrows, reordered_iff.1 hothers]
    exact ⟨hsame, (sameJson_toJson rows' others').trans hsame⟩
  · rw [← places_reverse]
    exact finds_places rows.reverse wanted
  · obtain ⟨slice, hslice, hids, hplaces⟩ := slice?_places rows start stop hstep
    refine ⟨slice, hslice, hids, ?_⟩
    rw [← hplaces]
    exact finds_places slice wanted

end Rows

/-! ### Rows in which one comes twice -/

namespace Sample

/-- A row with its id in front, or behind. -/
def found (idFirst : Bool) (id : Text) : Row :=
  Row.ofList (if idFirst then [("id", id), ("tag", "x")] else [("tag", "x"), ("id", id)])

/-- The first row again behind the second, with its fields the other way round. -/
def foundRows (idFirst : Bool) : Rows :=
  ⟨[found idFirst "a", found idFirst "b", found (!idFirst) "a"]⟩

end Sample

namespace Rows

/-- The row that comes twice is found twice, also backwards and in every second row. -/
theorem equality_coherent_sample :
    (Sample.foundRows true).Reordered (Sample.foundRows false) ∧
      (Sample.foundRows false).sameJson (Sample.foundRows true).toJson = true ∧
      (some (-2) : Option Int) ≠ some 0 ∧
      ∃ slice, (Sample.foundRows true).slice? none none (some (-2)) = some slice ∧
        slice.ids = [some ("a" : Text), some "a"] ∧
        slice.index? (Sample.found true "b").toJson = none := by
  obtain ⟨-, -, hreordered, hsearch⟩ :=
    equality_coherent (Sample.foundRows true) (Sample.foundRows true)
  have hrows : (Sample.foundRows true).Reordered (Sample.foundRows false) :=
    .cons (.swap _ _ _) (.cons (.swap _ _ _) (.cons (.swap _ _ _) .nil))
  have hstep : (some (-2) : Option Int) ≠ some 0 := by decide
  obtain ⟨slice, hslice, hids, hfinds⟩ :=
    (hsearch (Sample.found true "b")).2.2 none none (some (-2)) hstep
  -- every second row from the back: the last one and the first one
  have hfound : (Sample.foundRows true).slice? none none (some (-2))
      = some ⟨[Sample.found false "a", Sample.found true "a"]⟩ := rfl
  obtain rfl := Option.some.inj (hslice.symm.trans hfound)
  exact ⟨hrows, (hreordered _ _ hrows (reordered_iff.2 rfl)).2, hstep, _, hslice,
    (Option.some.inj hids).symm, hfinds.index?_eq_none_iff.2 rfl⟩

end Rows

end GraphPath
