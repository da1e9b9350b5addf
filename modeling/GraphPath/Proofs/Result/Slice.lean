import GraphPath.Result.Rows
import Mathlib.Tactic.SplitIfs

/-!
# Slices by their places

A slice goes through a sequence in equal steps: it begins at its start, or at the end of the
sequence where a walk in its direction begins, and it goes on as long as it is inside the sequence
and before its stop. Bounds may be negative and then count from the end, and they may lie far
outside.

* `Sequence.fromFront`, `Sequence.sliceStart` — bounds counted from the front;
* `Sequence.SlicePlace` — the place that a position of a slice has in the sequence;
* `Sequence.slicePlaces?_eq` — the places are counted rightly;
* `Sequence.getElem?_slice` — **the elements of a slice** are those at its places.
-/

namespace GraphPath.Sequence

variable {α β : Type} {length : Nat} {start stop : Option Int} {step : Int}

/-- A bound counted from the front. -/
def fromFront (length : Nat) (bound : Int) : Int := if bound < 0 then bound + length else bound

/-- **Where a slice begins.** A start outside of the sequence, in the back of the walk, is the end
where the walk begins. -/
def sliceStart (length : Nat) (step : Int) : Option Int → Int
  | none => if 0 < step then 0 else length - 1
  | some start =>
    if 0 < step then max 0 (fromFront length start) else min (length - 1) (fromFront length start)

/-- **A position of a slice and its place** in a sequence of a length. -/
structure SlicePlace (length : Nat) (start stop : Option Int) (step : Int) (i place : Nat) :
    Prop where
  place_eq : (place : Int) = sliceStart length step start + i * step
  lt_length : place < length
  before_stop : ∀ bound, stop = some bound →
    if 0 < step then (place : Int) < fromFront length bound else fromFront length bound < place

/-! ### Counting the places -/

theorem getElem?_placesFrom (first step : Int) (count i : Nat) :
    (placesFrom first step count)[i]? = if i < count then some (first + i * step) else none := by
  -- on the count: the place behind the first one begins a shorter walk
  induction count generalizing first i with
  | zero => simp [placesFrom]
  | succ count ih =>
    cases i with
    | zero => simp [placesFrom]
    | succ i =>
      have hnext : first + step + i * step = first + ((i + 1 : Nat) : Int) * step := by
        rw [Int.natCast_succ, Int.add_mul, Int.one_mul]
        omega
      rw [placesFrom, List.getElem?_cons_succ, ih, hnext]
      simp

/-- So many steps fit into a distance. -/
theorem lt_count_iff {step : Int} (hstep : 0 < step) (distance : Int) (i : Nat) :
    i < ((distance + step - 1) / step).toNat ↔ i * step < distance := by
  -- the count is the distance over the step, rounded up
  rw [Int.lt_toNat, ← Int.add_one_le_iff, Int.le_ediv_iff_mul_le hstep, Int.add_mul, Int.one_mul]
  omega

/-- A walk towards the end, from its first place to before its last one. -/
theorem slicePlace_iff_of_pos (hstep : 0 < step) (i place : Nat) :
    let first := (start.map (clamp length 0 length)).getD 0
    let last := (stop.map (clamp length 0 length)).getD length
    SlicePlace length start stop step i place ↔
      (place : Int) = first + i * step ∧ first + i * step < last := by
  intro first last
  -- the product is one unknown, and the rest is linear in each of the four cases of bounds
  have hwalk : 0 ≤ i * step := Int.mul_nonneg (Int.natCast_nonneg i) (Int.le_of_lt hstep)
  constructor
  · rintro ⟨hplace, hlength, hstop⟩
    cases start <;> cases stop <;>
      simp [first, last, sliceStart, clamp, fromFront, hstep] at hplace hstop ⊢ <;>
      generalize i * step = walk at * <;> omega
  · rintro ⟨hplace, hlast⟩
    refine ⟨?_, ?_, ?_⟩ <;> cases start <;> cases stop <;>
      simp [first, last, sliceStart, clamp, fromFront, hstep] at hplace hlast ⊢ <;>
      generalize i * step = walk at * <;> omega

/-- A walk towards the front. -/
theorem slicePlace_iff_of_neg (hstep : step < 0) (i place : Nat) :
    let first := (start.map (clamp length (-1) (length - 1))).getD (length - 1)
    let last := (stop.map (clamp length (-1) (length - 1))).getD (-1)
    SlicePlace length start stop step i place ↔
      (place : Int) = first + i * step ∧ last < first + i * step := by
  intro first last
  -- as towards the end, with the walk below zero
  have hwalk : i * step ≤ 0 :=
    Int.mul_nonpos_of_nonneg_of_nonpos (Int.natCast_nonneg i) (Int.le_of_lt hstep)
  have hpos : ¬0 < step := Int.not_lt.2 (Int.le_of_lt hstep)
  constructor
  · rintro ⟨hplace, hlength, hstop⟩
    cases start <;> cases stop <;>
      simp [first, last, sliceStart, clamp, fromFront, hpos] at hplace hstop ⊢ <;>
      generalize i * step = walk at * <;> omega
  · rintro ⟨hplace, hlast⟩
    refine ⟨?_, ?_, ?_⟩ <;> cases start <;> cases stop <;>
      simp [first, last, sliceStart, clamp, fromFront, hpos] at hplace hlast ⊢ <;>
      generalize i * step = walk at * <;> omega

/-- A bound that is there or left out is not below the lowest place. -/
theorem le_getD_clamp {lowest highest given : Int} (h : lowest ≤ given) (bound : Option Int) :
    lowest ≤ (bound.map (clamp length lowest highest)).getD given := by
  cases bound with
  | none => exact h
  | some bound => exact Int.le_max_left _ _

/-- **The places of a slice** are counted rightly: position `i` has a place just if `i` is below the
count, and then it is the one that `i` steps lead to. -/
theorem slicePlaces?_eq (length : Nat) (start stop : Option Int) {given : Option Int}
    (hstep : given.getD 1 ≠ 0) : ∃ first count,
      slicePlaces? length start stop given = some (placesFrom first (given.getD 1) count) ∧
      ∀ i : Nat, (i < count → 0 ≤ first + i * given.getD 1) ∧ ∀ place : Nat,
        SlicePlace length start stop (given.getD 1) i place ↔
          (place : Int) = first + i * given.getD 1 ∧ i < count := by
  generalize hgiven : given.getD 1 = step at hstep ⊢
  simp only [slicePlaces?, hgiven, if_neg hstep]
  -- by the direction: the distance is what lies between the first place and the bound
  rcases Int.lt_or_gt_of_ne hstep with hneg | hpos
  · rw [if_neg (Int.not_lt.2 (Int.le_of_lt hneg))]
    refine ⟨_, _, rfl, fun i => ?_⟩
    have hcount := lt_count_iff (Int.neg_pos.2 hneg)
      ((start.map (clamp length (-1) (length - 1))).getD (length - 1)
        - (stop.map (clamp length (-1) (length - 1))).getD (-1)) i
    rw [← Int.sub_eq_add_neg, Int.mul_neg] at hcount
    have hlast : -1 ≤ (stop.map (clamp length (-1) (length - 1))).getD (-1) :=
      le_getD_clamp (Int.le_refl _) stop
    refine ⟨fun h => ?_, fun place => ?_⟩
    · have := hcount.1 h
      omega
    · refine (slicePlace_iff_of_neg hneg i place).trans (and_congr_right fun _ => ?_)
      rw [hcount]
      omega
  · rw [if_pos hpos]
    refine ⟨_, _, rfl, fun i => ?_⟩
    have hcount := lt_count_iff hpos
      ((stop.map (clamp length 0 length)).getD length
        - (start.map (clamp length 0 length)).getD 0) i
    have hfirst : 0 ≤ (start.map (clamp length 0 length)).getD 0 :=
      le_getD_clamp (Int.le_refl _) start
    refine ⟨fun _ => Int.add_nonneg hfirst
      (Int.mul_nonneg (Int.natCast_nonneg i) (Int.le_of_lt hpos)), fun place => ?_⟩
    refine (slicePlace_iff_of_pos hpos i place).trans (and_congr_right fun _ => ?_)
    rw [hcount]
    omega

/-! ### The elements -/

theorem getElem?_filterMap_of_isSome {pick : α → Option β} {items : List α}
    (h : ∀ a ∈ items, (pick a).isSome) (i : Nat) :
    (items.filterMap pick)[i]? = items[i]?.bind pick := by
  induction items generalizing i with
  | nil => rfl
  | cons a items ih =>
    obtain ⟨b, hb⟩ := Option.isSome_iff_exists.1 (h a List.mem_cons_self)
    rw [List.filterMap_cons_some hb]
    cases i with
    | zero => exact hb.symm
    | succ i => exact ih (fun a ha => h a (List.mem_cons_of_mem _ ha)) i

/-- **The elements of a slice** are those at its places, in the order of its positions. -/
theorem getElem?_slice (items : List α) (start stop : Option Int) {given : Option Int}
    (hstep : given.getD 1 ≠ 0) : ∃ slice, slice? items start stop given = some slice ∧
      ∀ (i : Nat) (x : α), slice[i]? = some x ↔ ∃ place,
        SlicePlace items.length start stop (given.getD 1) i place ∧ items[place]? = some x := by
  obtain ⟨first, count, hplaces, hcount⟩ := slicePlaces?_eq items.length start stop hstep
  refine ⟨_, by rw [slice?, hplaces]; rfl, fun i x => ?_⟩
  -- every place of the slice lies in the sequence, so none is dropped
  have hsome : ∀ place ∈ placesFrom first (given.getD 1) count, (items[place.toNat]?).isSome := by
    intro place hmem
    obtain ⟨i, hi⟩ := List.getElem?_of_mem hmem
    rw [getElem?_placesFrom] at hi
    split at hi
    · rename_i hlt
      cases hi
      have hplace := (hcount i).1 hlt
      have := (((hcount i).2 _).2 ⟨Int.toNat_of_nonneg hplace, hlt⟩).lt_length
      simpa using this
    · cases hi
  rw [getElem?_filterMap_of_isSome hsome, getElem?_placesFrom]
  simp only [(hcount i).2]
  constructor
  · intro h
    split at h
    · rename_i hlt
      exact ⟨_, ⟨Int.toNat_of_nonneg ((hcount i).1 hlt), hlt⟩, h⟩
    · cases h
  · rintro ⟨place, ⟨hplace, hlt⟩, hx⟩
    rw [if_pos hlt, ← hplace]
    exact hx

/-- A slice is taken of the places, whatever stands there. -/
theorem slice?_map (f : α → β) (items : List α) (start stop given : Option Int) :
    slice? (items.map f) start stop given =
      (slice? items start stop given).map (List.map f) := by
  simp only [slice?, List.length_map, Option.map_map]
  congr 1
  funext places
  simp [List.map_filterMap]

end GraphPath.Sequence
