import GraphPath.Result.Row

/-!
# Sequences of result rows

The rows of a result in the order of the answer, with the positions, slices and searches
of a read-only sequence. Positions may be negative and then count from the end.

* `Sequence.get?`, `Sequence.slice?` — the element at a position, the slice between two
  bounds with a step;
* `Rows` — the rows, with `Rows.ids`, `Rows.count`, `Rows.index?`, `Rows.same`.
-/

namespace GraphPath

namespace Sequence

variable {α : Type}

/-- The place of a position in a sequence of a length, if there is one. -/
def place? (length : Nat) (position : Int) : Option Nat :=
  let place := if position < 0 then position + length else position
  if 0 ≤ place ∧ place < length then some place.toNat else none

/-- **The element at a position.** -/
def get? (items : List α) (position : Int) : Option α :=
  (place? items.length position).bind (items[·]?)

/-- A bound of a slice, brought into the range that its direction allows. -/
def clamp (length : Nat) (lowest highest bound : Int) : Int :=
  let place := if bound < 0 then bound + length else bound
  max lowest (min highest place)

/-- The places `start, start + step, …`, `count` of them. -/
def placesFrom (start step : Int) : Nat → List Int
  | 0 => []
  | count + 1 => start :: placesFrom (start + step) step count

/-- **The places of a slice.** Left-out bounds are the ends in the direction of the step;
a zero step has no places. -/
def slicePlaces? (length : Nat) (start stop step : Option Int) : Option (List Int) :=
  let step := step.getD 1
  if step = 0 then none
  else if 0 < step then
    -- forwards: the bounds lie between the front and the end
    let first := (start.map (clamp length 0 length)).getD 0
    let last := (stop.map (clamp length 0 length)).getD length
    some (placesFrom first step ((last - first + step - 1) / step).toNat)
  else
    -- backwards: a bound may lie in front of everything
    let first := (start.map (clamp length (-1) (length - 1))).getD (length - 1)
    let last := (stop.map (clamp length (-1) (length - 1))).getD (-1)
    some (placesFrom first step ((first - last - step - 1) / (-step)).toNat)

/-- **The slice** of a sequence. -/
def slice? (items : List α) (start stop step : Option Int) : Option (List α) :=
  (slicePlaces? items.length start stop step).map fun places =>
    places.filterMap fun place => items[place.toNat]?

end Sequence

/-- **The rows of a result**, in the order of the answer. -/
structure Rows where
  toList : List Row

namespace Rows

/-- The result without rows. -/
def empty : Rows := ⟨[]⟩

/-- The number of rows. -/
def size (rows : Rows) : Nat := rows.toList.length

/-- The node id of each row, where it carries one. -/
def ids (rows : Rows) : List (Option Text) := rows.toList.map Row.id?

/-- The row at a position. -/
def get? (rows : Rows) (position : Int) : Option Row := Sequence.get? rows.toList position

/-- The slice between two bounds with a step; there is none for a zero step. -/
def slice? (rows : Rows) (start stop step : Option Int) : Option Rows :=
  (Sequence.slice? rows.toList start stop step).map Rows.mk

/-- The rows from the last to the first. -/
def reverse (rows : Rows) : Rows := ⟨rows.toList.reverse⟩

/-- **Equality of results**: the same rows at the same positions. -/
def same (rows others : Rows) : Bool :=
  rows.size == others.size && (rows.toList.zip others.toList).all fun (row, other) => row.same other

/-- Equality of a result with a JSON value: an array of equal objects. -/
def sameJson (rows : Rows) : Json → Bool
  | .array items =>
    rows.size == items.length && (rows.toList.zip items).all fun (row, item) => row.sameJson item
  | _ => false

/-- The number of rows equal to a value. -/
def count (rows : Rows) (value : Json) : Nat := rows.toList.countP (·.sameJson value)

/-- Whether a row is equal to a value. -/
def contains (rows : Rows) (value : Json) : Bool := rows.toList.any (·.sameJson value)

/-- The first position of a row equal to a value. -/
def index? (rows : Rows) (value : Json) : Option Nat :=
  rows.toList.findIdx? (·.sameJson value)

/-- How a result is shown. -/
def shown (rows : Rows) : Text :=
  "GraphNodes([" ++ Text.join ", " (rows.toList.map Row.shown) ++ "])"

end Rows

end GraphPath
