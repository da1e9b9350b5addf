import GraphPath.Text.CodePoint

/-!
# Tables of ranges

A class of code points is given by the ranges of its numbers, ends included, and a property
by ranges that each have a value.

* `inRanges` — whether a number lies in one of the ranges;
* `rangeValue?` — the value of the range in which a number lies.
-/

namespace GraphPath

/-- Whether a number lies in one of the ranges, ends included. -/
def inRanges (ranges : List (Nat × Nat)) (n : Nat) : Bool :=
  ranges.any fun (first, last) => first ≤ n && n ≤ last

/-- The value of the first range in which a number lies. -/
def rangeValue? {α : Type} (ranges : List (Nat × Nat × α)) (n : Nat) : Option α :=
  (ranges.find? fun (first, last, _) => first ≤ n && n ≤ last).map fun (_, _, value) => value

end GraphPath
