import GraphPath.Text.CodePoint

/-!
# Kinds of steps

The seventeen operations that a path is made of.

* `StepKind` — the kinds; `StepKind.name` is the name of a kind in a compiled query;
* `StepKind.family` — combinators take a sub-expression, follows take a morphism, and
  all other kinds take selectors;
* `StepKind.ofName?` — the kind of a name.
-/

namespace GraphPath

/-- **The kind of a step.** -/
inductive StepKind where
  | out
  | inn
  | both
  | outPredicates
  | inPredicates
  | bothPredicates
  | is
  | has
  | tag
  | back
  | save
  | and
  | or
  | intersect
  | union
  | follow
  | followReverse
deriving DecidableEq, Repr

/-- Which operands a kind takes. -/
inductive StepFamily where
  | selecting
  | combining
  | following
deriving DecidableEq, Repr

namespace StepKind

/-- The name of a kind. -/
def name : StepKind → Text
  | .out => "Out"
  | .inn => "In"
  | .both => "Both"
  | .outPredicates => "OutPredicates"
  | .inPredicates => "InPredicates"
  | .bothPredicates => "BothPredicates"
  | .is => "Is"
  | .has => "Has"
  | .tag => "Tag"
  | .back => "Back"
  | .save => "Save"
  | .and => "And"
  | .or => "Or"
  | .intersect => "Intersect"
  | .union => "Union"
  | .follow => "Follow"
  | .followReverse => "FollowReverse"

/-- The name of a kind as a constant, in capitals. -/
def constant : StepKind → Text
  | .out => "OUT"
  | .inn => "IN"
  | .both => "BOTH"
  | .outPredicates => "OUT_PREDICATES"
  | .inPredicates => "IN_PREDICATES"
  | .bothPredicates => "BOTH_PREDICATES"
  | .is => "IS"
  | .has => "HAS"
  | .tag => "TAG"
  | .back => "BACK"
  | .save => "SAVE"
  | .and => "AND"
  | .or => "OR"
  | .intersect => "INTERSECT"
  | .union => "UNION"
  | .follow => "FOLLOW"
  | .followReverse => "FOLLOW_REVERSE"

/-- **The family of a kind.** -/
def family : StepKind → StepFamily
  | .and | .or | .intersect | .union => .combining
  | .follow | .followReverse => .following
  | .out | .inn | .both | .outPredicates | .inPredicates | .bothPredicates | .is | .has
  | .tag | .back | .save => .selecting

/-- Every kind. -/
def all : List StepKind :=
  [.out, .inn, .both, .outPredicates, .inPredicates, .bothPredicates, .is, .has, .tag,
    .back, .save, .and, .or, .intersect, .union, .follow, .followReverse]

/-- The kind of a name. -/
def ofName? (t : Text) : Option StepKind := all.find? (·.name = t)

@[simp] theorem ofName?_name (kind : StepKind) : ofName? kind.name = some kind := by
  cases kind <;> rfl

end StepKind

end GraphPath
