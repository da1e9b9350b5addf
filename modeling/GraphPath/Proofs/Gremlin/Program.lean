import GraphPath.Json.Printer
import GraphPath.Registry

/-!
# Programs straight from expressions

The program text of a query by one recursion over the expression, without a wire query in
between. What a followed name stands for is a parameter of the recursion; the text to a
depth looks it up in a registry.

* `Program.callName` — what the steps of a kind are called;
* `Program.steps` — the calls of steps, given the calls that a followed name stands for;
* `Program.stepsAt` — the same, with names looked up in a registry;
* `Program.query` — the program of a query.
-/

namespace GraphPath.Program

/-- **What the steps of a kind are called.** Traversals along several predicates are plain
traversals, and four other kinds have a name of their own. -/
def callName : StepKind → Text
  | .out | .outPredicates => "Out"
  | .inn | .inPredicates => "In"
  | .both | .bothPredicates => "Both"
  | .is => "Is"
  | .has => "Has"
  | .tag => "As"
  | .back => "Back"
  | .save => "Save"
  | .and | .intersect => "And"
  | .or | .union => "Or"
  | .follow => "Follow"
  | .followReverse => "FollowR"

/-- A name, as a string literal. -/
def name (t : Text) : Text := Json.quoted false t

/-- Names with commas between them. -/
def names (ts : List Text) : Text := Text.join "," (ts.map name)

/-- A start: every node, or those of the ids. -/
def start (ids : List Text) : Text := "g.V(" ++ names ids ++ ")"

/-- Several names of one operand: arguments of their own for the kinds that keep or name
the current nodes, one bracketed list for every other kind. -/
def several (kind : StepKind) (ts : List Text) : Text :=
  match kind with
  -- these two are called with any number of arguments
  | .is | .tag => names ts
  | _ => "[" ++ names ts ++ "]"

/-- The operands of a call: those left out at the end are dropped, others are `null`. -/
def withoutOmitted : List (Option Text) → List Text
  | [] => []
  | operand :: operands =>
    match operand, withoutOmitted operands with
    | none, [] => []
    | operand, operands => operand.getD "null" :: operands

section Recursion

-- The calls that a followed name stands for.
variable (expand : Text → Text)

mutual

/-- **The calls of steps**, one behind the other. -/
def steps : List Step → Text
  | [] => []
  | s :: rest => step s ++ steps rest

/-- The call of a step. -/
def step : Step → Text
  | ⟨kind, values⟩ =>
    "." ++ callName kind ++ "(" ++ Text.join "," (withoutOmitted (operands kind values)) ++ ")"

/-- The operands of a step of a kind. -/
def operands (kind : StepKind) : List Value → List (Option Text)
  | [] => []
  | value :: values => operand kind value :: operands kind values

/-- One operand, if it is not left out. -/
def operand (kind : StepKind) : Value → Option Text
  | .selector (.nodes (.one id)) => some (name id.text)
  | .selector (.nodes (.many ids)) => some (several kind ids.texts)
  | .selector (.predicate predicate) => some (name predicate.text)
  | .selector (.predicates predicates) => some (several kind predicates.texts)
  | .selector (.tags (.one tag)) => some (name tag.text)
  | .selector (.tags (.many tags)) => some (several kind tags.texts)
  | .vertex v => some (vertex v)
  | .morphismRef ⟨.text followed, _⟩ => some ("g.M()" ++ expand followed)
  | _ => none

/-- A sub-expression: its start and its calls. -/
def vertex : Vertex → Text
  | ⟨nodes, rest⟩ => start nodes.ids ++ steps rest

end

theorem operand_vertex (kind : StepKind) (v : Vertex) : operand expand kind (.vertex v)
    = some (start v.start.ids ++ steps expand v.steps) := by
  obtain ⟨nodes, l⟩ := v
  rw [operand, vertex]

end Recursion

/-- The calls that a followed name stands for: those of its declared steps, with at most so
many names followed inside one another. -/
def followedAt (registry : Registry) : Nat → Text → Text
  -- too deep, or not declared: no program is written for such a query
  | 0, _ => []
  | depth + 1, followed =>
    match registry.resolve? followed with
    | some declared => steps (followedAt registry depth) declared
    | none => []

/-- **The calls of steps to a depth.** -/
def stepsAt (registry : Registry) (depth : Nat) (l : List Step) : Text :=
  steps (followedAt registry depth) l

theorem stepsAt_cons (registry : Registry) (depth : Nat) (s : Step) (rest : List Step) :
    stepsAt registry depth (s :: rest)
      = step (followedAt registry depth) s ++ stepsAt registry depth rest := by
  rw [stepsAt, steps.eq_def]
  rfl

/-- The call of a finalizer. -/
def final : Final → Text
  | .getLimit (.int n) => ".GetLimit(" ++ Text.ofInt n ++ ")"
  | _ => ".All()"

/-- **The program of a query.** -/
def query (registry : Registry) (depth : Nat) (q : Query) : Text :=
  start q.vertex.start.ids ++ stepsAt registry depth q.vertex.steps ++ final q.final

end GraphPath.Program
