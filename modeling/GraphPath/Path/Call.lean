import GraphPath.Path.Build

/-!
# Operations by name

The operations of path expressions, called by name on a value whose kind is known only at
the call. Vertices, morphisms and paths have the step operations, each of which puts one
more step behind the others; vertices alone can be finalized.

* `StepMethod`, `Method` — the operations;
* `Value.method?` — the operation that a value has under a name;
* `Value.call` — the operation applied to arguments, left-out ones being `null`;
* `Value.add` — a path put behind an expression.
-/

namespace GraphPath

/-- **An operation that makes a step.** -/
inductive StepMethod where
  | traverse (kind : StepKind)
  | traversePredicates (kind : StepKind)
  | isNodes
  | has
  | tag
  | back
  | save
  | combine (kind : StepKind)
  | follow (kind : StepKind)
deriving DecidableEq

/-- **An operation of an expression**: one more step, or a finalizer. -/
inductive Method where
  | step (method : StepMethod)
  | all
  | getLimit
deriving DecidableEq

/-- The step that an operation makes from its arguments. -/
def StepMethod.apply (method : StepMethod) (first second : Value) : Except Fault Step :=
  match method with
  | .traverse kind => Step.traverse kind first second
  | .traversePredicates kind => Step.traversePredicates kind first second
  | .isNodes => Step.isNodes first
  | .has => Step.has first second
  | .tag => Step.tag first
  | .back => Step.back first
  | .save => Step.save first second
  | .combine kind => Step.combine kind first
  | .follow kind => Step.follow kind first

namespace Method

/-- The operations by name. -/
def table : List (Text × Method) :=
  [("out", .step (.traverse .out)), ("in_", .step (.traverse .inn)),
    ("both", .step (.traverse .both)),
    ("out_predicates", .step (.traversePredicates .outPredicates)),
    ("in_predicates", .step (.traversePredicates .inPredicates)),
    ("both_predicates", .step (.traversePredicates .bothPredicates)),
    ("is_", .step .isNodes), ("has", .step .has), ("tag", .step .tag), ("as_", .step .tag),
    ("back", .step .back), ("save", .step .save),
    ("and_", .step (.combine .and)), ("intersect", .step (.combine .intersect)),
    ("or_", .step (.combine .or)), ("union", .step (.combine .union)),
    ("follow", .step (.follow .follow)), ("follow_reverse", .step (.follow .followReverse)),
    ("all", .all), ("get_limit", .getLimit)]

/-- The operation of a name. -/
def ofName? (name : Text) : Option Method := (table.find? (·.1 = name)).map (·.2)

/-- The first name of an operation. -/
def name (method : Method) : Text := ((table.find? (·.2 = method)).map (·.1)).getD []

end Method

namespace Value

/-- **The operation that a value has under a name.** -/
def method? (value : Value) (name : Text) : Option Method :=
  match value, Method.ofName? name with
  -- paths and morphisms cannot be finalized
  | .vertex _, method => method
  | .path _, some (.step method) => some (.step method)
  | .morphism _, some (.step method) => some (.step method)
  | _, _ => none

/-- **Calling an operation** with two arguments. -/
def call (value : Value) (method : Method) (first second : Value) : Except Fault Value :=
  match value, method with
  | .vertex v, .step method => do .ok (.vertex (v.append [← method.apply first second]))
  | .path p, .step method => do .ok (.path (p.append [← method.apply first second]))
  | .morphism m, .step method => do .ok (.morphism (m.append [← method.apply first second]))
  | .vertex v, .all => .ok (.query v.all)
  | .vertex v, .getLimit => do .ok (.query (← v.getLimit first))
  | _, _ => .error (.usage (.noAttribute value.typeName method.name))

/-- **Putting a path behind an expression.** Nothing else can be added. -/
def add (left right : Value) : Except Fault Value :=
  match left, right with
  | .vertex v, .path p => .ok (.vertex (v.append p.steps))
  | .path q, .path p => .ok (.path (q.append p.steps))
  | .morphism m, .path p => .ok (.morphism (m.append p.steps))
  | _, _ => .error (.usage (.cannotAdd left.typeName right.typeName))

end Value

end GraphPath
