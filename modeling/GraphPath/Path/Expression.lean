import GraphPath.Decimal.Binary64
import GraphPath.Path.Kind
import GraphPath.Path.Selector

/-!
# Path expressions

A path is a sequence of steps. A **vertex** starts it at some nodes, a **morphism** names
it for reuse, and a bare **path** does neither; a **query** is a vertex with a finalizer.
Expressions are values: every operation makes a new one.

The operands of a step are values of any kind. Steps built by the operations of
`GraphPath.Path.Build` carry operands of the right shape; a step made by hand may carry
anything, and it is the compiler that refuses what it cannot encode. Faults show the
value that was passed, so the type of values holds everything a caller can pass.

* `Value` — whatever a caller can pass;
* `Step`, `MorphismRef` — a step, and the operand that names a morphism;
* `Path`, `Morphism`, `Vertex`, `Query`, `Final` — the expressions;
* `Value.typeName` — the kind of a value, as messages name it.
-/

namespace GraphPath

mutual

/-- **A value**: plain data, a selector, a part of an expression, or an expression. -/
inductive Value where
  | null
  | bool (b : Bool)
  | int (n : Int)
  | float (x : Binary64)
  | text (t : Text)
  | list (items : List Value)
  | tuple (items : List Value)
  | object (fields : List (Text × Value))
  | selector (s : Selector)
  | kind (k : StepKind)
  | step (s : Step)
  | morphismRef (r : MorphismRef)
  | path (p : Path)
  | morphism (m : Morphism)
  | vertex (v : Vertex)
  | query (q : Query)
  | final (f : Final)

/-- **A step**: an operation with its operands, `null` standing for one left out. -/
structure Step where
  kind : StepKind
  operands : List Value

/-- **A reference to a morphism.** When it was made from a morphism and not from a name,
`expected` holds the steps of that morphism. -/
structure MorphismRef where
  name : Value
  expected : Option (List Value)

/-- **A path** without start and name. -/
structure Path where
  steps : List Step

/-- **A morphism**: a path for reuse, perhaps with a name. -/
structure Morphism where
  name : Option Name
  steps : List Step

/-- **A vertex**: a path that starts at some nodes. -/
structure Vertex where
  start : NodeSelector
  steps : List Step

/-- **A query**: a vertex with a finalizer. -/
structure Query where
  vertex : Vertex
  final : Final

/-- **A finalizer**: fetch every result, or at most `limit` of them. -/
inductive Final where
  | all
  | getLimit (limit : Value)

end

instance : Inhabited Value := ⟨.null⟩

namespace Value

/-- The value of a name that may be missing. -/
def ofName? : Option Name → Value
  | none => .null
  | some name => .text name.text

/-- A tuple of steps. -/
def ofSteps (steps : List Step) : Value := .tuple (steps.map .step)

/-- A tuple of texts. -/
def ofNames (names : Names) : Value := .tuple (names.texts.map .text)

/-- **The kind of a value**, in the words of the messages. -/
def typeName : Value → Text
  | .null => "NoneType"
  | .bool _ => "bool"
  | .int _ => "int"
  | .float _ => "float"
  | .text _ => "str"
  | .list _ => "list"
  | .tuple _ => "tuple"
  | .object _ => "dict"
  | .selector (.nodes .any) => "AnyNodeSelector"
  | .selector (.nodes (.one _)) => "Node"
  | .selector (.nodes (.many _)) => "NodeSet"
  | .selector (.predicate _) => "Predicate"
  | .selector (.predicates _) => "PredicateSet"
  | .selector (.tags (.one _)) => "Tag"
  | .selector (.tags (.many _)) => "TagSet"
  | .kind _ => "StepKind"
  | .step _ => "Step"
  | .morphismRef _ => "MorphismRef"
  | .path _ => "Path"
  | .morphism _ => "Morphism"
  | .vertex _ => "Vertex"
  | .query _ => "Query"
  | .final .all => "All"
  | .final (.getLimit _) => "GetLimit"

/-- **The part of a value under a name**, for values that have named parts. -/
def part? (value : Value) (name : Text) : Option Value :=
  let parts : List (Text × Value) := match value with
    | .selector (.nodes (.one id)) => [("id", .text id.text)]
    | .selector (.nodes (.many ids)) => [("ids", ofNames ids)]
    | .selector (.predicate name) => [("name", .text name.text)]
    | .selector (.predicates names) => [("names", ofNames names)]
    | .selector (.tags (.one tag)) => [("name", .text tag.text)]
    | .selector (.tags (.many tags)) => [("names", ofNames tags)]
    | .kind k => [("name", .text k.constant), ("value", .text k.name)]
    | .step s => [("kind", .kind s.kind), ("operands", .tuple s.operands)]
    | .morphismRef r =>
      [("name", r.name), ("expected", match r.expected with
        | none => .null
        | some steps => .tuple steps)]
    | .path p => [("steps", ofSteps p.steps)]
    | .morphism m => [("name", ofName? m.name), ("steps", ofSteps m.steps)]
    | .vertex v => [("start", .selector (.nodes v.start)), ("steps", ofSteps v.steps)]
    | .query q =>
      [("vertex", .vertex q.vertex), ("final", .final q.final),
        ("start", .selector (.nodes q.vertex.start)), ("steps", ofSteps q.vertex.steps)]
    | .final (.getLimit limit) => [("limit", limit)]
    | _ => []
  (parts.find? (·.1 = name)).map (·.2)

end Value

end GraphPath
