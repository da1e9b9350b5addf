import GraphPath.Path.Fault

/-!
# Building expressions

The operations that make selectors, steps and expressions. Their arguments are values, so
each of them checks the shape of what it is given and refuses the first argument that
does not fit; what it returns carries operands of the right shape.

* `Selector.node`, `Selector.nodeSet`, … — selectors from a name or from many;
* `Step.traverse`, `Step.has`, … — steps from their operands;
* `Path.ofValue`, `Morphism.ofValues`, `Vertex.ofValues`, `Query.ofValues` — expressions;
* `Vertex.all`, `Vertex.getLimit` — finalizing.
-/

namespace GraphPath

/-! ### Selectors -/

/-- The items of a value that is a sequence, the names of a dictionary, or the code points
of a text. -/
def Value.elements : Value → Except Fault (List Value)
  | .list items => .ok items
  | .tuple items => .ok items
  | .object fields => .ok (fields.map fun (name, _) => .text name)
  | .text t => .ok (t.map fun c => .text [c])
  | value => .error (.usage (.notIterable value.typeName))

/-- A name from a value: a text that is not empty. -/
def Name.ofValue (owner : Text) (value : Value) : Except Fault Name :=
  match value with
  | .text (c :: rest) => .ok ⟨c :: rest, List.cons_ne_nil c rest⟩
  | _ => .error (.malformed owner (.expected .string value))

/-- Names from values, one after another. -/
def Names.ofValues (owner : Text) : List Value → Except Fault (List Name)
  | [] => .ok []
  | value :: values => do
    let name ← Name.ofValue owner value
    .ok (name :: (← Names.ofValues owner values))

/-- **Names from a value**: a sequence with at least one name. A text is refused, although
it is a sequence of code points. -/
def Names.ofValue (owner : Text) (value : Value) : Except Fault Names :=
  match value with
  | .text t => .error (.malformed owner (.namesFromText t))
  | value => do
    let values ← value.elements
    if values.isEmpty then .error (.malformed owner .noNames)
    else
      match ← Names.ofValues owner values with
      | [] => .error (.malformed owner .noNames)
      | name :: names => .ok ⟨name :: names, List.cons_ne_nil name names⟩

namespace Selector

/-- One node. -/
def node (id : Value) : Except Fault Selector := do .ok (.nodes (.one (← Name.ofValue "Node" id)))

/-- Several nodes. -/
def nodeSet (ids : Value) : Except Fault Selector := do
  .ok (.nodes (.many (← Names.ofValue "NodeSet" ids)))

/-- One predicate. -/
def onePredicate (name : Value) : Except Fault Selector := do
  .ok (.predicate (← Name.ofValue "Predicate" name))

/-- Several predicates, of which any may match. -/
def predicateSet (names : Value) : Except Fault Selector := do
  .ok (.predicates (← Names.ofValue "PredicateSet" names))

/-- One tag. -/
def oneTag (name : Value) : Except Fault Selector := do
  .ok (.tags (.one (← Name.ofValue "Tag" name)))

/-- Several tags. -/
def tagSet (names : Value) : Except Fault Selector := do
  .ok (.tags (.many (← Names.ofValue "TagSet" names)))

end Selector

/-- The ids that a value names as a node selector; any other value names none. -/
def Value.nodeIds : Value → List Text
  | .selector (.nodes nodes) => nodes.ids
  | _ => []

/-! ### Steps -/

namespace Step

/-- Refuses an operand of a step. -/
def refuse {α : Type} (kind : StepKind) (what : Expectation) (got : Value) : Except Fault α :=
  .error (.malformed kind.name (.expected what got))

/-- Tags are a tag selector; left out if the step allows it. -/
def checkTags (kind : StepKind) (required : Bool) (tags : Value) : Except Fault Unit :=
  match tags with
  | .selector (.tags _) => .ok ()
  | .null => if required then refuse kind .tags tags else .ok ()
  | _ => refuse kind .tags tags

/-- **Traversing** along one predicate, along the predicates that a sub-expression
reaches, or along any. -/
def traverse (kind : StepKind) (predicate tags : Value) : Except Fault Step := do
  match predicate with
  | .null | .selector (.predicate _) | .vertex _ | .query _ => pure ()
  | _ => refuse kind .predicateOrRoute predicate
  checkTags kind false tags
  .ok ⟨kind, [predicate, tags]⟩

/-- **Traversing** along any of several predicates. -/
def traversePredicates (kind : StepKind) (predicates tags : Value) : Except Fault Step := do
  match predicates with
  | .selector (.predicates _) => pure ()
  | _ => refuse kind .predicateSet predicates
  checkTags kind false tags
  .ok ⟨kind, [predicates, tags]⟩

/-- Nodes are one node or several, not every node. -/
def checkNodes (kind : StepKind) (nodes : Value) : Except Fault Unit :=
  match nodes with
  | .selector (.nodes (.one _)) | .selector (.nodes (.many _)) => .ok ()
  | _ => refuse kind .nodes nodes

/-- A single predicate. -/
def checkPredicate (kind : StepKind) (predicate : Value) : Except Fault Unit :=
  match predicate with
  | .selector (.predicate _) => .ok ()
  | _ => refuse kind .predicate predicate

/-- A single tag. -/
def checkTag (kind : StepKind) (tag : Value) : Except Fault Unit :=
  match tag with
  | .selector (.tags (.one _)) => .ok ()
  | _ => refuse kind .tag tag

/-- **Keeping** the given nodes only. -/
def isNodes (nodes : Value) : Except Fault Step := do
  checkNodes .is nodes
  .ok ⟨.is, [nodes]⟩

/-- **Keeping** the nodes whose predicate points at the given ones. -/
def has (predicate nodes : Value) : Except Fault Step := do
  checkPredicate .has predicate
  checkNodes .has nodes
  .ok ⟨.has, [predicate, nodes]⟩

/-- **Naming** the current nodes. -/
def tag (tags : Value) : Except Fault Step := do
  checkTags .tag true tags
  .ok ⟨.tag, [tags]⟩

/-- **Returning** to the nodes of a tag. -/
def back (tag : Value) : Except Fault Step := do
  checkTag .back tag
  .ok ⟨.back, [tag]⟩

/-- **Storing** what a predicate points at under a tag. -/
def save (predicate tag : Value) : Except Fault Step := do
  checkPredicate .save predicate
  checkTag .save tag
  .ok ⟨.save, [predicate, tag]⟩

/-- **Combining** with the nodes that a sub-expression reaches. A finalized one is let
through here and refused by the compiler. -/
def combine (kind : StepKind) (route : Value) : Except Fault Step :=
  match route with
  -- whether the route is finalized is looked at when it is compiled
  | .vertex _ | .query _ => .ok ⟨kind, [route]⟩
  | _ => refuse kind .route route

/-- **Following** a morphism, given by its name or as a value; a value is remembered by its
steps. -/
def follow (kind : StepKind) (morphism : Value) : Except Fault Step :=
  -- a morphism by its value is remembered by its steps as well
  let (name, expected) : Value × Option (List Value) := match morphism with
    | .morphism m => (.ofName? m.name, some (m.steps.map .step))
    | _ => (morphism, none)
  match name with
  | .text (_ :: _) => .ok ⟨kind, [.morphismRef ⟨name, expected⟩]⟩
  | _ => refuse kind .morphismName name

end Step

/-! ### Expressions -/

/-- Steps from values, one after another. -/
def Step.ofValues (owner : Text) : List Value → Except Fault (List Step)
  | [] => .ok []
  | .step s :: values => do .ok (s :: (← Step.ofValues owner values))
  | value :: _ => .error (.malformed owner (.expected .step value))

/-- **Steps from a value**: a sequence of steps. -/
def Step.ofValue (owner : Text) (value : Value) : Except Fault (List Step) := do
  Step.ofValues owner (← value.elements)

/-- A path of steps. -/
def Path.ofValue (steps : Value) : Except Fault Path := do .ok ⟨← Step.ofValue "Path" steps⟩

/-- A morphism with a name, or `null` for none, and steps. -/
def Morphism.ofValues (name steps : Value) : Except Fault Morphism :=
  match name with
  | .null => do .ok ⟨none, ← Step.ofValue "Morphism" steps⟩
  | .text (c :: rest) => do
    .ok ⟨some ⟨c :: rest, List.cons_ne_nil c rest⟩, ← Step.ofValue "Morphism" steps⟩
  | _ => .error (.malformed "Morphism" (.expected .name name))

/-- A vertex with a start and steps. -/
def Vertex.ofValues (start steps : Value) : Except Fault Vertex :=
  match start with
  | .selector (.nodes nodes) => do .ok ⟨nodes, ← Step.ofValue "Vertex" steps⟩
  | _ => .error (.malformed "Vertex" (.expected .start start))

/-- A query from a vertex and a finalizer, whose limit is not checked here. -/
def Query.ofValues (vertex final : Value) : Except Fault Query :=
  match vertex with
  | .vertex v =>
    match final with
    | .final f => .ok ⟨v, f⟩
    | _ => .error (.malformed "Query" (.expected .finalizer final))
  | _ => .error (.malformed "Query" (.expected .vertex vertex))

/-- A path with further steps behind its own. -/
def Path.append (p : Path) (steps : List Step) : Path := ⟨p.steps ++ steps⟩

/-- A morphism with further steps behind its own. -/
def Morphism.append (m : Morphism) (steps : List Step) : Morphism := ⟨m.name, m.steps ++ steps⟩

/-- A vertex with further steps behind its own. -/
def Vertex.append (v : Vertex) (steps : List Step) : Vertex := ⟨v.start, v.steps ++ steps⟩

/-- The query that fetches every result of a vertex. -/
def Vertex.all (v : Vertex) : Query := ⟨v, .all⟩

/-- A limit that may be fetched: a positive integer. -/
def Value.limit? : Value → Option Nat
  | .int (.ofNat (n + 1)) => some (n + 1)
  | _ => none

/-- The query that fetches at most so many results of a vertex. -/
def Vertex.getLimit (v : Vertex) (limit : Value) : Except Fault Query :=
  match limit.limit? with
  | some _ => .ok ⟨v, .getLimit limit⟩
  | none => .error (.ofError (.invalidLimit limit))

end GraphPath
