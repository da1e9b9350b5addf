import GraphPath.Registry
import GraphPath.Wire.Query

/-!
# Compiling queries

A query compiles to one wire step per step, in order, and one for the finalizer. Selectors
become names or lists of names, a sub-expression becomes the list of its wire steps behind
a head with its start, and a reference to a morphism becomes the list of the wire steps of
the morphism: no name of a morphism is left. Left-out operands at the end are dropped, and
a single operand stands without a list around it.

The walk over the steps is structural. What a reference expands to is a parameter of it,
so that expansion can be described on its own: `expandAt` allows so many expansions inside
one another and is structural in that number. The names under expansion are distinct and
declared, so the size of the registry is always enough.

* `Compile.steps` — the wire steps of steps, given the expansion of references;
* `Compile.expandAt` — the same, with references expanded from a registry;
* `Compile.route`, `Compile.query` — a vertex without finalizer, and a whole query;
* `Registry.compile`, `Registry.compileRoute` — the same for values of any kind.
-/

namespace GraphPath

namespace Compile

/-- **The operand of a selector**: one name is a string, several are a list. -/
def selector : Value → Except Fault Json
  | .selector (.nodes (.one id)) => .ok (.text id.text)
  | .selector (.nodes (.many ids)) => .ok (.array (ids.texts.map .text))
  | .selector (.predicate name) => .ok (.text name.text)
  | .selector (.predicates names) => .ok (.array (names.texts.map .text))
  | .selector (.tags (.one tag)) => .ok (.text tag.text)
  | .selector (.tags (.many tags)) => .ok (.array (tags.texts.map .text))
  | value => .error (.malformed "selector" (.notEncodable value))

/-- Operands without those at the end that were left out. -/
def dropOmitted : List Json → List Json
  | [] => []
  | operand :: operands =>
    -- a `null` goes only if everything behind it has gone
    match operand, dropOmitted operands with
    | .null, [] => []
    | operand, operands => operand :: operands

/-- A single operand stands by itself, others in a list. -/
def collapse : List Json → Json
  | [operand] => operand
  | operands => .array operands

/-- The head of a sub-expression: the ids that it starts from. -/
def head (start : NodeSelector) : Json :=
  .wireStep Wire.startOperation (.array (start.ids.map .text))

/-! ### The walk -/

section Walk

-- What a reference to a morphism expands to.
variable (expand : Value → Except Fault (List Json))

mutual

/-- **The wire steps of steps**, in order; the first fault wins. -/
def steps : List Step → Except Fault (List Json)
  | [] => .ok []
  | s :: rest => do
    let wire ← step s
    .ok (wire :: (← steps rest))

/-- The wire step of a step. -/
def step : Step → Except Fault Json
  | ⟨kind, values⟩ =>
    match kind.family with
    | .selecting => do .ok (.wireStep kind.name (collapse (dropOmitted (← operands kind values))))
    | .combining =>
      match values with
      | [] => .error (.usage .missingOperand)
      | value :: _ => do .ok (.wireStep kind.name (.array (← subexpression kind value)))
    -- what is followed is expanded in place, so no name is left
    | .following =>
      match values with
      | [] => .error (.usage .missingOperand)
      | value :: _ => do .ok (.wireStep kind.name (.array (← expand value)))

/-- The operands of a step that selects. -/
def operands (kind : StepKind) : List Value → Except Fault (List Json)
  | [] => .ok []
  | value :: values => do
    let json ← operand kind value
    .ok (json :: (← operands kind values))

/-- One operand of a step that selects. -/
def operand (kind : StepKind) : Value → Except Fault Json
  | .null => .ok .null
  | .vertex v => do .ok (.array (← vertex v))
  | .query _ => .error (.path (.nestedFinalizer kind.name))
  | value => selector value

/-- The operand of a step that combines. -/
def subexpression (kind : StepKind) : Value → Except Fault (List Json)
  | .vertex v => vertex v
  | .query _ => .error (.path (.nestedFinalizer kind.name))
  | _ => .error (.usage .notARoute)

/-- A sub-expression: its head and its wire steps. -/
def vertex : Vertex → Except Fault (List Json)
  | ⟨start, rest⟩ => do .ok (head start :: (← steps rest))

end

end Walk

/-! ### Expansion -/

/-- The name that the operand of a following step refers to. -/
def referencedName (operand : Value) : Except Fault Value :=
  match operand.part? "name" with
  | some name => .ok name
  | none => .error (.usage (.noAttribute operand.typeName "name"))

/-- The steps that a reference expects of its morphism, if it expects any. -/
def checkExpected (operand : Value) (name : Text) (declared : List Step) : Except Fault Unit :=
  match operand with
  | .morphismRef ⟨_, none⟩ => .ok ()
  | .morphismRef ⟨_, some expected⟩ =>
    if Value.sameItems expected (declared.map .step) then .ok ()
    else .error (.path (.morphismMismatch name))
  | _ => .error (.usage (.noAttribute operand.typeName "expected"))

/-- **Expanding a reference** while the names of `chain` are under expansion. A name of the
chain closes a cycle; any other name must be declared, with the steps that the reference
expects. `body` gives the wire steps of the declared steps. -/
def expandReference (registry : Registry) (chain : List Text)
    (body : List Text → List Step → Except Fault (List Json)) (operand : Value) :
    Except Fault (List Json) := do
  match ← referencedName operand with
  | .text name =>
    if name ∈ chain then .error (.path (.morphismCycle (chain ++ [name])))
    else
      match registry.resolve? name with
      | none => .error (.path (.unknownMorphism (.text name)))
      | some declared => do
        checkExpected operand name declared
        body (chain ++ [name]) declared
  | name =>
    match name.unhashable? with
    | some kind => .error (.usage (.unhashable kind))
    | none => .error (.ofError (.unknownMorphism name))

/-- **Expansion to a depth.** The wire steps of steps with references expanded from a
registry, at most so many of them inside one another; a deeper chain counts as a cycle. -/
def expandAt (registry : Registry) : Nat → List Text → List Step → Except Fault (List Json)
  | 0, chain => steps (expandReference registry chain fun chain _ =>
      .error (.path (.morphismCycle chain)))
  | depth + 1, chain => steps (expandReference registry chain (expandAt registry depth))

/-- **The wire steps of steps.** Names under expansion are distinct and declared, so no
chain of them is longer than the registry. -/
def expand (registry : Registry) (steps : List Step) : Except Fault (List Json) :=
  expandAt registry registry.size [] steps

/-! ### Queries -/

/-- The wire step of a finalizer. A limit that is refused is shown, if it can be. -/
def final : Final → Except Fault Json
  | .all => .ok (.wireStep Wire.allOperation (.array []))
  | .getLimit limit =>
    match limit.limit? with
    | some n => .ok (.wireStep Wire.limitOperation (.int n))
    | none => .error (.ofError (.invalidLimit limit))

/-- **Compiling a vertex** without a finalizer. -/
def route (registry : Registry) (v : Vertex) : Except Fault WireQuery := do
  .ok ⟨v.start.ids.map .text, ← expand registry v.steps⟩

/-- **Compiling a query.** The steps come first, so their faults win over that of the
finalizer. -/
def query (registry : Registry) (q : Query) : Except Fault WireQuery := do
  let steps ← expand registry q.vertex.steps
  let last ← final q.final
  .ok ⟨q.vertex.start.ids.map .text, steps ++ [last]⟩

end Compile

namespace Registry

/-- **Compiling a value**, which must be a query. -/
def compile (registry : Registry) (expression : Value) : Except Fault WireQuery :=
  match expression with
  | .query q => Compile.query registry q
  | _ => .error (.path (.missingFinalizer expression.typeName))

/-- **Compiling a value** that must be a vertex without a finalizer. -/
def compileRoute (registry : Registry) (expression : Value) : Except Fault WireQuery :=
  match expression with
  | .query _ => .error (.path (.nestedFinalizer "compile_route"))
  | .vertex v => Compile.route registry v
  | _ => .error (.path (.notAVertex expression.typeName))

end Registry

end GraphPath
