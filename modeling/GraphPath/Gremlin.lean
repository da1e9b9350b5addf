import GraphPath.Path.Kind
import GraphPath.Path.Shown
import GraphPath.Wire.Query

/-!
# Gremlin programs

The program text of a wire query: `g.V(…)` with the start ids, then one call per step.
Sub-expressions are `g.V(…)` calls again and expanded morphisms are `g.M()` calls, both
as arguments. Names are JSON string literals.

A wire query does not say what its lists are, so the renderer goes by operation and shape:
a list may be one argument, as for the predicates of a traversal, or the arguments
themselves.

* `Gremlin.call` — the name that an operation is called by;
* `Gremlin.literal`, `Gremlin.literalOf` — the literal of a name, and of any value that can be
  written;
* `Gremlin.steps` — the calls of wire steps;
* `WireQuery.toGremlin` — the program of a query.
-/

namespace GraphPath

/-- **Why a wire query has no program**: it holds a value that is no argument or cannot be
written, or an object or sequence is missing where the shape of a wire query has one. -/
inductive RenderFault where
  | unwritable (fault : Json.Unwritable)
  | notRenderable (operand : Json)
  | noOperation
  | manyOperations
  | notAnObject (kind : Text)
  | notIterable (kind : Text)

/-- The wording of a render fault. -/
def RenderFault.message : RenderFault → Text
  | .unwritable fault => fault.message
  | .notRenderable operand => "Cannot render operand " ++ (Value.ofJson operand).shown
      ++ " as Gremlin"
  | .noOperation => "not enough values to unpack (expected 1, got 0)"
  | .manyOperations => "too many values to unpack (expected 1)"
  | .notAnObject kind => "'" ++ kind ++ "' object has no attribute 'items'"
  | .notIterable kind => "'" ++ kind ++ "' object is not iterable"

/-- A value that is no argument. The fault shows it, if it can be shown. -/
def RenderFault.ofOperand (operand : Json) : RenderFault :=
  if operand.hasOversized then .unwritable .tooManyDigits else .notRenderable operand

namespace Gremlin

/-- **The name of a call.** Predicate sets use the plain traversals, and four operations
have names of their own. -/
def call (operation : Text) : Text :=
  match StepKind.ofName? operation with
  | some .outPredicates => "Out"
  | some .inPredicates => "In"
  | some .bothPredicates => "Both"
  | some .tag => "As"
  | some .intersect => "And"
  | some .union => "Or"
  | some .followReverse => "FollowR"
  | _ => operation

/-- Operations whose operand is the wire steps of a morphism. -/
def takesMorphism (operation : Text) : Bool :=
  match StepKind.ofName? operation with
  | some .follow | some .followReverse => true
  | _ => false

/-- Operations that spread a list of names over their arguments. -/
def spreads (operation : Text) : Bool :=
  match StepKind.ofName? operation with
  | some .is | some .tag | some .back => true
  | _ => false

/-- Operations whose operand is one argument, whatever its shape. -/
def isUnary (operation : Text) : Bool :=
  spreads operation || takesMorphism operation || operation == Wire.limitOperation ||
    match StepKind.ofName? operation with
    | some .and | some .or | some .intersect | some .union => true
    | _ => false

/-- Operations that keep a list of names together as one argument. -/
def takesPredicates (operation : Text) : Bool :=
  match StepKind.ofName? operation with
  | some .outPredicates | some .inPredicates | some .bothPredicates => true
  | _ => false

/-- A list of strings, perhaps empty. -/
def isNames (items : List Json) : Bool := items.all fun item => item.text?.isSome

/-- A list headed by an object with a start. -/
def isRoute : List Json → Bool
  | .object fields :: _ => (Fields.get? Wire.startOperation fields).isSome
  | _ => false

/-- **The literal of a name**, as JSON writes strings. -/
def literal (name : Text) : Text := Json.quoted false name

/-- **The literal of a value**, as JSON writes it. -/
def literalOf (value : Json) : Except RenderFault Text :=
  (value.write .spaced).mapError .unwritable

/-- Literals with commas between them. -/
def literals (values : List Json) : Except RenderFault Text := do
  .ok (Text.join "," (← values.mapM literalOf))

/-- The ids in a start: the items of a list, the names of an object, or the code points of
a string. -/
def startIds : Json → Except RenderFault (List Json)
  | .array ids => .ok ids
  | .object fields => .ok (fields.map fun (name, _) => .text name)
  | .text t => .ok (t.map fun c => .text [c])
  | value => .error (.notIterable value.typeName)

/-- An argument that is no list. -/
def scalar : Json → Except RenderFault Text
  | .float x => .error (.ofOperand (.float x))
  | .object fields => .error (.ofOperand (.object fields))
  | value => literalOf value

/-- **A start.** -/
def start (ids : List Json) : Except RenderFault Text := do
  .ok ("g.V(" ++ (← literals ids) ++ ")")

mutual

/-- **The calls of wire steps**, one behind the other. -/
def steps : List Json → Except RenderFault Text
  | [] => .ok []
  | s :: rest => do
    let text ← step s
    .ok (text ++ (← steps rest))

/-- The call of a wire step. -/
def step : Json → Except RenderFault Text
  | .object [] => .error .noOperation
  | .object [(operation, operand)] => do
    let inside ←
      -- the steps of a morphism hang on a start of their own
      if takesMorphism operation then do .ok ("g.M()" ++ (← morphism operand))
      else arguments operation operand
    .ok ("." ++ call operation ++ "(" ++ inside ++ ")")
  | .object (_ :: _ :: _) => .error .manyOperations
  | value => .error (.notAnObject value.typeName)

/-- The calls of an expanded morphism. -/
def morphism : Json → Except RenderFault Text
  | .array items => steps items
  | .object [] | .text [] => .ok []
  | .object _ | .text _ => .error (.notAnObject "str")
  | value => .error (.notIterable value.typeName)

/-- The arguments of an operation: the operand itself, or the items of a list that stands
for several arguments. -/
def arguments (operation : Text) : Json → Except RenderFault Text
  | .array items =>
    -- which lists are one argument and which stand for several goes by the operation
    if items.isEmpty then .ok []
    else if spreads operation && isNames items then literals items
    else if isUnary operation || isRoute items || (takesPredicates operation && isNames items)
    then list items
    else do .ok (Text.join "," (← each items))
  | operand => scalar operand

/-- The texts of several arguments. -/
def each : List Json → Except RenderFault (List Text)
  | [] => .ok []
  | item :: items => do
    let text ← argument item
    .ok (text :: (← each items))

/-- One argument. -/
def argument : Json → Except RenderFault Text
  | .array items => list items
  | value => scalar value

/-- A list as one argument: a sub-expression or a list of names. -/
def list : List Json → Except RenderFault Text
  | [] => .ok "[]"
  | item :: items =>
    match item with
    | .object fields =>
      match Fields.get? Wire.startOperation fields with
      | some ids => do
        let head ← start (← startIds ids)
        .ok (head ++ (← steps items))
      | none => .error (.ofOperand (.array (item :: items)))
    | _ =>
      if isNames (item :: items) then do .ok ("[" ++ (← literals (item :: items)) ++ "]")
      else .error (.ofOperand (.array (item :: items)))

end

end Gremlin

/-- **The program of a query.** -/
def WireQuery.toGremlin (wire : WireQuery) : Except RenderFault Text := do
  let head ← Gremlin.start wire.start
  .ok (head ++ (← Gremlin.steps wire.steps))

end GraphPath
