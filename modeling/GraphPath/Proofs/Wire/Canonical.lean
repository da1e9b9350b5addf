import GraphPath.Wire.Compile

/-!
# Canonical wire steps

Two pairs of operations are called alike in a program, and so are a node or a tag and the
list of it alone. The canonical form of wire steps leaves these differences out, at every
depth, and nothing else.

* `Json.canonical` — the canonical form of a wire step or of an operand;
* `Json.canonical_array`, `Json.canonical_wireStep`, `Json.canonical_collapse` — how it goes
  through the pieces that the compiler puts together;
* `Json.unwrapped_name` — the operations whose operand is left as it is.
-/

namespace GraphPath.Json

/-- An operation, for those that are called alike. -/
def canonicalName (operation : Text) : Text :=
  match StepKind.ofName? operation with
  | some .intersect => StepKind.and.name
  | some .union => StepKind.or.name
  | _ => operation

/-- An operand without the list around one node or one tag. -/
def unwrapped (operation : Text) (operand : Json) : Json :=
  match StepKind.ofName? operation, operand with
  | some .is, .array [item] => item
  | some .tag, .array [item] => item
  | _, operand => operand

mutual

/-- **The canonical form of a wire step** or of an operand, at every depth. Objects with
several fields are no wire steps and stay as they are. -/
def canonical : Json → Json
  | .array items => .array (canonicalItems items)
  | .object [(operation, operand)] =>
    .wireStep (canonicalName operation) (unwrapped operation (canonical operand))
  | value => value

/-- The canonical form of every item. -/
def canonicalItems : List Json → List Json
  | [] => []
  | item :: items => canonical item :: canonicalItems items

end

theorem canonicalItems_eq (items : List Json) : canonicalItems items = items.map canonical := by
  induction items with
  | nil => rfl
  | cons item items ih => rw [canonicalItems, ih, List.map_cons]

theorem canonical_array (items : List Json) :
    canonical (.array items) = .array (items.map canonical) := by
  rw [canonical, canonicalItems_eq]

theorem canonical_wireStep (operation : Text) (operand : Json) :
    canonical (.wireStep operation operand)
      = .wireStep (canonicalName operation) (unwrapped operation (canonical operand)) := by
  rw [wireStep, canonical]

theorem canonical_collapse (operands : List Json) :
    canonical (Compile.collapse operands) = Compile.collapse (operands.map canonical) := by
  -- one operand stands alone before and after, and none or several are a list
  rcases operands with _ | ⟨first, _ | ⟨second, operands⟩⟩
  · rfl
  · rfl
  · exact canonical_array _

theorem canonical_texts (ts : List Text) :
    (ts.map Json.text).map canonical = ts.map Json.text := by
  rw [List.map_map]
  rfl

/-- Only nodes that are kept and tags that are named lose a list around them. -/
theorem unwrapped_name {kind : StepKind} (his : kind ≠ .is) (htag : kind ≠ .tag) (operand : Json) :
    unwrapped kind.name operand = operand := by
  cases kind <;> first | rfl | contradiction

/-- The head of a sub-expression is canonical. -/
theorem canonical_head (nodes : NodeSelector) :
    canonical (Compile.head nodes)
      = .wireStep Wire.startOperation (.array (nodes.ids.map .text)) := by
  rw [Compile.head, canonical_wireStep, canonical_array, canonical_texts]
  -- the start is called like no other operation
  rfl

end GraphPath.Json
