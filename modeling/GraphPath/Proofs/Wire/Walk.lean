import GraphPath.Proofs.Path.Built
import GraphPath.Wire.Compile

/-!
# The walk over shaped steps

What the compiler does with a step of each shape, for any expansion of references. A
plain step always compiles, and to a wire step that can be written down; a step with a
sub-expression compiles as far as the steps of the sub-expression do; a query in its place
is a fault; and a following step is what its reference expands to.

* `Compile.steps_cons_ok`, `Compile.steps_cons_error` — a first step and the rest;
* `Step.plainWire`, `Compile.step_plain` — plain steps;
* `Compile.step_through`, `Compile.step_combine`, `Compile.step_follow` — the other shapes;
* `Compile.step_throughQuery`, `Compile.step_combineQuery` — finalized sub-expressions.
-/

namespace GraphPath

/-- **The encoding of an operand that is no sub-expression**: one name is a string, several
are a list, and `null` stands for one left out. -/
def Value.encoded : Value → Json
  | .selector (.nodes (.one id)) => .text id.text
  | .selector (.nodes (.many ids)) => .array (ids.texts.map .text)
  | .selector (.predicate name) => .text name.text
  | .selector (.predicates names) => .array (names.texts.map .text)
  | .selector (.tags (.one tag)) => .text tag.text
  | .selector (.tags (.many tags)) => .array (tags.texts.map .text)
  | _ => .null

theorem Value.encoded_nodes_ne {nodes : NodeSelector} (h : nodes ≠ .any) :
    (Value.selector (.nodes nodes)).encoded ≠ .null := by
  cases nodes with
  | any => exact absurd rfl h
  | one | many => exact nofun

theorem Value.encoded_tags_ne (tags : TagSelector) :
    (Value.selector (.tags tags)).encoded ≠ .null := by
  cases tags with
  | one | many => exact nofun

/-- The wire step of a plain step. -/
def Step.plainWire (s : Step) : Json :=
  .wireStep s.kind.name (Compile.collapse (Compile.dropOmitted (s.operands.map Value.encoded)))

/-- The wire step of a traversal along the predicates that a sub-expression reaches. -/
def Step.throughWire (kind : StepKind) (start : NodeSelector) (inner : List Json)
    (tags : Option TagSelector) : Json :=
  .wireStep kind.name (Compile.collapse (Compile.dropOmitted
    [.array (Compile.head start :: inner), (Value.ofTags? tags).encoded]))

namespace StepKind

theorem family_of_isTraversal {kind : StepKind} (h : kind.isTraversal) :
    kind.family = .selecting := by
  -- three kinds traverse, and all of them select
  cases kind <;> first | rfl | cases h

theorem not_isTraversal_of_combining {kind : StepKind} (h : kind.family = .combining) :
    ¬ kind.isTraversal := by
  intro htraversal
  rw [family_of_isTraversal htraversal] at h
  cases h

theorem family_of_isSetTraversal {kind : StepKind} (h : kind.isSetTraversal) :
    kind.family = .selecting := by
  cases kind <;> first | rfl | cases h

theorem ne_of_isTraversal {kind : StepKind} (h : kind.isTraversal) :
    kind ≠ .is ∧ kind ≠ .tag ∧ kind.isSetTraversal = false := by
  cases kind <;> first | exact ⟨by decide, by decide, rfl⟩ | cases h

theorem ne_of_isSetTraversal {kind : StepKind} (h : kind.isSetTraversal) :
    kind ≠ .is ∧ kind ≠ .tag := by
  cases kind <;> first | exact ⟨by decide, by decide⟩ | cases h

theorem ne_of_family {kind : StepKind} (h : kind.family ≠ .selecting) :
    kind ≠ .is ∧ kind ≠ .tag ∧ kind.isSetTraversal = false := by
  cases kind <;> first | exact ⟨by decide, by decide, rfl⟩ | exact absurd rfl h

end StepKind

namespace Compile

/-! ### Operands left out -/

theorem dropOmitted_single {operand : Json} (h : operand ≠ .null) :
    dropOmitted [operand] = [operand] := by
  cases operand <;> first | rfl | exact absurd rfl h

theorem dropOmitted_one {operand : Json} (h : operand ≠ .null) :
    dropOmitted [operand, .null] = [operand] := by
  cases operand <;> first | rfl | exact absurd rfl h

theorem dropOmitted_two {first second : Json} (h : second ≠ .null) :
    dropOmitted [first, second] = [first, second] := by
  -- the second operand is kept, so whatever stands in front of it is kept, too
  rw [dropOmitted.eq_def]
  simp only [dropOmitted_single h]

/-- Tags behind another operand are kept. -/
theorem dropOmitted_tags (first : Json) (tags : TagSelector) :
    dropOmitted [first, (Value.ofTags? (some tags)).encoded]
      = [first, (Value.selector (.tags tags)).encoded] :=
  dropOmitted_two (Value.encoded_tags_ne tags)

/-- A list in front of tags is kept, whether or not they are left out. -/
theorem dropOmitted_array (items : List Json) (tags : Option TagSelector) :
    dropOmitted [.array items, (Value.ofTags? tags).encoded]
      = .array items :: dropOmitted [(Value.ofTags? tags).encoded] := by
  -- tags that are left out are dropped, and the list stays in front of them
  cases tags with
  | none => exact dropOmitted_one nofun
  | some tags =>
    rw [dropOmitted_tags, Value.ofTags?, dropOmitted_single (Value.encoded_tags_ne tags)]

/-! ### Steps by their shape -/

variable {expand : Value → Except Fault (List Json)} {kind : StepKind}

theorem operand_ofPredicate? (predicate : Option Name) :
    operand expand kind (.ofPredicate? predicate) = .ok (Value.ofPredicate? predicate).encoded := by
  cases predicate <;> simp [Value.ofPredicate?, operand, selector, Value.encoded]

theorem operand_ofTags? (tags : Option TagSelector) :
    operand expand kind (.ofTags? tags) = .ok (Value.ofTags? tags).encoded := by
  rcases tags with _ | _ | _ <;> simp [Value.ofTags?, operand, selector, Value.encoded]

theorem operand_nodes {nodes : NodeSelector} (h : nodes ≠ .any) :
    operand expand kind (.selector (.nodes nodes))
      = .ok (Value.selector (.nodes nodes)).encoded := by
  cases nodes with
  | any => exact absurd rfl h
  | one | many => simp [operand, selector, Value.encoded]

/-- A selecting step, given what its operands compile to. -/
theorem step_selecting {values : List Value} (hkind : kind.family = .selecting) :
    step expand ⟨kind, values⟩ = (do
      let jsons ← operands expand kind values
      .ok (.wireStep kind.name (collapse (dropOmitted jsons)))) := by
  rw [step.eq_def]
  dsimp only
  rw [hkind]

/-- A selecting step all of whose operands compile. -/
theorem step_of_operands {values : List Value} {jsons : List Json}
    (hkind : kind.family = .selecting) (h : operands expand kind values = .ok jsons) :
    step expand ⟨kind, values⟩ = .ok (.wireStep kind.name (collapse (dropOmitted jsons))) := by
  rw [step_selecting hkind, h]
  rfl

/-- **A plain step compiles**, whatever references expand to. -/
theorem step_plain {s : Step} (h : s.Plain) : step expand s = .ok s.plainWire := by
  -- each shape has operands that are selectors or left out, and these all have an encoding
  cases h with
  | traverse hkind predicate tags =>
    refine step_of_operands (StepKind.family_of_isTraversal hkind) ?_
    simp only [operands, operand_ofPredicate?, operand_ofTags?]
    rfl
  | traverseSet hkind predicates tags =>
    refine step_of_operands (StepKind.family_of_isSetTraversal hkind) ?_
    simp only [operands, operand_ofTags?]
    rfl
  | isNodes hnodes =>
    refine step_of_operands rfl ?_
    simp only [operands, operand_nodes hnodes]
    rfl
  | has predicate hnodes =>
    refine step_of_operands rfl ?_
    simp only [operands, operand_nodes hnodes]
    rfl
  | tag tags =>
    refine step_of_operands rfl ?_
    cases tags <;> rfl
  | back | save => exact step_of_operands rfl rfl

theorem vertex_eq {v : Vertex} :
    vertex expand v = (do .ok (head v.start :: (← steps expand v.steps))) := by
  cases v
  rw [vertex]

theorem step_through {v : Vertex} (hkind : kind.isTraversal) (tags : Option TagSelector) :
    step expand ⟨kind, [.vertex v, .ofTags? tags]⟩ = (do
      let inner ← steps expand v.steps
      .ok (Step.throughWire kind v.start inner tags)) := by
  rw [step_selecting (StepKind.family_of_isTraversal hkind)]
  simp only [operands, operand_ofTags?, operand, vertex_eq]
  -- the tags have an encoding of their own, so the sub-expression decides
  cases steps expand v.steps <;> rfl

theorem step_throughQuery {q : Query} (hkind : kind.isTraversal) (tags : Option TagSelector) :
    step expand ⟨kind, [.query q, .ofTags? tags]⟩
      = .error (.path (.nestedFinalizer kind.name)) := by
  rw [step_selecting (StepKind.family_of_isTraversal hkind)]
  rfl

theorem step_combine {v : Vertex} (hkind : kind.family = .combining) :
    step expand ⟨kind, [.vertex v]⟩ = (do
      let inner ← steps expand v.steps
      .ok (.wireStep kind.name (.array (head v.start :: inner)))) := by
  rw [step.eq_def]
  dsimp only
  rw [hkind]
  simp only [subexpression, vertex_eq]
  cases steps expand v.steps <;> rfl

theorem step_combineQuery {q : Query} (hkind : kind.family = .combining) :
    step expand ⟨kind, [.query q]⟩ = .error (.path (.nestedFinalizer kind.name)) := by
  rw [step.eq_def]
  dsimp only
  rw [hkind]
  rfl

theorem step_follow {value : Value} (hkind : kind.family = .following) :
    step expand ⟨kind, [value]⟩ = (do
      let inner ← expand value
      .ok (.wireStep kind.name (.array inner))) := by
  rw [step.eq_def]
  dsimp only
  rw [hkind]

theorem steps_cons {s : Step} {rest : List Step} :
    steps expand (s :: rest) = (do
      let wire ← step expand s
      .ok (wire :: (← steps expand rest))) := by
  rw [steps]

theorem steps_cons_ok {s : Step} {rest : List Step} {wires : List Json} :
    steps expand (s :: rest) = .ok wires ↔ ∃ wire others,
      step expand s = .ok wire ∧ steps expand rest = .ok others ∧ wires = wire :: others := by
  simp only [steps_cons, Outcome.bind_eq_ok, Except.ok.injEq, exists_and_left, @eq_comm _ wires]

end Compile

end GraphPath
