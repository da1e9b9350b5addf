import GraphPath.Proofs.Outcome
import GraphPath.Proofs.Wire.Reached
import GraphPath.Wire.Compile

/-!
# What the walk over steps meets

The walk over steps goes into their sub-expressions and leaves references to whoever expands
them. What it meets on its way, in document order and depth first, is a reference or something
that cannot be compiled whatever references expand to. The list of that is known before anything
is expanded, and the fault of the walk is the first fault in it.

* `Compile.Met`, `Compile.met` — what the walk meets;
* `Compile.met_append` — steps behind others are met after them;
* `Compile.fault?_steps` — the fault of the walk is the first one that is met;
* `Compile.from_of_met` — references that are met are those of steps within the steps.
-/

namespace GraphPath.Compile

/-- **What the walk may meet**: a fault of its own, or a reference. -/
inductive Met where
  | own (fault : Fault)
  | reference (operand : Value)

mutual

/-- **What the walk over steps meets**, in document order and depth first. -/
def met : List Step → List Met
  | [] => []
  | s :: rest => metStep s ++ met rest

/-- What is met in a step. -/
def metStep : Step → List Met
  | ⟨kind, values⟩ =>
    match kind.family with
    | .selecting => metOperands kind values
    | .combining =>
      match values with
      | [] => [.own (.usage .missingOperand)]
      | value :: _ => metSubexpression kind value
    | .following =>
      match values with
      | [] => [.own (.usage .missingOperand)]
      | value :: _ => [.reference value]

/-- What is met in the operands of a step that selects. -/
def metOperands (kind : StepKind) : List Value → List Met
  | [] => []
  | value :: values => metOperand kind value ++ metOperands kind values

/-- What is met in one operand of a step that selects. -/
def metOperand (kind : StepKind) : Value → List Met
  | .null => []
  | .vertex v => metVertex v
  | .query _ => [.own (.path (.nestedFinalizer kind.name))]
  | value => ((Outcome.fault? (selector value)).map Met.own).toList

/-- What is met in the operand of a step that combines. -/
def metSubexpression (kind : StepKind) : Value → List Met
  | .vertex v => metVertex v
  | .query _ => [.own (.path (.nestedFinalizer kind.name))]
  | _ => [.own (.usage .notARoute)]

/-- What is met in a sub-expression. -/
def metVertex : Vertex → List Met
  | ⟨_, rest⟩ => met rest

end

theorem met_eq_flatMap (l : List Step) : met l = l.flatMap metStep := by
  induction l with
  | nil => rfl
  | cons s rest ih => rw [met, ih, List.flatMap_cons]

/-- What is met is met in one of the steps. -/
theorem mem_met {l : List Step} {m : Met} : m ∈ met l ↔ ∃ s ∈ l, m ∈ metStep s := by
  rw [met_eq_flatMap, List.mem_flatMap]

/-- The fault of something that is met, given the expansion of references. -/
def Met.fault? (expand : Value → Except Fault (List Json)) : Met → Option Fault
  | .own fault => some fault
  | .reference operand => Outcome.fault? (expand operand)

section FirstFault

variable (expand : Value → Except Fault (List Json))

/-- The fault of an operand that has an encoding of its own or none. -/
theorem fault?_selector (value : Value) :
    Outcome.fault? (selector value)
      = ((Outcome.fault? (selector value)).map Met.own).toList.findSome? (Met.fault? expand) := by
  cases selector value <;> rfl

mutual

/-- **The fault of the walk** is the first one that it meets. -/
theorem fault?_steps (l : List Step) :
    Outcome.fault? (steps expand l) = (met l).findSome? (Met.fault? expand) := by
  match l with
  | [] => rfl
  | s :: rest =>
    rw [steps, met, List.findSome?_append, Outcome.fault?_bind_bind, fault?_step s,
      fault?_steps rest]

theorem fault?_step (s : Step) :
    Outcome.fault? (step expand s) = (metStep s).findSome? (Met.fault? expand) := by
  match s with
  | ⟨kind, values⟩ =>
    rw [step.eq_def, metStep.eq_def]
    dsimp only
    -- what a step makes of its operands depends on the family of its kind
    cases kind.family with
    | selecting => exact (Outcome.fault?_bind_ok _).trans (fault?_operands kind values)
    | combining =>
      match values with
      | [] => rfl
      | value :: _ => exact (Outcome.fault?_bind_ok _).trans (fault?_subexpression kind value)
    | following =>
      match values with
      | [] => rfl
      | value :: _ =>
        refine (Outcome.fault?_bind_ok _).trans ?_
        rw [List.findSome?_singleton, Met.fault?]

theorem fault?_operands (kind : StepKind) (values : List Value) :
    Outcome.fault? (operands expand kind values)
      = (metOperands kind values).findSome? (Met.fault? expand) := by
  match values with
  | [] => rfl
  | value :: values =>
    rw [operands, metOperands, List.findSome?_append, Outcome.fault?_bind_bind,
      fault?_operand kind value, fault?_operands kind values]

theorem fault?_operand (kind : StepKind) (value : Value) :
    Outcome.fault? (operand expand kind value)
      = (metOperand kind value).findSome? (Met.fault? expand) := by
  -- only a sub-expression is walked into, everything else is encoded or refused
  match value with
  | .vertex v =>
    rw [operand, metOperand]
    exact (Outcome.fault?_bind_ok _).trans (fault?_vertex v)
  | .null | .query _ => rfl
  | .bool _ | .int _ | .float _ | .text _ | .list _ | .tuple _ | .object _ | .selector _
  | .kind _ | .step _ | .morphismRef _ | .path _ | .morphism _ | .final _ =>
    simp only [operand, metOperand]
    exact fault?_selector expand _

theorem fault?_subexpression (kind : StepKind) (value : Value) :
    Outcome.fault? (subexpression expand kind value)
      = (metSubexpression kind value).findSome? (Met.fault? expand) := by
  match value with
  | .vertex v =>
    rw [subexpression, metSubexpression]
    exact fault?_vertex v
  | .null | .query _ | .bool _ | .int _ | .float _ | .text _ | .list _ | .tuple _ | .object _
  | .selector _ | .kind _ | .step _ | .morphismRef _ | .path _ | .morphism _ | .final _ => rfl

theorem fault?_vertex (v : Vertex) :
    Outcome.fault? (vertex expand v) = (metVertex v).findSome? (Met.fault? expand) := by
  match v with
  | ⟨start, rest⟩ =>
    rw [vertex, metVertex]
    -- the head of a sub-expression cannot fail
    exact (Outcome.fault?_bind_ok _).trans (fault?_steps rest)

end

end FirstFault

/-! ### Where it comes from -/

/-- **The faults that the walk has of its own**: a finalized operand, one that cannot be encoded,
or one that is missing. None of them is about a name. -/
inductive Own : Fault → Prop where
  | nestedFinalizer (owner : Text) : Own (.path (.nestedFinalizer owner))
  | malformed (owner : Text) (fault : StepFault) : Own (.malformed owner fault)
  | usage (error : UsageError) : Own (.usage error)

/-- The walk has no fault of its own that is about names. -/
theorem Own.ne_cycle {fault : Fault} (h : Own fault) (chain : List Text) :
    fault ≠ .path (.morphismCycle chain) := by
  cases h with
  | nestedFinalizer owner => exact nofun
  | usage error => exact nofun
  | malformed owner fault =>
    intro heq
    -- an error of the path language is not what a malformed operand is
    obtain ⟨hcycle, -⟩ := Fault.ofError_eq_path_iff.1 heq
    cases hcycle

/-- **Where something that is met comes from**: the walk itself, or a following step within the
steps, whose operand it is. -/
def Met.From (l : List Step) : Met → Prop
  | .own fault => Own fault
  | .reference operand =>
    ∃ s, Within l s ∧ s.kind.family = .following ∧ s.operands.head? = some operand

theorem Met.From.of_within {m : Met} {l l' : List Step} (h : m.From l)
    (hsub : ∀ s, Within l s → Within l' s) : m.From l' := by
  cases m with
  | own fault => exact h
  | reference operand =>
    obtain ⟨s, hwithin, hkind, hoperand⟩ := h
    exact ⟨s, hsub s hwithin, hkind, hoperand⟩

theorem own_of_selector {value : Value} {fault : Fault} (h : selector value = .error fault) :
    Own fault := by
  unfold selector at h
  split at h <;> cases h
  exact .malformed _ _

/-- What is met in an operand without steps is a fault of the walk. -/
theorem from_of_selector {value : Value} {m : Met} {l : List Step}
    (h : m ∈ ((Outcome.fault? (selector value)).map Met.own).toList) : m.From l := by
  obtain ⟨fault, hfault, rfl⟩ := Option.map_eq_some_iff.1 (Option.mem_toList.1 h)
  exact own_of_selector (Outcome.fault?_eq_some.1 hfault)

mutual

/-- **References that are met** are those of following steps within the steps. -/
theorem from_of_met {l : List Step} {m : Met} (h : m ∈ met l) : m.From l := by
  match l with
  | [] => cases h
  | s :: rest =>
    rw [met] at h
    rcases List.mem_append.1 h with hstep | hrest
    · exact (from_of_metStep hstep).of_within fun _ hs => hs.mono (by simp)
    · exact (from_of_met hrest).of_within fun _ hs => hs.mono (List.subset_cons_self _ _)

theorem from_of_metStep {s : Step} {m : Met} (h : m ∈ metStep s) : m.From [s] := by
  match s with
  | ⟨kind, values⟩ =>
    rw [metStep.eq_def] at h
    dsimp only at h
    -- what a step meets in its operands depends on the family of its kind
    cases hkind : kind.family with
    | selecting =>
      rw [hkind] at h
      exact from_of_metOperands (fun _ hvalue => hvalue) h
    | combining =>
      rw [hkind] at h
      match values with
      | [] =>
        cases List.mem_singleton.1 h
        exact .usage _
      | value :: values => exact from_of_metSubexpression List.mem_cons_self h
    | following =>
      rw [hkind] at h
      match values with
      | [] =>
        cases List.mem_singleton.1 h
        exact .usage _
      | value :: values =>
        cases List.mem_singleton.1 h
        exact ⟨_, .here List.mem_cons_self, hkind, rfl⟩

theorem from_of_metOperands {s : Step} {kind : StepKind} {values : List Value} {m : Met}
    (hvalues : ∀ value ∈ values, value ∈ s.operands) (h : m ∈ metOperands kind values) :
    m.From [s] := by
  match values with
  | [] => cases h
  | value :: values =>
    rw [metOperands] at h
    rcases List.mem_append.1 h with hfirst | hrest
    · exact from_of_metOperand (hvalues value List.mem_cons_self) hfirst
    · exact from_of_metOperands (fun other ho => hvalues other (List.mem_cons_of_mem _ ho)) hrest

theorem from_of_metOperand {s : Step} {kind : StepKind} {value : Value} {m : Met}
    (hvalue : value ∈ s.operands) (h : m ∈ metOperand kind value) : m.From [s] := by
  match value with
  | .null => cases h
  | .vertex v =>
    rw [metOperand] at h
    -- what is within the sub-expression is within the step that holds it
    exact (from_of_metVertex h).of_within fun _ ht => ht.of_vertex hvalue
  | .query q =>
    cases List.mem_singleton.1 h
    exact .nestedFinalizer _
  | .bool _ | .int _ | .float _ | .text _ | .list _ | .tuple _ | .object _ | .selector _
  | .kind _ | .step _ | .morphismRef _ | .path _ | .morphism _ | .final _ =>
    simp only [metOperand] at h
    exact from_of_selector h

theorem from_of_metSubexpression {s : Step} {kind : StepKind} {value : Value} {m : Met}
    (hvalue : value ∈ s.operands) (h : m ∈ metSubexpression kind value) : m.From [s] := by
  match value with
  | .vertex v =>
    rw [metSubexpression] at h
    exact (from_of_metVertex h).of_within fun _ ht => ht.of_vertex hvalue
  | .query q =>
    cases List.mem_singleton.1 h
    exact .nestedFinalizer _
  | .null | .bool _ | .int _ | .float _ | .text _ | .list _ | .tuple _ | .object _ | .selector _
  | .kind _ | .step _ | .morphismRef _ | .path _ | .morphism _ | .final _ =>
    cases List.mem_singleton.1 h
    exact .usage _

theorem from_of_metVertex {v : Vertex} {m : Met} (h : m ∈ metVertex v) : m.From v.steps := by
  match v with
  | ⟨start, rest⟩ =>
    rw [metVertex] at h
    exact from_of_met h

end

end GraphPath.Compile
