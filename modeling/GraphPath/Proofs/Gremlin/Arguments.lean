import GraphPath.Proofs.Gremlin.Literals
import GraphPath.Proofs.Wire.Walk

/-!
# Arguments from collapsed operands

The compiler drops operands that were left out and lets a single one stand without a list
around it; the renderer has to guess from the operation and the shape of what it finds
which arguments there were. For the operands of shaped steps it guesses right.

* `Gremlin.Writes` — an operand and the text of the argument that it is;
* `Gremlin.arguments_pair` — when the arguments of a collapsed operand are the two operands
  before the collapse;
* `Gremlin.step_plainWire`, `Gremlin.step_throughWire`, `Gremlin.step_combineWire`,
  `Gremlin.step_followWire` — the calls of compiled steps.
-/

namespace GraphPath.Gremlin

/-! ### Names -/

theorem start_texts (ids : List Text) : start (ids.map .text) = .ok (Program.start ids) := by
  rw [start, literals_texts]
  rfl

@[simp] theorem isNames_texts (ts : List Text) : isNames (ts.map .text) = true := by
  simp [isNames, Json.text?]

/-- A list of names is one argument: the names in brackets. -/
theorem list_texts {ts : List Text} (h : ts ≠ []) :
    list (ts.map .text) = .ok ("[" ++ Program.names ts ++ "]") := by
  cases ts with
  | nil => exact absurd rfl h
  | cons t ts =>
    have hnames := isNames_texts (t :: ts)
    have hliterals := literals_texts (t :: ts)
    simp only [List.map_cons] at hnames hliterals
    simp only [List.map_cons, list, hliterals]
    rw [if_pos hnames]
    rfl

theorem texts_ne_nil (ns : Names) : ns.texts ≠ [] := by
  simpa [Names.texts] using ns.nonempty

/-- A sub-expression is one argument: its start and its calls. -/
theorem list_head (nodes : NodeSelector) (wires : List Json) :
    list (Compile.head nodes :: wires)
      = (do .ok (Program.start nodes.ids ++ (← steps wires))) := by
  have hids : startIds (.array (nodes.ids.map .text)) = .ok (nodes.ids.map .text) := rfl
  simp only [Compile.head, Json.wireStep, list, Fields.get?, ↓reduceIte, hids]
  simp only [bind, Except.bind, start_texts]

/-! ### Operands before the collapse -/

/-- An operand that was left out, or one with the text of the argument that it is. -/
inductive Writes : Json → Option Text → Prop where
  | omitted : Writes .null none
  | written {json : Json} {text : Text} (hjson : json ≠ .null)
    (htext : argument json = .ok text) : Writes json (some text)

/-- An operand is the only argument of its operation if it is taken for one by itself, and
two operands are two arguments if their list is not taken for one. -/
structure Separate (operation : Text) (first second : Json) : Prop where
  alone : arguments operation first = argument first
  notUnary : isUnary operation = false
  notRoute : isRoute [first, second] = false
  notPredicates : (takesPredicates operation && isNames [first, second]) = false

/-- **The arguments of a collapsed pair** are its operands, those left out at the end
dropped. -/
theorem arguments_pair {operation : Text} {first second : Json} {text text' : Option Text}
    (hseparate : Separate operation first second) (hfirst : Writes first text)
    (hsecond : Writes second text') :
    arguments operation (Compile.collapse (Compile.dropOmitted [first, second]))
      = .ok (Text.join "," (Program.withoutOmitted [text, text'])) := by
  obtain ⟨halone, hunary, hroute, hpredicates⟩ := hseparate
  have hspreads : spreads operation = false := by
    simp only [isUnary, Bool.or_eq_false_iff] at hunary
    exact hunary.1.1.1
  cases hsecond with
  | omitted =>
    -- what is left, if anything, stands without a list around it
    cases hfirst with
    | omitted => rfl
    | written hjson htext =>
      rw [Compile.dropOmitted_one hjson, Compile.collapse, halone, htext]
      rfl
  | written hjson' htext' =>
    -- both operands stay in their list, which none of the guesses takes for one argument
    have heach : arguments operation (.array [first, second])
        = (do .ok (Text.join "," (← each [first, second]))) := by
      simp [arguments, hspreads, hunary, hroute, hpredicates]
    rw [Compile.dropOmitted_two hjson', Compile.collapse, heach]
    · cases hfirst with
      | omitted =>
        simp only [each, htext']
        rfl
      | written hjson htext =>
        simp only [each, htext, htext']
        rfl
    · exact fun _ h => by cases h

/-! ### Operations of kinds -/

theorem call_name (kind : StepKind) : call kind.name = Program.callName kind := by
  cases kind <;> rfl

theorem takesMorphism_name (kind : StepKind) :
    takesMorphism kind.name = (kind.family == .following) := by
  cases kind <;> rfl

theorem isUnary_of_isTraversal {kind : StepKind} (h : kind.isTraversal) :
    isUnary kind.name = false ∧ spreads kind.name = false ∧ takesPredicates kind.name = false := by
  cases kind <;> first | exact ⟨rfl, rfl, rfl⟩ | cases h

theorem isUnary_of_isSetTraversal {kind : StepKind} (h : kind.isSetTraversal) :
    isUnary kind.name = false ∧ spreads kind.name = false ∧ takesPredicates kind.name = true := by
  cases kind <;> first | exact ⟨rfl, rfl, rfl⟩ | cases h

theorem spreads_of_family {kind : StepKind} (h : kind.family = .combining) :
    spreads kind.name = false := by
  cases kind <;> first | rfl | cases h

theorem several_of_spreads {kind : StepKind} (h : spreads kind.name = false) (ts : List Text) :
    Program.several kind ts = "[" ++ Program.names ts ++ "]" := by
  cases kind <;> first | rfl | cases h

/-- The call of a step that does not follow, given its arguments. -/
theorem step_of_arguments {kind : StepKind} {operand : Json} {inside : Text}
    (hkind : kind.family ≠ .following) (h : arguments kind.name operand = .ok inside) :
    step (.wireStep kind.name operand)
      = .ok ("." ++ Program.callName kind ++ "(" ++ inside ++ ")") := by
  -- only following steps take a morphism
  have hmorphism : takesMorphism kind.name = false := by
    rw [takesMorphism_name]
    exact beq_false_of_ne hkind
  simp only [Json.wireStep, step, hmorphism, h, call_name]
  rfl

/-! ### Operands of kinds -/

variable {expand : Text → Text}

theorem argument_texts {ts : List Text} (h : ts ≠ []) :
    argument (.array (ts.map .text)) = .ok ("[" ++ Program.names ts ++ "]") := by
  rw [argument, list_texts h]

theorem writes_ofPredicate? (kind : StepKind) (predicate : Option Name) :
    Writes (Value.ofPredicate? predicate).encoded
      (Program.operand expand kind (.ofPredicate? predicate)) := by
  cases predicate with
  | none => exact .omitted
  | some predicate => exact .written nofun rfl

theorem writes_nodes {kind : StepKind} (hkind : spreads kind.name = false)
    {nodes : NodeSelector} (hnodes : nodes ≠ .any) :
    Writes (Value.selector (.nodes nodes)).encoded
      (Program.operand expand kind (.selector (.nodes nodes))) := by
  cases nodes with
  | any => exact absurd rfl hnodes
  | one id => exact .written nofun rfl
  | many ids =>
    refine .written nofun ?_
    rw [several_of_spreads hkind]
    exact argument_texts (texts_ne_nil ids)

theorem writes_predicates {kind : StepKind} (hkind : spreads kind.name = false)
    (predicates : Names) :
    Writes (Value.selector (.predicates predicates)).encoded
      (Program.operand expand kind (.selector (.predicates predicates))) := by
  refine .written nofun ?_
  rw [several_of_spreads hkind]
  exact argument_texts (texts_ne_nil predicates)

theorem writes_ofTags? {kind : StepKind} (hkind : spreads kind.name = false)
    (tags : Option TagSelector) :
    Writes (Value.ofTags? tags).encoded (Program.operand expand kind (.ofTags? tags)) := by
  rcases tags with _ | tag | tags
  · exact .omitted
  · exact .written nofun rfl
  · refine .written nofun ?_
    rw [several_of_spreads hkind]
    exact argument_texts (texts_ne_nil tags)

/-! ### Calls of compiled steps -/

/-- The call of a step with two operands that their collapse does not confuse. -/
theorem step_of_pair {kind : StepKind} {first second : Value} {json json' : Json}
    (hkind : kind.family ≠ .following) (hseparate : Separate kind.name json json')
    (hfirst : Writes json (Program.operand expand kind first))
    (hsecond : Writes json' (Program.operand expand kind second)) :
    step (.wireStep kind.name (Compile.collapse (Compile.dropOmitted [json, json'])))
      = .ok (Program.step expand ⟨kind, [first, second]⟩) :=
  step_of_arguments hkind (arguments_pair hseparate hfirst hsecond)

/-- The call of a step with one operand. -/
theorem step_of_single {kind : StepKind} {value : Value} {json : Json} {text : Text}
    (hkind : kind.family ≠ .following) (hvalue : Program.operand expand kind value = some text)
    (h : arguments kind.name json = .ok text) :
    step (.wireStep kind.name json) = .ok (Program.step expand ⟨kind, [value]⟩) := by
  rw [step_of_arguments hkind h]
  simp only [Program.step, Program.operands, hvalue]
  rfl

/-- Names that an operation spreads are arguments of their own. -/
theorem arguments_spread {operation : Text} (h : spreads operation) {ts : List Text}
    (hts : ts ≠ []) : arguments operation (.array (ts.map .text)) = .ok (Program.names ts) := by
  have hempty : (ts.map Json.text).isEmpty = false := by
    simpa using hts
  simp [arguments, hempty, h, literals_texts]

/-- **The call of a plain step.** -/
theorem step_plainWire {s : Step} (h : s.Plain) :
    step s.plainWire = .ok (Program.step expand s) := by
  have hselecting : StepFamily.selecting ≠ .following := by decide
  -- by the shape: which operands the step has, and which guess is made for it
  cases h with
  | @traverse kind hkind predicate tags =>
    obtain ⟨hunary, hspreads, hpredicates⟩ := isUnary_of_isTraversal hkind
    refine step_of_pair ?_ ⟨?_, hunary, ?_, ?_⟩ (writes_ofPredicate? _ _)
      (writes_ofTags? hspreads _)
    · rw [StepKind.family_of_isTraversal hkind]
      exact hselecting
    · cases predicate <;> rfl
    · cases predicate <;> rfl
    · rw [hpredicates]
      rfl
  | @traverseSet kind hkind predicates tags =>
    obtain ⟨hunary, hspreads, hpredicates⟩ := isUnary_of_isSetTraversal hkind
    refine step_of_pair ?_ ⟨?_, hunary, rfl, ?_⟩ (writes_predicates hspreads _)
      (writes_ofTags? hspreads _)
    · rw [StepKind.family_of_isSetTraversal hkind]
      exact hselecting
    · -- the names of these operations are one argument, however many they are
      have hempty : predicates.texts ≠ [] := texts_ne_nil predicates
      simp [Value.encoded, arguments, argument, hempty, hunary, hspreads, hpredicates]
    · rw [hpredicates]
      rfl
  | @isNodes nodes hnodes =>
    cases nodes with
    | any => exact absurd rfl hnodes
    | one id => exact step_of_single hselecting rfl rfl
    | many ids =>
      exact step_of_single hselecting rfl (arguments_spread rfl (texts_ne_nil ids))
  | has predicate hnodes =>
    exact step_of_pair hselecting ⟨rfl, rfl, rfl, rfl⟩ (.written (fun h => by cases h) rfl)
      (writes_nodes rfl hnodes)
  | tag tags =>
    cases tags with
    | one tag => exact step_of_single hselecting rfl rfl
    | many tags =>
      exact step_of_single hselecting rfl (arguments_spread rfl (texts_ne_nil tags))
  | back tag => exact step_of_single hselecting rfl rfl
  | save predicate tag =>
    exact step_of_pair hselecting ⟨rfl, rfl, rfl, rfl⟩ (.written (fun h => by cases h) rfl)
      (.written (fun h => by cases h) rfl)

/-- The argument that a sub-expression is. -/
theorem argument_head {v : Vertex} {inner : List Json}
    (hinner : steps inner = .ok (Program.steps expand v.steps)) :
    argument (.array (Compile.head v.start :: inner)) = .ok (Program.vertex expand v) := by
  obtain ⟨nodes, l⟩ := v
  rw [argument, list_head, hinner]
  rfl

/-- An operation that does not spread takes a sub-expression as its only argument. -/
theorem arguments_head {operation : Text} (h : spreads operation = false)
    (nodes : NodeSelector) (inner : List Json) :
    arguments operation (.array (Compile.head nodes :: inner))
      = argument (.array (Compile.head nodes :: inner)) := by
  have hroute : isRoute (Compile.head nodes :: inner) = true := rfl
  simp [arguments, argument, h, hroute]

/-- **The call of a traversal** along the predicates that a sub-expression reaches. -/
theorem step_throughWire {kind : StepKind} {v : Vertex} {inner : List Json}
    (hkind : kind.isTraversal) (tags : Option TagSelector)
    (hinner : steps inner = .ok (Program.steps expand v.steps)) :
    step (Step.throughWire kind v.start inner tags)
      = .ok (Program.step expand ⟨kind, [.vertex v, .ofTags? tags]⟩) := by
  obtain ⟨hunary, hspreads, hpredicates⟩ := isUnary_of_isTraversal hkind
  -- the sub-expression is one argument, since its list begins with a head
  refine step_of_pair ?_ ⟨arguments_head hspreads _ _, hunary, rfl, ?_⟩
    (.written nofun (argument_head hinner)) (writes_ofTags? hspreads _)
  · rw [StepKind.family_of_isTraversal hkind]
    exact nofun
  · rw [hpredicates]
    rfl

/-- **The call of a combination.** -/
theorem step_combineWire {kind : StepKind} {v : Vertex} {inner : List Json}
    (hkind : kind.family = .combining)
    (hinner : steps inner = .ok (Program.steps expand v.steps)) :
    step (.wireStep kind.name (.array (Compile.head v.start :: inner)))
      = .ok (Program.step expand ⟨kind, [.vertex v]⟩) := by
  refine step_of_single ?_ rfl ?_
  · rw [hkind]
    exact nofun
  · rw [arguments_head (spreads_of_family hkind), argument_head hinner]

/-- **The call of a following step.** -/
theorem step_followWire {kind : StepKind} {name : Name} {expected : Option (List Step)}
    {inner : List Json} (hkind : kind.family = .following)
    (hinner : steps inner = .ok (expand name.text)) :
    step (.wireStep kind.name (.array inner))
      = .ok (Program.step expand ⟨kind, [.morphismRef (.to name expected)]⟩) := by
  have hmorphism : takesMorphism kind.name = true := by
    rw [takesMorphism_name, hkind]
    rfl
  simp only [Json.wireStep, step, hmorphism, ↓reduceIte, morphism, hinner, call_name]
  rfl

end GraphPath.Gremlin
