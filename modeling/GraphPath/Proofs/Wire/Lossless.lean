import GraphPath.Proofs.Wire.Validity

/-!
# Wire queries read back

A query that follows no names can be read back from what it compiles to. The wire does not say
which kind of selector an operand was, but the kind of the step and the form of the operand do:
a list of names is told apart from two operands, a sub-expression from both, and an operand left
out in front of tags is there as `null`. All that is lost is whether a vertex starts from one
node or from a list of that node alone.

* `Query.unified` — a query without that difference, at any depth;
* `MorphismFree` — steps that follow no names, at any depth;
* `Wire.steps?`, `WireQuery.query?` — reading wire steps and wire queries;
* `Wire.steps?_of_steps` — reading gives back the steps that compiled;
* `Compile.compile_lossless` — queries that compile to one wire query.
-/

namespace GraphPath

/-! ### One node, or a list of it alone -/

/-- A start, with a single node never in a list. -/
def NodeSelector.unified : NodeSelector → NodeSelector
  | .many ⟨[id], _⟩ => .one id
  | start => start

mutual

/-- **Steps with unified starts** in their sub-expressions, at any depth. -/
def Step.unifiedAll : List Step → List Step
  | [] => []
  | s :: rest => Step.unified s :: Step.unifiedAll rest

/-- A step with unified starts. -/
def Step.unified : Step → Step
  | ⟨kind, operands⟩ => ⟨kind, Value.unifiedAll operands⟩

/-- Operands with unified starts. -/
def Value.unifiedAll : List Value → List Value
  | [] => []
  | value :: values => Value.unified value :: Value.unifiedAll values

/-- An operand with unified starts, if it is a sub-expression. -/
def Value.unified : Value → Value
  | .vertex v => .vertex (Vertex.unified v)
  | value => value

/-- A vertex with unified starts, its own included. -/
def Vertex.unified : Vertex → Vertex
  | ⟨start, steps⟩ => ⟨start.unified, Step.unifiedAll steps⟩

end

/-- **A query with unified starts**, at any depth. -/
def Query.unified (q : Query) : Query := ⟨q.vertex.unified, q.final⟩

/-- **Steps that follow no names**, at any depth of their sub-expressions. -/
def MorphismFree (l : List Step) : Prop := ∀ s, Within l s → s.kind.family ≠ .following

/-! ### Steps without names and their unified form -/

section Unified

variable {kind : StepKind} {s : Step} {l : List Step} {v : Vertex}

theorem MorphismFree.rest (h : MorphismFree (s :: l)) : MorphismFree l :=
  fun t ht => h t (ht.mono (List.subset_cons_self s l))

theorem MorphismFree.inside (h : MorphismFree (s :: l)) (hoperand : .vertex v ∈ s.operands) :
    MorphismFree v.steps :=
  fun t ht => h t (ht.of_vertex hoperand)

/-- Unifying a start keeps its ids. -/
theorem NodeSelector.ids_unified (start : NodeSelector) : start.unified.ids = start.ids := by
  obtain _ | id | ⟨_ | ⟨id, _ | ⟨next, ids⟩⟩, h⟩ := start <;> rfl

theorem Vertex.unified_eq (v : Vertex) :
    v.unified = ⟨v.start.unified, Step.unifiedAll v.steps⟩ := by
  cases v
  rw [Vertex.unified]

theorem Value.unifiedAll_of_not_mem {values : List Value} (h : ∀ v, .vertex v ∉ values) :
    unifiedAll values = values := by
  induction values with
  | nil => rw [unifiedAll]
  | cons value values ih =>
    -- only a sub-expression is changed
    have hfirst : value.unified = value := by
      cases value with
      | vertex v => exact absurd List.mem_cons_self (h v)
      | _ => rw [Value.unified]; exact nofun
    have hrest : unifiedAll values = values := ih fun v hv => h v (List.mem_cons_of_mem _ hv)
    rw [unifiedAll, hfirst, hrest]

/-- A step without sub-expressions is unified. -/
theorem Step.unified_of_not_mem (h : ∀ v, .vertex v ∉ s.operands) : s.unified = s := by
  cases s
  rw [Step.unified, Value.unifiedAll_of_not_mem h]

theorem Step.unified_through (tags : Option TagSelector) :
    Step.unified ⟨kind, [.vertex v, .ofTags? tags]⟩
      = ⟨kind, [.vertex v.unified, .ofTags? tags]⟩ := by
  have htags : ∀ w, Value.vertex w ∉ [Value.ofTags? tags] :=
    fun w hw => (Compile.ofTags?_ne tags).1 w (List.mem_singleton.1 hw)
  rw [Step.unified, Value.unifiedAll, Value.unified, Value.unifiedAll_of_not_mem htags]

theorem Step.unified_combine :
    Step.unified ⟨kind, [.vertex v]⟩ = ⟨kind, [.vertex v.unified]⟩ := by
  rw [Step.unified, Value.unifiedAll, Value.unifiedAll, Value.unified]

end Unified

/-! ### Reading -/

namespace Wire

/-- The names that texts are. -/
def nameList? : List Json → Option (List Name)
  | [] => some []
  | .text t :: rest => do some ((← Name.ofText? t) :: (← nameList? rest))
  | _ => none

/-- One or more names from a list. -/
def names? (items : List Json) : Option Names := do
  match ← nameList? items with
  | [] => none
  | name :: names => some ⟨name :: names, List.cons_ne_nil name names⟩

/-- The start of ids. -/
def start? (ids : List Json) : Option NodeSelector := do
  match ← nameList? ids with
  | [] => some .any
  | [id] => some (.one id)
  | id :: next :: ids => some (.many ⟨id :: next :: ids, List.cons_ne_nil id (next :: ids)⟩)

/-- Nodes that are named. -/
def nodes? : Json → Option Value
  | .text t => do some (.selector (.nodes (.one (← Name.ofText? t))))
  | .array items => do some (.selector (.nodes (.many (← names? items))))
  | _ => none

/-- Tags. -/
def tags? : Json → Option Value
  | .text t => do some (.selector (.tags (.one (← Name.ofText? t))))
  | .array items => do some (.selector (.tags (.many (← names? items))))
  | _ => none

/-- A predicate. -/
def predicate? : Json → Option Value
  | .text t => do some (.selector (.predicate (← Name.ofText? t)))
  | _ => none

/-- One tag. -/
def tag? : Json → Option Value
  | .text t => do some (.selector (.tags (.one (← Name.ofText? t))))
  | _ => none

/-- The operands of a traversal along any of several predicates. A list of names is the
predicates alone; otherwise tags stand behind their list. -/
def setOperands? : Json → Option (List Value)
  | .array [.array items, tags] => do
    some [.selector (.predicates (← names? items)), ← tags? tags]
  | .array items => do some [.selector (.predicates (← names? items)), .null]
  | _ => none

/-- The operands of a step that takes no sub-expression. The kind says how they are read. -/
def operands? : StepKind → Json → Option (List Value)
  | .outPredicates, operand | .inPredicates, operand | .bothPredicates, operand =>
    setOperands? operand
  | .is, operand => do some [← nodes? operand]
  | .has, .array [predicate, nodes] => do some [← predicate? predicate, ← nodes? nodes]
  | .tag, operand => do some [← tags? operand]
  | .back, operand => do some [← tag? operand]
  | .save, .array [predicate, tag] => do some [← predicate? predicate, ← tag? tag]
  | _, _ => none

/-- The sub-expression of a head and of the steps behind it. -/
def vertex? (head : Json) (steps : Option (List Step)) : Option Value :=
  match head with
  | .object [(_, .array ids)] => do some (.vertex ⟨← start? ids, ← steps⟩)
  | _ => none

mutual

/-- **Reading wire steps.** -/
def steps? : List Json → Option (List Step)
  | [] => some []
  | w :: rest => do some ((← step? w) :: (← steps? rest))

/-- Reading a wire step. -/
def step? : Json → Option Step
  | .object [(key, operand)] => do
    let kind ← StepKind.ofName? key
    if kind.isTraversal then some ⟨kind, ← traversal? operand⟩
    else if kind.family = .combining then some ⟨kind, [← route? operand]⟩
    else some ⟨kind, ← operands? kind operand⟩
  | _ => none

/-- The operands of a traversal. An object at the front is the head of a sub-expression alone. -/
def traversal? : Json → Option (List Value)
  | .array [] => some [.null, .null]
  | .array (.object fields :: inner) => do some [← vertex? (.object fields) (steps? inner), .null]
  | .array [.null, tags] => do some [.null, ← tags? tags]
  | .array [.array route, tags] => do some [← route? (.array route), ← tags? tags]
  | .array [predicate, tags] => do some [← predicate? predicate, ← tags? tags]
  | predicate => do some [← predicate? predicate, .null]

/-- A sub-expression. -/
def route? : Json → Option Value
  | .array (head :: inner) => vertex? head (steps? inner)
  | _ => none

end

/-- Reading a finalizer. -/
def final? : Json → Option Final
  | .object [(key, .array [])] => if key = allOperation then some .all else none
  | .object [(key, .int n)] => if key = limitOperation then some (.getLimit (.int n)) else none
  | _ => none

end Wire

/-- **Reading a wire query.** The finalizer is the last wire step. -/
def WireQuery.query? (wire : WireQuery) : Option Query := do
  let start ← Wire.start? wire.start
  let steps ← Wire.steps? wire.steps.dropLast
  some ⟨⟨start, steps⟩, ← wire.steps.getLast?.bind Wire.final?⟩

/-! ### What reading gives back -/

theorem Name.ofText?_text (name : Name) : Name.ofText? name.text = some name := by
  obtain ⟨_ | ⟨c, rest⟩, h⟩ := name
  · exact absurd rfl h
  · rfl

namespace Wire

theorem nameList?_texts (names : List Name) :
    nameList? ((names.map (·.text)).map .text) = some names := by
  induction names with
  | nil => rfl
  | cons name names ih =>
    rw [List.map_cons, List.map_cons, nameList?, Name.ofText?_text, ih]
    rfl

theorem names?_texts (names : Names) : names? (names.texts.map .text) = some names := by
  obtain ⟨_ | ⟨name, rest⟩, h⟩ := names
  · exact absurd rfl h
  · rw [names?, Names.texts, nameList?_texts]
    rfl

/-- The ids of a start, read back. -/
theorem start?_ids (start : NodeSelector) : start? (start.ids.map .text) = some start.unified := by
  cases start with
  | any => rfl
  | one id =>
    have hids : nameList? [.text id.text] = some [id] := nameList?_texts [id]
    rw [start?, NodeSelector.ids, List.map_cons, List.map_nil, hids]
    rfl
  | many ids =>
    -- a list of one node is read as the node
    obtain ⟨_ | ⟨id, _ | ⟨next, rest⟩⟩, h⟩ := ids
    · exact absurd rfl h
    · rw [start?, NodeSelector.ids, Names.texts, nameList?_texts]
      rfl
    · rw [start?, NodeSelector.ids, Names.texts, nameList?_texts]
      rfl

theorem nodes?_encoded {nodes : NodeSelector} (h : nodes ≠ .any) :
    nodes? (Value.selector (.nodes nodes)).encoded = some (.selector (.nodes nodes)) := by
  cases nodes with
  | any => exact absurd rfl h
  | one id =>
    rw [Value.encoded, nodes?, Name.ofText?_text]
    rfl
  | many ids =>
    rw [Value.encoded, nodes?, names?_texts]
    rfl

theorem tags?_encoded (tags : TagSelector) :
    tags? (Value.selector (.tags tags)).encoded = some (.selector (.tags tags)) := by
  cases tags with
  | one tag =>
    rw [Value.encoded, tags?, Name.ofText?_text]
    rfl
  | many tags =>
    rw [Value.encoded, tags?, names?_texts]
    rfl

theorem tag?_text (tag : Name) :
    tag? (.text tag.text) = some (.selector (.tags (.one tag))) := by
  rw [tag?, Name.ofText?_text]
  rfl

theorem predicate?_text (predicate : Name) :
    predicate? (.text predicate.text) = some (.selector (.predicate predicate)) := by
  rw [predicate?, Name.ofText?_text]
  rfl

theorem vertex?_head (start : NodeSelector) (steps : List Step) :
    vertex? (Compile.head start) (some steps) = some (.vertex ⟨start.unified, steps⟩) := by
  rw [Compile.head, Json.wireStep, vertex?, start?_ids]
  rfl

/-! ### Wire steps read back -/

section Reading

variable {kind : StepKind} {operand : Json}

theorem step?_traversal {values : List Value} (hkind : kind.isTraversal)
    (h : traversal? operand = some values) :
    step? (.wireStep kind.name operand) = some ⟨kind, values⟩ := by
  rw [Json.wireStep, step?, StepKind.ofName?_name]
  simp [hkind, h]

theorem step?_combining {value : Value} (hkind : kind.family = .combining)
    (h : route? operand = some value) :
    step? (.wireStep kind.name operand) = some ⟨kind, [value]⟩ := by
  have htraversal : ¬ kind.isTraversal := StepKind.not_isTraversal_of_combining hkind
  rw [Json.wireStep, step?, StepKind.ofName?_name]
  simp [htraversal, hkind, h]

theorem step?_other {values : List Value} (htraversal : ¬ kind.isTraversal)
    (hfamily : kind.family = .selecting) (h : operands? kind operand = some values) :
    step? (.wireStep kind.name operand) = some ⟨kind, values⟩ := by
  rw [Json.wireStep, step?, StepKind.ofName?_name]
  simp [htraversal, hfamily, h]

end Reading

/-- The operands of a traversal along a predicate, or along any. -/
theorem traversal?_plain (predicate : Option Name) (tags : Option TagSelector) :
    traversal? (Compile.collapse (Compile.dropOmitted
      [(Value.ofPredicate? predicate).encoded, (Value.ofTags? tags).encoded]))
      = some [.ofPredicate? predicate, .ofTags? tags] := by
  -- what is left of the two operands, by which of them are there
  rcases predicate with _ | predicate <;> rcases tags with _ | tags
  · change traversal? (.array []) = some [.null, .null]
    rw [traversal?]
  · rw [Compile.dropOmitted_tags]
    change traversal? (.array [.null, (Value.selector (.tags tags)).encoded]) = _
    rw [traversal?, tags?_encoded]
    rfl
  · change traversal? (.text predicate.text) = _
    rw [traversal?, predicate?_text]
    · rfl
    all_goals exact nofun
  · rw [Compile.dropOmitted_tags]
    change traversal? (.array [.text predicate.text, (Value.selector (.tags tags)).encoded]) = _
    rw [traversal?, predicate?_text, tags?_encoded]
    · rfl
    all_goals exact nofun

/-- The operands of a traversal along the predicates that a sub-expression reaches. -/
theorem traversal?_through {start : NodeSelector} {inner : List Json} {steps : List Step}
    (tags : Option TagSelector) (h : steps? inner = some steps) :
    traversal? (Compile.collapse (Compile.dropOmitted
      [.array (Compile.head start :: inner), (Value.ofTags? tags).encoded]))
      = some [.vertex ⟨start.unified, steps⟩, .ofTags? tags] := by
  have hvertex := vertex?_head start steps
  rw [Compile.head, Json.wireStep] at hvertex ⊢
  rcases tags with _ | tags
  -- without tags the list of the sub-expression is the operand itself
  · rw [Compile.dropOmitted_array]
    change traversal? (.array (.object _ :: inner)) = _
    rw [traversal?, h, hvertex]
    rfl
  · rw [Compile.dropOmitted_tags]
    change traversal? (.array [.array (.object _ :: inner), (Value.selector (.tags tags)).encoded])
      = _
    rw [traversal?, route?, h, hvertex, tags?_encoded]
    rfl

/-- The operands of a traversal along any of several predicates. A list of names holds no list,
and a list with tags behind it starts with one. -/
theorem setOperands?_encoded (predicates : Names) (tags : Option TagSelector) :
    setOperands? (Compile.collapse (Compile.dropOmitted
      [.array (predicates.texts.map .text), (Value.ofTags? tags).encoded]))
      = some [.selector (.predicates predicates), .ofTags? tags] := by
  rcases tags with _ | tags
  · rw [Compile.dropOmitted_array]
    change setOperands? (.array (predicates.texts.map .text)) = _
    rw [setOperands?, names?_texts]
    · rfl
    · -- the list of predicates is no pair with a list in front
      intro items tags heq
      have hmem : Json.array items ∈ predicates.texts.map Json.text := heq ▸ List.mem_cons_self
      simp at hmem
  · rw [Compile.dropOmitted_tags]
    change setOperands? (.array [.array _, (Value.selector (.tags tags)).encoded]) = _
    rw [setOperands?, names?_texts, tags?_encoded]
    rfl

/-- **A plain step is read back.** -/
theorem step?_plainWire {s : Step} (h : s.Plain) : step? s.plainWire = some s := by
  -- by the shape of the step, which its kind tells
  cases h with
  | traverse hkind predicate tags => exact step?_traversal hkind (traversal?_plain predicate tags)
  | @traverseSet kind hkind predicates tags =>
    have htraversal : ¬ kind.isTraversal := fun h => by
      rw [(StepKind.ne_of_isTraversal h).2.2] at hkind
      cases hkind
    refine step?_other htraversal (StepKind.family_of_isSetTraversal hkind) ?_
    have hread := setOperands?_encoded predicates tags
    cases kind with
    | outPredicates | inPredicates | bothPredicates => exact hread
    | _ => cases hkind
  | isNodes hnodes =>
    refine step?_other nofun rfl ?_
    rw [List.map_cons, List.map_nil, Compile.dropOmitted_single (Value.encoded_nodes_ne hnodes)]
    change operands? .is _ = _
    rw [Compile.collapse, operands?, nodes?_encoded hnodes]
    rfl
  | has predicate hnodes =>
    refine step?_other nofun rfl ?_
    rw [List.map_cons, List.map_cons, List.map_nil,
      Compile.dropOmitted_two (Value.encoded_nodes_ne hnodes)]
    change operands? .has (.array [.text predicate.text, _]) = _
    rw [operands?, predicate?_text, nodes?_encoded hnodes]
    rfl
  | tag tags =>
    refine step?_other nofun rfl ?_
    rw [List.map_cons, List.map_nil, Compile.dropOmitted_single (Value.encoded_tags_ne tags)]
    change operands? .tag _ = _
    rw [Compile.collapse, operands?, tags?_encoded]
    rfl
  | back tag =>
    refine step?_other nofun rfl ?_
    change operands? .back (.text tag.text) = _
    rw [operands?, tag?_text]
    rfl
  | save predicate tag =>
    refine step?_other nofun rfl ?_
    change operands? .save (.array [.text predicate.text, .text tag.text]) = _
    rw [operands?, predicate?_text, tag?_text]
    rfl

/-- **Wire steps are read back**, as unified steps. -/
theorem steps?_of_steps {expand : Value → Except Fault (List Json)} {l : List Step}
    {wires : List Json} (hshaped : Shaped l) (hfree : MorphismFree l)
    (h : Compile.steps expand l = .ok wires) : steps? wires = some (Step.unifiedAll l) := by
  -- on the shape: each step compiles to its own wire step, read back by its kind
  induction hshaped generalizing wires with
  | nil =>
    rw [Compile.steps] at h
    cases h
    rw [steps?, Step.unifiedAll]
  | plain hplain _ ih =>
    obtain ⟨wire, others, hwire, hothers, rfl⟩ := Compile.steps_cons_ok.1 h
    rw [Compile.step_plain hplain] at hwire
    cases hwire
    rw [steps?, step?_plainWire hplain, ih hfree.rest hothers, Step.unifiedAll,
      Step.unified_of_not_mem (Compile.plain_operands hplain).2.1]
    rfl
  | @through kind v rest hkind tags _ _ ihSteps ih =>
    obtain ⟨wire, others, hwire, hothers, rfl⟩ := Compile.steps_cons_ok.1 h
    rw [Compile.step_through hkind] at hwire
    obtain ⟨inner, hinner, hwire⟩ := Outcome.bind_eq_ok.1 hwire
    cases hwire
    have hsteps := ihSteps (hfree.inside List.mem_cons_self) hinner
    have hstep : step? (Step.throughWire kind v.start inner tags)
        = some ⟨kind, [.vertex v.unified, .ofTags? tags]⟩ := by
      rw [Vertex.unified_eq]
      exact step?_traversal hkind (traversal?_through tags hsteps)
    rw [steps?, hstep, ih hfree.rest hothers, Step.unifiedAll, Step.unified_through]
    rfl
  | throughQuery hkind q tags =>
    obtain ⟨wire, others, hwire, -, -⟩ := Compile.steps_cons_ok.1 h
    rw [Compile.step_throughQuery hkind] at hwire
    cases hwire
  | @combine kind v rest hkind _ _ ihSteps ih =>
    obtain ⟨wire, others, hwire, hothers, rfl⟩ := Compile.steps_cons_ok.1 h
    rw [Compile.step_combine hkind] at hwire
    obtain ⟨inner, hinner, hwire⟩ := Outcome.bind_eq_ok.1 hwire
    cases hwire
    have hroute : route? (.array (Compile.head v.start :: inner)) = some (.vertex v.unified) := by
      rw [route?, ihSteps (hfree.inside List.mem_cons_self) hinner, vertex?_head,
        Vertex.unified_eq]
    rw [steps?, step?_combining hkind hroute, ih hfree.rest hothers, Step.unifiedAll,
      Step.unified_combine]
    rfl
  | combineQuery hkind q =>
    obtain ⟨wire, others, hwire, -, -⟩ := Compile.steps_cons_ok.1 h
    rw [Compile.step_combineQuery hkind] at hwire
    cases hwire
  | follow hkind name expected => exact absurd hkind (hfree _ (.here List.mem_cons_self))

theorem final?_of_final {final : Final} {last : Json} (h : Compile.final final = .ok last) :
    final? last = some final := by
  obtain ⟨rfl, rfl⟩ | ⟨n, -, rfl, rfl⟩ := Compile.final_ok h
  · rfl
  · rfl

end Wire

namespace Compile

variable {registry registry' : Registry} {q q' : Query} {wire wire' : WireQuery}

/-- **A compiled query is read back**, as a unified query. -/
theorem query?_of_compile (hquery : (Value.query q).Built) (hfree : MorphismFree q.vertex.steps)
    (h : registry.compile (.query q) = .ok wire) : wire.query? = some q.unified := by
  obtain ⟨wires, last, hwires, hlast, rfl⟩ := compile_eq_ok h
  -- the start, the steps and the finalizer travel apart and are read one by one
  have hstart := Wire.start?_ids q.vertex.start
  have hsteps : Wire.steps? wires = some (Step.unifiedAll q.vertex.steps) := by
    rw [expand, expandAt_eq] at hwires
    exact Wire.steps?_of_steps hquery.shaped hfree hwires
  have hfinal := Wire.final?_of_final hlast
  simp [WireQuery.query?, hstart, hsteps, hfinal, Query.unified, Vertex.unified_eq]

theorem head_unified (start : NodeSelector) : head start.unified = head start := by
  rw [head, head, NodeSelector.ids_unified]

/-- **Steps without names compile as their unified form does**, whatever names stand for. -/
theorem steps_unifiedAll {expand expand' : Value → Except Fault (List Json)} {l : List Step}
    (hshaped : Shaped l) (hfree : MorphismFree l) :
    steps expand (Step.unifiedAll l) = steps expand' l := by
  -- on the shape: a start counts by its ids only, and these are not changed
  induction hshaped with
  | nil => rw [Step.unifiedAll, steps, steps]
  | plain hplain _ ih =>
    have hfirst := Step.unified_of_not_mem (plain_operands hplain).2.1
    rw [Step.unifiedAll, hfirst, steps_cons, steps_cons, step_plain hplain, step_plain hplain,
      ih hfree.rest]
  | through hkind tags _ _ ihSteps ih =>
    rw [Step.unifiedAll, Step.unified_through, steps_cons, steps_cons, step_through hkind,
      step_through hkind, Vertex.unified_eq, ihSteps (hfree.inside List.mem_cons_self),
      ih hfree.rest]
    simp only [Step.throughWire, head_unified]
  | @throughQuery kind rest hkind q tags _ ih =>
    have hfirst : Step.unified ⟨kind, [.query q, .ofTags? tags]⟩
        = ⟨kind, [.query q, .ofTags? tags]⟩ := by
      refine Step.unified_of_not_mem fun v hv => ?_
      rcases List.mem_pair.1 hv with hv | hv
      · cases hv
      · exact (ofTags?_ne tags).1 v hv
    rw [Step.unifiedAll, hfirst, steps_cons, steps_cons, ih hfree.rest, step_throughQuery hkind,
      step_throughQuery hkind]
  | combine hkind _ _ ihSteps ih =>
    rw [Step.unifiedAll, Step.unified_combine, steps_cons, steps_cons, step_combine hkind,
      step_combine hkind, Vertex.unified_eq, ihSteps (hfree.inside List.mem_cons_self),
      ih hfree.rest, head_unified]
  | @combineQuery kind rest hkind q _ ih =>
    have hfirst : Step.unified ⟨kind, [.query q]⟩ = ⟨kind, [.query q]⟩ :=
      Step.unified_of_not_mem fun v hv => nomatch List.mem_singleton.1 hv
    rw [Step.unifiedAll, hfirst, steps_cons, steps_cons, ih hfree.rest, step_combineQuery hkind,
      step_combineQuery hkind]
  | follow hkind name expected => exact absurd hkind (hfree _ (.here List.mem_cons_self))

/-- Steps without names and of one unified form expand to the same, under any registries. -/
theorem expand_congr {l l' : List Step} (hshaped : Shaped l) (hshaped' : Shaped l')
    (hfree : MorphismFree l) (hfree' : MorphismFree l')
    (h : Step.unifiedAll l = Step.unifiedAll l') : expand registry l = expand registry' l' := by
  rw [expand, expand, expandAt_eq, expandAt_eq]
  -- no name is looked up, so both may be expanded with nothing behind a name
  calc steps (expandReference registry [] (bodyAt registry registry.size)) l
    _ = steps (fun _ => .ok []) (Step.unifiedAll l) := (steps_unifiedAll hshaped hfree).symm
    _ = steps (fun _ => .ok []) (Step.unifiedAll l') := by rw [h]
    _ = steps (expandReference registry' [] (bodyAt registry' registry'.size)) l' :=
      steps_unifiedAll hshaped' hfree'

/-- **Compiling loses nothing but lists of one node to start from.** Built queries that follow
no names compile to one wire query exactly if their unified forms are the same, whatever has
been declared. -/
theorem compile_lossless (hquery : (Value.query q).Built) (hquery' : (Value.query q').Built)
    (hfree : MorphismFree q.vertex.steps) (hfree' : MorphismFree q'.vertex.steps)
    (h : registry.compile (.query q) = .ok wire) (h' : registry'.compile (.query q') = .ok wire') :
    wire = wire' ↔ q.unified = q'.unified := by
  constructor
  · -- one wire query is read back as both unified forms
    rintro rfl
    have hread : wire.query? = some q.unified := query?_of_compile hquery hfree h
    have hread' : wire.query? = some q'.unified := query?_of_compile hquery' hfree' h'
    exact Option.some.inj (hread.symm.trans hread')
  · intro hunified
    -- one unified form has one start, one list of steps and one finalizer
    obtain ⟨wires, last, hwires, hlast, rfl⟩ := compile_eq_ok h
    obtain ⟨wires', last', hwires', hlast', rfl⟩ := compile_eq_ok h'
    obtain ⟨hvertex, hfinal⟩ := Query.mk.inj hunified
    rw [Vertex.unified_eq, Vertex.unified_eq] at hvertex
    obtain ⟨hstart, hsteps⟩ := Vertex.mk.inj hvertex
    have hwire : wires = wires' := by
      rw [expand_congr hquery.shaped hquery'.shaped hfree hfree' hsteps, hwires'] at hwires
      exact (Except.ok.inj hwires).symm
    have hids : q.vertex.start.ids = q'.vertex.start.ids := by
      rw [← NodeSelector.ids_unified q.vertex.start, hstart, NodeSelector.ids_unified]
    have hend : last = last' := by
      rw [hfinal] at hlast
      exact Except.ok.inj (hlast.symm.trans hlast')
    rw [hwire, hids, hend]

end Compile

/-! ### A node and the list of it -/

namespace Sample

/-- A query for what starts somewhere and is also reached from there in no steps. -/
def intersected (start : NodeSelector) : Query :=
  ⟨⟨start, [⟨.intersect, [.vertex ⟨start, []⟩]⟩]⟩, .all⟩

/-- A list of one node. -/
def listed : NodeSelector := .many ⟨[likes], List.cons_ne_nil likes []⟩

theorem intersected_built (start : NodeSelector) : (Value.query (intersected start)).Built := by
  have hstart : (Value.vertex ⟨start, []⟩).Built :=
    .vertex (.selector (.nodes start)) noSteps_built
      (rfl : Vertex.ofValues (.selector (.nodes start)) (.tuple []) = .ok ⟨start, []⟩)
  have hintersect : (Value.vertex ⟨start, []⟩).method? "intersect"
      = some (.step (.combine .intersect)) := rfl
  have hcombined : (Value.vertex (intersected start).vertex).Built :=
    .call hintersect hstart hstart .null rfl
  exact .query hcombined (.final .all) rfl

theorem intersected_morphismFree (start : NodeSelector) :
    MorphismFree (intersected start).vertex.steps := by
  intro s hs
  rcases hs.cons_cases with rfl | ⟨v, hv, hwithin⟩ | hwithin
  · exact nofun
  · cases List.mem_singleton.1 hv
    exact absurd hwithin not_within_nil
  · exact absurd hwithin not_within_nil

end Sample

namespace Compile

/-- A node and the list of it, outside and in a sub-expression, compile to one wire query, and
so the queries have one unified form. -/
theorem compile_lossless_sample : ∃ wire : WireQuery,
    Registry.empty.compile (.query (Sample.intersected (.one Sample.likes))) = .ok wire ∧
      Sample.registry.compile (.query (Sample.intersected Sample.listed)) = .ok wire ∧
      (Sample.intersected (.one Sample.likes)).unified
        = (Sample.intersected Sample.listed).unified := by
  refine ⟨_, rfl, rfl, ?_⟩
  have hsame := compile_lossless (Sample.intersected_built (.one Sample.likes))
    (Sample.intersected_built Sample.listed) (Sample.intersected_morphismFree (.one Sample.likes))
    (Sample.intersected_morphismFree Sample.listed)
    (rfl : Registry.empty.compile _ = .ok _) (rfl : Sample.registry.compile _ = .ok _)
  exact hsame.1 rfl

end Compile

end GraphPath
