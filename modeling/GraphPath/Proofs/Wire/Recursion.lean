import GraphPath.Proofs.Wire.Extension
import GraphPath.Proofs.Wire.Reached

/-!
# Expansion without a bound

The compiler expands a followed name where it stands, so its recursion leaves the steps that it
was given and goes on in the registry. Nothing in it counts how deep it is. It ends nevertheless,
for registries with cycles, too: a name under expansion is never expanded again, so each
expansion inside another one leaves a name less to expand.

* `Compile.followed` — what a reference leads to: a declared name and its steps, or a fault;
* `Compile.Calls` — one expansion inside another, `Compile.wellFounded_calls` — they are never
  nested without end, `Compile.expansion_of_calls` — their names are distinct and declared;
* `Compile.Recursion` — the recursion as it stands, `Compile.expandUnbounded` — its solution;
* `Compile.expandUpTo` — renderers that give up, `Compile.expandUpTo_eq` — those that may nest
  as many expansions as there are names never do;
* `Registry.compile_terminates` — all of them compile every expression alike.
-/

namespace GraphPath

/-! ### What a reference leads to -/

namespace Compile

variable {registry : Registry} {chain : List Text}

/-- **What a reference leads to** while the names of a chain are under expansion: a declared
name that is none of them, with its steps, or the fault of the reference. -/
def followed (registry : Registry) (chain : List Text) (operand : Value) :
    Except Fault (Text × List Step) := do
  match ← referencedName operand with
  | .text name =>
    if chain.contains name then .error (.path (.morphismCycle (chain ++ [name])))
    else
      match registry.resolve? name with
      | none => .error (.path (.unknownMorphism (.text name)))
      | some declared => do
        checkExpected operand name declared
        .ok (name, declared)
  | name =>
    match name.unhashable? with
    | some kind => .error (.usage (.unhashable kind))
    | none => .error (.ofError (.unknownMorphism name))

/-- The checks of a reference with a name come in this order: the chain, the declaration, the
expected steps. -/
theorem followed_of_name {operand : Value} {name : Text}
    (h : referencedName operand = .ok (.text name)) :
    followed registry chain operand =
      if name ∈ chain then .error (.path (.morphismCycle (chain ++ [name])))
      else match registry.resolve? name with
        | none => .error (.path (.unknownMorphism (.text name)))
        | some declared => (do
          checkExpected operand name declared
          .ok (name, declared)) := by
  unfold followed
  rw [h]
  change (if chain.contains name then _ else _) = _
  simp only [List.contains_iff_mem]

/-- **Expanding a reference** is finding what it leads to, and then the steps found there behind
the longer chain. -/
theorem expandReference_eq (chain : List Text)
    (body : List Text → List Step → Except Fault (List Json)) (operand : Value) :
    expandReference registry chain body operand = (do
      let (name, declared) ← followed registry chain operand
      body (chain ++ [name]) declared) := by
  cases hname : referencedName operand with
  | error fault =>
    unfold expandReference followed
    rw [hname]
    rfl
  | ok value =>
    cases value with
    | text name =>
      rw [expandReference_of_name hname, followed_of_name hname]
      -- the chain is looked at first, then the declaration, then the expected steps
      by_cases hchain : name ∈ chain
      · rw [if_pos hchain, if_pos hchain]
        rfl
      · rw [if_neg hchain, if_neg hchain]
        cases registry.resolve? name with
        | none => rfl
        | some declared =>
          dsimp only
          cases checkExpected operand name declared <;> rfl
    -- what is no text is no name, and no steps are looked up for it
    | _ =>
      unfold expandReference followed
      rw [hname]
      simp only [bind, Except.bind]
      split <;> simp only [*]

/-- The declared steps are those that a reference expects, if it expects any. -/
theorem checkExpected_ok {operand : Value} {name : Text} {declared : List Step} {u : Unit}
    (hname : referencedName operand = .ok (.text name))
    (h : checkExpected operand name declared = .ok u) :
    ∃ expected, operand = .morphismRef ⟨.text name, expected⟩ ∧
      ∀ values, expected = some values → Value.sameItems values (declared.map .step) := by
  unfold checkExpected at h
  -- a name alone expects nothing, and a reference may expect steps
  split at h
  · cases hname
    exact ⟨none, rfl, nofun⟩
  · rename_i other values
    split at h
    · rename_i hsame
      cases hname
      refine ⟨some values, rfl, fun values' hvalues => ?_⟩
      rw [← Option.some.inj hvalues]
      exact hsame
    · cases h
  · cases h

/-- **A reference that leads somewhere**: it names a declared morphism outside the chain, with
the steps that are expected there. -/
theorem followed_ok {operand : Value} {name : Text} {declared : List Step}
    (h : followed registry chain operand = .ok (name, declared)) :
    name ∉ chain ∧ registry.resolve? name = some declared ∧
      ∃ expected, operand = .morphismRef ⟨.text name, expected⟩ ∧
        ∀ values, expected = some values → Value.sameItems values (declared.map .step) := by
  obtain ⟨value, hname, hrest⟩ := Outcome.bind_eq_ok.1 h
  cases value with
  | text other =>
    rw [followed_of_name hname] at h
    split at h
    · cases h
    · rename_i hfresh
      split at h
      · cases h
      · rename_i hdeclared
        obtain ⟨_, hcheck, h⟩ := Outcome.bind_eq_ok.1 h
        cases h
        exact ⟨hfresh, hdeclared, checkExpected_ok hname hcheck⟩
  -- what is no text leads nowhere
  | _ =>
    dsimp only at hrest
    split at hrest <;> cases hrest

/-! ### Expansions inside one another -/

/-- **One expansion inside another.** While steps are compiled with the names of a chain under
expansion, a step within them leads to declared steps, which are compiled with one more name
under expansion. -/
def Calls (registry : Registry) (outer inner : List Text × List Step) : Prop :=
  ∃ s operand name, Within outer.2 s ∧ s.kind.family = .following ∧
    s.operands.head? = some operand ∧
    followed registry outer.1 operand = .ok (name, inner.2) ∧ inner.1 = outer.1 ++ [name]

/-- A reference that is met and leads somewhere is expanded. -/
theorem calls_of_met {l declared : List Step} {operand : Value} {name : Text}
    (hmet : .reference operand ∈ met l)
    (hfollowed : followed registry chain operand = .ok (name, declared)) :
    Calls registry (chain, l) (chain ++ [name], declared) := by
  obtain ⟨s, hwithin, hkind, hoperand⟩ := from_of_met hmet
  exact ⟨s, operand, name, hwithin, hkind, hoperand, hfollowed, rfl⟩

/-- **The names that are left to expand**: the declared ones outside a chain. -/
def unexpanded (registry : Registry) (chain : List Text) : Nat :=
  (registry.names.filter fun name => !chain.contains name.text).length

/-- A declared name that is expanded is not left any more. -/
theorem unexpanded_lt {name : Text} {declared : List Step} (hfresh : name ∉ chain)
    (hdeclared : registry.resolve? name = some declared) :
    unexpanded registry (chain ++ [name]) < unexpanded registry chain := by
  obtain ⟨found, hfound, rfl⟩ := List.mem_map.1 (Registry.mem_names_of_resolve? hdeclared)
  have hmem : found ∈ registry.names.filter fun name => !chain.contains name.text := by
    simpa [hfound] using hfresh
  -- what is left afterwards is a part of what was left before, without the name
  have hpart : (registry.names.filter fun name => !(chain ++ [found.text]).contains name.text)
      = (registry.names.filter fun name => !chain.contains name.text).filter
        fun name => name.text ≠ found.text := by
    rw [List.filter_filter]
    exact List.filter_congr fun name _ => by simp [Bool.and_comm]
  unfold unexpanded
  rw [hpart]
  exact List.length_filter_lt_length_iff_exists.2 ⟨found, hmem, by simp⟩

theorem unexpanded_lt_of_followed {operand : Value} {name : Text} {declared : List Step}
    (h : followed registry chain operand = .ok (name, declared)) :
    unexpanded registry (chain ++ [name]) < unexpanded registry chain := by
  obtain ⟨hfresh, hdeclared, -⟩ := followed_ok h
  exact unexpanded_lt hfresh hdeclared

/-- **Expansions are never nested without end**, whatever the steps and the chain are. -/
theorem wellFounded_calls (registry : Registry) :
    WellFounded fun inner outer => Calls registry outer inner := by
  -- the names that are left to expand are fewer inside
  refine Subrelation.wf ?_ (measure fun call => unexpanded registry call.1).wf
  rintro ⟨longer, declared⟩ ⟨chain, l⟩ ⟨s, operand, name, -, -, -, hfollowed, rfl⟩
  exact unexpanded_lt_of_followed hfollowed

/-- **Expansions inside one another take a way of the compiler**, so the names under expansion
are distinct and declared. -/
theorem expansion_of_calls {root : List Step} {call : List Text × List Step}
    (h : Relation.ReflTransGen (Calls registry) ([], root) call) :
    Expansion registry root call.1 call.2 := by
  -- on the nesting: one expansion more is one way further
  induction h with
  | refl => exact .start
  | @tail outer inner _ hcall ih =>
    obtain ⟨s, operand, name, hwithin, hkind, hoperand, hfollowed, hchain⟩ := hcall
    obtain ⟨hfresh, hdeclared, expected, rfl, -⟩ := followed_ok hfollowed
    rw [hchain]
    exact .follow ih hwithin ⟨hkind, List.mem_of_head? hoperand⟩ hfresh hdeclared

/-- **The walk expands nothing else**: it depends on a renderer only through the expansions inside
it. -/
theorem steps_congr_of_calls {render render' : List Text → List Step → Except Fault (List Json)}
    {l : List Step} (h : ∀ inner, Calls registry (chain, l) inner →
      render inner.1 inner.2 = render' inner.1 inner.2) :
    steps (expandReference registry chain render) l
      = steps (expandReference registry chain render') l := by
  have hagree : Agree (fun _ => False) (steps (expandReference registry chain render) l)
      (steps (expandReference registry chain render') l) := by
    refine agree_steps_of_met l fun operand hmet => ?_
    rw [expandReference_eq, expandReference_eq]
    cases hfollowed : followed registry chain operand with
    | error fault => exact .refl _
    | ok found => exact .inl (h _ (calls_of_met hmet hfollowed))
  -- agreement up to no fault at all is equality
  rcases hagree with heq | ⟨_, hfalse, -⟩
  · exact heq
  · exact hfalse.elim

/-! ### The recursion -/

/-- **The recursion of the compiler**, as it stands: the wire steps of steps, with each reference
expanded by the renderer itself behind a longer chain. -/
def Recursion (registry : Registry) (render : List Text → List Step → Except Fault (List Json)) :
    Prop :=
  ∀ chain, render chain = steps (expandReference registry chain render)

/-- **Expansion without a bound.** The names that are left to expand decrease with each
expansion inside another one. -/
def expandUnbounded (registry : Registry) (chain : List Text) :
    List Step → Except Fault (List Json) :=
  steps fun operand =>
    match _ : followed registry chain operand with
    | .error fault => .error fault
    | .ok (name, declared) => expandUnbounded registry (chain ++ [name]) declared
termination_by unexpanded registry chain
decreasing_by exact unexpanded_lt_of_followed ‹_›

/-- Expansion without a bound solves the recursion. -/
theorem recursion_expandUnbounded (registry : Registry) :
    Recursion registry (expandUnbounded registry) := by
  intro chain
  rw [expandUnbounded]
  congr 1
  funext operand
  -- finding what a reference leads to and the match on it are one and the same
  rw [expandReference_eq]
  split <;> simp only [*] <;> rfl

variable {render : List Text → List Step → Except Fault (List Json)}

/-- **The recursion has no other solution.** -/
theorem Recursion.eq_expandUnbounded (h : Recursion registry render) (chain : List Text) :
    render chain = expandUnbounded registry chain := by
  rw [h chain, recursion_expandUnbounded registry chain]
  congr 1
  -- both expand the declared steps of names outside the chain only, of which fewer are left
  refine expandReference_congr fun name declared hfresh hdeclared => ?_
  exact congrFun (h.eq_expandUnbounded (chain ++ [name])) declared
termination_by unexpanded registry chain
decreasing_by exact unexpanded_lt hfresh hdeclared

/-! ### Renderers that give up -/

/-- **Expansion up to a bound.** At most so many expansions are nested inside one another; where
one more would be needed, the renderer gives up and answers in some way of its own. -/
def expandUpTo (registry : Registry) (giveUp : List Text → List Step → Except Fault (List Json)) :
    Nat → List Text → List Step → Except Fault (List Json)
  | 0, chain => steps (expandReference registry chain giveUp)
  | bound + 1, chain => steps (expandReference registry chain (expandUpTo registry giveUp bound))

variable {giveUp giveUp' : List Text → List Step → Except Fault (List Json)} {bound : Nat}

/-- **Where a renderer gives up**, the names under expansion are distinct and declared, and one
more than its bound allows. -/
theorem expandUpTo_congr (hchain : registry.Chain chain)
    (h : ∀ names l, registry.Chain names → names.length = chain.length + bound + 1 →
      giveUp names l = giveUp' names l) :
    expandUpTo registry giveUp bound chain = expandUpTo registry giveUp' bound chain := by
  -- on the bound: one expansion more makes the chain longer by its name
  induction bound generalizing chain with
  | zero =>
    rw [expandUpTo, expandUpTo]
    congr 1
    refine expandReference_congr fun name declared hfresh hdeclared => ?_
    exact h _ declared (hchain.snoc hfresh hdeclared) (by simp)
  | succ bound ih =>
    rw [expandUpTo, expandUpTo]
    congr 1
    refine expandReference_congr fun name declared hfresh hdeclared => ?_
    have hnext : registry.Chain (chain ++ [name]) := hchain.snoc hfresh hdeclared
    have hlength : (chain ++ [name]).length = chain.length + 1 := by simp
    rw [ih hnext fun names l hnames hlong => h names l hnames (by omega)]

/-- Expansion without a bound goes on where a renderer with a bound gives up. -/
theorem expandUnbounded_eq_expandUpTo (registry : Registry) (bound : Nat) :
    expandUnbounded registry = expandUpTo registry (expandUnbounded registry) bound := by
  -- on the bound: each step is one step of the recursion
  induction bound with
  | zero =>
    funext chain
    rw [expandUpTo]
    exact recursion_expandUnbounded registry chain
  | succ bound ih =>
    funext chain
    rw [expandUpTo, ← ih]
    exact recursion_expandUnbounded registry chain

/-- **A renderer with room for every name never gives up.** The names of the chain and the bound
make up for the size of the registry, and no chain is longer. -/
theorem expandUpTo_eq (hchain : registry.Chain chain)
    (hbound : registry.size ≤ chain.length + bound) :
    expandUpTo registry giveUp bound chain = expandUnbounded registry chain := by
  rw [expandUnbounded_eq_expandUpTo registry bound]
  refine expandUpTo_congr hchain fun names l hnames hlong => ?_
  -- it would give up behind more distinct names than there are
  have hlength : names.length ≤ registry.size := hnames.length_le
  omega

theorem expandAt_eq_expandUpTo (registry : Registry) (depth : Nat) :
    expandAt registry depth
      = expandUpTo registry (fun names _ => .error (.path (.morphismCycle names))) depth := by
  induction depth with
  | zero => rfl
  | succ depth ih =>
    funext chain
    rw [expandAt, expandUpTo, ih]

/-- **Expansion is expansion without a bound.** -/
theorem expand_eq_expandUnbounded (registry : Registry) :
    expand registry = expandUnbounded registry [] := by
  funext l
  rw [expand, expandAt_eq_expandUpTo, expandUpTo_eq .nil (by simp)]

end Compile

/-! ### Compiling -/

namespace Registry

/-- Compiling a value with a renderer of steps. -/
def compileWith (render : List Text → List Step → Except Fault (List Json)) (expression : Value) :
    Except Fault WireQuery :=
  match expression with
  | .query q => do
    let steps ← render [] q.vertex.steps
    let last ← Compile.final q.final
    .ok ⟨q.vertex.start.ids.map .text, steps ++ [last]⟩
  | _ => .error (.path (.missingFinalizer expression.typeName))

/-- Compiling a value without finalizer with a renderer of steps. -/
def compileRouteWith (render : List Text → List Step → Except Fault (List Json))
    (expression : Value) : Except Fault WireQuery :=
  match expression with
  | .query _ => .error (.path (.nestedFinalizer "compile_route"))
  | .vertex v => do .ok ⟨v.start.ids.map .text, ← render [] v.steps⟩
  | _ => .error (.path (.notAVertex expression.typeName))

/-- **A renderer that compiles** every value as the registry does, with a finalizer or
without. -/
structure CompiledBy (registry : Registry)
    (render : List Text → List Step → Except Fault (List Json)) : Prop where
  query : ∀ expression, compileWith render expression = registry.compile expression
  route : ∀ expression, compileRouteWith render expression = registry.compileRoute expression

/-- Compiling begins with an empty chain. -/
theorem compiledBy_of_expand {registry : Registry}
    {render : List Text → List Step → Except Fault (List Json)}
    (h : render [] = Compile.expand registry) : registry.CompiledBy render := by
  constructor
  · intro expression
    cases expression with
    | query q =>
      rw [compileWith, h]
      rfl
    | _ => rfl
  · intro expression
    cases expression with
    | vertex v =>
      rw [compileRouteWith, h]
      rfl
    | _ => rfl

/-- **Compiling always ends.** Expansions are not nested without end, those that occur are all
that the walk depends on, and the names under expansion are distinct and declared. So the
recursion of the compiler, which has no bound, has a solution; every solution of it compiles as
the registry does; and so does every renderer that gives up only after as many expansions inside
one another as there are names, however it would answer then. -/
theorem compile_terminates (registry : Registry) :
    WellFounded (fun inner outer => Compile.Calls registry outer inner) ∧
    (∀ render render' chain l,
      (∀ inner, Compile.Calls registry (chain, l) inner →
        render inner.1 inner.2 = render' inner.1 inner.2) →
      Compile.steps (Compile.expandReference registry chain render) l
        = Compile.steps (Compile.expandReference registry chain render') l) ∧
    (∀ root chain l, Relation.ReflTransGen (Compile.Calls registry) ([], root) (chain, l) →
      chain.Nodup ∧ ∀ name ∈ chain, (registry.resolve? name).isSome) ∧
    Compile.Recursion registry (Compile.expandUnbounded registry) ∧
    (∀ render, Compile.Recursion registry render → registry.CompiledBy render) ∧
    (∀ giveUp bound, registry.size ≤ bound →
      registry.CompiledBy (Compile.expandUpTo registry giveUp bound)) := by
  refine ⟨Compile.wellFounded_calls registry,
    fun render render' chain l h => Compile.steps_congr_of_calls h, fun root chain l hcalls => ?_,
    Compile.recursion_expandUnbounded registry, fun render hrender => ?_,
    fun giveUp bound hbound => ?_⟩
  · -- the chain of every expansion that occurs is free of repetitions and declared
    have hchain : registry.Chain chain := (Compile.expansion_of_calls hcalls).chain
    exact ⟨hchain.distinct, hchain.declared⟩
  · -- a solution of the recursion is the unbounded renderer, by uniqueness
    refine compiledBy_of_expand ?_
    rw [hrender.eq_expandUnbounded, Compile.expand_eq_expandUnbounded]
  · -- a bound that covers the declared names is never used up
    refine compiledBy_of_expand ?_
    rw [Compile.expandUpTo_eq .nil (by simpa using hbound), Compile.expand_eq_expandUnbounded]

end Registry

/-! ### A registry with a cycle -/

namespace Sample

/-- A name that is declared by following itself. -/
def far : Name := ⟨"far", by decide⟩

/-- A name that is declared by following the other one. -/
def near : Name := ⟨"near", by decide⟩

/-- Along the predicates that a sub-expression reaches, which follows the name again. -/
def farSteps : List Step :=
  [⟨.out, [.vertex ⟨.any, [⟨.follow, [.morphismRef (.to far none)]⟩]⟩, .null]⟩]

/-- A conjunction with a sub-expression, which follows the other name by its value. -/
def nearSteps : List Step :=
  [⟨.and, [.vertex ⟨.any, [⟨.followReverse, [.morphismRef (.to far (some farSteps))]⟩]⟩]⟩]

/-- Both names. -/
def circular : Registry :=
  (Registry.empty.insert ⟨far, farSteps⟩ (by decide)).insert ⟨near, nearSteps⟩ (by decide)

/-- A step that follows the second name. -/
def entry : Step := ⟨.follow, [.morphismRef (.to near none)]⟩

/-- The query that follows the second name. -/
def roundabout : Query := ⟨⟨.any, [entry]⟩, .all⟩

end Sample

namespace Registry

/-- In the sample the first expansion is that of the second name, on its own. The query comes to
an end in the recursion without bound, and where two expansions inside one another are the
most. -/
theorem compile_terminates_sample :
    (["near"] : List Text).Nodup ∧
    compileWith (Compile.expandUnbounded Sample.circular) (.query Sample.roundabout)
      = .error (.path (.morphismCycle ["near", "far", "far"])) ∧
    compileWith (Compile.expandUpTo Sample.circular (fun _ _ => .ok []) 2)
        (.query Sample.roundabout)
      = .error (.path (.morphismCycle ["near", "far", "far"])) := by
  obtain ⟨-, -, hchains, hrecursion, hsolutions, hbounds⟩ := compile_terminates Sample.circular
  have hentry : Compile.Calls Sample.circular ([], [Sample.entry]) (["near"], Sample.nearSteps) :=
    ⟨Sample.entry, _, "near", .here List.mem_cons_self, rfl, rfl, rfl, rfl⟩
  have hcompiled : Sample.circular.compile (.query Sample.roundabout)
      = .error (.path (.morphismCycle ["near", "far", "far"])) := rfl
  refine ⟨(hchains [Sample.entry] _ _ (.single hentry)).1, ?_, ?_⟩
  · rw [(hsolutions _ hrecursion).query, hcompiled]
  · rw [(hbounds (fun _ _ => .ok []) 2 (Nat.le_refl 2)).query, hcompiled]

end Registry

end GraphPath
