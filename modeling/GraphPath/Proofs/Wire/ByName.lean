import GraphPath.Proofs.Wire.Recursion
import GraphPath.Proofs.Wire.Standalone

/-!
# Following by value is a check

A morphism may be followed by its name or as a value. The reference to a value has the name of
the morphism, too, and what it expects there: that the declared steps are those of the value.
Leaving the expectation out changes nothing but this check.

* `Query.byName` — a query with references by name only;
* `Registry.DeclaresAs`, `Registry.FollowsDeclared` — what is declared under a name, and steps
  that follow only values that are declared;
* `Compile.agree_expand_byName` — expansion with and without the check;
* `Registry.compile_byName` — compiling with and without it.
-/

namespace GraphPath

/-! ### References by name -/

mutual

/-- Steps with references by name only. -/
def Step.listByName : List Step → List Step
  | [] => []
  | s :: rest => s.byName :: Step.listByName rest

/-- **A step with references by name only**, in the step itself and in its sub-expressions at
any depth. -/
def Step.byName : Step → Step
  | ⟨kind, values⟩ => ⟨kind, Value.listByName kind.family values⟩

/-- The operands of a step of a family with references by name only. -/
def Value.listByName (family : StepFamily) : List Value → List Value
  | [] => []
  | value :: values => value.byName family :: Value.listByName family values

/-- An operand of a step of a family with references by name only. A query in the place of a
sub-expression stays as it is. -/
def Value.byName (family : StepFamily) : Value → Value
  | .vertex v => .vertex v.byName
  | .morphismRef r =>
    match family with
    | .following => .morphismRef ⟨r.name, none⟩
    | _ => .morphismRef r
  | value => value

/-- A vertex with references by name only. -/
def Vertex.byName : Vertex → Vertex
  | ⟨start, rest⟩ => ⟨start, Step.listByName rest⟩

end

/-- **A query with references by name only.** -/
def Query.byName (q : Query) : Query := ⟨q.vertex.byName, q.final⟩

theorem Vertex.byName_start (v : Vertex) : v.byName.start = v.start := by
  cases v
  rw [Vertex.byName]

theorem Vertex.byName_steps (v : Vertex) : v.byName.steps = Step.listByName v.steps := by
  cases v
  rw [Vertex.byName]

namespace Compile

section Walk

variable (expand : Value → Except Fault (List Json))

mutual

/-- **The walk over steps with references by name only** is the walk over the steps with every
reference expanded by its name. -/
theorem steps_byName (l : List Step) :
    steps expand (Step.listByName l) = steps (fun value => expand (value.byName .following)) l := by
  match l with
  | [] => rfl
  | s :: rest => rw [Step.listByName, steps_cons, steps_cons, step_byName s, steps_byName rest]

theorem step_byName (s : Step) :
    step expand s.byName = step (fun value => expand (value.byName .following)) s := by
  match s with
  | ⟨kind, values⟩ =>
    rw [Step.byName, step.eq_def, step.eq_def]
    dsimp only
    -- what a step makes of its operands depends on the family of its kind
    cases hkind : kind.family with
    | selecting =>
      dsimp only
      rw [operands_byName kind values]
    | combining =>
      match values with
      | [] => rfl
      | value :: _ =>
        rw [Value.listByName]
        dsimp only
        rw [subexpression_byName kind value]
    | following =>
      match values with
      | [] => rfl
      | value :: _ => rfl

theorem operands_byName (kind : StepKind) (values : List Value) :
    operands expand kind (Value.listByName .selecting values)
      = operands (fun value => expand (value.byName .following)) kind values := by
  match values with
  | [] => rfl
  | value :: values =>
    rw [Value.listByName, operands, operands, operand_byName kind value,
      operands_byName kind values]

theorem operand_byName (kind : StepKind) (value : Value) :
    operand expand kind (value.byName .selecting)
      = operand (fun value => expand (value.byName .following)) kind value := by
  match value with
  | .vertex v => rw [Value.byName, operand, operand, vertex_byName v]
  | .null | .bool _ | .int _ | .float _ | .text _ | .list _ | .tuple _ | .object _ | .selector _
  | .kind _ | .step _ | .morphismRef _ | .path _ | .morphism _ | .query _ | .final _ => rfl

theorem subexpression_byName (kind : StepKind) (value : Value) :
    subexpression expand kind (value.byName .combining)
      = subexpression (fun value => expand (value.byName .following)) kind value := by
  match value with
  | .vertex v => rw [Value.byName, subexpression, subexpression, vertex_byName v]
  | .null | .bool _ | .int _ | .float _ | .text _ | .list _ | .tuple _ | .object _ | .selector _
  | .kind _ | .step _ | .morphismRef _ | .path _ | .morphism _ | .query _ | .final _ => rfl

theorem vertex_byName (v : Vertex) :
    vertex expand v.byName = vertex (fun value => expand (value.byName .following)) v := by
  match v with
  | ⟨start, rest⟩ => rw [Vertex.byName, vertex, vertex, steps_byName rest]

end

end Walk

end Compile

/-! ### What is declared -/

/-- **Values that are declared under a name**: its steps are equal to them. -/
def Registry.DeclaresAs (registry : Registry) (name : Text) (values : List Value) : Prop :=
  ∃ declared, registry.resolve? name = some declared ∧
    Value.sameItems values (declared.map .step)

/-- **Steps that follow only what is declared**: each morphism that a step within them follows
as a value has the declared steps of its name. -/
def Registry.FollowsDeclared (registry : Registry) (l : List Step) : Prop :=
  ∀ s name values, Within l s → s.References name (some values) → registry.DeclaresAs name values

/-- **A mismatch within steps**: a morphism that is followed as a value is not the declared
one. -/
def Registry.Mismatch (registry : Registry) (l : List Step) (fault : Fault) : Prop :=
  ∃ s name values, Within l s ∧ s.References name (some values) ∧
    ¬ registry.DeclaresAs name values ∧ fault = .path (.morphismMismatch name)

theorem Registry.FollowsDeclared.not_mismatch {registry : Registry} {l : List Step} {fault : Fault}
    (h : registry.FollowsDeclared l) : ¬ registry.Mismatch l fault := by
  rintro ⟨s, name, values, hwithin, href, hdiffer, -⟩
  exact hdiffer (h s name values hwithin href)

namespace Compile

variable {registry : Registry} {chain : List Text}

/-- **The check** succeeds, unless other steps are declared than the values. -/
theorem agree_checkExpected {name : Text} {declared : List Step}
    (hdeclared : registry.resolve? name = some declared) (values : List Value) :
    Agree (fun fault => ¬ registry.DeclaresAs name values ∧
        fault = .path (.morphismMismatch name))
      (checkExpected (.morphismRef ⟨.text name, some values⟩) name declared) (.ok ()) := by
  by_cases hsame : Value.sameItems values (declared.map .step)
  · exact .inl (if_pos hsame)
  · have hdiffer : ¬ registry.DeclaresAs name values := by
      -- a name has one declaration
      rintro ⟨other, hother, hsame'⟩
      cases hother.symm.trans hdeclared
      exact hsame hsame'
    exact .inr ⟨_, ⟨hdiffer, rfl⟩, if_neg hsame⟩

/-- **A reference leads where its name does**, unless it expects other steps there. -/
theorem agree_followed (operand : Value) :
    Agree (fun fault => ∃ name values, operand = .morphismRef ⟨.text name, some values⟩ ∧
        ¬ registry.DeclaresAs name values ∧ fault = .path (.morphismMismatch name))
      (followed registry chain operand) (followed registry chain (operand.byName .following)) := by
  cases operand with
  | morphismRef r =>
    obtain ⟨value, _ | values⟩ := r
    · exact .refl _
    · cases value with
      | text name =>
        have hname : ∀ expected,
            referencedName (.morphismRef ⟨.text name, expected⟩) = .ok (.text name) := fun _ => rfl
        rw [Value.byName, followed_of_name (hname _), followed_of_name (hname _)]
        -- the check comes last, so up to it both do the same
        by_cases hchain : name ∈ chain
        · rw [if_pos hchain, if_pos hchain]
          exact .refl _
        · rw [if_neg hchain, if_neg hchain]
          cases hdeclared : registry.resolve? name with
          | none => exact .refl _
          | some declared =>
            refine ((agree_checkExpected hdeclared values).mono fun fault hfault => ?_).bind
              fun _ => .refl _
            exact ⟨name, values, rfl, hfault⟩
      | _ => exact .refl _
  | _ => exact .refl _

/-- **Expansion with and without the check** agrees, unless the steps have a mismatch. -/
theorem agree_expand_byName (l : List Step) :
    Agree (registry.Mismatch l) (expand registry l) (expand registry (Step.listByName l)) := by
  unfold expand
  rw [expandAt_eq, steps_byName]
  refine agree_steps_of_met l fun operand hmet => ?_
  rw [expandReference_eq, expandReference_eq]
  refine ((agree_followed operand).mono ?_).bind fun _ => .refl _
  rintro _ ⟨name, values, rfl, hdiffer, rfl⟩
  -- the reference is the operand of a step within the steps
  obtain ⟨s, hwithin, hkind, hoperand⟩ := from_of_met hmet
  exact ⟨s, name, values, hwithin, ⟨hkind, List.mem_of_head? hoperand⟩, hdiffer, rfl⟩

/-! ### The check is complete -/

variable {l : List Step} {s : Step} {m : Met}

theorem mem_metOperands {kind : StepKind} {value : Value} {values : List Value}
    (hvalue : value ∈ values) (h : m ∈ metOperand kind value) : m ∈ metOperands kind values := by
  induction values with
  | nil => cases hvalue
  | cons first values ih =>
    rw [metOperands]
    rcases List.mem_cons.1 hvalue with rfl | hvalue
    · exact List.mem_append_left _ h
    · exact List.mem_append_right _ (ih hvalue)

/-- A shaped step that does not select has one operand. -/
theorem single_operand (hshaped : Shaped [s]) (hkind : s.kind.family ≠ .selecting) :
    ∃ value, s.operands = [value] := by
  cases hshaped with
  | plain hplain => exact absurd (plain_operands hplain).1 hkind
  | through htraversal | throughQuery htraversal =>
    exact absurd (StepKind.family_of_isTraversal htraversal) hkind
  | combine | combineQuery | follow => exact ⟨_, rfl⟩

/-- What is met in a sub-expression of a shaped step is met in the step. -/
theorem mem_metStep_of_operand {v : Vertex} (hshaped : Shaped [s])
    (hoperand : .vertex v ∈ s.operands) (h : m ∈ met v.steps) : m ∈ metStep s := by
  obtain ⟨start, rest⟩ := v
  obtain ⟨kind, values⟩ := s
  rw [metStep.eq_def]
  dsimp only
  rcases (hshaped.of_operand hoperand).1 with hkind | hkind
  · rw [StepKind.family_of_isTraversal hkind]
    refine mem_metOperands hoperand ?_
    rwa [metOperand, metVertex]
  · rw [hkind]
    obtain ⟨value, rfl⟩ : ∃ value, values = [value] :=
      single_operand hshaped (by rw [hkind]; exact nofun)
    cases List.mem_singleton.1 hoperand
    dsimp only
    rwa [metSubexpression, metVertex]

/-- A reference in a shaped step is met in the step. -/
theorem reference_mem_metStep (hshaped : Shaped [s]) {name : Text} {expected : Option (List Value)}
    (href : s.References name expected) :
    .reference (.morphismRef ⟨.text name, expected⟩) ∈ metStep s := by
  obtain ⟨kind, values⟩ := s
  obtain ⟨hkind, hoperand⟩ := href
  obtain ⟨value, rfl⟩ : ∃ value, values = [value] :=
    single_operand hshaped (by rw [hkind]; exact nofun)
  cases List.mem_singleton.1 hoperand
  rw [metStep.eq_def]
  dsimp only
  rw [hkind]
  exact List.mem_cons_self

/-- A step within shaped steps is shaped, and what is met in it is met in them. -/
theorem met_of_within (hshaped : Shaped l) (hwithin : Within l s) :
    Shaped [s] ∧ ∀ m ∈ metStep s, m ∈ met l := by
  induction hwithin with
  | @here t hmem => exact ⟨hshaped.of_mem hmem, fun m hm => mem_met.2 ⟨t, hmem, hm⟩⟩
  | @inside t u v _ hoperand hmem ih =>
    obtain ⟨hstep, hsub⟩ := ih
    refine ⟨(hstep.of_operand hoperand).2.of_mem hmem, fun m hm => hsub m ?_⟩
    exact mem_metStep_of_operand hstep hoperand (mem_met.2 ⟨u, hmem, hm⟩)

/-- **Every reference in shaped steps is met.** -/
theorem reference_mem_met (hshaped : Shaped l) (hwithin : Within l s) {name : Text}
    {expected : Option (List Value)} (href : s.References name expected) :
    .reference (.morphismRef ⟨.text name, expected⟩) ∈ met l := by
  obtain ⟨hstep, hsub⟩ := met_of_within hshaped hwithin
  exact hsub _ (reference_mem_metStep hstep href)

/-- A reference that is met in steps that compile leads somewhere. -/
theorem followed_of_steps {body : List Text → List Step → Except Fault (List Json)}
    {wires : List Json} {operand : Value}
    (h : steps (expandReference registry chain body) l = .ok wires)
    (hmet : .reference operand ∈ met l) :
    ∃ found, followed registry chain operand = .ok found := by
  have hnone : (met l).findSome? (Met.fault? (expandReference registry chain body)) = none := by
    rw [← fault?_steps, h]
    rfl
  obtain ⟨inner, hinner⟩ := Outcome.fault?_eq_none.1 (List.findSome?_eq_none_iff.1 hnone _ hmet)
  rw [expandReference_eq] at hinner
  obtain ⟨found, hfound, -⟩ := Outcome.bind_eq_ok.1 hinner
  exact ⟨found, hfound⟩

/-- **What compiles follows only what is declared.** -/
theorem followsDeclared_of_expand {wires : List Json} (hshaped : Shaped l)
    (h : expand registry l = .ok wires) : registry.FollowsDeclared l := by
  intro s name values hwithin href
  rw [expand, expandAt_eq] at h
  obtain ⟨⟨found, declared⟩, hfollowed⟩ :=
    followed_of_steps h (reference_mem_met hshaped hwithin href)
  obtain ⟨-, hdeclared, expected, hoperand, hsame⟩ := followed_ok hfollowed
  cases hoperand
  exact ⟨declared, hdeclared, hsame values rfl⟩

end Compile

/-! ### Compiling -/

namespace Registry

variable {registry : Registry}

/-- **Compiling with and without the check.** Whatever the steps are, both give the same, or the
query has a mismatch. -/
theorem agree_compile_byName (q : Query) :
    Agree (registry.Mismatch q.vertex.steps) (registry.compile (.query q))
      (registry.compile (.query q.byName)) := by
  have hsteps : Agree (registry.Mismatch q.vertex.steps) (Compile.expand registry q.vertex.steps)
      (Compile.expand registry (Step.listByName q.vertex.steps)) := Compile.agree_expand_byName _
  -- start and finalizer are the same
  simp only [compile, Compile.query, Query.byName, Vertex.byName_start, Vertex.byName_steps]
  exact hsteps.bind fun _ => .refl _

/-- **Following by value is a check and nothing else.** What a built query compiles to, it
compiles to with references by name, too. What it compiles to then, it compiles to as it is, or
it follows a morphism as a value that is not the declared one; and it compiles just if it follows
no such morphism. A fault that it has then, it has as it is, or that of such a morphism. -/
theorem compile_byName (registry : Registry) {q : Query} (hquery : (Value.query q).Built) :
    (∀ wire, registry.compile (.query q) = .ok wire →
      registry.compile (.query q.byName) = .ok wire) ∧
    (∀ wire, registry.compile (.query q.byName) = .ok wire →
      (registry.compile (.query q) = .ok wire ∨
        ∃ name, registry.compile (.query q) = .error (.path (.morphismMismatch name))) ∧
      ((∃ wire', registry.compile (.query q) = .ok wire') ↔
        registry.FollowsDeclared q.vertex.steps)) ∧
    (∀ fault, registry.compile (.query q.byName) = .error fault →
      registry.compile (.query q) = .error fault ∨
        ∃ name, registry.compile (.query q) = .error (.path (.morphismMismatch name))) := by
  have hcases : registry.compile (.query q) = registry.compile (.query q.byName) ∨
      ∃ name, registry.compile (.query q) = .error (.path (.morphismMismatch name)) := by
    rcases agree_compile_byName q with heq | ⟨_, ⟨_, name, _, -, -, -, rfl⟩, h⟩
    · exact .inl heq
    · exact .inr ⟨name, h⟩
  refine ⟨fun wire h => ?_, fun wire h => ⟨?_, ⟨?_, fun hdeclared => ?_⟩⟩, fun fault h => ?_⟩
  · rcases hcases with heq | ⟨name, hmismatch⟩
    · rw [← heq, h]
    · rw [h] at hmismatch
      cases hmismatch
  · exact hcases.imp_left fun heq => heq.trans h
  · rintro ⟨wire', h'⟩
    obtain ⟨wires, _, hwires, -, -⟩ := Compile.compile_eq_ok h'
    exact Compile.followsDeclared_of_expand hquery.shaped hwires
  · -- without a mismatch there is nothing to choose between
    rcases agree_compile_byName q with heq | ⟨_, hmismatch, -⟩
    · exact ⟨wire, heq.trans h⟩
    · exact absurd hmismatch hdeclared.not_mismatch
  · exact hcases.imp_left fun heq => heq.trans h

end Registry

/-- The name that the sample query follows by value, with other steps than it expects. -/
def Sample.changed : Registry :=
  Registry.empty.insert ⟨Sample.likes, []⟩ (by simp [Registry.names, Registry.empty])

namespace Registry

/-- The sample query follows what is declared in the registry of the sample. Where other steps
are declared it compiles with references by name only. -/
theorem compile_byName_sample :
    Sample.registry.FollowsDeclared Sample.query.vertex.steps ∧
    ¬ Sample.changed.FollowsDeclared Sample.query.vertex.steps ∧
    ∃ name, Sample.changed.compile (.query Sample.query)
      = .error (.path (.morphismMismatch name)) := by
  obtain ⟨hkept, hback, -⟩ := compile_byName Sample.registry Sample.query_built
  obtain ⟨-, hchanged, -⟩ := compile_byName Sample.changed Sample.query_built
  have hcompiles : ∃ wire, Sample.registry.compile (.query Sample.query) = .ok wire := ⟨_, rfl⟩
  have hrefused : Sample.changed.compile (.query Sample.query)
      = .error (.path (.morphismMismatch Sample.likes.text)) := rfl
  obtain ⟨-, hdiffer⟩ := hchanged _ rfl
  obtain ⟨wire, hwire⟩ := hcompiles
  refine ⟨(hback wire (hkept wire hwire)).2.1 ⟨wire, hwire⟩, fun hdeclared => ?_, _, hrefused⟩
  obtain ⟨wire', h⟩ := hdiffer.2 hdeclared
  rw [hrefused] at h
  cases h

end Registry

end GraphPath
