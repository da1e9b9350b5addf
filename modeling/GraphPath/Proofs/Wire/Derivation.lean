import GraphPath.Proofs.Json.Writing
import GraphPath.Proofs.Registry
import GraphPath.Proofs.Wire.Walk

/-!
# What steps compile to, by rules

The wire steps of shaped steps as a derivation: one rule per shape of step, a sub-expression
and the declared steps of a followed name being derived in turn. Chains of names under
expansion do not occur; the depth bounds how many expansions stand inside one another.

* `Derives` — the derivations, `Derives.mono` — a larger depth derives no less;
* `Compile.expandReference_to` — everything that expanding a reference can do;
* `Compile.derives_of_expandAt` — what compiles has a derivation, so that a property of
  all compiled steps is one induction over the rules;
* `Final.Writable` — finalizers without a limit that has too many digits;
* `Compile.query_ok` — a compiled query: its start, its derived steps, its finalizer.
-/

namespace GraphPath

/-- Whether the steps that a reference expects, if any, are equal to the declared ones. -/
def Step.agrees (expected : Option (List Step)) (declared : List Step) : Bool :=
  expected.all fun steps => Value.sameItems (steps.map .step) (declared.map .step)

/-- **What steps compile to**, with at most `depth` expansions inside one another. -/
inductive Derives (registry : Registry) : Nat → List Step → List Json → Prop where
  | nil {depth : Nat} : Derives registry depth [] []
  -- a sub-expression is derived to the same depth as the steps around it
  | plain {depth : Nat} {s : Step} {rest : List Step} {wires : List Json} (hplain : s.Plain)
    (hrest : Derives registry depth rest wires) :
    Derives registry depth (s :: rest) (s.plainWire :: wires)
  | through {depth : Nat} {kind : StepKind} {v : Vertex} {rest : List Step}
    {inner wires : List Json} (hkind : kind.isTraversal) (tags : Option TagSelector)
    (hsteps : Derives registry depth v.steps inner)
    (hrest : Derives registry depth rest wires) :
    Derives registry depth (⟨kind, [.vertex v, .ofTags? tags]⟩ :: rest)
      (Step.throughWire kind v.start inner tags :: wires)
  | combine {depth : Nat} {kind : StepKind} {v : Vertex} {rest : List Step}
    {inner wires : List Json} (hkind : kind.family = .combining)
    (hsteps : Derives registry depth v.steps inner)
    (hrest : Derives registry depth rest wires) :
    Derives registry depth (⟨kind, [.vertex v]⟩ :: rest)
      (.wireStep kind.name (.array (Compile.head v.start :: inner)) :: wires)
  -- the declared steps of a followed name are derived to a smaller depth
  | follow {depth : Nat} {kind : StepKind} {name : Name} {expected : Option (List Step)}
    {declared rest : List Step} {inner wires : List Json}
    (hkind : kind.family = .following)
    (hdeclared : registry.resolve? name.text = some declared)
    (hagrees : Step.agrees expected declared)
    (hinner : Derives registry depth declared inner)
    (hrest : Derives registry (depth + 1) rest wires) :
    Derives registry (depth + 1) (⟨kind, [.morphismRef (.to name expected)]⟩ :: rest)
      (.wireStep kind.name (.array inner) :: wires)

variable {registry : Registry}

/-- A larger depth derives no less. -/
theorem Derives.mono {depth depth' : Nat} {steps : List Step} {wires : List Json}
    (h : Derives registry depth steps wires) (hle : depth ≤ depth') :
    Derives registry depth' steps wires := by
  induction h generalizing depth' with
  | nil => exact .nil
  | plain hplain _ ih => exact .plain hplain (ih hle)
  | through hkind tags _ _ ihSteps ih => exact .through hkind tags (ihSteps hle) (ih hle)
  | combine hkind _ _ ihSteps ih => exact .combine hkind (ihSteps hle) (ih hle)
  | follow hkind hdeclared hagrees _ _ ihInner ih =>
    -- one expansion is used up on both sides
    obtain ⟨depth', rfl⟩ : ∃ d, depth' = d + 1 := ⟨depth' - 1, by omega⟩
    exact .follow hkind hdeclared hagrees (ihInner (Nat.le_of_succ_le_succ hle)) (ih hle)

/-- A wire step can be written if its operand can. -/
theorem Json.hasOversized_wireStep {operation : Text} {operand : Json} :
    (Json.wireStep operation operand).hasOversized = false ↔ operand.hasOversized = false := by
  rw [hasOversized, wireStep, anyInt_object, List.forall_mem_singleton, ← hasOversized]

/-- **A finalizer that can be written**: its limit, if it has one, has not too many digits. -/
def Final.Writable (final : Final) : Prop :=
  ∀ n : Nat, final = .getLimit (.int n) → n < 10 ^ Json.digitLimit

namespace Compile

/-! ### References -/

/-- What stands for the steps of a followed name when so many expansions are left. -/
def bodyAt (registry : Registry) : Nat → List Text → List Step → Except Fault (List Json)
  | 0, chain, _ => .error (.path (.morphismCycle chain))
  | depth + 1, chain, declared => expandAt registry depth chain declared

theorem expandAt_eq (depth : Nat) (chain : List Text) :
    expandAt registry depth chain
      = steps (expandReference registry chain (bodyAt registry depth)) := by
  cases depth <;> rfl

theorem checkExpected_to (name : Name) (expected : Option (List Step)) (declared : List Step) :
    checkExpected (.morphismRef (.to name expected)) name.text declared
      = if Step.agrees expected declared then .ok ()
        else .error (.path (.morphismMismatch name.text)) := by
  cases expected <;> rfl

/-- **Expanding a reference.** A name of the chain closes a cycle; an undeclared name and
declared steps that are not the expected ones are faults; otherwise the declared steps are
expanded behind a longer chain. -/
theorem expandReference_to (chain : List Text)
    (body : List Text → List Step → Except Fault (List Json)) (name : Name)
    (expected : Option (List Step)) :
    expandReference registry chain body (.morphismRef (.to name expected)) =
      if name.text ∈ chain then .error (.path (.morphismCycle (chain ++ [name.text])))
      else match registry.resolve? name.text with
        | none => .error (.path (.unknownMorphism (.text name.text)))
        | some declared =>
          if Step.agrees expected declared then body (chain ++ [name.text]) declared
          else .error (.path (.morphismMismatch name.text)) := by
  have hname : referencedName (.morphismRef (.to name expected)) = .ok (.text name.text) := rfl
  unfold expandReference
  rw [hname]
  change (if name.text ∈ chain then _ else _) = _
  -- the checks come in this order: the chain, the declaration, the expected steps
  by_cases hchain : name.text ∈ chain
  · rw [if_pos hchain, if_pos hchain]
  · rw [if_neg hchain, if_neg hchain]
    cases hresolve : registry.resolve? name.text with
    | none => rfl
    | some declared =>
      simp only [checkExpected_to]
      cases Step.agrees expected declared <;> rfl

/-- A reference that expands: its name is declared outside the chain with the expected
steps, and these expand behind a longer chain. -/
theorem expandReference_ok {depth : Nat} {chain : List Text} {name : Name}
    {expected : Option (List Step)} {inner : List Json}
    (h : expandReference registry chain (bodyAt registry depth) (.morphismRef (.to name expected))
      = .ok inner) :
    ∃ left declared, depth = left + 1 ∧ name.text ∉ chain ∧
      registry.resolve? name.text = some declared ∧ Step.agrees expected declared ∧
      expandAt registry left (chain ++ [name.text]) declared = .ok inner := by
  rw [expandReference_to] at h
  split at h
  · cases h
  · rename_i hchain
    split at h
    · cases h
    · rename_i declared hresolve
      split at h
      · rename_i hagrees
        -- at the depth zero everything that would be expanded is a fault
        cases depth with
        | zero => cases h
        | succ left => exact ⟨left, declared, rfl, hchain, hresolve, hagrees, h⟩
      · cases h

/-! ### Derivations of what compiles -/

/-- The walk over shaped steps succeeds by derivations if the expansion of references
does. -/
theorem derives_of_steps {expand : Value → Except Fault (List Json)} {depth : Nat}
    {l : List Step} {wires : List Json} (hshaped : Shaped l)
    (hexpand : ∀ name expected inner, expand (.morphismRef (.to name expected)) = .ok inner →
      ∃ left declared, depth = left + 1 ∧ registry.resolve? name.text = some declared ∧
        Step.agrees expected declared ∧ Derives registry left declared inner)
    (h : steps expand l = .ok wires) : Derives registry depth l wires := by
  -- on the shape: each step compiles by the rule of its own shape
  induction hshaped generalizing wires with
  | nil =>
    rw [steps] at h
    cases h
    exact .nil
  | plain hplain _ ih =>
    obtain ⟨wire, others, hstep, hrest, rfl⟩ := steps_cons_ok.1 h
    rw [step_plain hplain] at hstep
    cases hstep
    exact .plain hplain (ih hrest)
  | through hkind tags _ _ ihSteps ih =>
    obtain ⟨wire, others, hstep, hrest, rfl⟩ := steps_cons_ok.1 h
    rw [step_through hkind] at hstep
    obtain ⟨inner, hinner, hstep⟩ := Outcome.bind_eq_ok.1 hstep
    cases hstep
    exact .through hkind tags (ihSteps hinner) (ih hrest)
  | throughQuery hkind q tags _ _ =>
    -- a finalized sub-expression does not compile
    obtain ⟨wire, others, hstep, -, -⟩ := steps_cons_ok.1 h
    rw [step_throughQuery hkind] at hstep
    cases hstep
  | combine hkind _ _ ihSteps ih =>
    obtain ⟨wire, others, hstep, hrest, rfl⟩ := steps_cons_ok.1 h
    rw [step_combine hkind] at hstep
    obtain ⟨inner, hinner, hstep⟩ := Outcome.bind_eq_ok.1 hstep
    cases hstep
    exact .combine hkind (ihSteps hinner) (ih hrest)
  | combineQuery hkind q _ _ =>
    obtain ⟨wire, others, hstep, -, -⟩ := steps_cons_ok.1 h
    rw [step_combineQuery hkind] at hstep
    cases hstep
  | follow hkind name expected _ ih =>
    obtain ⟨wire, others, hstep, hrest, rfl⟩ := steps_cons_ok.1 h
    rw [step_follow hkind] at hstep
    obtain ⟨inner, hinner, hstep⟩ := Outcome.bind_eq_ok.1 hstep
    cases hstep
    obtain ⟨left, declared, rfl, hresolve, hagrees, hderives⟩ := hexpand _ _ _ hinner
    exact .follow hkind hresolve hagrees hderives (ih hrest)

/-- **What compiles has a derivation.** -/
theorem derives_of_expandAt (hregistry : registry.Built) {depth : Nat} {chain : List Text}
    {l : List Step} {wires : List Json} (hshaped : Shaped l)
    (h : expandAt registry depth chain l = .ok wires) : Derives registry depth l wires := by
  induction depth generalizing chain l wires with
  | zero =>
    rw [expandAt_eq] at h
    -- no reference expands when no expansion is left
    refine derives_of_steps hshaped (fun name expected inner hinner => ?_) h
    obtain ⟨left, _, hdepth, _⟩ := expandReference_ok hinner
    cases hdepth
  | succ depth ih =>
    rw [expandAt_eq] at h
    refine derives_of_steps hshaped (fun name expected inner hinner => ?_) h
    obtain ⟨left, declared, hdepth, -, hresolve, hagrees, hbody⟩ := expandReference_ok hinner
    cases hdepth
    exact ⟨depth, declared, rfl, hresolve, hagrees, ih (hregistry.shaped hresolve) hbody⟩

/-! ### Queries -/

/-- **A finalizer that compiles**: every result, or a positive number of them. -/
theorem final_ok {final : Final} {last : Json} (h : Compile.final final = .ok last) :
    (final = .all ∧ last = .wireStep Wire.allOperation (.array [])) ∨
      ∃ n : Nat, 0 < n ∧ final = .getLimit (.int n) ∧
        last = .wireStep Wire.limitOperation (.int n) := by
  cases final with
  | all =>
    cases h
    exact .inl ⟨rfl, rfl⟩
  | getLimit limit =>
    simp only [Compile.final] at h
    split at h
    · rename_i n hlimit
      cases h
      unfold Value.limit? at hlimit
      split at hlimit
      · cases hlimit
        exact .inr ⟨_, Nat.succ_pos _, rfl, rfl⟩
      · cases hlimit
    · cases h

/-- **The wire step of a finalizer** can be written if the finalizer can. -/
theorem final_hasOversized_iff {final : Final} {last : Json} (h : Compile.final final = .ok last) :
    last.hasOversized = false ↔ final.Writable := by
  obtain ⟨rfl, rfl⟩ | ⟨n, -, rfl, rfl⟩ := final_ok h
  · exact ⟨fun _ => nofun, fun _ => rfl⟩
  · have hlimit : (Json.int n).hasOversized = false ↔ n < 10 ^ Json.digitLimit := by
      rw [Json.hasOversized, Json.anyInt, Json.isOversized_eq_false_iff, Int.natAbs_natCast]
    rw [Json.hasOversized_wireStep, hlimit]
    exact ⟨fun h m hm => by cases hm; exact h, fun h => h n rfl⟩

/-- A positive limit compiles, however many digits it has. -/
theorem final_of_pos {limit : Int} (h : 0 < limit) :
    final (.getLimit (.int limit)) = .ok (.wireStep Wire.limitOperation (.int limit)) := by
  obtain ⟨n, rfl⟩ := Int.eq_succ_of_zero_lt h
  rfl

/-- What a compiled query is made of, whatever its steps are. -/
theorem compile_eq_ok {q : Query} {wire : WireQuery}
    (h : registry.compile (.query q) = .ok wire) :
    ∃ wires last, expand registry q.vertex.steps = .ok wires ∧ final q.final = .ok last ∧
      wire = ⟨q.vertex.start.ids.map .text, wires ++ [last]⟩ := by
  obtain ⟨wires, hwires, h⟩ := Outcome.bind_eq_ok.1 h
  obtain ⟨last, hlast, h⟩ := Outcome.bind_eq_ok.1 h
  exact ⟨wires, last, hwires, hlast, (Except.ok.inj h).symm⟩

/-- **A compiled query**: the ids of its start, the derived wire steps of its steps, and
the wire step of its finalizer. -/
theorem query_ok (hregistry : registry.Built) {q : Query} {wire : WireQuery}
    (hquery : (Value.query q).Built) (h : registry.compile (.query q) = .ok wire) :
    ∃ wires last, Derives registry registry.size q.vertex.steps wires ∧
      final q.final = .ok last ∧ wire = ⟨q.vertex.start.ids.map .text, wires ++ [last]⟩ := by
  obtain ⟨wires, last, hwires, hlast, rfl⟩ := compile_eq_ok h
  exact ⟨wires, last, derives_of_expandAt hregistry hquery.shaped hwires, hlast, rfl⟩

/-- Without steps there is nothing to expand. -/
theorem expand_nil (registry : Registry) : expand registry [] = .ok [] := by
  rw [expand, expandAt_eq]
  rfl

end Compile

namespace Sample

theorem query_writable : query.final.Writable := by
  rintro n ⟨⟩
  exact Nat.lt_of_lt_of_le (by decide : 2 < 10 ^ 1) (Nat.pow_le_pow_right (by decide) (by decide))

/-- The wire query of a limit that has too many digits. -/
def hugeWire : WireQuery := ⟨[], [.wireStep Wire.limitOperation (.int huge)]⟩

theorem compile_upTo_huge (registry : Registry) :
    registry.compile (.query (upTo huge)) = .ok hugeWire := by
  rw [Registry.compile, Compile.query, upTo, Compile.expand_nil, Compile.final_of_pos huge_pos]
  rfl

theorem huge_not_writable : ¬(upTo huge).final.Writable := fun h =>
  Nat.lt_irrefl _ (h (10 ^ Json.digitLimit) rfl)

end Sample

end GraphPath
