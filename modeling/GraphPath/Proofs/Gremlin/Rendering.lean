import GraphPath.Proofs.Gremlin.Arguments
import GraphPath.Proofs.Wire.Derivation

/-!
# The program of a compiled query

The detour over the wire loses nothing that the program text needs: the program of a
compiled query is the text that one recursion over the expression writes.

* `Gremlin.steps_of_derives` — the calls of derived wire steps;
* `Gremlin.step_final` — the call of a finalizer;
* `Gremlin.toGremlin_compile` — the program of a compiled query.
-/

namespace GraphPath.Gremlin

variable {registry : Registry}

/-- **The calls of derived wire steps** are those of the steps. The induction is on the
derivation, so a followed name has the calls of its own, shallower derivation. -/
theorem steps_of_derives {depth : Nat} {l : List Step} {wires : List Json}
    (h : Derives registry depth l wires) :
    steps wires = .ok (Program.stepsAt registry depth l) := by
  induction h with
  | nil => rfl
  | plain hplain _ ih =>
    rw [steps, step_plainWire hplain, ih]
    rfl
  | through hkind tags _ _ ihSteps ih =>
    rw [steps, step_throughWire hkind tags ihSteps, ih]
    rfl
  | combine hkind _ _ ihSteps ih =>
    rw [steps, step_combineWire hkind ihSteps, ih]
    rfl
  | @follow depth kind name expected declared rest inner wires hkind hdeclared _ _ _ ihInner ih =>
    -- the name stands for its declared steps, to a depth that is smaller by one
    have hfollowed : steps inner = .ok (Program.followedAt registry (depth + 1) name.text) := by
      rw [ihInner, Program.followedAt, hdeclared]
      rfl
    rw [steps, step_followWire hkind hfollowed, ih]
    rfl

theorem steps_append (before after : List Json) :
    steps (before ++ after) = (do
      let text ← steps before
      .ok (text ++ (← steps after))) := by
  -- on the steps in front: a fault among them hides those behind
  induction before with
  | nil => cases h : steps after <;> simp [steps, h, bind, Except.bind]
  | cons s before ih =>
    rw [List.cons_append, steps, steps, ih]
    cases step s <;> cases steps before <;> cases steps after <;>
      simp [bind, Except.bind]

/-- The call of a limit is that of its literal. -/
theorem step_limit (n : Int) : step (.wireStep Wire.limitOperation (.int n))
    = (literalOf (.int n)).map fun text : Text => ".GetLimit(" ++ text ++ ")" := by
  have hcall : step (.wireStep Wire.limitOperation (.int n))
      = (do
        let text ← literalOf (.int n)
        .ok ("." ++ call Wire.limitOperation ++ "(" ++ text ++ ")")) := rfl
  rw [hcall]
  cases literalOf (.int n) <;> rfl

/-- **The call of a finalizer**, if the finalizer can be written. -/
theorem step_final {final : Final} {wire : Json} (h : Compile.final final = .ok wire)
    (hwritable : final.Writable) : step wire = .ok (Program.final final) := by
  have hsmall := (Compile.final_hasOversized_iff h).2 hwritable
  -- every result, or so many of them
  obtain ⟨rfl, rfl⟩ | ⟨n, -, rfl, rfl⟩ := Compile.final_ok h
  · rfl
  · have hliteral : literalOf (.int n) = .ok (Text.ofInt n) := by
      rw [literalOf, Json.write_of_small (Json.hasOversized_wireStep.1 hsmall)]
      rfl
    rw [step_limit, hliteral]
    rfl

/-- There is no call of a finalizer that cannot be written. -/
theorem step_final_unwritable {final : Final} {wire : Json} (h : Compile.final final = .ok wire)
    (hwritable : ¬final.Writable) : step wire = .error (.unwritable .tooManyDigits) := by
  have hlarge := mt (Compile.final_hasOversized_iff h).1 hwritable
  obtain ⟨rfl, rfl⟩ | ⟨n, -, rfl, rfl⟩ := Compile.final_ok h
  · exact absurd nofun hwritable
  · have hliteral : literalOf (.int n) = .error (.unwritable .tooManyDigits) := by
      rw [literalOf, Json.write_of_large
        (eq_true_of_ne_false (mt Json.hasOversized_wireStep.2 hlarge))]
      rfl
    rw [step_limit, hliteral]
    rfl

section Derived

variable {q : Query} {jsons : List Json} {last : Json} {depth : Nat}

/-- The program of derived wire steps ends with the call of the step behind them. -/
theorem toGremlin_eq_step (hderives : Derives registry depth q.vertex.steps jsons) :
    (⟨q.vertex.start.ids.map .text, jsons ++ [last]⟩ : WireQuery).toGremlin
      = (step last).map (Program.start q.vertex.start.ids
          ++ Program.stepsAt registry depth q.vertex.steps ++ ·) := by
  -- the derived steps have their calls, so only the last one can fail
  have hsteps : steps (jsons ++ [last])
      = (step last).map (Program.stepsAt registry depth q.vertex.steps ++ ·) := by
    rw [steps_append, steps_of_derives hderives, steps, steps]
    cases step last <;> simp [bind, Except.bind, Except.map]
  rw [WireQuery.toGremlin, hsteps, start_texts]
  cases step last <;> simp [bind, Except.bind, Except.map]

/-- The program of derived wire steps with that of a finalizer behind them. -/
theorem toGremlin_of_derives (hderives : Derives registry depth q.vertex.steps jsons)
    (hlast : Compile.final q.final = .ok last) (hwritable : q.final.Writable) :
    (⟨q.vertex.start.ids.map .text, jsons ++ [last]⟩ : WireQuery).toGremlin
      = .ok (Program.query registry depth q) := by
  rw [toGremlin_eq_step hderives, step_final hlast hwritable]
  rfl

/-- Without the call of a finalizer there is no program. -/
theorem toGremlin_of_derives_unwritable (hderives : Derives registry depth q.vertex.steps jsons)
    (hlast : Compile.final q.final = .ok last) (hwritable : ¬q.final.Writable) :
    (⟨q.vertex.start.ids.map .text, jsons ++ [last]⟩ : WireQuery).toGremlin
      = .error (.unwritable .tooManyDigits) := by
  rw [toGremlin_eq_step hderives, step_final_unwritable hlast hwritable, Except.map]

end Derived

section Compiled

variable {q : Query} {wire : WireQuery}

/-- A query whose finalizer can be written has a program. -/
theorem program_of_compile {depth : Nat} (hregistry : registry.Built)
    (hquery : (Value.query q).Built) (hdepth : registry.size ≤ depth)
    (h : registry.compile (.query q) = .ok wire) (hwritable : q.final.Writable) :
    wire.toGremlin = .ok (Program.query registry depth q) := by
  obtain ⟨jsons, last, hderives, hlast, rfl⟩ := Compile.query_ok hregistry hquery h
  -- the compiler expands to the size of the registry, which is deep enough
  exact toGremlin_of_derives (hderives.mono hdepth) hlast hwritable

/-- A limit with too many digits has none. -/
theorem no_program_of_compile (hregistry : registry.Built) (hquery : (Value.query q).Built)
    (h : registry.compile (.query q) = .ok wire) (hwritable : ¬q.final.Writable) :
    wire.toGremlin = .error (.unwritable .tooManyDigits) := by
  obtain ⟨jsons, last, hderives, hlast, rfl⟩ := Compile.query_ok hregistry hquery h
  exact toGremlin_of_derives_unwritable hderives hlast hwritable

end Compiled

/-- **The program of a compiled query** is the text that one recursion over the expression
writes, to any depth that the registry can need, unless its limit has too many digits to be
written; then it has no program. -/
theorem toGremlin_compile {q : Query} {wire : WireQuery} {depth : Nat}
    (hregistry : registry.Built) (hquery : (Value.query q).Built)
    (hdepth : registry.size ≤ depth) (h : registry.compile (.query q) = .ok wire) :
    (q.final.Writable → wire.toGremlin = .ok (Program.query registry depth q)) ∧
      (¬q.final.Writable → wire.toGremlin = .error (.unwritable .tooManyDigits)) :=
  ⟨program_of_compile hregistry hquery hdepth h, no_program_of_compile hregistry hquery h⟩

/-- The program of the sample. -/
theorem toGremlin_compile_sample :
    ∃ wire, Sample.registry.compile (.query Sample.query) = .ok wire ∧
      wire.toGremlin = .ok ("g.V(\"A\\\"\").Follow(g.M().Out(\"likes\")).Is(\"B\")"
        ++ ".Or(g.V().Out(null,\"t\")).GetLimit(2)" : String) :=
  ⟨_, rfl, (toGremlin_compile Sample.registry_built Sample.query_built (Nat.le_refl 1) rfl).1
    Sample.query_writable⟩

/-- **A query whose limit has too many digits** compiles and has no program. -/
theorem toGremlin_huge :
    (Value.query (Sample.upTo Sample.huge)).Built ∧
      Registry.empty.compile (.query (Sample.upTo Sample.huge)) = .ok Sample.hugeWire ∧
      Sample.hugeWire.toGremlin = .error (.unwritable .tooManyDigits) := by
  have hcompile := Sample.compile_upTo_huge Registry.empty
  exact ⟨Sample.upTo_built _, hcompile,
    no_program_of_compile .empty (Sample.upTo_built _) hcompile Sample.huge_not_writable⟩

end GraphPath.Gremlin
