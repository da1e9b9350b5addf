import GraphPath.Proofs.Wire.Offences
import GraphPath.Proofs.Wire.Validity

/-!
# Cycles that are reported

A fault that reports a cycle carries a chain of names. The compiler collects it on its way: a
name is put behind the chain where a declaration is expanded, and the last name of the chain is
the one that would be expanded a second time. So the chain can be followed from the query,
name by name, to a name that it has met before.

* `Step.Follows`, `Registry.LeadsTo` — references, from steps and from a declared name;
* `Registry.ClosesCycle` — names that lead from one to the next, and then back to one of them;
* `Compile.followed_cycle` — only a name under expansion is reported;
* `Registry.closesCycle_of_compile` — every chain that is reported closes a cycle.
-/

namespace GraphPath

/-! ### References -/

/-- **A step that follows a name**, either way. What a caller can build there is a reference made
from the name or from a morphism with it; of a step made by hand anything with a name counts. -/
def Step.Follows (s : Step) (name : Text) : Prop :=
  s.kind.family = .following ∧
    ∃ operand, s.operands.head? = some operand ∧ operand.part? "name" = some (.text name)

/-- **A declared name that leads to another one**: a step within its declared steps follows
that. -/
def Registry.LeadsTo (registry : Registry) (name other : Text) : Prop :=
  ∃ declared s, registry.resolve? name = some declared ∧ Within declared s ∧ s.Follows other

/-- **Names that close a cycle** behind steps. A step within the steps follows the first name,
each name is declared and leads to the next, they are distinct and no more than there are
declarations, and the last one leads to exactly one of them again, which may be any. -/
structure Registry.ClosesCycle (registry : Registry) (root : List Step) (names : List Text)
    (last : Text) : Prop where
  entered : ∃ first s, names.head? = some first ∧ Within root s ∧ s.Follows first
  links : (names ++ [last]).IsChain registry.LeadsTo
  distinct : names.Nodup
  closed : ∃! i : Nat, names[i]? = some last
  bounded : names.length ≤ registry.size

namespace Compile

variable {registry : Registry} {root l : List Step} {chain : List Text} {operand : Value}

/-- What a reference looks up is its part under `name`. -/
theorem referencedName_ok {value : Value} (h : referencedName operand = .ok value) :
    operand.part? "name" = some value := by
  unfold referencedName at h
  split at h
  · rename_i hpart
    rw [hpart, Except.ok.inj h]
  · cases h

theorem checkExpected_error {name : Text} {declared : List Step} {fault : Fault}
    (h : checkExpected operand name declared = .error fault) :
    fault = .path (.morphismMismatch name) ∨ ∃ error, fault = .usage error := by
  unfold checkExpected at h
  split at h
  · cases h
  · split at h
    · cases h
    · exact .inl (Except.error.inj h).symm
  · exact .inr ⟨_, (Except.error.inj h).symm⟩

/-- **Only a name under expansion is reported** as closing a cycle, behind the names that are. -/
theorem followed_cycle {cycle : List Text}
    (h : followed registry chain operand = .error (.path (.morphismCycle cycle))) :
    ∃ name ∈ chain, cycle = chain ++ [name] ∧ operand.part? "name" = some (.text name) := by
  rcases Outcome.bind_eq_error.1 h with hname | ⟨value, hname, hrest⟩
  -- an operand without a name is a usage error
  · unfold referencedName at hname
    split at hname <;> cases hname
  · cases value with
    | text name =>
      rw [followed_of_name hname] at h
      split at h
      · rename_i hmem
        cases h
        exact ⟨name, hmem, rfl, referencedName_ok hname⟩
      -- outside the chain a name is unknown, or its steps are not the expected ones
      · split at h
        · cases h
        · rcases Outcome.bind_eq_error.1 h with hcheck | ⟨_, -, h⟩
          · rcases checkExpected_error hcheck with hfault | ⟨_, hfault⟩ <;> cases hfault
          · cases h
    -- nothing else is a name, and what it is instead is no cycle
    | _ =>
      dsimp only at hrest
      split at hrest
      · cases hrest
      · obtain ⟨hcycle, -⟩ := Fault.ofError_eq_path_iff.1 (Except.error.inj hrest)
        cases hcycle

/-- A reference that leads somewhere follows its name. -/
theorem follows_of_followed {s : Step} {name : Text} {declared : List Step}
    (hkind : s.kind.family = .following) (hoperand : s.operands.head? = some operand)
    (h : followed registry chain operand = .ok (name, declared)) : s.Follows name := by
  obtain ⟨-, -, expected, rfl, -⟩ := followed_ok h
  exact ⟨hkind, _, hoperand, rfl⟩

/-- **The names under expansion lead on to one that is followed where they are**, beginning with
one that the first steps follow. -/
theorem leadsTo_of_calls {call : List Text × List Step}
    (hcalls : Relation.ReflTransGen (Calls registry) ([], root) call) {s : Step} {name : Text}
    (hwithin : Within call.2 s) (hfollows : s.Follows name) :
    (∃ first t, (call.1 ++ [name]).head? = some first ∧ Within root t ∧ t.Follows first) ∧
      (call.1 ++ [name]).IsChain registry.LeadsTo := by
  induction hcalls generalizing s name with
  | refl => exact ⟨⟨name, s, rfl, hwithin, hfollows⟩, .singleton _⟩
  | @tail outer inner _ hcall ih =>
    obtain ⟨t, operand, last, hwithin', hkind, hoperand, hfollowed, hchain⟩ := hcall
    obtain ⟨⟨first, u, hfirst, hentry⟩, hlinks⟩ :=
      ih hwithin' (follows_of_followed hkind hoperand hfollowed)
    -- the last name so far leads to the new one, through the step that follows it here
    have hlast : registry.LeadsTo last name :=
      ⟨inner.2, s, (followed_ok hfollowed).2.1, hwithin, hfollows⟩
    rw [hchain]
    refine ⟨⟨first, u, ?_, hentry⟩, ?_⟩
    · rw [List.head?_append, hfirst]
      rfl
    · rw [List.append_assoc, List.singleton_append, List.isChain_append_cons_cons]
      exact ⟨hlinks, hlast, .singleton _⟩

/-- **Every cycle that steps are reported for** is closed by its names. -/
theorem closesCycle_of_expand {cycle : List Text}
    (h : expand registry root = .error (.path (.morphismCycle cycle))) :
    ∃ names last, cycle = names ++ [last] ∧ registry.ClosesCycle root names last := by
  have hoffence : .path (.morphismCycle cycle) ∈ offences registry [] root := by
    rw [← Outcome.fault?_eq_some, fault?_expand] at h
    exact List.mem_of_head? h
  obtain ⟨⟨names, here⟩, hcalls, hown | ⟨operand, hmet, hfollowed⟩⟩ :=
    exists_calls_of_mem_offences hoffence
  · exact absurd rfl (Own.ne_cycle (from_of_met hown) cycle)
  · obtain ⟨last, hmem, rfl, hpart⟩ := followed_cycle hfollowed
    obtain ⟨s, hwithin, hkind, hoperand⟩ := from_of_met hmet
    have hfollows : s.Follows last := ⟨hkind, operand, hoperand, hpart⟩
    have hchain : registry.Chain names := (expansion_of_calls hcalls).chain
    obtain ⟨⟨first, t, hfirst, hentry⟩, hlinks⟩ := leadsTo_of_calls hcalls hwithin hfollows
    refine ⟨names, last, rfl, ⟨first, t, ?_, hentry⟩, hlinks, hchain.distinct, ?_,
      hchain.length_le⟩
    · -- there are names in front of the last one, so the first one is among them
      rwa [List.head?_append_of_ne_nil _ (List.ne_nil_of_mem hmem)] at hfirst
    · obtain ⟨i, hi⟩ := List.mem_iff_getElem?.1 hmem
      refine ⟨i, hi, fun j hj => ?_⟩
      have hsame : names[j]? = names[i]? := by rw [hi]; exact hj
      exact (List.getElem?_inj (List.getElem?_eq_some_iff.1 hj).1 hchain.distinct).1 hsame

end Compile

namespace Registry

variable {registry : Registry}

/-- **Every chain that is reported closes a cycle.** Only a query has such a fault. Names that
the chain begins with lead from one to the next, starting with one that a step of the query
follows, at any depth of sub-expressions, and then to one of them again. -/
theorem closesCycle_of_compile {expression : Value} {chain : List Text}
    (h : registry.compile expression = .error (.path (.morphismCycle chain))) :
    ∃ q names last, expression = .query q ∧ chain = names ++ [last] ∧
      registry.ClosesCycle q.vertex.steps names last := by
  cases expression with
  | query q =>
    rcases Outcome.bind_eq_error.1 h with hsteps | ⟨_, -, h⟩
    · obtain ⟨names, last, hchain, hcloses⟩ := Compile.closesCycle_of_expand hsteps
      exact ⟨q, names, last, rfl, hchain, hcloses⟩
    -- the fault of a finalizer is about its limit
    · rcases Outcome.bind_eq_error.1 h with hfinal | ⟨_, -, h⟩
      · obtain ⟨_, -, hlimit, -⟩ := Compile.final_error hfinal
        obtain ⟨hcycle, -⟩ := Fault.ofError_eq_path_iff.1 hlimit.symm
        cases hcycle
      · cases h
  | _ => cases h

/-- The second name of the sample leads to the first one, which leads to itself. -/
theorem closesCycle_of_compile_sample :
    Sample.circular.compile (.query Sample.roundabout)
      = .error (.path (.morphismCycle ["near", "far", "far"])) ∧
    Sample.circular.ClosesCycle [Sample.entry] ["near", "far"] "far" := by
  have hcompiled : Sample.circular.compile (.query Sample.roundabout)
      = .error (.path (.morphismCycle ["near", "far", "far"])) := rfl
  obtain ⟨q, names, last, hquery, hchain, hcloses⟩ := closesCycle_of_compile hcompiled
  cases hquery
  have hsplit : [Sample.near.text, Sample.far.text] ++ [Sample.far.text] = names ++ [last] := hchain
  obtain ⟨rfl, hlast⟩ := List.append_inj' hsplit rfl
  cases hlast
  exact ⟨hcompiled, hcloses⟩

end Registry

end GraphPath
