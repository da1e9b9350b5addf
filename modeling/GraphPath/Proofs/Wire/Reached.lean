import GraphPath.Proofs.Registry
import Mathlib.Data.List.Chain
import Mathlib.Logic.Relation

/-!
# The steps that compilation reaches

Compiling steps leads to the steps of their sub-expressions and to the steps declared for
the names that they follow. Which steps that are is a least fixed point, and says nothing
of the order in which the compiler gets to them; an expansion is one way that it takes, with
the names followed on it.

* `Within` — steps and those of their sub-expressions;
* `Reached` — these, and the steps of followed names;
* `Refers` — a name whose declaration follows another one;
* `Expansion` — the ways of the compiler: distinct declared names, each followed by the
  steps of the one before, to steps that are reached.
-/

namespace GraphPath

/-- **A reference in a step**: the step follows the name, with the steps that it expects
there, if any. -/
def Step.References (s : Step) (name : Text) (expected : Option (List Value)) : Prop :=
  s.kind.family = .following ∧ .morphismRef ⟨.text name, expected⟩ ∈ s.operands

/-- **A step among others** or among the steps of their sub-expressions, at any depth. -/
inductive Within (l : List Step) : Step → Prop where
  | here {s : Step} (hmem : s ∈ l) : Within l s
  | inside {s t : Step} {v : Vertex} (hwithin : Within l s) (hoperand : .vertex v ∈ s.operands)
    (hmem : t ∈ v.steps) : Within l t

/-- **A step that is reached** from steps: one of them, one of a sub-expression, or one that
is declared for a followed name. -/
inductive Reached (registry : Registry) (l : List Step) : Step → Prop where
  | here {s : Step} (hmem : s ∈ l) : Reached registry l s
  -- a finalized operand is a query and no vertex, so its steps are not reached
  | inside {s t : Step} {v : Vertex} (hreached : Reached registry l s)
    (hoperand : .vertex v ∈ s.operands) (hmem : t ∈ v.steps) : Reached registry l t
  -- the steps of a name are reached whatever a reference expects of them
  | declared {s t : Step} {name : Text} {expected : Option (List Value)}
    {declared : List Step} (hreached : Reached registry l s) (href : s.References name expected)
    (hdeclared : registry.resolve? name = some declared) (hmem : t ∈ declared) :
    Reached registry l t

/-- A name that a reached step follows. -/
def ReachedName (registry : Registry) (l : List Step) (name : Text) : Prop :=
  ∃ s expected, Reached registry l s ∧ s.References name expected

/-- A declared name one of whose steps follows another name. -/
def Refers (registry : Registry) (name other : Text) : Prop :=
  ∃ declared s expected, registry.resolve? name = some declared ∧ Within declared s ∧
    s.References other expected

section Within

variable {registry : Registry} {l l' : List Step} {s : Step}

theorem Within.trans (h : Within l s) (hsub : ∀ t ∈ l, Within l' t) : Within l' s := by
  induction h with
  | here hmem => exact hsub _ hmem
  | inside _ hoperand hmem ih => exact .inside ih hoperand hmem

theorem Within.mono (h : Within l s) (hsub : l ⊆ l') : Within l' s :=
  h.trans fun _ ht => .here (hsub ht)

theorem not_within_nil : ¬ Within [] s := by
  intro h
  induction h with
  | here hmem => cases hmem
  | inside _ _ _ ih => exact ih

/-- A step among others is the first one, in a sub-expression of it, or among the rest. -/
theorem Within.cons_cases {t : Step} (h : Within (s :: l) t) :
    t = s ∨ (∃ v, .vertex v ∈ s.operands ∧ Within v.steps t) ∨ Within l t := by
  induction h with
  | here hmem =>
    rcases List.mem_cons.1 hmem with rfl | hmem
    · exact .inl rfl
    · exact .inr (.inr (.here hmem))
  | inside _ hoperand hmem ih =>
    rcases ih with rfl | ⟨v, hv, hwithin⟩ | hwithin
    · exact .inr (.inl ⟨_, hoperand, .here hmem⟩)
    · exact .inr (.inl ⟨v, hv, .inside hwithin hoperand hmem⟩)
    · exact .inr (.inr (.inside hwithin hoperand hmem))

/-- A step within a sub-expression of the first step. -/
theorem Within.of_vertex {t : Step} {v : Vertex} (h : Within v.steps t)
    (hoperand : .vertex v ∈ s.operands) : Within (s :: l) t :=
  h.trans fun _ ht => .inside (.here List.mem_cons_self) hoperand ht

end Within

/-! ### The ways of the compiler -/

/-- **A way of the compiler** from the steps `root`: the names that are followed on it, in
order and none twice, and the steps that it leads to. -/
inductive Expansion (registry : Registry) (root : List Step) : List Text → List Step → Prop where
  | start : Expansion registry root [] root
  -- a name that is on the way already is not followed again
  | follow {chain : List Text} {l declared : List Step} {s : Step} {name : Text}
    {expected : Option (List Value)} (hway : Expansion registry root chain l)
    (hwithin : Within l s) (href : s.References name expected) (hfresh : name ∉ chain)
    (hdeclared : registry.resolve? name = some declared) :
    Expansion registry root (chain ++ [name]) declared

namespace Expansion

variable {registry : Registry} {root l : List Step} {names : List Text}

/-- The names of a way are distinct and declared. -/
theorem chain (h : Expansion registry root names l) : registry.Chain names := by
  induction h with
  | start => exact .nil
  | follow _ _ _ hfresh hdeclared ih => exact ih.snoc hfresh hdeclared

end Expansion

end GraphPath
