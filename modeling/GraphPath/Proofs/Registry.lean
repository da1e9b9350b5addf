import GraphPath.Proofs.Path.Built
import GraphPath.Registry
import Mathlib.Data.List.Nodup
import Mathlib.Data.List.Perm.Subperm

/-!
# Registries that come about

A registry comes about by declaring and saving, starting from the empty one. What is
declared in it is then the steps of a built expression, and distinct declared names are
never more than its size.

* `Registry.Built` — the registries that declarations of built expressions make;
* `Registry.Built.shaped` — their steps are shaped;
* `Registry.resolve?_eq_some` — what a name has, by membership;
* `Registry.Chain`, `Registry.Chain.length_le` — distinct declared names, at most as many as
  declarations.
-/

namespace GraphPath.Registry

/-- **Registries that come about** by declaring and saving what callers can build. -/
inductive Built : Registry → Prop where
  | empty : Built .empty
  | declare {registry after : Registry} {name expression : Value} {m : Morphism}
    (hregistry : Built registry) (hexpression : expression.Built)
    (hdeclared : registry.declareValue name expression = .ok (after, m)) : Built after
  | save {registry after : Registry} {value : Value} {m : Morphism}
    (hregistry : Built registry) (hvalue : value.Built)
    (hsaved : registry.save value = .ok (after, m)) : Built after

/-! ### What a registration does -/

variable {registry after : Registry} {m : Morphism}

theorem declareValue_ok {name expression : Value}
    (h : registry.declareValue name expression = .ok (after, m)) :
    ∃ declared steps, stepsOf? expression = some steps ∧
      registry.declare declared steps = .ok (after, m) := by
  unfold declareValue at h
  -- the name, then the fragment, then the declaration
  split at h
  · split at h
    · split at h
      · cases h
        exact ⟨_, _, ‹_›, ‹_›⟩
      · cases h
    · cases h
  · cases h

theorem save_ok {value : Value} (h : registry.save value = .ok (after, m)) :
    ∃ name steps, value = .morphism ⟨some name, steps⟩ ∧
      registry.declare name steps = .ok (after, m) := by
  unfold save at h
  split at h
  · split at h
    · cases h
      exact ⟨_, _, rfl, ‹_›⟩
    · cases h
  · cases h

/-- A declaration leaves every name as it was, except the one that it gives its steps. -/
theorem resolve?_declare {name : Name} {steps declared : List Step} {other : Text}
    (h : registry.declare name steps = .ok (after, m))
    (hother : after.resolve? other = some declared) :
    declared = steps ∨ registry.resolve? other = some declared := by
  by_cases hname : name.text = other
  -- the declared name has the steps now, and every other name is as before
  · subst hname
    rw [resolve?_declare_self h] at hother
    exact .inl (Option.some.inj hother).symm
  · rw [resolve?_declare_of_ne h hname] at hother
    exact .inr hother

/-! ### Declared steps are shaped -/

theorem shaped_of_stepsOf? {expression : Value} {steps : List Step}
    (hexpression : expression.Built) (h : stepsOf? expression = some steps) :
    Shaped steps := by
  unfold stepsOf? at h
  split at h
  · exact Option.some.inj h ▸ hexpression.sound
  · exact Option.some.inj h ▸ hexpression.sound
  · cases h

/-- **Declared steps are shaped.** -/
theorem Built.shaped {name : Text} {declared : List Step} (hbuilt : registry.Built)
    (h : registry.resolve? name = some declared) : Shaped declared := by
  -- on how the registry came about: what a name has now was declared last or before
  induction hbuilt with
  | empty => cases h
  | declare _ hexpression hdeclared ih =>
    obtain ⟨_, steps, hsteps, hdeclare⟩ := declareValue_ok hdeclared
    rcases resolve?_declare hdeclare h with rfl | h
    · exact shaped_of_stepsOf? hexpression hsteps
    · exact ih h
  | save _ hvalue hsaved ih =>
    obtain ⟨_, steps, rfl, hdeclare⟩ := save_ok hsaved
    rcases resolve?_declare hdeclare h with rfl | h
    · exact hvalue.sound
    · exact ih h

/-! ### Counting names -/

/-- **A name has the steps of its declaration**, which is the only one under the name. -/
theorem resolve?_eq_some {name : Text} {steps : List Step} :
    registry.resolve? name = some steps ↔
      ∃ d ∈ registry.declarations, d.name.text = name ∧ d.steps = steps := by
  constructor
  · intro h
    obtain ⟨d, hfind, hsteps⟩ := Option.map_eq_some_iff.1 h
    exact ⟨d, List.mem_of_find?_eq_some hfind, by simpa using List.find?_some hfind, hsteps⟩
  · rintro ⟨d, hd, rfl, rfl⟩
    -- the first declaration under the name is this one, since names are distinct
    cases hfind : registry.find? d.name.text with
    | none => simpa using List.find?_eq_none.1 hfind d hd
    | some found =>
      have htext : found.name.text = d.name.text := by simpa using List.find?_some hfind
      have hname : found.name = d.name := by
        obtain ⟨⟨t, ht⟩, _⟩ := found
        obtain ⟨⟨u, hu⟩, _⟩ := d
        cases htext
        rfl
      rw [resolve?, hfind, List.inj_on_of_nodup_map registry.distinct
        (List.mem_of_find?_eq_some hfind) hd hname]
      rfl

/-- A name with steps is one of the declared names. -/
theorem mem_names_of_resolve? {name : Text} {declared : List Step}
    (h : registry.resolve? name = some declared) : name ∈ registry.names.map (·.text) := by
  obtain ⟨d, hd, rfl, -⟩ := resolve?_eq_some.1 h
  exact List.mem_map_of_mem (List.mem_map_of_mem hd)

/-- **A chain of names**: distinct ones, all of them declared. -/
structure Chain (registry : Registry) (names : List Text) : Prop where
  distinct : names.Nodup
  declared : ∀ name ∈ names, (registry.resolve? name).isSome

theorem Chain.nil : registry.Chain [] := ⟨List.nodup_nil, nofun⟩

/-- A chain with one more declared name. -/
theorem Chain.snoc {chain : List Text} {name : Text} {declared : List Step}
    (h : registry.Chain chain) (hfresh : name ∉ chain)
    (hdeclared : registry.resolve? name = some declared) : registry.Chain (chain ++ [name]) where
  distinct := by
    -- the name is none of those in front of it
    refine List.nodup_append.2 ⟨h.distinct, by simp, ?_⟩
    rintro a ha b hb rfl
    exact hfresh (List.mem_singleton.1 hb ▸ ha)
  declared other hother := by
    rcases List.mem_append.1 hother with hother | hother
    · exact h.declared other hother
    · rw [List.mem_singleton.1 hother, hdeclared]
      rfl

/-- **No chain is longer than the registry.** -/
theorem Chain.length_le {chain : List Text} (h : registry.Chain chain) :
    chain.length ≤ registry.size := by
  -- as a set, the chain is a part of the declared names
  have hsubset : chain ⊆ registry.names.map (·.text) := fun name hname => by
    obtain ⟨declared, hdeclared⟩ := Option.isSome_iff_exists.1 (h.declared name hname)
    exact mem_names_of_resolve? hdeclared
  simpa [names, size] using (h.distinct.subperm hsubset).length_le

end GraphPath.Registry

/-! ### A small registry and a query over it -/

namespace GraphPath.Sample

/-- A name of the sample. -/
def likes : Name := ⟨"likes", by decide⟩

/-- The steps that the sample declares: along the predicate of the same name. -/
def declared : List Step := [⟨.out, [.selector (.predicate likes), .null]⟩]

/-- One declaration. -/
def registry : Registry :=
  Registry.empty.insert ⟨likes, declared⟩ (by simp [Registry.names, Registry.empty])

/-- A sub-expression: anything that is reached in any way, under a tag. -/
def nested : Vertex := ⟨.any, [⟨.out, [.null, .selector (.tags (.one ⟨"t", by decide⟩))]⟩]⟩

/-- The steps of the sample query. -/
def steps : List Step :=
  [⟨.follow, [.morphismRef (.to likes (some declared))]⟩,
    ⟨.is, [.selector (.nodes (.many ⟨[⟨"B", by decide⟩], by decide⟩))]⟩,
    ⟨.union, [.vertex nested]⟩]

/-- A node with a quote in its id. -/
def start : NodeSelector := .one ⟨"A\"", by decide⟩

/-- A query that starts there, follows the declared morphism by its value, and combines with
the sub-expression. -/
def query : Query := ⟨⟨start, steps⟩, .getLimit (.int 2)⟩

theorem noSteps_built : (Value.tuple []).Built := .tuple (by simp)

theorem declared_built : (Value.path ⟨declared⟩).Built := by
  have hempty : (Value.path ⟨[]⟩).Built :=
    .path noSteps_built (rfl : Path.ofValue (.tuple []) = .ok ⟨[]⟩)
  have hout : (Value.path ⟨[]⟩).method? "out" = some (.step (.traverse .out)) := rfl
  exact .call hout hempty (.selector (.predicate likes)) .null rfl

theorem registry_built : registry.Built := by
  have hdeclared : Registry.empty.declareValue (.text likes.text) (.path ⟨declared⟩)
      = .ok (registry, ⟨some likes, declared⟩) := rfl
  exact .declare .empty declared_built hdeclared

/-- All of one node. -/
def allOf (id : Name) : Query := ⟨⟨.one id, []⟩, .all⟩

theorem allOf_built (id : Name) : (Value.query (allOf id)).Built := by
  have hstart : (Value.vertex ⟨.one id, []⟩).Built :=
    .vertex (.selector (.nodes (.one id))) noSteps_built
      (rfl : Vertex.ofValues (.selector (.nodes (.one id))) (.tuple []) = .ok ⟨.one id, []⟩)
  have hall : (Value.vertex ⟨.one id, []⟩).method? "all" = some .all := rfl
  exact .call hall hstart .null .null rfl

theorem nested_built : (Value.vertex nested).Built := by
  have hstart : (Value.vertex ⟨.any, []⟩).Built :=
    .vertex (.selector (.nodes .any)) noSteps_built
      (rfl : Vertex.ofValues (.selector (.nodes .any)) (.tuple []) = .ok ⟨.any, []⟩)
  have hout : (Value.vertex ⟨.any, []⟩).method? "out" = some (.step (.traverse .out)) := rfl
  exact .call hout hstart .null (.selector (.tags (.one ⟨"t", by decide⟩))) rfl

/-- The followed morphism, as a value. -/
theorem morphism_built : (Value.morphism ⟨some likes, declared⟩).Built := by
  have hempty : (Value.morphism ⟨some likes, []⟩).Built :=
    .morphism (.text likes.text) noSteps_built
      (rfl : Morphism.ofValues (.text likes.text) (.tuple []) = .ok ⟨some likes, []⟩)
  -- an empty morphism of the name, with the declared steps behind it
  exact .add hempty declared_built rfl

section

variable {start : NodeSelector}

/-- The sample query up to the followed morphism, from anywhere. -/
theorem followed_built : (Value.vertex ⟨start, steps.take 1⟩).Built := by
  have hstart : (Value.vertex ⟨start, []⟩).Built :=
    .vertex (.selector (.nodes start)) noSteps_built
      (rfl : Vertex.ofValues (.selector (.nodes start)) (.tuple []) = .ok ⟨start, []⟩)
  have hfollow : (Value.vertex ⟨start, []⟩).method? "follow" = some (.step (.follow .follow)) :=
    rfl
  exact .call hfollow hstart morphism_built .null rfl

theorem limited_built : (Value.query ⟨⟨start, steps⟩, .getLimit (.int 2)⟩).Built := by
  have his : (Value.vertex ⟨start, steps.take 1⟩).method? "is_" = some (.step .isNodes) := rfl
  have hkept : (Value.vertex ⟨start, steps.take 2⟩).Built :=
    .call his followed_built (.selector (.nodes (.many ⟨[⟨"B", by decide⟩], by decide⟩))) .null rfl
  have hunion : (Value.vertex ⟨start, steps.take 2⟩).method? "union"
      = some (.step (.combine .union)) := rfl
  have hcombined : (Value.vertex ⟨start, steps⟩).Built :=
    .call hunion hkept nested_built .null rfl
  have hlimit : (Value.vertex ⟨start, steps⟩).method? "get_limit" = some .getLimit := rfl
  exact .call hlimit hcombined (.int 2) .null rfl

end

theorem query_built : (Value.query query).Built := limited_built

/-- All nodes, up to a limit. -/
def upTo (limit : Int) : Query := ⟨⟨.any, []⟩, .getLimit (.int limit)⟩

theorem upTo_built (limit : Int) : (Value.query (upTo limit)).Built := by
  have hstart : (Value.vertex ⟨.any, []⟩).Built :=
    .vertex (.selector (.nodes .any)) noSteps_built
      (rfl : Vertex.ofValues (.selector (.nodes .any)) (.tuple []) = .ok ⟨.any, []⟩)
  exact .query hstart (.final (.getLimit (.int limit))) rfl

end GraphPath.Sample
