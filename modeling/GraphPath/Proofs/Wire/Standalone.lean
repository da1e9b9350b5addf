import GraphPath.Proofs.Wire.Extension
import GraphPath.Proofs.Wire.Validity
import Mathlib.Data.List.Forall2

/-!
# Expansion stands alone

What a reference or a sub-expression compiles to does not depend on where it stands. The
compiler carries the names under expansion along, and they only decide whether it refuses:
behind fewer names and at a greater depth, everything that compiled compiles to the same wire
steps. So the wire steps that a following step holds are those of the declared steps on their
own, and those that a sub-expression holds are those of its vertex on its own.

* `Registry.Expands` — the wire steps of steps on their own;
* `Compile.agree_expandAt_of_subset`, `Compile.expand_of_expandAt` — neither the names under
  expansion nor the depth show in what compiles;
* `Renders` — a step and the wire step in its place, at any depth;
* `Registry.Standalone` — what a wire step holds is what its parts expand to on their own;
* `Registry.expands_standalone` — this holds in every place, and references to one name hold
  one list.
-/

namespace GraphPath

/-! ### Names under expansion do not show -/

namespace Compile

variable {registry : Registry}

/-- A reference expands alike behind fewer names, or fails. -/
theorem agree_expandReference_of_subset {chain chain' : List Text}
    {body body' : List Text → List Step → Except Fault (List Json)} (hchain : chain' ⊆ chain)
    (hbody : ∀ name declared,
      Agree (fun _ => True) (body (chain ++ [name]) declared) (body' (chain' ++ [name]) declared))
    (operand : Value) :
    Agree (fun _ => True) (expandReference registry chain body operand)
      (expandReference registry chain' body' operand) := by
  by_cases hname : ∃ name, referencedName operand = .ok (.text name)
  · obtain ⟨name, hname⟩ := hname
    rw [expandReference_of_name hname, expandReference_of_name hname]
    by_cases hmem : name ∈ chain
    -- a cycle behind the longer chain is a fault, so there is nothing to keep
    · rw [if_pos hmem]
      exact .inr ⟨_, trivial, rfl⟩
    · have hmem' : name ∉ chain' := fun h => hmem (hchain h)
      rw [if_neg hmem, if_neg hmem']
      cases registry.resolve? name with
      | none => exact .refl _
      | some declared => exact (Agree.refl _).bind fun _ => hbody name declared
  · exact .inl (expandReference_of_no_name (not_exists.1 hname))

/-- **Expansion agrees** behind fewer names and at a greater depth, unless it fails. -/
theorem agree_expandAt_of_subset {depth depth' : Nat} {chain chain' : List Text} {l : List Step}
    (hdepth : depth ≤ depth') (hchain : chain' ⊆ chain) :
    Agree (fun _ => True) (expandAt registry depth chain l)
      (expandAt registry depth' chain' l) := by
  induction depth generalizing depth' chain chain' l with
  | zero =>
    rw [expandAt_eq, expandAt_eq]
    -- no reference expands when no expansion is left
    have hbody : ∀ name declared, Agree (fun _ => True)
        (bodyAt registry 0 (chain ++ [name]) declared)
        (bodyAt registry depth' (chain' ++ [name]) declared) :=
      fun _ _ => .inr ⟨_, trivial, rfl⟩
    exact agree_steps (agree_expandReference_of_subset hchain hbody) l
  | succ depth ih =>
    obtain ⟨left, rfl⟩ : ∃ left, depth' = left + 1 := ⟨depth' - 1, by omega⟩
    rw [expandAt_eq, expandAt_eq]
    have hbody : ∀ name declared, Agree (fun _ => True)
        (bodyAt registry (depth + 1) (chain ++ [name]) declared)
        (bodyAt registry (left + 1) (chain' ++ [name]) declared) := by
      intro name declared
      -- both chains grow by the same name
      have hlonger : chain' ++ [name] ⊆ chain ++ [name] :=
        List.append_subset.2 ⟨fun _ h => List.mem_append_left _ (hchain h),
          List.subset_append_right _ _⟩
      exact ih (Nat.le_of_succ_le_succ hdepth) hlonger
    exact agree_steps (agree_expandReference_of_subset hchain hbody) l

/-- **What expands in some place expands alike on its own**, whatever names are under
expansion there and however much depth is left. -/
theorem expand_of_expandAt {depth : Nat} {chain : List Text} {l : List Step}
    {wires : List Json} (h : expandAt registry depth chain l = .ok wires) :
    expand registry l = .ok wires := by
  -- the depth may be less or more than the size, and the larger one serves for both
  have hlarge : expandAt registry (max depth registry.size) [] l = .ok wires := by
    rcases agree_expandAt_of_subset (l := l) (Nat.le_max_left depth registry.size)
      (List.nil_subset chain) with heq | ⟨fault, -, hfault⟩
    · rw [← heq, h]
    · rw [h] at hfault
      cases hfault
  rw [← Registry.expandAt_of_size_le (Nat.le_max_right depth registry.size) l, hlarge]

end Compile

/-! ### Expanding on its own -/

/-- The steps of an expression. -/
def Value.steps? : Value → Option (List Step)
  | .path p => some p.steps
  | .morphism m => some m.steps
  | .vertex v => some v.steps
  | .query q => some q.vertex.steps
  | _ => none

/-- The steps of a built expression are shaped. -/
theorem Value.Built.shaped_steps {value : Value} {l : List Step} (h : value.Built)
    (hsteps : value.steps? = some l) : Shaped l := by
  have hsound : value.Sound := h.sound
  unfold Value.steps? at hsteps
  split at hsteps
  · exact Option.some.inj hsteps ▸ hsound
  · exact Option.some.inj hsteps ▸ hsound
  · exact Option.some.inj hsteps ▸ hsound
  · exact Option.some.inj hsteps ▸ hsound
  · cases hsteps

namespace Registry

/-- **What steps expand to on their own**: the wire steps of a vertex that starts anywhere and
goes on with them. -/
def Expands (registry : Registry) (l : List Step) (wires : List Json) : Prop :=
  registry.compileRoute (.vertex ⟨.any, l⟩) = .ok ⟨[], wires⟩

variable {registry : Registry}

/-- **A vertex compiles to its ids and what its steps expand to.** -/
theorem compileRoute_eq_ok {v : Vertex} {wire : WireQuery} :
    registry.compileRoute (.vertex v) = .ok wire
      ↔ wire.start = v.start.ids.map .text ∧ Compile.expand registry v.steps = .ok wire.steps := by
  constructor
  · intro h
    obtain ⟨wires, hwires, hwire⟩ := Outcome.bind_eq_ok.1 h
    cases hwire
    exact ⟨rfl, hwires⟩
  · rintro ⟨hstart, hsteps⟩
    have hroute : registry.compileRoute (.vertex v) = .ok ⟨v.start.ids.map .text, wire.steps⟩ :=
      Outcome.bind_eq_ok.2 ⟨wire.steps, hsteps, rfl⟩
    rw [hroute, ← hstart]

theorem expands_iff {l : List Step} {wires : List Json} :
    registry.Expands l wires ↔ Compile.expand registry l = .ok wires := by
  rw [Expands, compileRoute_eq_ok]
  exact and_iff_right rfl

/-- What steps expand to is what the walk over them gives when no name is under expansion. -/
theorem expands_iff_steps {l : List Step} {wires : List Json} :
    registry.Expands l wires ↔ Compile.steps (Compile.expandReference registry []
      (Compile.bodyAt registry registry.size)) l = .ok wires := by
  rw [expands_iff, Compile.expand, Compile.expandAt_eq]

/-- Steps expand to one list. -/
theorem Expands.unique {l : List Step} {wires wires' : List Json}
    (h : registry.Expands l wires) (h' : registry.Expands l wires') : wires = wires' := by
  have hok : Compile.expand registry l = .ok wires := expands_iff.1 h
  rw [expands_iff.1 h'] at hok
  exact (Except.ok.inj hok).symm

end Registry

/-! ### Places in the output -/

/-- The list of wire steps that a wire step holds, as its operand or as the first of two. -/
def Json.inner? : Json → Option (List Json)
  | .object [(_, .array (.array inner :: _))] => some inner
  | .object [(_, .array inner)] => some inner
  | _ => none

/-- **A step and the wire step in its place.** Either they stand at one position of the steps
and the wire steps; or they are so placed in a sub-expression of a step that is, and the list
that its wire step holds behind the head; or in the declaration of a followed name, and the
list that the wire step holds. -/
inductive Renders (registry : Registry) : List Step → List Json → Step → Json → Prop where
  | here {l : List Step} {wires : List Json} {s : Step} {w : Json}
    (hplace : (s, w) ∈ l.zip wires) : Renders registry l wires s w
  | inside {l : List Step} {wires inner : List Json} {s t : Step} {w u head : Json} {v : Vertex}
    (hplace : (s, w) ∈ l.zip wires) (hoperand : .vertex v ∈ s.operands)
    (hinner : w.inner? = some (head :: inner)) (hdeeper : Renders registry v.steps inner t u) :
    Renders registry l wires t u
  | followed {l declared : List Step} {wires inner : List Json} {s t : Step} {w u : Json}
    {name : Text} {expected : Option (List Value)} (hplace : (s, w) ∈ l.zip wires)
    (href : s.References name expected) (hdeclared : registry.resolve? name = some declared)
    (hinner : w.inner? = some inner) (hdeeper : Renders registry declared inner t u) :
    Renders registry l wires t u

/-- **A wire step that stands alone**: a following one holds what the declared steps expand
to on their own, and one with a sub-expression holds its head and what its steps do. -/
structure Registry.Standalone (registry : Registry) (s : Step) (w : Json) : Prop where
  follows : ∀ name expected, s.References name expected → ∃ declared inner,
    registry.resolve? name = some declared ∧ registry.Expands declared inner ∧
      w = .wireStep s.kind.name (.array inner)
  combines : s.kind.family = .combining → ∀ v, .vertex v ∈ s.operands → ∃ inner,
    registry.Expands v.steps inner ∧
      w = .wireStep s.kind.name (.array (Compile.head v.start :: inner))
  -- the predicates that a sub-expression reaches may have tags behind them
  traverses : s.kind.isTraversal → ∀ v, .vertex v ∈ s.operands → ∃ inner tags,
    registry.Expands v.steps inner ∧ w = .wireStep s.kind.name
      (Compile.collapse (.array (Compile.head v.start :: inner) :: tags))

/-! ### Every place stands alone -/

/-- A step in front of shaped steps has its shape by itself. -/
theorem Shaped.of_cons {s : Step} {rest : List Step} (h : Shaped (s :: rest)) :
    Shaped [s] ∧ Shaped rest := by
  cases h with
  | plain hplain hrest => exact ⟨.plain hplain .nil, hrest⟩
  | through hkind tags hsteps hrest => exact ⟨.through hkind tags hsteps .nil, hrest⟩
  | throughQuery hkind q tags hrest => exact ⟨.throughQuery hkind q tags .nil, hrest⟩
  | combine hkind hsteps hrest => exact ⟨.combine hkind hsteps .nil, hrest⟩
  | combineQuery hkind q hrest => exact ⟨.combineQuery hkind q .nil, hrest⟩
  | follow hkind name expected hrest => exact ⟨.follow hkind name expected .nil, hrest⟩

/-- Steps one by one have the shape that they have together. -/
theorem Shaped.of_mem {l : List Step} {s : Step} (h : Shaped l) (hmem : s ∈ l) : Shaped [s] := by
  induction l with
  | nil => cases hmem
  | cons t rest ih =>
    obtain ⟨ht, hrest⟩ := h.of_cons
    rcases List.mem_cons.1 hmem with rfl | hmem
    · exact ht
    · exact ih hrest hmem

/-- A shaped step with a sub-expression traverses or combines, and the steps of the
sub-expression are shaped. -/
theorem Shaped.of_operand {s : Step} {v : Vertex} (h : Shaped [s])
    (hoperand : .vertex v ∈ s.operands) :
    (s.kind.isTraversal ∨ s.kind.family = .combining) ∧ Shaped v.steps := by
  cases h with
  | plain hplain => exact absurd hoperand ((Compile.plain_operands hplain).2.1 v)
  | through hkind tags hsteps =>
    rcases List.mem_pair.1 hoperand with hv | hv
    · cases hv
      exact ⟨.inl hkind, hsteps⟩
    · exact absurd hv ((Compile.ofTags?_ne tags).1 v)
  | throughQuery _ q tags =>
    rcases List.mem_pair.1 hoperand with hv | hv
    · cases hv
    · exact absurd hv ((Compile.ofTags?_ne tags).1 v)
  | combine hkind hsteps =>
    cases List.mem_singleton.1 hoperand
    exact ⟨.inr hkind, hsteps⟩
  | combineQuery => cases List.mem_singleton.1 hoperand
  | follow => cases List.mem_singleton.1 hoperand

namespace Compile

variable {registry : Registry} {expand : Value → Except Fault (List Json)}

/-- **Each wire step is that of the step in its place.** -/
theorem forall₂_of_steps {l : List Step} {wires : List Json} (h : steps expand l = .ok wires) :
    List.Forall₂ (fun s w => step expand s = .ok w) l wires := by
  induction l generalizing wires with
  | nil =>
    rw [steps] at h
    cases h
    exact .nil
  | cons s l ih =>
    obtain ⟨wire, others, hwire, hothers, rfl⟩ := steps_cons_ok.1 h
    exact .cons hwire (ih hothers)

/-- A wire step is an object under the name of its kind. -/
theorem wireStep_of_step {s : Step} {w : Json} (h : step expand s = .ok w) :
    ∃ operand, w = .wireStep s.kind.name operand := by
  obtain ⟨kind, values⟩ := s
  rw [step.eq_def] at h
  dsimp only at h
  split at h
  · obtain ⟨operands, -, h⟩ := Outcome.bind_eq_ok.1 h
    exact ⟨_, (Except.ok.inj h).symm⟩
  -- a combination and a reference have one operand
  · split at h
    · cases h
    · obtain ⟨inner, -, h⟩ := Outcome.bind_eq_ok.1 h
      exact ⟨_, (Except.ok.inj h).symm⟩
  · split at h
    · cases h
    · obtain ⟨inner, -, h⟩ := Outcome.bind_eq_ok.1 h
      exact ⟨_, (Except.ok.inj h).symm⟩

/-- **The wire step of a step stands alone.** -/
theorem standalone_of_step {s : Step} {w : Json} (hshaped : Shaped [s])
    (h : step (expandReference registry [] (bodyAt registry registry.size)) s = .ok w) :
    registry.Standalone s w := by
  cases hshaped with
  | plain hplain =>
    obtain ⟨hfamily, hvertex, -⟩ := plain_operands hplain
    refine ⟨fun name expected href => ?_, fun hkind => ?_, fun _ v hv => absurd hv (hvertex v)⟩
    · exact absurd href (not_references (by rw [hfamily]; exact nofun) name expected)
    · rw [hfamily] at hkind
      cases hkind
  | @through kind v rest hkind tags _ =>
    rw [step_through hkind] at h
    obtain ⟨inner, hinner, h⟩ := Outcome.bind_eq_ok.1 h
    have hfamily : kind.family = .selecting := StepKind.family_of_isTraversal hkind
    refine ⟨fun name expected href => ?_, fun hcombining => ?_, fun _ v' hv => ?_⟩
    · exact absurd href (not_references (by rw [hfamily]; exact nofun) name expected)
    · rw [hfamily] at hcombining
      cases hcombining
    · -- the sub-expression is the first operand, and the tags are none
      rcases List.mem_pair.1 hv with hv | hv
      · cases hv
        refine ⟨inner, dropOmitted [(Value.ofTags? tags).encoded],
          Registry.expands_iff_steps.2 hinner, ?_⟩
        rw [← Except.ok.inj h, Step.throughWire, dropOmitted_array]
      · exact absurd hv ((ofTags?_ne tags).1 v')
  | throughQuery hkind q tags =>
    rw [step_throughQuery hkind] at h
    cases h
  | @combine kind v _ hkind _ =>
    rw [step_combine hkind] at h
    obtain ⟨inner, hinner, h⟩ := Outcome.bind_eq_ok.1 h
    refine ⟨fun name expected href => ?_, fun _ v' hv => ?_, fun htraversal => ?_⟩
    · exact absurd href (not_references (by rw [hkind]; exact nofun) name expected)
    · cases List.mem_singleton.1 hv
      exact ⟨inner, Registry.expands_iff_steps.2 hinner, (Except.ok.inj h).symm⟩
    · exact absurd htraversal (StepKind.not_isTraversal_of_combining hkind)
  | combineQuery hkind q =>
    rw [step_combineQuery hkind] at h
    cases h
  | @follow kind _ hkind name expected _ =>
    rw [step_follow hkind] at h
    obtain ⟨inner, hinner, h⟩ := Outcome.bind_eq_ok.1 h
    obtain ⟨left, declared, -, -, hresolve, -, hbody⟩ := expandReference_ok hinner
    refine ⟨fun other values href => ?_, fun _ v hv => ?_, fun _ v hv => ?_⟩
    -- the names that are under expansion there do not show in what the declaration expands to
    · cases List.mem_singleton.1 href.2
      exact ⟨declared, inner, hresolve, Registry.expands_iff.2 (expand_of_expandAt hbody),
        (Except.ok.inj h).symm⟩
    · cases List.mem_singleton.1 hv
    · cases List.mem_singleton.1 hv

/-- Wire steps are objects. -/
theorem wireSteps_of_steps {l : List Step} {wires : List Json} (h : steps expand l = .ok wires) :
    ∀ w ∈ wires, ∃ name operand, w = .wireStep name operand := by
  have hplaces := forall₂_of_steps h
  clear h
  induction hplaces with
  | nil => exact nofun
  | cons hstep _ ih =>
    intro w hw
    rcases List.mem_cons.1 hw with rfl | hw
    · exact ⟨_, wireStep_of_step hstep⟩
    · exact ih w hw

end Compile

/-! ### The lists that wire steps hold -/

theorem Json.inner?_followed {name : Text} {inner : List Json}
    (h : ∀ w ∈ inner, ∃ op operand, w = .wireStep op operand) :
    (Json.wireStep name (.array inner)).inner? = some inner := by
  cases inner with
  | nil => rfl
  | cons w rest =>
    obtain ⟨op, operand, rfl⟩ := h w List.mem_cons_self
    rfl

theorem Json.inner?_headed (name : Text) (start : NodeSelector) (inner behind : List Json) :
    (Json.wireStep name (Compile.collapse (.array (Compile.head start :: inner) :: behind))).inner?
      = some (Compile.head start :: inner) := by
  cases behind <;> rfl

namespace Registry

variable {registry : Registry}

/-- The list of a wire step with a sub-expression. -/
theorem Standalone.inner?_of_vertex {s : Step} {w : Json} {v : Vertex}
    (h : registry.Standalone s w) (hshaped : Shaped [s]) (hoperand : .vertex v ∈ s.operands) :
    ∃ inner, registry.Expands v.steps inner ∧
      w.inner? = some (Compile.head v.start :: inner) := by
  rcases (hshaped.of_operand hoperand).1 with htraversal | hcombining
  · obtain ⟨inner, tags, hinner, rfl⟩ := h.traverses htraversal v hoperand
    exact ⟨inner, hinner, Json.inner?_headed _ _ _ _⟩
  · obtain ⟨inner, hinner, rfl⟩ := h.combines hcombining v hoperand
    exact ⟨inner, hinner, Json.inner?_headed _ _ _ []⟩

/-- The list of a wire step that follows a name. -/
theorem Standalone.inner?_of_references {s : Step} {w : Json} {name : Text}
    {expected : Option (List Value)} {declared : List Step} (h : registry.Standalone s w)
    (href : s.References name expected) (hdeclared : registry.resolve? name = some declared) :
    ∃ inner, registry.Expands declared inner ∧ w.inner? = some inner := by
  obtain ⟨declared', inner, hdeclared', hinner, rfl⟩ := h.follows name expected href
  cases hdeclared'.symm.trans hdeclared
  have hwires := Compile.wireSteps_of_steps (expands_iff_steps.1 hinner)
  exact ⟨inner, hinner, Json.inner?_followed hwires⟩

/-- **Every place stands alone.** The lists on the way to a place are expansions on their own,
so it is as if the place were at the top. -/
theorem standalone_of_renders (hregistry : registry.Built) {l : List Step} {wires : List Json}
    {s : Step} {w : Json} (hplace : Renders registry l wires s w) (hshaped : Shaped l)
    (h : registry.Expands l wires) : registry.Standalone s w := by
  -- a place at the top is one of the steps, and what it holds is as if it stood alone
  have htop : ∀ {l : List Step} {wires : List Json} {s : Step} {w : Json}, Shaped l →
      registry.Expands l wires → (s, w) ∈ l.zip wires → Shaped [s] ∧ registry.Standalone s w := by
    intro l wires s w hshaped h hplace
    have hs : Shaped [s] := hshaped.of_mem (List.of_mem_zip hplace).1
    have hstep := List.forall₂_zip (Compile.forall₂_of_steps (expands_iff_steps.1 h)) hplace
    exact ⟨hs, Compile.standalone_of_step hs hstep⟩
  -- on the way to the place, one list deeper at a time
  induction hplace with
  | here hplace => exact (htop hshaped h hplace).2
  | inside hplace hoperand hinner _ ih =>
    obtain ⟨hs, hw⟩ := htop hshaped h hplace
    obtain ⟨inner', hexpands, hinner'⟩ := hw.inner?_of_vertex hs hoperand
    cases hinner.symm.trans hinner'
    exact ih (hs.of_operand hoperand).2 hexpands
  | followed hplace href hdeclared hinner _ ih =>
    obtain ⟨hs, hw⟩ := htop hshaped h hplace
    obtain ⟨inner', hexpands, hinner'⟩ := hw.inner?_of_references href hdeclared
    cases hinner.symm.trans hinner'
    exact ih (hregistry.shaped hdeclared) hexpands

/-- **The steps of a built expression and what they expand to.** -/
structure Output (registry : Registry) (l : List Step) (wires : List Json) : Prop where
  built : ∃ value : Value, value.Built ∧ value.steps? = some l
  expands : registry.Expands l wires

theorem Output.shaped {l : List Step} {wires : List Json} (h : registry.Output l wires) :
    Shaped l := by
  obtain ⟨value, hvalue, hsteps⟩ := h.built
  exact hvalue.shaped_steps hsteps

/-- **Expansion stands alone.** A vertex compiles to its ids and what its steps expand to;
wherever a step stands in some output, its wire step holds what its parts expand to on their
own; two references to one name hold one list, whatever outputs they are in; and names under
expansion, or the depth that is left, show in no output. -/
theorem expands_standalone (hregistry : registry.Built) :
    (∀ v wire, registry.compileRoute (.vertex v) = .ok wire ↔
      wire.start = v.start.ids.map .text ∧ registry.Expands v.steps wire.steps) ∧
    (∀ l wires, registry.Output l wires → wires.length = l.length ∧
      ∀ s w, Renders registry l wires s w → registry.Standalone s w) ∧
    (∀ l wires l' wires', registry.Output l wires → registry.Output l' wires' →
      ∀ s w s' w' name expected expected',
        Renders registry l wires s w → s.References name expected →
        Renders registry l' wires' s' w' → s'.References name expected' →
        ∃ inner, w = .wireStep s.kind.name (.array inner) ∧
          w' = .wireStep s'.kind.name (.array inner)) ∧
    (∀ depth chain l wires, Compile.expandAt registry depth chain l = .ok wires →
      registry.Expands l wires) := by
  have hplaces : ∀ l wires, registry.Output l wires →
      ∀ s w, Renders registry l wires s w → registry.Standalone s w :=
    fun l wires hout s w hplace =>
      standalone_of_renders hregistry hplace hout.shaped hout.expands
  refine ⟨fun v wire => ?_, fun l wires hout => ⟨?_, hplaces l wires hout⟩, ?_, ?_⟩
  · rw [compileRoute_eq_ok, expands_iff]
  · exact (Compile.forall₂_of_steps (expands_iff_steps.1 hout.expands)).length_eq.symm
  · intro l wires l' wires' hout hout' s w s' w' name expected expected' hw href hw' href'
    obtain ⟨declared, inner, hdeclared, hinner, rfl⟩ :=
      (hplaces l wires hout s w hw).follows name expected href
    obtain ⟨declared', inner', hdeclared', hinner', rfl⟩ :=
      (hplaces l' wires' hout' s' w' hw').follows name expected' href'
    -- the name has one declaration, and that expands to one list
    cases hdeclared'.symm.trans hdeclared
    cases hinner.unique hinner'
    exact ⟨inner, rfl, rfl⟩
  · exact fun depth chain l wires h => expands_iff.2 (Compile.expand_of_expandAt h)

end Registry

/-! ### A name that is followed in two places -/

namespace Sample

/-- A step that follows a name. -/
def follow (name : Name) : Step := ⟨.follow, [.morphismRef (.to name none)]⟩

/-- A name that is declared by following the one of the sample. -/
def knows : Name := ⟨"knows", by decide⟩

/-- The registry of the sample with one more name. -/
def chained : Registry :=
  registry.insert ⟨knows, [follow likes]⟩ (by decide)

/-- What follows the second name, whoever it starts from. -/
def acquainted : Vertex := ⟨.any, [follow knows]⟩

/-- The name of the sample, followed backwards. -/
def liked : Step := ⟨.followReverse, [.morphismRef (.to likes none)]⟩

/-- A conjunction with the sub-expression, and the name of the sample on its own. -/
def twice : Vertex := ⟨.any, [⟨.and, [.vertex acquainted]⟩, liked]⟩

/-- What the declared steps of the sample expand to. -/
def likesWires : List Json := [.wireStep StepKind.out.name (.text likes.text)]

/-- What the expression expands to. The name of the sample is followed at the top, and behind
the second name in the sub-expression. -/
def twiceWires : List Json :=
  [.wireStep StepKind.and.name (.array [Compile.head .any, .wireStep StepKind.follow.name
      (.array [.wireStep StepKind.follow.name (.array likesWires)])]),
    .wireStep StepKind.followReverse.name (.array likesWires)]

theorem chained_built : chained.Built := by
  have hempty : (Value.path ⟨[]⟩).Built :=
    .path noSteps_built (rfl : Path.ofValue (.tuple []) = .ok ⟨[]⟩)
  have hfollow : (Value.path ⟨[]⟩).method? "follow" = some (.step (.follow .follow)) := rfl
  have hpath : (Value.path ⟨[follow likes]⟩).Built :=
    .call hfollow hempty (.text likes.text) .null rfl
  have hdeclared : registry.declareValue (.text knows.text) (.path ⟨[follow likes]⟩)
      = .ok (chained, ⟨some knows, [follow likes]⟩) := rfl
  exact .declare registry_built hpath hdeclared

theorem anywhere_built : (Value.vertex ⟨.any, []⟩).Built :=
  .vertex (.selector (.nodes .any)) noSteps_built
    (rfl : Vertex.ofValues (.selector (.nodes .any)) (.tuple []) = .ok ⟨.any, []⟩)

theorem twice_built : (Value.vertex twice).Built := by
  have hfollow : (Value.vertex ⟨.any, []⟩).method? "follow" = some (.step (.follow .follow)) :=
    rfl
  have hand : (Value.vertex ⟨.any, []⟩).method? "and_" = some (.step (.combine .and)) := rfl
  have hinner : (Value.vertex acquainted).Built :=
    .call hfollow anywhere_built (.text knows.text) .null rfl
  have hcombined : (Value.vertex ⟨.any, [⟨.and, [.vertex acquainted]⟩]⟩).Built :=
    .call hand anywhere_built hinner .null rfl
  have hreverse : (Value.vertex ⟨.any, [⟨.and, [.vertex acquainted]⟩]⟩).method? "follow_reverse"
      = some (.step (.follow .followReverse)) := rfl
  exact .call hreverse hcombined (.text likes.text) .null rfl

theorem twice_output : chained.Output twice.steps twiceWires where
  built := ⟨.vertex twice, twice_built, rfl⟩
  expands := rfl

/-- The name of the sample behind the second name, in the sub-expression. -/
theorem twice_renders : Renders chained twice.steps twiceWires (follow likes)
    (.wireStep StepKind.follow.name (.array likesWires)) := by
  have hknows : (follow knows).References knows.text none := ⟨rfl, List.mem_cons_self⟩
  have hdeclared : Renders chained [follow likes]
      [.wireStep StepKind.follow.name (.array likesWires)] (follow likes)
      (.wireStep StepKind.follow.name (.array likesWires)) := .here List.mem_cons_self
  exact .inside List.mem_cons_self List.mem_cons_self rfl
    (.followed List.mem_cons_self hknows rfl rfl hdeclared)

end Sample

namespace Registry

/-- In the sample both references to one name hold one list, though one of them stands two
lists deep, and behind the second name it expands as it does on its own. -/
theorem expands_standalone_sample :
    Sample.twiceWires.length = 2 ∧
    Sample.chained.Standalone (Sample.follow Sample.likes)
      (.wireStep StepKind.follow.name (.array Sample.likesWires)) ∧
    (∃ inner, Json.wireStep StepKind.follow.name (.array Sample.likesWires)
        = .wireStep StepKind.follow.name (.array inner) ∧
      Json.wireStep StepKind.followReverse.name (.array Sample.likesWires)
        = .wireStep StepKind.followReverse.name (.array inner)) ∧
    Sample.chained.Expands [Sample.follow Sample.likes]
      [.wireStep StepKind.follow.name (.array Sample.likesWires)] := by
  obtain ⟨-, hplaces, hreferences, hchains⟩ := expands_standalone Sample.chained_built
  obtain ⟨hlength, hstandalone⟩ := hplaces _ _ Sample.twice_output
  have htop : Renders Sample.chained Sample.twice.steps Sample.twiceWires Sample.liked
      (.wireStep StepKind.followReverse.name (.array Sample.likesWires)) :=
    .here (List.mem_cons_of_mem _ List.mem_cons_self)
  have hfollow : (Sample.follow Sample.likes).References Sample.likes.text none :=
    ⟨rfl, List.mem_cons_self⟩
  have hliked : Sample.liked.References Sample.likes.text none := ⟨rfl, List.mem_cons_self⟩
  exact ⟨hlength, hstandalone _ _ Sample.twice_renders,
    hreferences _ _ _ _ Sample.twice_output Sample.twice_output _ _ _ _ _ _ _
      Sample.twice_renders hfollow htop hliked,
    hchains 2 [Sample.knows.text] _ _ rfl⟩

end Registry

end GraphPath
