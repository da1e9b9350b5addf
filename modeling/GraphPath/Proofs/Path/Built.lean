import GraphPath.Path.Call
import GraphPath.Proofs.Outcome

/-!
# Built values

Which values a caller can come by: plain data, selectors, and what the operations of
expressions make of such values. A step is then one that an operation has made, never one
put together by hand, and so its operands fit its kind.

* `Value.Built` — the values that a caller can build;
* `Step.Plain`, `Shaped` — steps whose operands fit their kind, sub-expressions included;
* `Value.Built.sound` — built values hold shaped steps only;
* `Value.Built.shaped` — in particular the steps of a built query are shaped.
-/

namespace GraphPath

/-! ### Building -/

/-- **Values that a caller can build.** Steps come from the operations that make them; the
limit of a finalizer may be anything. -/
inductive Value.Built : Value → Prop where
  -- plain data and selectors
  | null : Built .null
  | bool (b : Bool) : Built (.bool b)
  | int (n : Int) : Built (.int n)
  | float (x : Binary64) : Built (.float x)
  | text (t : Text) : Built (.text t)
  | list {items : List Value} (hitems : ∀ item ∈ items, Built item) : Built (.list items)
  | tuple {items : List Value} (hitems : ∀ item ∈ items, Built item) : Built (.tuple items)
  | object {fields : List (Text × Value)} (hfields : ∀ field ∈ fields, Built field.2) :
    Built (.object fields)
  | selector (s : Selector) : Built (.selector s)
  -- a step comes from an operation that is offered under some name
  | step {name : Text} {method : StepMethod} {first second : Value} {s : Step}
    (hname : Method.ofName? name = some (.step method))
    (hfirst : Built first) (hsecond : Built second)
    (hmade : method.apply first second = .ok s) : Built (.step s)
  -- what the constructors of expressions accept
  | path {steps : Value} {p : Path} (hsteps : Built steps)
    (hmade : Path.ofValue steps = .ok p) : Built (.path p)
  | morphism {name steps : Value} {m : Morphism} (hname : Built name) (hsteps : Built steps)
    (hmade : Morphism.ofValues name steps = .ok m) : Built (.morphism m)
  | vertex {start steps : Value} {v : Vertex} (hstart : Built start) (hsteps : Built steps)
    (hmade : Vertex.ofValues start steps = .ok v) : Built (.vertex v)
  | query {vertex final : Value} {q : Query} (hvertex : Built vertex) (hfinal : Built final)
    (hmade : Query.ofValues vertex final = .ok q) : Built (.query q)
  | final (f : Final) : Built (.final f)
  -- operations on expressions
  | call {value first second result : Value} {name : Text} {method : Method}
    (hname : value.method? name = some method) (hvalue : Built value)
    (hfirst : Built first) (hsecond : Built second)
    (hmade : value.call method first second = .ok result) : Built result
  | add {left right result : Value} (hleft : Built left) (hright : Built right)
    (hmade : left.add right = .ok result) : Built result

/-! ### Shapes -/

/-- Traversals along one predicate, along those of a sub-expression, or along any. -/
def StepKind.isTraversal : StepKind → Bool
  | .out | .inn | .both => true
  | _ => false

/-- Traversals along any of several predicates. -/
def StepKind.isSetTraversal : StepKind → Bool
  | .outPredicates | .inPredicates | .bothPredicates => true
  | _ => false

/-- A predicate as an operand, perhaps left out. -/
def Value.ofPredicate? : Option Name → Value
  | none => .null
  | some name => .selector (.predicate name)

/-- Tags as an operand, perhaps left out. -/
def Value.ofTags? : Option TagSelector → Value
  | none => .null
  | some tags => .selector (.tags tags)

/-- A reference to a name, made from the name or from a morphism with these steps. -/
def MorphismRef.to (name : Name) (expected : Option (List Step)) : MorphismRef :=
  ⟨.text name.text, expected.map (·.map .step)⟩

/-- **A plain step**: its operands fit its kind, and none is a sub-expression or a
reference. -/
inductive Step.Plain : Step → Prop where
  | traverse {kind : StepKind} (hkind : kind.isTraversal) (predicate : Option Name)
    (tags : Option TagSelector) :
    Plain ⟨kind, [.ofPredicate? predicate, .ofTags? tags]⟩
  | traverseSet {kind : StepKind} (hkind : kind.isSetTraversal) (predicates : Names)
    (tags : Option TagSelector) :
    Plain ⟨kind, [.selector (.predicates predicates), .ofTags? tags]⟩
  | isNodes {nodes : NodeSelector} (hnodes : nodes ≠ .any) :
    Plain ⟨.is, [.selector (.nodes nodes)]⟩
  | has (predicate : Name) {nodes : NodeSelector} (hnodes : nodes ≠ .any) :
    Plain ⟨.has, [.selector (.predicate predicate), .selector (.nodes nodes)]⟩
  | tag (tags : TagSelector) : Plain ⟨.tag, [.selector (.tags tags)]⟩
  | back (tag : Name) : Plain ⟨.back, [.selector (.tags (.one tag))]⟩
  | save (predicate tag : Name) :
    Plain ⟨.save, [.selector (.predicate predicate), .selector (.tags (.one tag))]⟩

/-- **Shaped steps.** The operands of each fit its kind, and so do those of the steps of
every vertex among them. Each rule puts one step in front. -/
inductive Shaped : List Step → Prop where
  | nil : Shaped []
  -- no operand leads to further steps
  | plain {s : Step} {rest : List Step} (hplain : s.Plain) (hrest : Shaped rest) :
    Shaped (s :: rest)
  -- a sub-expression has shaped steps of its own, unless it is finalized
  | through {kind : StepKind} {v : Vertex} {rest : List Step} (hkind : kind.isTraversal)
    (tags : Option TagSelector) (hsteps : Shaped v.steps) (hrest : Shaped rest) :
    Shaped (⟨kind, [.vertex v, .ofTags? tags]⟩ :: rest)
  | throughQuery {kind : StepKind} {rest : List Step} (hkind : kind.isTraversal) (q : Query)
    (tags : Option TagSelector) (hrest : Shaped rest) :
    Shaped (⟨kind, [.query q, .ofTags? tags]⟩ :: rest)
  | combine {kind : StepKind} {v : Vertex} {rest : List Step}
    (hkind : kind.family = .combining) (hsteps : Shaped v.steps) (hrest : Shaped rest) :
    Shaped (⟨kind, [.vertex v]⟩ :: rest)
  | combineQuery {kind : StepKind} {rest : List Step} (hkind : kind.family = .combining)
    (q : Query) (hrest : Shaped rest) : Shaped (⟨kind, [.query q]⟩ :: rest)
  -- the expected steps are compared and never compiled, so they may have any shape
  | follow {kind : StepKind} {rest : List Step} (hkind : kind.family = .following)
    (name : Name) (expected : Option (List Step)) (hrest : Shaped rest) :
    Shaped (⟨kind, [.morphismRef (.to name expected)]⟩ :: rest)

theorem Shaped.append {before after : List Step} (hbefore : Shaped before)
    (hafter : Shaped after) : Shaped (before ++ after) := by
  induction hbefore with
  | nil => exact hafter
  | plain hplain _ ih => exact .plain hplain ih
  | through hkind tags hsteps _ _ ih => exact .through hkind tags hsteps ih
  | throughQuery hkind q tags _ ih => exact .throughQuery hkind q tags ih
  | combine hkind hsteps _ _ ih => exact .combine hkind hsteps ih
  | combineQuery hkind q _ ih => exact .combineQuery hkind q ih
  | follow hkind name expected _ ih => exact .follow hkind name expected ih

/-- The steps that a value holds are shaped: its own, or those among its items. -/
def Value.Sound : Value → Prop
  | .step s => Shaped [s]
  | .path p => Shaped p.steps
  | .morphism m => Shaped m.steps
  | .vertex v => Shaped v.steps
  | .query q => Shaped q.vertex.steps
  | .list items | .tuple items => ∀ s, .step s ∈ items → Shaped [s]
  | _ => True

/-! ### The operations that make a step -/

/-- An operation that is offered under some name makes steps of a kind that suits it. -/
def StepMethod.Offered : StepMethod → Prop
  | .traverse kind => kind.isTraversal
  | .traversePredicates kind => kind.isSetTraversal
  | .combine kind => kind.family = .combining
  | .follow kind => kind.family = .following
  | .isNodes | .has | .tag | .back | .save => True

theorem Method.offered_of_ofName? {name : Text} {method : StepMethod}
    (h : Method.ofName? name = some (.step method)) : method.Offered := by
  -- a name offers what stands in the table, so the table is checked entry by entry
  have htable : ∀ entry ∈ Method.table, ∀ m, entry.2 = .step m → m.Offered := by
    simp [Method.table, StepMethod.Offered, StepKind.isTraversal, StepKind.isSetTraversal,
      StepKind.family]
  obtain ⟨entry, hfind, hentry⟩ := Option.map_eq_some_iff.1 h
  exact htable entry (List.mem_of_find?_eq_some hfind) method hentry

namespace Step

theorem checkTags_ok {kind : StepKind} {required : Bool} {tags : Value} {u : Unit}
    (h : checkTags kind required tags = .ok u) :
    ∃ tags? : Option TagSelector, tags = .ofTags? tags? ∧ (required → tags?.isSome) := by
  unfold checkTags at h
  split at h
  · exact ⟨some _, rfl, fun _ => rfl⟩
  · cases required
    · exact ⟨none, rfl, nofun⟩
    · cases h
  · cases h

theorem checkNodes_ok {kind : StepKind} {nodes : Value} {u : Unit}
    (h : checkNodes kind nodes = .ok u) :
    ∃ named : NodeSelector, nodes = .selector (.nodes named) ∧ named ≠ .any := by
  unfold checkNodes at h
  split at h
  · exact ⟨_, rfl, nofun⟩
  · exact ⟨_, rfl, nofun⟩
  · cases h

theorem checkPredicate_ok {kind : StepKind} {predicate : Value} {u : Unit}
    (h : checkPredicate kind predicate = .ok u) :
    ∃ name : Name, predicate = .selector (.predicate name) := by
  unfold checkPredicate at h
  split at h
  · exact ⟨_, rfl⟩
  · cases h

theorem checkTag_ok {kind : StepKind} {tag : Value} {u : Unit}
    (h : checkTag kind tag = .ok u) : ∃ name : Name, tag = .selector (.tags (.one name)) := by
  unfold checkTag at h
  split at h
  · exact ⟨_, rfl⟩
  · cases h

/-- The step of a traversal, once its tags are checked. -/
theorem tagged_ok {kind : StepKind} {predicate tags : Value} {s : Step}
    (h : (do checkTags kind false tags; .ok ⟨kind, [predicate, tags]⟩) = Except.ok s) :
    ∃ tags?, s = ⟨kind, [predicate, .ofTags? tags?]⟩ := by
  obtain ⟨_, htags, h⟩ := Outcome.bind_eq_ok.1 h
  obtain ⟨tags?, rfl, -⟩ := checkTags_ok htags
  exact ⟨tags?, (Except.ok.inj h).symm⟩

/-- What a traversal accepts as its predicate is a predicate, perhaps left out, or a
sub-expression. -/
theorem traverse_ok {kind : StepKind} {predicate tags : Value} {s : Step}
    (h : traverse kind predicate tags = .ok s) :
    ((∃ name?, predicate = .ofPredicate? name?) ∨ (∃ v, predicate = .vertex v) ∨
        ∃ q, predicate = .query q) ∧
      ∃ tags?, s = ⟨kind, [predicate, .ofTags? tags?]⟩ := by
  unfold traverse at h
  dsimp only at h
  split at h
  · exact ⟨.inl ⟨none, rfl⟩, tagged_ok h⟩
  · exact ⟨.inl ⟨some _, rfl⟩, tagged_ok h⟩
  · exact ⟨.inr (.inl ⟨_, rfl⟩), tagged_ok h⟩
  · exact ⟨.inr (.inr ⟨_, rfl⟩), tagged_ok h⟩
  · cases h

theorem traversePredicates_ok {kind : StepKind} {predicates tags : Value} {s : Step}
    (h : traversePredicates kind predicates tags = .ok s) :
    ∃ names tags?, s = ⟨kind, [.selector (.predicates names), .ofTags? tags?]⟩ := by
  unfold traversePredicates at h
  dsimp only at h
  split at h
  · exact ⟨_, tagged_ok h⟩
  · cases h

/-- What a combination accepts is a sub-expression. -/
theorem combine_ok {kind : StepKind} {route : Value} {s : Step}
    (h : combine kind route = .ok s) :
    s = ⟨kind, [route]⟩ ∧ ((∃ v, route = .vertex v) ∨ ∃ q, route = .query q) := by
  unfold combine at h
  split at h
  · exact ⟨(Except.ok.inj h).symm, .inl ⟨_, rfl⟩⟩
  · exact ⟨(Except.ok.inj h).symm, .inr ⟨_, rfl⟩⟩
  · cases h

/-- What following accepts is a name, or a morphism with one. -/
theorem follow_ok {kind : StepKind} {morphism : Value} {s : Step}
    (h : follow kind morphism = .ok s) :
    ∃ name expected, s = ⟨kind, [.morphismRef (.to name expected)]⟩ := by
  unfold follow at h
  split at h
  rename_i name expected href
  split at h
  -- the name that is left is not empty; it is that of a morphism or was passed itself
  · split at href
    · rename_i m
      obtain ⟨hname, rfl⟩ := Prod.mk.inj href
      cases hm : m.name with
      | none => simp [hm, Value.ofName?] at hname
      | some n =>
        refine ⟨n, some m.steps, ?_⟩
        rw [← Except.ok.inj h, ← hname, hm]
        rfl
    · rename_i c rest _ _
      obtain ⟨rfl, rfl⟩ := Prod.mk.inj href
      exact ⟨⟨c :: rest, List.cons_ne_nil c rest⟩, none, (Except.ok.inj h).symm⟩
  · cases h

end Step

/-- **An operation makes shaped steps** when its first argument is sound; its second is
never a sub-expression. -/
theorem StepMethod.shaped_of_apply {method : StepMethod} {first second : Value} {s : Step}
    (hoffered : method.Offered) (hfirst : first.Sound)
    (h : method.apply first second = .ok s) : Shaped [s] := by
  cases method with
  | traverse kind =>
    obtain ⟨hpredicate, tags?, rfl⟩ := Step.traverse_ok h
    -- only a sub-expression brings steps of its own, and it is sound by assumption
    rcases hpredicate with ⟨name?, rfl⟩ | ⟨v, rfl⟩ | ⟨q, rfl⟩
    · exact .plain (.traverse hoffered name? tags?) .nil
    · exact .through hoffered tags? hfirst .nil
    · exact .throughQuery hoffered q tags? .nil
  | traversePredicates kind =>
    obtain ⟨names, tags?, rfl⟩ := Step.traversePredicates_ok h
    exact .plain (.traverseSet hoffered names tags?) .nil
  | isNodes =>
    obtain ⟨_, hnodes, h⟩ := Outcome.bind_eq_ok.1 h
    obtain ⟨nodes, rfl, hnamed⟩ := Step.checkNodes_ok hnodes
    rw [← Except.ok.inj h]
    exact .plain (.isNodes hnamed) .nil
  | has =>
    obtain ⟨_, hpredicate, h⟩ := Outcome.bind_eq_ok.1 h
    obtain ⟨_, hnodes, h⟩ := Outcome.bind_eq_ok.1 h
    obtain ⟨predicate, rfl⟩ := Step.checkPredicate_ok hpredicate
    obtain ⟨nodes, rfl, hnamed⟩ := Step.checkNodes_ok hnodes
    rw [← Except.ok.inj h]
    exact .plain (.has predicate hnamed) .nil
  | tag =>
    obtain ⟨_, htags, h⟩ := Outcome.bind_eq_ok.1 h
    obtain ⟨tags?, rfl, hsome⟩ := Step.checkTags_ok htags
    obtain ⟨tags, rfl⟩ := Option.isSome_iff_exists.1 (hsome rfl)
    rw [← Except.ok.inj h]
    exact .plain (.tag tags) .nil
  | back =>
    obtain ⟨_, htag, h⟩ := Outcome.bind_eq_ok.1 h
    obtain ⟨tag, rfl⟩ := Step.checkTag_ok htag
    rw [← Except.ok.inj h]
    exact .plain (.back tag) .nil
  | save =>
    obtain ⟨_, hpredicate, h⟩ := Outcome.bind_eq_ok.1 h
    obtain ⟨_, htag, h⟩ := Outcome.bind_eq_ok.1 h
    obtain ⟨predicate, rfl⟩ := Step.checkPredicate_ok hpredicate
    obtain ⟨tag, rfl⟩ := Step.checkTag_ok htag
    rw [← Except.ok.inj h]
    exact .plain (.save predicate tag) .nil
  | combine kind =>
    obtain ⟨rfl, ⟨v, rfl⟩ | ⟨q, rfl⟩⟩ := Step.combine_ok h
    · exact .combine hoffered hfirst .nil
    · exact .combineQuery hoffered q .nil
  | follow kind =>
    obtain ⟨name, expected, rfl⟩ := Step.follow_ok h
    exact .follow hoffered name expected .nil

/-! ### Built values are sound -/

/-- Steps taken from a sound value are shaped. -/
theorem Step.shaped_of_ofValues {owner : Text} {items : List Value} {steps : List Step}
    (hitems : ∀ s, .step s ∈ items → Shaped [s]) (h : Step.ofValues owner items = .ok steps) :
    Shaped steps := by
  induction items generalizing steps with
  | nil =>
    rw [← Except.ok.inj h]
    exact .nil
  | cons item items ih =>
    cases item with
    | step s =>
      obtain ⟨rest, hrest, h⟩ := Outcome.bind_eq_ok.1 h
      rw [← Except.ok.inj h]
      exact (hitems s List.mem_cons_self).append
        (ih (fun t ht => hitems t (List.mem_cons_of_mem _ ht)) hrest)
    | _ => cases h

theorem Step.shaped_of_ofValue {owner : Text} {value : Value} {steps : List Step}
    (hvalue : value.Sound) (h : Step.ofValue owner value = .ok steps) : Shaped steps := by
  obtain ⟨items, hitems, h⟩ := Outcome.bind_eq_ok.1 h
  refine shaped_of_ofValues (fun s hs => ?_) h
  unfold Value.elements at hitems
  split at hitems
  · cases hitems
    exact hvalue s hs
  · cases hitems
    exact hvalue s hs
  -- a dictionary and a text have texts as elements, never a step
  · cases hitems
    simp at hs
  · cases hitems
    simp at hs
  · cases hitems

/-- An operation called on a sound value gives a sound value. -/
theorem Value.sound_of_call {value first second result : Value} {name : Text} {method : Method}
    (hname : value.method? name = some method) (hvalue : value.Sound) (hfirst : first.Sound)
    (h : value.call method first second = .ok result) : result.Sound := by
  -- the operation is in the table, whichever of the three expressions offers it
  have hoffered : ∀ m, method = .step m → m.Offered := by
    rintro m rfl
    unfold method? at hname
    split at hname
    · exact Method.offered_of_ofName? hname
    · rename_i hm
      cases hname
      exact Method.offered_of_ofName? hm
    · rename_i hm
      cases hname
      exact Method.offered_of_ofName? hm
    · cases hname
  unfold call at h
  split at h
  -- a vertex, a path and a morphism get one more step behind their own
  · obtain ⟨s, hs, h⟩ := Outcome.bind_eq_ok.1 h
    cases h
    exact Shaped.append hvalue (StepMethod.shaped_of_apply (hoffered _ rfl) hfirst hs)
  · obtain ⟨s, hs, h⟩ := Outcome.bind_eq_ok.1 h
    cases h
    exact Shaped.append hvalue (StepMethod.shaped_of_apply (hoffered _ rfl) hfirst hs)
  · obtain ⟨s, hs, h⟩ := Outcome.bind_eq_ok.1 h
    cases h
    exact Shaped.append hvalue (StepMethod.shaped_of_apply (hoffered _ rfl) hfirst hs)
  -- a finalizer leaves the steps of the vertex as they are
  · cases h
    exact hvalue
  · obtain ⟨q, hq, h⟩ := Outcome.bind_eq_ok.1 h
    cases h
    unfold Vertex.getLimit at hq
    split at hq
    · cases hq
      exact hvalue
    · cases hq
  · cases h

/-- A path put behind a sound value gives a sound value. -/
theorem Value.sound_of_add {left right result : Value} (hleft : left.Sound)
    (hright : right.Sound) (h : left.add right = .ok result) : result.Sound := by
  unfold add at h
  split at h
  · cases h
    exact Shaped.append hleft hright
  · cases h
    exact Shaped.append hleft hright
  · cases h
    exact Shaped.append hleft hright
  · cases h

/-- **Built values are sound**: every step that a caller can come by is shaped. -/
theorem Value.Built.sound {value : Value} (h : value.Built) : value.Sound := by
  induction h with
  -- values that hold no steps
  | null | bool | int | float | text | object | selector | final => trivial
  | list _ ih => exact fun s hs => ih _ hs
  | tuple _ ih => exact fun s hs => ih _ hs
  -- what the constructors make of sound values
  | step hname _ _ hmade hfirst _ =>
    exact StepMethod.shaped_of_apply (Method.offered_of_ofName? hname) hfirst hmade
  | path _ hmade hsteps =>
    obtain ⟨steps, hsteps', hmade⟩ := Outcome.bind_eq_ok.1 hmade
    cases hmade
    exact Step.shaped_of_ofValue hsteps hsteps'
  | morphism _ _ hmade _ hsteps =>
    unfold Morphism.ofValues at hmade
    split at hmade
    · obtain ⟨steps, hsteps', hmade⟩ := Outcome.bind_eq_ok.1 hmade
      cases hmade
      exact Step.shaped_of_ofValue hsteps hsteps'
    · obtain ⟨steps, hsteps', hmade⟩ := Outcome.bind_eq_ok.1 hmade
      cases hmade
      exact Step.shaped_of_ofValue hsteps hsteps'
    · cases hmade
  | vertex _ _ hmade _ hsteps =>
    unfold Vertex.ofValues at hmade
    split at hmade
    · obtain ⟨steps, hsteps', hmade⟩ := Outcome.bind_eq_ok.1 hmade
      cases hmade
      exact Step.shaped_of_ofValue hsteps hsteps'
    · cases hmade
  | query _ _ hmade hvertex _ =>
    unfold Query.ofValues at hmade
    split at hmade
    · split at hmade
      · cases hmade
        exact hvertex
      · cases hmade
    · cases hmade
  -- operations on expressions
  | call hname _ _ _ hmade hvalue hfirst _ => exact sound_of_call hname hvalue hfirst hmade
  | add _ _ hmade hleft hright => exact sound_of_add hleft hright hmade

/-- The steps of a built query are shaped. -/
theorem Value.Built.shaped {q : Query} (h : (Value.query q).Built) : Shaped q.vertex.steps :=
  h.sound

end GraphPath
