import GraphPath.Proofs.Gremlin.Rendering
import GraphPath.Proofs.Wire.Canonical

/-!
# Programs of canonical wire steps

The canonical form of derived wire steps has the same calls, so wire steps of one canonical
form have one program. A plain step is respelled by another plain step, and every other
step by one of its own shape.

* `Step.Plain.respelled` — a plain step of the canonical form of another one;
* `Json.canonical_throughWire` — the canonical form of a traversal;
* `Gremlin.steps_canonical` — the calls of canonical wire steps;
* `Gremlin.toGremlin_canonical` — canonical wire steps have the same program.
-/

namespace GraphPath

/-! ### Respelled steps -/

/-- The kind that is called like another one and stays in canonical form. -/
def StepKind.canonical : StepKind → StepKind
  | .intersect => .and
  | .union => .or
  | kind => kind

theorem StepKind.canonical_name (kind : StepKind) :
    Json.canonicalName kind.name = kind.canonical.name := by
  cases kind <;> rfl

theorem StepKind.callName_canonical (kind : StepKind) :
    Program.callName kind.canonical = Program.callName kind := by
  cases kind <;> rfl

theorem StepKind.family_canonical (kind : StepKind) : kind.canonical.family = kind.family := by
  cases kind <;> rfl

theorem StepKind.canonical_of_isTraversal {kind : StepKind} (h : kind.isTraversal) :
    kind.canonical = kind := by
  cases kind <;> first | rfl | cases h

theorem StepKind.canonical_of_isSetTraversal {kind : StepKind} (h : kind.isSetTraversal) :
    kind.canonical = kind := by
  cases kind <;> first | rfl | cases h

/-- What an operand that is no sub-expression is encoded to is canonical. -/
theorem Value.canonical_encoded (value : Value) : value.encoded.canonical = value.encoded := by
  unfold Value.encoded
  split <;> first | rfl | rw [Json.canonical_array, Json.canonical_texts]

theorem Compile.mem_of_mem_dropOmitted {json : Json} {operands : List Json}
    (h : json ∈ Compile.dropOmitted operands) : json ∈ operands := by
  induction operands with
  | nil => exact h
  | cons operand operands ih =>
    rw [Compile.dropOmitted.eq_def] at h
    dsimp only at h
    -- nothing is left, or the operand stands in front of what is left
    split at h
    · cases h
    · rcases List.mem_cons.1 h with rfl | h
      · exact List.mem_cons_self
      · exact List.mem_cons_of_mem _ (ih h)

/-- What is left of encoded operands is canonical. -/
theorem Json.canonical_dropOmitted (values : List Value) :
    (Compile.dropOmitted (values.map Value.encoded)).map canonical
      = Compile.dropOmitted (values.map Value.encoded) := by
  -- each of them is its own canonical form
  have hfixed : ∀ json ∈ Compile.dropOmitted (values.map Value.encoded),
      json.canonical = id json := fun json hjson => by
    obtain ⟨value, -, rfl⟩ := List.mem_map.1 (Compile.mem_of_mem_dropOmitted hjson)
    exact value.canonical_encoded
  rw [List.map_congr_left hfixed, List.map_id]

/-- The canonical form of a plain step differs in its name and by a list around one
operand at most. -/
theorem Step.canonical_plainWire (kind : StepKind) (values : List Value) :
    (⟨kind, values⟩ : Step).plainWire.canonical = .wireStep kind.canonical.name
      (Json.unwrapped kind.name (Compile.collapse (Compile.dropOmitted
        (values.map Value.encoded)))) := by
  rw [Step.plainWire, Json.canonical_wireStep, Json.canonical_collapse,
    Json.canonical_dropOmitted, StepKind.canonical_name]

/-- A step of a kind that is called in its own way, and that has no list to lose, is its own
canonical form. -/
theorem Step.canonical_plainWire_self {kind : StepKind} {values : List Value}
    (hkind : kind.canonical = kind)
    (hunwrapped : Json.unwrapped kind.name (Compile.collapse (Compile.dropOmitted
        (values.map Value.encoded))) = Compile.collapse (Compile.dropOmitted
        (values.map Value.encoded))) :
    (⟨kind, values⟩ : Step).plainWire.canonical = (⟨kind, values⟩ : Step).plainWire := by
  rw [canonical_plainWire, hkind, hunwrapped]
  rfl

/-- **A plain step has a respelling**: a plain step with its canonical wire step, and with
the same call. -/
theorem Step.Plain.respelled {s : Step} (h : s.Plain) :
    ∃ t : Step, t.Plain ∧ s.plainWire.canonical = t.plainWire ∧
      ∀ expand : Text → Text, Program.step expand t = Program.step expand s := by
  -- only a list of one node or of one tag is respelled; all other steps are as they are
  cases h with
  | @traverse kind hkind predicate tags =>
    obtain ⟨his, htag, -⟩ := StepKind.ne_of_isTraversal hkind
    exact ⟨_, .traverse hkind predicate tags, canonical_plainWire_self
      (StepKind.canonical_of_isTraversal hkind) (Json.unwrapped_name his htag _), fun _ => rfl⟩
  | @traverseSet kind hkind predicates tags =>
    obtain ⟨his, htag⟩ := StepKind.ne_of_isSetTraversal hkind
    exact ⟨_, .traverseSet hkind predicates tags, canonical_plainWire_self
      (StepKind.canonical_of_isSetTraversal hkind) (Json.unwrapped_name his htag _), fun _ => rfl⟩
  | @isNodes nodes hnodes =>
    rcases nodes with _ | id | ⟨_ | ⟨id, _ | ⟨next, ids⟩⟩, hids⟩
    · exact absurd rfl hnodes
    · exact ⟨_, .isNodes hnodes, canonical_plainWire_self rfl rfl, fun _ => rfl⟩
    · exact absurd rfl hids
    · -- one node loses the list around it
      exact ⟨⟨.is, [.selector (.nodes (.one id))]⟩, .isNodes nofun, rfl, fun _ => rfl⟩
    · exact ⟨_, .isNodes hnodes, canonical_plainWire_self rfl rfl, fun _ => rfl⟩
  | has predicate hnodes =>
    exact ⟨_, .has predicate hnodes, canonical_plainWire_self rfl
      (Json.unwrapped_name (by decide) (by decide) _), fun _ => rfl⟩
  | tag tags =>
    rcases tags with tag | ⟨_ | ⟨tag, _ | ⟨next, tags⟩⟩, htags⟩
    · exact ⟨_, .tag _, canonical_plainWire_self rfl rfl, fun _ => rfl⟩
    · exact absurd rfl htags
    · -- and so does one tag
      exact ⟨⟨.tag, [.selector (.tags (.one tag))]⟩, .tag _, rfl, fun _ => rfl⟩
    · exact ⟨_, .tag _, canonical_plainWire_self rfl rfl, fun _ => rfl⟩
  | back tag => exact ⟨_, .back tag, canonical_plainWire_self rfl rfl, fun _ => rfl⟩
  | save predicate tag =>
    exact ⟨_, .save predicate tag, canonical_plainWire_self rfl rfl, fun _ => rfl⟩

/-- **The canonical form of a traversal** through a sub-expression is one of the canonical
sub-expression. -/
theorem Json.canonical_throughWire {kind : StepKind} (hkind : kind.isTraversal)
    (nodes : NodeSelector) (inner : List Json) (tags : Option TagSelector) :
    (Step.throughWire kind nodes inner tags).canonical
      = Step.throughWire kind nodes (inner.map canonical) tags := by
  obtain ⟨his, htag, -⟩ := StepKind.ne_of_isTraversal hkind
  -- the sub-expression is an operand with a head, which is canonical
  have hinner : (Json.array (Compile.head nodes :: inner)).canonical
      = .array (Compile.head nodes :: inner.map canonical) := by
    rw [canonical_array, List.map_cons, canonical_head]
    rfl
  have hbehind : (Compile.dropOmitted [(Value.ofTags? tags).encoded]).map canonical
      = Compile.dropOmitted [(Value.ofTags? tags).encoded] := canonical_dropOmitted [.ofTags? tags]
  rw [Step.throughWire, canonical_wireStep, unwrapped_name his htag, StepKind.canonical_name,
    StepKind.canonical_of_isTraversal hkind, Compile.dropOmitted_array, canonical_collapse,
    List.map_cons, hinner, hbehind, Step.throughWire, Compile.dropOmitted_array]

/-! ### Calls of canonical wire steps -/

namespace Gremlin

variable {registry : Registry}

/-- **The calls of canonical wire steps** are those of the steps. The induction is that for
the steps as they were derived, with a respelling in the place of each. -/
theorem steps_canonical {depth : Nat} {l : List Step} {jsons : List Json}
    (h : Derives registry depth l jsons) :
    steps (jsons.map Json.canonical) = .ok (Program.stepsAt registry depth l) := by
  induction h with
  | nil => rfl
  | plain hplain _ ih =>
    obtain ⟨t, ht, hwire, hcall⟩ := hplain.respelled
    rw [List.map_cons, steps, hwire, step_plainWire ht, hcall, ih, Program.stepsAt_cons]
    rfl
  | through hkind tags _ _ ihSteps ih =>
    rw [List.map_cons, steps, Json.canonical_throughWire hkind, step_throughWire hkind tags ihSteps,
      ih, Program.stepsAt_cons]
    rfl
  | @combine depth kind v rest inner jsons hkind _ _ ihSteps ih =>
    obtain ⟨his, htag, -⟩ := StepKind.ne_of_family (by rw [hkind]; decide)
    -- the operation may be called like another one, and the head stays
    have hwire : (Json.wireStep kind.name (.array (Compile.head v.start :: inner))).canonical
        = .wireStep kind.canonical.name
          (.array (Compile.head v.start :: inner.map Json.canonical)) := by
      rw [Json.canonical_wireStep, Json.unwrapped_name his htag, StepKind.canonical_name,
        Json.canonical_array, List.map_cons, Json.canonical_head]
      rfl
    have hcall : ∀ expand : Text → Text, Program.step expand ⟨kind.canonical, [.vertex v]⟩
        = Program.step expand ⟨kind, [.vertex v]⟩ := fun expand => by
      simp only [Program.step, Program.operands, Program.operand_vertex,
        StepKind.callName_canonical]
    rw [List.map_cons, steps, hwire,
      step_combineWire ((StepKind.family_canonical kind).trans hkind) ihSteps, hcall, ih,
      Program.stepsAt_cons]
    rfl
  | @follow depth kind name expected declared rest inner jsons hkind hdeclared _ _ _ ihInner ih =>
    obtain ⟨his, htag, -⟩ := StepKind.ne_of_family (by rw [hkind]; decide)
    -- no following step is respelled, but what it follows is canonical, too
    have hkindSelf : kind.canonical = kind := by
      cases kind <;> first | rfl | cases hkind
    have hwire : (Json.wireStep kind.name (.array inner)).canonical
        = .wireStep kind.name (.array (inner.map Json.canonical)) := by
      rw [Json.canonical_wireStep, Json.unwrapped_name his htag, StepKind.canonical_name,
        hkindSelf, Json.canonical_array]
    have hfollowed : steps (inner.map Json.canonical)
        = .ok (Program.followedAt registry (depth + 1) name.text) := by
      rw [ihInner, Program.followedAt, hdeclared]
      rfl
    rw [List.map_cons, steps, hwire, step_followWire hkind hfollowed, ih, Program.stepsAt_cons]
    rfl

/-- **Canonical wire steps have the same program.** -/
theorem toGremlin_canonical {q : Query} {wire : WireQuery} (hregistry : registry.Built)
    (hquery : (Value.query q).Built) (h : registry.compile (.query q) = .ok wire) :
    (⟨wire.start, wire.steps.map Json.canonical⟩ : WireQuery).toGremlin = wire.toGremlin := by
  obtain ⟨jsons, last, hderives, hlast, rfl⟩ := Compile.query_ok hregistry hquery h
  -- a finalizer is its own canonical form
  have hcanonical : last.canonical = last := by
    obtain ⟨-, rfl⟩ | ⟨n, -, -, rfl⟩ := Compile.final_ok hlast
    · rfl
    · rfl
  have hsteps : steps ((jsons ++ [last]).map Json.canonical) = steps (jsons ++ [last]) := by
    rw [List.map_append, steps_append, steps_append, steps_canonical hderives,
      steps_of_derives hderives, List.map_cons, List.map_nil, hcanonical]
  rw [WireQuery.toGremlin, WireQuery.toGremlin, hsteps]

end Gremlin

end GraphPath
