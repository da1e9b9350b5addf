import GraphPath.Proofs.Gremlin.Calls
import GraphPath.Proofs.Gremlin.Respelling

/-!
# Programs are unambiguous

Queries have one program just if they compile to one wire query, up to what a program cannot
tell apart: intersections are called like conjunctions and unions like disjunctions, and one
node or tag in a list is written like the node or tag alone. No name can therefore pass
for a piece of a program.

* `Calls.wires` — the canonical wire steps that calls come from;
* `Calls.of_derives` — derived wire steps come from the calls in their text;
* `Gremlin.toGremlin_eq_iff` — queries with one program.
-/

namespace GraphPath

/-! ### The wire steps of calls -/

/-- The operation of the steps of a kind. -/
def Operation.ofKind : StepKind → Operation
  | .out | .outPredicates => .out
  | .inn | .inPredicates => .inn
  | .both | .bothPredicates => .both
  | .is => .is
  | .has => .has
  | .tag => .as
  | .back => .back
  | .save => .save
  | .and | .intersect => .and
  | .or | .union => .or
  | .follow => .follow
  | .followReverse => .followReverse

/-- An operation on the wire, for traversals along any of several predicates or for those
along one. -/
def Operation.wireName (several : Bool) : Operation → Text
  | .out => if several then StepKind.outPredicates.name else StepKind.out.name
  | .inn => if several then StepKind.inPredicates.name else StepKind.inn.name
  | .both => if several then StepKind.bothPredicates.name else StepKind.both.name
  | .is => StepKind.is.name
  | .has => StepKind.has.name
  | .as => StepKind.tag.name
  | .back => StepKind.back.name
  | .save => StepKind.save.name
  | .and => StepKind.and.name
  | .or => StepKind.or.name
  | .follow => StepKind.follow.name
  | .followReverse => StepKind.followReverse.name
  | .all => Wire.allOperation
  | .getLimit => Wire.limitOperation

theorem Operation.text_ofKind (kind : StepKind) :
    (Operation.ofKind kind).text = Program.callName kind := by
  cases kind <;> rfl

theorem Operation.wireName_ofKind (kind : StepKind) :
    (Operation.ofKind kind).wireName kind.isSetTraversal = Json.canonicalName kind.name := by
  cases kind <;> rfl

namespace Argument

/-- The operand that an argument comes from. -/
def wire : Argument → Json
  | .null => .null
  | .name t => .text t
  | .names ts => .array (ts.map .text)
  | .number n => .int n

/-- Whether the first argument is a list of names. -/
def areSeveral : List Argument → Bool
  | .names _ :: _ => true
  | _ => false

/-- The argument that an operand is, `null` for one left out. -/
def ofValue : Value → Argument
  | .selector (.nodes (.one id)) => .name id.text
  | .selector (.nodes (.many ids)) => .names ids.texts
  | .selector (.predicate predicate) => .name predicate.text
  | .selector (.predicates predicates) => .names predicates.texts
  | .selector (.tags (.one tag)) => .name tag.text
  | .selector (.tags (.many tags)) => .names tags.texts
  | _ => .null

/-- The text of an operand, if it is not left out. -/
def written? : Argument → Option Text
  | .null => none
  | argument => some argument.text

/-- Arguments without those at the end that were left out. -/
def dropOmitted : List Argument → List Argument
  | [] => []
  | argument :: arguments =>
    match argument, dropOmitted arguments with
    | .null, [] => []
    | argument, arguments => argument :: arguments

theorem canonical_wire (a : Argument) : a.wire.canonical = a.wire := by
  cases a with
  | null | name | number => rfl
  | names ts => rw [wire, Json.canonical_array, Json.canonical_texts]

/-- What arguments come from is canonical. -/
theorem canonical_map_wire (as : List Argument) :
    (as.map wire).map Json.canonical = as.map wire := by
  rw [List.map_map]
  exact List.map_congr_left fun a _ => a.canonical_wire

/-- The argument of an operand comes from its encoding. -/
theorem wire_ofValue (value : Value) : (ofValue value).wire = value.encoded := by
  unfold ofValue
  split <;> try rfl
  -- every value that is no selector is left out by both
  unfold Value.encoded
  split <;> first | rfl | simp_all

/-- The program drops the operands that were left out at the end … -/
theorem withoutOmitted_written? (as : List Argument) :
    Program.withoutOmitted (as.map written?) = (dropOmitted as).map text := by
  induction as with
  | nil => rfl
  | cons a as ih =>
    rw [List.map_cons, Program.withoutOmitted.eq_def, dropOmitted.eq_def]
    dsimp only
    rw [ih]
    cases a <;> cases dropOmitted as <;> rfl

/-- … and so does the compiler. -/
theorem dropOmitted_wire (as : List Argument) :
    Compile.dropOmitted (as.map wire) = (dropOmitted as).map wire := by
  induction as with
  | nil => rfl
  | cons a as ih =>
    rw [List.map_cons, Compile.dropOmitted.eq_def, dropOmitted.eq_def]
    dsimp only
    rw [ih]
    cases a <;> cases dropOmitted as <;> rfl

end Argument

/-- **The canonical wire steps that calls come from.** -/
def Calls.wires : Calls → List Json
  | .nil => []
  | .plain operation arguments rest =>
    .wireStep (operation.wireName (Argument.areSeveral arguments))
      (Compile.collapse (arguments.map Argument.wire)) :: wires rest
  | .through operation ids inner arguments rest =>
    .wireStep (operation.wireName false) (Compile.collapse
      (.array (.wireStep Wire.startOperation (.array (ids.map .text)) :: wires inner)
        :: arguments.map Argument.wire)) :: wires rest
  | .follow operation inner rest =>
    .wireStep (operation.wireName false) (.array (wires inner)) :: wires rest

/-! ### The calls of derived wire steps -/

section Derived

-- The calls that a followed name stands for play no part in plain steps.
variable {expand : Text → Text} {kind : StepKind}

/-- The call of a step, taken apart. -/
theorem Program.step_eq (values : List Value) :
    Program.step expand ⟨kind, values⟩ = Calls.between (.ofKind kind)
      (Text.join "," (Program.withoutOmitted (Program.operands expand kind values))) := by
  rw [Program.step, Calls.between, Operation.text_ofKind]
  simp [Text.ofString]

/-- A plain call that the text and the canonical wire step of a step come from. -/
structure Step.IsCall (s : Step) (operation : Operation) (arguments : List Argument) : Prop where
  text : ∀ expand : Text → Text, Program.step expand s
    = Calls.between operation (Text.join "," (arguments.map Argument.text))
  wire : s.plainWire.canonical = .wireStep (operation.wireName (Argument.areSeveral arguments))
    (Compile.collapse (arguments.map Argument.wire))

/-- The call of a step whose operands are arguments of their own. -/
theorem Step.isCall_of_operands {values : List Value} {arguments : List Argument}
    (harguments : Argument.dropOmitted (values.map .ofValue) = arguments)
    (hoperands : ∀ expand : Text → Text,
      Program.operands expand kind values = (values.map .ofValue).map Argument.written?)
    (hseveral : Argument.areSeveral arguments = kind.isSetTraversal)
    (hunwrapped : Json.unwrapped kind.name (Compile.collapse (arguments.map Argument.wire))
      = Compile.collapse (arguments.map Argument.wire)) :
    Step.IsCall ⟨kind, values⟩ (.ofKind kind) arguments where
  text expand := by
    rw [Program.step_eq, hoperands, Argument.withoutOmitted_written?, harguments]
  wire := by
    -- an operand and its argument have the same wire form
    have hencoded : values.map Value.encoded = (values.map .ofValue).map Argument.wire := by
      rw [List.map_map]
      exact List.map_congr_left fun value _ => (Argument.wire_ofValue value).symm
    rw [hseveral, Operation.wireName_ofKind, Step.plainWire, Json.canonical_wireStep, hencoded,
      Argument.dropOmitted_wire, harguments, Json.canonical_collapse, Argument.canonical_map_wire,
      hunwrapped]

/-- The call of a step with several names, each an argument of its own. -/
theorem Step.isCall_of_names {value : Value} {ts : List Text}
    (hkind : kind = .is ∨ kind = .tag)
    (hoperand : ∀ expand, Program.operand expand kind value = some (Program.names ts))
    (hencoded : value.encoded = .array (ts.map .text)) :
    Step.IsCall ⟨kind, [value]⟩ (.ofKind kind) (ts.map .name) where
  text expand := by
    rw [Program.step_eq, Program.operands, hoperand, List.map_map]
    rfl
  wire := by
    have hwire : (ts.map Argument.name).map Argument.wire = ts.map Json.text := by
      rw [List.map_map]
      rfl
    have hseveral : Argument.areSeveral (ts.map Argument.name) = kind.isSetTraversal := by
      cases ts <;> rcases hkind with rfl | rfl <;> rfl
    have hplain : (⟨kind, [value]⟩ : Step).plainWire
        = .wireStep kind.name (.array (ts.map .text)) := by
      simp only [Step.plainWire, List.map_cons, List.map_nil, hencoded]
      rfl
    rw [hseveral, Operation.wireName_ofKind, hplain, Json.canonical_wireStep, hwire,
      Json.canonical_array, Json.canonical_texts]
    congr 1
    -- one name loses the list around it on both sides
    rcases ts with _ | ⟨t, _ | ⟨t', ts⟩⟩ <;> rcases hkind with rfl | rfl <;> rfl

/-- Tags behind the first operand of a traversal. -/
theorem Program.operand_ofTags? (h : kind.isTraversal ∨ kind.isSetTraversal)
    (tags : Option TagSelector) :
    Program.operand expand kind (.ofTags? tags)
      = (Argument.ofValue (.ofTags? tags)).written? := by
  have hspreads : Gremlin.spreads kind.name = false := by
    rcases h with h | h
    · exact (Gremlin.isUnary_of_isTraversal h).2.1
    · exact (Gremlin.isUnary_of_isSetTraversal h).2.1
  rcases tags with _ | tag | tags
  · rfl
  · rfl
  · exact congrArg some (Gremlin.several_of_spreads hspreads _)

/-- **Plain steps are calls.** -/
theorem Step.Plain.isCall {s : Step} (h : s.Plain) :
    ∃ operation arguments, s.IsCall operation arguments := by
  cases h with
  | @traverse kind hkind predicate tags =>
    obtain ⟨his, htag, hset⟩ := StepKind.ne_of_isTraversal hkind
    refine ⟨_, _, isCall_of_operands rfl (fun expand => ?_) ?_ (Json.unwrapped_name his htag _)⟩
    · rw [Program.operands, Program.operands, Program.operand_ofTags? (.inl hkind)]
      cases predicate <;> rfl
    · -- one predicate or none is no list, whatever tags stand behind it
      rw [hset]
      rcases tags with _ | _ | _ <;> cases predicate <;> rfl
  | @traverseSet kind hkind predicates tags =>
    obtain ⟨his, htag⟩ := StepKind.ne_of_isSetTraversal hkind
    refine ⟨_, _, isCall_of_operands rfl (fun expand => ?_) ?_ (Json.unwrapped_name his htag _)⟩
    · have hpredicates : Program.operand expand kind (.selector (.predicates predicates))
          = some (Argument.names predicates.texts).text :=
        congrArg some (Gremlin.several_of_spreads (Gremlin.isUnary_of_isSetTraversal hkind).2.1 _)
      rw [Program.operands, Program.operands, Program.operand_ofTags? (.inr hkind), hpredicates]
      rfl
    · rw [hkind]
      rcases tags with _ | _ | _ <;> rfl
  | @isNodes nodes hnodes =>
    cases nodes with
    | any => exact absurd rfl hnodes
    | one id => exact ⟨_, _, isCall_of_operands rfl (fun _ => rfl) rfl rfl⟩
    | many ids => exact ⟨_, _, isCall_of_names (.inl rfl) (fun _ => rfl) rfl⟩
  | @has predicate nodes hnodes =>
    cases nodes with
    | any => exact absurd rfl hnodes
    | one | many => exact ⟨_, _, isCall_of_operands rfl (fun _ => rfl) rfl rfl⟩
  | tag tags =>
    cases tags with
    | one tag => exact ⟨_, _, isCall_of_operands rfl (fun _ => rfl) rfl rfl⟩
    | many tags => exact ⟨_, _, isCall_of_names (.inr rfl) (fun _ => rfl) rfl⟩
  | back tag => exact ⟨_, _, isCall_of_operands rfl (fun _ => rfl) rfl rfl⟩
  | save predicate tag => exact ⟨_, _, isCall_of_operands rfl (fun _ => rfl) rfl rfl⟩

end Derived

/-! ### Other steps are calls -/

section Inner

variable {kind : StepKind} {expand : Text → Text}

/-- The arguments of a traversal behind its sub-expression. -/
def Argument.ofTags? (tags : Option TagSelector) : List Argument :=
  dropOmitted [ofValue (.ofTags? tags)]

/-- The call of a traversal through a sub-expression. -/
theorem Program.step_through {v : Vertex} (hkind : kind.isTraversal)
    (tags : Option TagSelector) :
    Program.step expand ⟨kind, [.vertex v, .ofTags? tags]⟩ = Calls.between (.ofKind kind)
      (Text.join "," ((Program.start v.start.ids ++ Program.steps expand v.steps)
        :: (Argument.ofTags? tags).map Argument.text)) := by
  rw [Program.step_eq, Program.operands, Program.operands, Program.operands,
    Program.operand_ofTags? (.inl hkind), Program.operand_vertex]
  rcases tags with _ | _ | _ <;> rfl

/-- The wire step of a traversal through a sub-expression. -/
theorem Step.throughWire_eq (hkind : kind.isTraversal) (nodes : NodeSelector)
    (inner : List Json) (tags : Option TagSelector) :
    Step.throughWire kind nodes inner tags
      = .wireStep ((Operation.ofKind kind).wireName false) (Compile.collapse
        (.array (.wireStep Wire.startOperation (.array (nodes.ids.map .text)) :: inner)
          :: (Argument.ofTags? tags).map Argument.wire)) := by
  obtain ⟨-, -, hset⟩ := StepKind.ne_of_isTraversal hkind
  have hname : (Operation.ofKind kind).wireName false = kind.name := by
    rw [← hset, Operation.wireName_ofKind, StepKind.canonical_name,
      StepKind.canonical_of_isTraversal hkind]
  rw [hname]
  rcases tags with _ | _ | _ <;> rfl

/-- **Derived wire steps come from the calls in their text**, with any calls behind them. -/
theorem Calls.of_derives {registry : Registry} {depth : Nat} {l : List Step}
    {jsons : List Json} (h : Derives registry depth l jsons) (tail : Calls) :
    ∃ calls : Calls, calls.text = Program.stepsAt registry depth l ++ tail.text ∧
      calls.wires = jsons.map Json.canonical ++ tail.wires := by
  induction h generalizing tail with
  | nil => exact ⟨tail, rfl, rfl⟩
  | plain hplain _ ih =>
    obtain ⟨operation, arguments, htext, hwire⟩ := hplain.isCall
    obtain ⟨calls, hcalls, hwires⟩ := ih tail
    -- the call of the step stands in front of those of the others
    refine ⟨.plain operation arguments calls, ?_, ?_⟩
    · rw [text, hcalls, Program.stepsAt_cons, htext, List.append_assoc]
    · rw [wires, hwires, List.map_cons, hwire]
      rfl
  | @through depth kind v rest inner jsons hkind tags _ _ ihSteps ih =>
    obtain ⟨calls, hcalls, hwires⟩ := ih tail
    -- nothing stands behind the inner calls but the rest of their parentheses
    obtain ⟨within, hwithin, hinner⟩ := ihSteps .nil
    rw [text, List.append_nil] at hwithin
    rw [wires, List.append_nil] at hinner
    refine ⟨.through (.ofKind kind) v.start.ids within (Argument.ofTags? tags) calls, ?_, ?_⟩
    · rw [text, hcalls, hwithin, Program.stepsAt_cons, Program.step_through hkind,
        List.append_assoc]
      rfl
    · rw [wires, hwires, hinner, List.map_cons, Json.canonical_throughWire hkind,
        Step.throughWire_eq hkind]
      rfl
  | @combine depth kind v rest inner jsons hkind _ _ ihSteps ih =>
    obtain ⟨calls, hcalls, hwires⟩ := ih tail
    obtain ⟨within, hwithin, hinner⟩ := ihSteps .nil
    rw [text, List.append_nil] at hwithin
    rw [wires, List.append_nil] at hinner
    obtain ⟨his, htag, hset⟩ := StepKind.ne_of_family (by rw [hkind]; decide)
    refine ⟨.through (.ofKind kind) v.start.ids within [] calls, ?_, ?_⟩
    · rw [text, hcalls, hwithin, Program.stepsAt_cons, Program.step_eq, Program.operands,
        Program.operand_vertex, List.append_assoc]
      rfl
    · rw [wires, hwires, hinner, List.map_cons, Json.canonical_wireStep,
        Json.unwrapped_name his htag, ← Operation.wireName_ofKind, hset, Json.canonical_array,
        List.map_cons, Json.canonical_head]
      rfl
  | @follow depth kind name expected declared rest inner jsons hkind hdeclared _ _ _ ihInner ih =>
    obtain ⟨calls, hcalls, hwires⟩ := ih tail
    obtain ⟨within, hwithin, hinner⟩ := ihInner .nil
    rw [text, List.append_nil] at hwithin
    rw [wires, List.append_nil] at hinner
    obtain ⟨his, htag, hset⟩ := StepKind.ne_of_family (by rw [hkind]; decide)
    -- the followed name is gone from both: its declared steps stand in its place
    have hfollowed : Program.followedAt registry (depth + 1) name.text = within.text := by
      rw [hwithin, Program.followedAt, hdeclared]
      rfl
    refine ⟨.follow (.ofKind kind) within calls, ?_, ?_⟩
    · rw [text, hcalls, ← hfollowed, Program.stepsAt_cons, Program.step_eq, List.append_assoc]
      rfl
    · rw [wires, hwires, hinner, List.map_cons, Json.canonical_wireStep,
        Json.unwrapped_name his htag, ← Operation.wireName_ofKind, hset, Json.canonical_array]
      rfl

end Inner

/-! ### Queries with one program -/

namespace Gremlin

/-- The call of a finalizer. -/
theorem calls_of_final {final : Final} {last : Json} (h : Compile.final final = .ok last) :
    ∃ calls : Calls, calls.text = Program.final final ∧ calls.wires = [last.canonical] := by
  obtain ⟨rfl, rfl⟩ | ⟨n, -, rfl, rfl⟩ := Compile.final_ok h
  · exact ⟨.plain .all [] .nil, rfl, rfl⟩
  · refine ⟨.plain .getLimit [.number n] .nil, ?_, rfl⟩
    rw [Calls.text, Calls.text, List.append_nil]
    rfl

/-- **A compiled query comes from the calls in its program**, if it has one. -/
theorem calls_of_compile {registry : Registry} {q : Query} {wire : WireQuery} {program : Text}
    (hregistry : registry.Built) (hquery : (Value.query q).Built)
    (h : registry.compile (.query q) = .ok wire) (hprogram : wire.toGremlin = .ok program) :
    ∃ (ids : List Text) (calls : Calls), program = Program.start ids ++ calls.text ∧
      wire.start = ids.map .text ∧ wire.steps.map Json.canonical = calls.wires := by
  obtain ⟨jsons, last, hderives, hlast, rfl⟩ := Compile.query_ok hregistry hquery h
  obtain ⟨final, hfinal, hwire⟩ := calls_of_final hlast
  obtain ⟨calls, htext, hwires⟩ := Calls.of_derives hderives final
  refine ⟨q.vertex.start.ids, calls, ?_, rfl, ?_⟩
  · by_cases hwritable : q.final.Writable
    · rw [toGremlin_of_derives hderives hlast hwritable] at hprogram
      rw [htext, hfinal, ← List.append_assoc]
      exact (Except.ok.inj hprogram).symm
    · rw [toGremlin_of_derives_unwritable hderives hlast hwritable] at hprogram
      cases hprogram
  · rw [hwires, hwire, List.map_append]
    rfl

/-- **Programs are unambiguous.** Queries, built in any way and compiled under any registries,
have one program just if they have one start and wire steps of one canonical form. Those of one
canonical form that have no program have none for the same reason. -/
theorem toGremlin_eq_iff {registry registry' : Registry} {q q' : Query}
    {wire wire' : WireQuery} (hregistry : registry.Built) (hregistry' : registry'.Built)
    (hquery : (Value.query q).Built) (hquery' : (Value.query q').Built)
    (h : registry.compile (.query q) = .ok wire)
    (h' : registry'.compile (.query q') = .ok wire') :
    (∀ program, wire.toGremlin = .ok program → (wire'.toGremlin = .ok program ↔
      wire.start = wire'.start ∧
        wire.steps.map Json.canonical = wire'.steps.map Json.canonical)) ∧
    (wire.start = wire'.start ∧
        wire.steps.map Json.canonical = wire'.steps.map Json.canonical →
      wire.toGremlin = wire'.toGremlin) := by
  -- the canonical wire steps have the program of either query
  have hsame : wire.start = wire'.start ∧
      wire.steps.map Json.canonical = wire'.steps.map Json.canonical →
        wire.toGremlin = wire'.toGremlin := by
    rintro ⟨hstart, hsteps⟩
    rw [← toGremlin_canonical hregistry hquery h, ← toGremlin_canonical hregistry' hquery' h',
      hstart, hsteps]
  refine ⟨fun program hprogram => ⟨fun hprogram' => ?_, fun heq => ?_⟩, hsame⟩
  · obtain ⟨ids, calls, htext, hstart, hsteps⟩ := calls_of_compile hregistry hquery h hprogram
    obtain ⟨ids', calls', htext', hstart', hsteps'⟩ :=
      calls_of_compile hregistry' hquery' h' hprogram'
    have htexts : Program.start ids ++ calls.text = Program.start ids' ++ calls'.text :=
      htext.symm.trans htext'
    -- first the start, up to its parenthesis, and then everything behind it
    have hnames : Program.names ids ++ .char ')' :: calls.text
        = Program.names ids' ++ .char ')' :: calls'.text := by
      simpa [Program.start, Text.ofString] using htexts
    obtain ⟨rfl, hcalls⟩ := Program.names_inj (.char ')') (by decide) (by decide) hnames
    have hends : Calls.Ends [] := fun _ h => by cases h
    obtain ⟨rfl, -⟩ := Calls.text_append_inj (u := []) (v := []) hends hends
      (congrArg (· ++ []) hcalls)
    exact ⟨hstart.trans hstart'.symm, hsteps.trans hsteps'.symm⟩
  · rw [← hsame heq, hprogram]

theorem b_ne_nil : ("B" : Text) ≠ [] := by decide

/-- The steps of the sample, spelled in another way: one node alone and a disjunction, not
a list of one node and a union. -/
def respelledSteps : List Step :=
  Sample.steps.take 1 ++ [⟨.is, [.selector (.nodes (.one ⟨"B", b_ne_nil⟩))]⟩,
    ⟨.or, [.vertex Sample.nested]⟩]

theorem respelled_built :
    (Value.query ⟨⟨Sample.start, respelledSteps⟩, .getLimit (.int 2)⟩).Built := by
  have his : (Value.vertex ⟨Sample.start, Sample.steps.take 1⟩).method? "is_"
      = some (.step .isNodes) := rfl
  have hkept : (Value.vertex ⟨Sample.start, respelledSteps.take 2⟩).Built :=
    .call his Sample.followed_built (.selector (.nodes (.one ⟨"B", by decide⟩))) .null rfl
  have hor : (Value.vertex ⟨Sample.start, respelledSteps.take 2⟩).method? "or_"
      = some (.step (.combine .or)) := rfl
  have hcombined : (Value.vertex ⟨Sample.start, respelledSteps⟩).Built :=
    .call hor hkept Sample.nested_built .null rfl
  have hlimit : (Value.vertex ⟨Sample.start, respelledSteps⟩).method? "get_limit"
      = some .getLimit := rfl
  exact .call hlimit hcombined (.int 2) .null rfl

/-- Both spellings of the sample have one program, and so one canonical form. -/
theorem toGremlin_eq_iff_sample : ∃ wire wire',
    Sample.registry.compile (.query Sample.query) = .ok wire ∧
      Sample.registry.compile (.query ⟨⟨Sample.start, respelledSteps⟩, .getLimit (.int 2)⟩)
        = .ok wire' ∧
      (∃ program, wire.toGremlin = .ok program ∧ wire'.toGremlin = .ok program) ∧
      wire.steps.map Json.canonical = wire'.steps.map Json.canonical := by
  have hprogram := program_of_compile Sample.registry_built Sample.query_built (Nat.le_refl 1) rfl
    Sample.query_writable
  have hprogram' := program_of_compile Sample.registry_built respelled_built (Nat.le_refl 1) rfl
    Sample.query_writable
  exact ⟨_, _, rfl, rfl, ⟨_, hprogram, hprogram'⟩, (((toGremlin_eq_iff Sample.registry_built
    Sample.registry_built Sample.query_built respelled_built rfl rfl).1 _ hprogram).1 hprogram').2⟩

end Gremlin

end GraphPath
