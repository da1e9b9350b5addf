import GraphPath.Proofs.Json.Legible
import GraphPath.Proofs.Json.Unambiguity
import GraphPath.Proofs.Result.Decoding
import GraphPath.Proofs.Wire.Grammar

/-!
# Wire queries as JSON text

The text of a compiled query is a text of the list of its wire steps and of nothing else, so queries
have one text just if they have the same wire steps, wherever they start. Nothing in wire steps is
hard to write or to read but the number behind a limit: names may hold anything, and there is a
text, which is read back, unless the limit has too many digits.

* `Wire.Steps.proper` — wire steps without a finalizer hold no numbers at all;
* `Compile.floatFree_of_compile`, `Compile.hasOversized_of_compile_iff` — the wire steps of a query;
* `WireQuery.toJson_faithful` — the texts of queries.
-/

namespace GraphPath

namespace Json

theorem Proper.pair {first second : Json} (hfirst : first.Proper) (hsecond : second.Proper) :
    (Json.array [first, second]).Proper := by
  refine .array fun item hitem => ?_
  rcases List.mem_pair.1 hitem with rfl | rfl
  · exact hfirst
  · exact hsecond

theorem proper_texts (ts : List Text) : (Json.array (ts.map .text)).Proper := by
  refine .array fun item hitem => ?_
  obtain ⟨t, -, rfl⟩ := List.mem_map.1 hitem
  exact .text t

/-- The one name of a wire step is distinct. -/
theorem Proper.wireStep {operand : Json} (name : Text) (h : operand.Proper) :
    (Json.wireStep name operand).Proper :=
  .object (List.nodup_singleton name) (List.forall_mem_singleton.2 h)

end Json

namespace Wire

/-! ### Wire steps without a finalizer -/

theorem IsName.proper {json : Json} (h : IsName json) : json.Proper := by
  obtain ⟨t, -, rfl⟩ := h
  exact .text t

theorem IsNames.proper {json : Json} (h : IsNames json) : json.Proper := by
  obtain ⟨ts, -, -, rfl⟩ := h
  exact Json.proper_texts ts

theorem IsNameOrNames.proper {json : Json} (h : IsNameOrNames json) : json.Proper :=
  h.elim IsName.proper IsNames.proper

theorem Operand.proper {kind : StepKind} {operand : Json} (h : Operand kind operand) :
    operand.Proper := by
  -- by the shape of the operand: names and lists of names, at most in pairs
  cases h with
  | any => exact .array nofun
  | predicate _ h => exact h.proper
  | tagged _ hpredicate htags =>
    have hfirst : Json.Proper _ := hpredicate.elim (fun h => h ▸ .null) IsName.proper
    exact .pair hfirst htags.proper
  | predicates _ h => exact h.proper
  | predicatesTagged _ hpredicates htags => exact .pair hpredicates.proper htags.proper
  | is h => exact h.proper
  | has hpredicate hnodes => exact .pair hpredicate.proper hnodes.proper
  | tag h => exact h.proper
  | back h => exact h.proper
  | save hpredicate htag => exact .pair hpredicate.proper htag.proper

theorem proper_headed {ids : List Text} {inner : List Json} (h : ∀ w ∈ inner, w.Proper) :
    (Json.array (headed ids inner)).Proper :=
  .array (List.forall_mem_cons.2 ⟨(Json.proper_texts ids).wireStep startOperation, h⟩)

/-- **Wire steps hold names and lists only.** -/
theorem Steps.proper {l : List Json} (h : Steps l) : ∀ w ∈ l, w.Proper := by
  -- on the grammar: each operand is proper, and so is what it holds
  induction h with
  | nil => exact nofun
  | @plain kind operand rest hoperand _ ih =>
    exact List.forall_mem_cons.2 ⟨hoperand.proper.wireStep kind.name, ih⟩
  | @route kind ids inner rest _ _ _ _ ihInner ih =>
    exact List.forall_mem_cons.2 ⟨(proper_headed ihInner).wireStep kind.name, ih⟩
  | @routeTagged kind ids inner rest tags _ _ htags _ _ ihInner ih =>
    have hheaded : (Json.array (headed ids inner)).Proper := proper_headed ihInner
    have hoperand := hheaded.pair htags.proper
    exact List.forall_mem_cons.2 ⟨hoperand.wireStep kind.name, ih⟩
  | @follow kind inner rest _ _ _ ihInner ih =>
    exact List.forall_mem_cons.2 ⟨(Json.Proper.array ihInner).wireStep kind.name, ih⟩

end Wire

namespace Compile

/-! ### The wire steps of queries -/

variable {registry : Registry} {q : Query} {wire : WireQuery}

/-- **A compiled query** is proper wire steps, and behind them the finalizer. -/
theorem steps_of_compile (hregistry : registry.Built) (hquery : (Value.query q).Built)
    (h : registry.compile (.query q) = .ok wire) :
    ∃ wires last, wire.steps = wires ++ [last] ∧ (∀ w ∈ wires, w.Proper) ∧
      (q.final = .all ∧ last = .wireStep Wire.allOperation (.array []) ∨
        ∃ n : Nat, q.final = .getLimit (.int n) ∧
          last = .wireStep Wire.limitOperation (.int n)) := by
  obtain ⟨wires, last, hderives, hlast, rfl⟩ := query_ok hregistry hquery h
  refine ⟨wires, last, rfl, (Wire.steps_of_derives hderives).proper, ?_⟩
  obtain hall | ⟨n, -, hfinal, hlimit⟩ := final_ok hlast
  · exact .inl hall
  · exact .inr ⟨n, hfinal, hlimit⟩

/-- **Wire steps hold no floats.** -/
theorem floatFree_of_compile (hregistry : registry.Built) (hquery : (Value.query q).Built)
    (h : registry.compile (.query q) = .ok wire) : (Json.array wire.steps).FloatFree := by
  obtain ⟨wires, last, hsteps, hwires, hlast⟩ := steps_of_compile hregistry hquery h
  rw [hsteps]
  refine .array (List.forall_mem_append.2
    ⟨fun w hw => (hwires w hw).floatFree, List.forall_mem_singleton.2 ?_⟩)
  -- the finalizer holds a list without elements, or an integer
  obtain ⟨-, rfl⟩ | ⟨n, -, rfl⟩ := hlast
  · exact .object (List.forall_mem_singleton.2 (.array nofun))
  · exact .object (List.forall_mem_singleton.2 (.int _))

/-- **Wire steps can be written** if the limit can. -/
theorem hasOversized_of_compile_iff (hregistry : registry.Built) (hquery : (Value.query q).Built)
    (h : registry.compile (.query q) = .ok wire) :
    (Json.array wire.steps).hasOversized = false ↔ q.final.Writable := by
  obtain ⟨wires, last, hderives, hlast, rfl⟩ := query_ok hregistry hquery h
  have hwires : ∀ w ∈ wires, w.hasOversized = false := fun w hw =>
    ((Wire.steps_of_derives hderives).proper w hw).hasOversized_eq
  -- only the finalizer holds a number
  rw [← final_hasOversized_iff hlast, Json.hasOversized, Json.anyInt_array]
  exact ⟨fun hitems => hitems last (List.mem_append_right _ (List.mem_singleton_self last)),
    fun hsmall => List.forall_mem_append.2 ⟨hwires, List.forall_mem_singleton.2 hsmall⟩⟩

/-- **Wire steps are proper** if the limit can be written. -/
theorem proper_of_compile (hregistry : registry.Built) (hquery : (Value.query q).Built)
    (h : registry.compile (.query q) = .ok wire) (hwritable : q.final.Writable) :
    (Json.array wire.steps).Proper := by
  obtain ⟨wires, last, hsteps, hwires, hlast⟩ := steps_of_compile hregistry hquery h
  rw [hsteps]
  refine .array (List.forall_mem_append.2 ⟨hwires, List.forall_mem_singleton.2 ?_⟩)
  obtain ⟨-, rfl⟩ | ⟨n, hfinal, rfl⟩ := hlast
  · exact .wireStep _ (.array nofun)
  · refine .wireStep _ (.int ?_)
    -- the digits of the limit are those of a limit that can be written
    rw [Int.natAbs_natCast]
    exact hwritable n hfinal

end Compile

/-! ### Texts of queries -/

namespace WireQuery

/-- **The text of a query tells its wire steps.** A query that compiles has a text unless its limit
has too many digits. Another query that compiles, whatever is declared where, has the same text just
if it has the same wire steps; the start is no part of it. The text is a JSON text of these wire
steps and of nothing else, whatever the names in them are, and it is read back. -/
theorem toJson_faithful {registry registry' : Registry} {q q' : Query} {wire wire' : WireQuery}
    (hregistry : registry.Built) (hquery : (Value.query q).Built)
    (h : registry.compile (.query q) = .ok wire)
    (hregistry' : registry'.Built) (hquery' : (Value.query q').Built)
    (h' : registry'.compile (.query q') = .ok wire') :
    (q.final.Writable → ∃ text, wire.toJson = .ok text ∧
      (wire'.toJson = .ok text ↔ wire.steps = wire'.steps) ∧
      (∀ v, Json.TextOf v text ↔ v = .array wire.steps) ∧
      Json.read text = .ok (.array wire.steps)) ∧
    (¬q.final.Writable → wire.toJson = .error .tooManyDigits) := by
  have hfree := Compile.floatFree_of_compile hregistry hquery h
  have hfree' := Compile.floatFree_of_compile hregistry' hquery' h'
  have hsmall := Compile.hasOversized_of_compile_iff hregistry hquery h
  refine ⟨fun hwritable => ?_, fun hwritable =>
    Json.write_of_large (eq_true_of_ne_false (mt hsmall.1 hwritable))⟩
  have htext : Json.TextOf (.array wire.steps) ((Json.array wire.steps).print .compact) :=
    hfree.textOf_print
  have hwritten : wire.toJson = .ok ((Json.array wire.steps).print .compact) :=
    Json.write_of_small (hsmall.2 hwritable)
  refine ⟨_, hwritten, ⟨fun hsame => ?_, fun hsteps => ?_⟩,
    fun v => ⟨fun hv => hv.unique htext, ?_⟩,
    (Compile.proper_of_compile hregistry hquery h hwritable).read_print⟩
  · -- the one text is a text of both lists
    obtain ⟨-, hprint⟩ := Json.write_eq_ok_iff.1 hsame
    have htext' : Json.TextOf (.array wire'.steps) ((Json.array wire'.steps).print .compact) :=
      hfree'.textOf_print
    rw [hprint] at htext'
    exact Json.array.inj (htext.unique htext')
  · rw [toJson, ← hsteps]
    exact hwritten
  · rintro rfl
    exact htext

/-- The sample query and the same steps from anywhere have one text, and it is read back. -/
theorem toJson_faithful_sample : ∃ wire wire' : WireQuery,
    Sample.registry.compile (.query Sample.query) = .ok wire ∧
      Sample.registry.compile (.query ⟨⟨.any, Sample.steps⟩, .getLimit (.int 2)⟩) = .ok wire' ∧
      wire.start ≠ wire'.start ∧ ∃ text, wire.toJson = .ok text ∧ wire'.toJson = .ok text ∧
      Json.read text = .ok (.array wire.steps) := by
  refine ⟨_, _, rfl, rfl,
    by simp [Sample.query, Sample.start, NodeSelector.ids], ?_⟩
  obtain ⟨hwritable, -⟩ := toJson_faithful Sample.registry_built Sample.query_built rfl
    Sample.registry_built Sample.limited_built rfl
  obtain ⟨text, hwritten, hsame, -, hread⟩ := hwritable Sample.query_writable
  exact ⟨text, hwritten, hsame.2 rfl, hread⟩

/-- **A query whose limit has too many digits** compiles and has no text. -/
theorem toJson_huge : (Value.query (Sample.upTo Sample.huge)).Built ∧
    Registry.empty.compile (.query (Sample.upTo Sample.huge)) = .ok Sample.hugeWire ∧
      Sample.hugeWire.toJson = .error .tooManyDigits := by
  have hcompile := Sample.compile_upTo_huge Registry.empty
  have hsmall := Compile.hasOversized_of_compile_iff .empty (Sample.upTo_built _) hcompile
  exact ⟨Sample.upTo_built _, hcompile,
    Json.write_of_large (eq_true_of_ne_false (mt hsmall.1 Sample.huge_not_writable))⟩

end WireQuery

end GraphPath
