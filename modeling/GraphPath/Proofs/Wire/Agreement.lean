import GraphPath.Proofs.Path.Equality
import GraphPath.Proofs.Wire.Meeting
import GraphPath.Proofs.Wire.Walk

/-!
# Walks that agree

The walk over steps uses references only through what they expand to. If every reference
expands alike in two walks, or has a fault of some class in the first, then so do the steps:
the first fault in order is met first in both. The steps of the two walks are the same, or
shaped and equal.

* `Agree` — equal outcomes, or a fault of a class in the first one;
* `Compile.agree_steps_of_met` — walks over the same steps, whatever they are, if the references
  that they meet expand alike; `Compile.agree_steps` — if all do;
* `SameReference` — references that are one, or expect equal steps;
* `Compile.agree_steps_of_same` — walks over equal shaped steps.
-/

namespace GraphPath

/-- **Outcomes that agree**: they are equal, or the first is a fault of a class. -/
def Agree {α : Type} (allowed : Fault → Prop) (x y : Except Fault α) : Prop :=
  x = y ∨ ∃ fault, allowed fault ∧ x = .error fault

section Agree

variable {α β : Type} {allowed : Fault → Prop}

theorem Agree.refl (x : Except Fault α) : Agree allowed x x := .inl rfl

theorem Agree.mono {allowed' : Fault → Prop} {x y : Except Fault α} (h : Agree allowed x y)
    (hsub : ∀ fault, allowed fault → allowed' fault) : Agree allowed' x y :=
  h.imp_right fun ⟨fault, hfault, hx⟩ => ⟨fault, hsub fault hfault, hx⟩

/-- What follows on outcomes that agree agrees if it does on every result. -/
theorem Agree.bind {x y : Except Fault α} {f g : α → Except Fault β} (h : Agree allowed x y)
    (hfg : ∀ a, Agree allowed (f a) (g a)) : Agree allowed (x >>= f) (y >>= g) := by
  rcases h with rfl | ⟨fault, hfault, rfl⟩
  · -- equal outcomes go on alike, and a fault is where it ends
    cases x with
    | ok a => exact hfg a
    | error fault => exact .inl rfl
  · exact .inr ⟨fault, hfault, rfl⟩

end Agree

namespace Compile

variable {allowed : Fault → Prop} {expand expand' : Value → Except Fault (List Json)}

/-! ### The same steps -/

mutual

/-- **Walks over the same steps agree** if the references that they meet do. -/
theorem agree_steps_of_met (l : List Step)
    (hexpand : ∀ value, .reference value ∈ met l → Agree allowed (expand value) (expand' value)) :
    Agree allowed (steps expand l) (steps expand' l) := by
  match l with
  | [] => exact .refl _
  | s :: rest =>
    rw [met] at hexpand
    rw [steps, steps]
    exact (agree_step s fun value h => hexpand value (List.mem_append_left _ h)).bind fun _ =>
      (agree_steps_of_met rest fun value h => hexpand value (List.mem_append_right _ h)).bind
        fun _ => .refl _

theorem agree_step (s : Step)
    (hexpand : ∀ value, .reference value ∈ metStep s →
      Agree allowed (expand value) (expand' value)) :
    Agree allowed (step expand s) (step expand' s) := by
  match s with
  | ⟨kind, values⟩ =>
    rw [metStep.eq_def] at hexpand
    rw [step.eq_def, step.eq_def]
    dsimp only at hexpand ⊢
    -- what a step makes of its operands depends on the family of its kind
    cases hkind : kind.family with
    | selecting =>
      rw [hkind] at hexpand
      exact (agree_operands kind values hexpand).bind fun _ => .refl _
    | combining =>
      rw [hkind] at hexpand
      match values with
      | [] => exact .refl _
      | value :: _ => exact (agree_subexpression kind value hexpand).bind fun _ => .refl _
    | following =>
      rw [hkind] at hexpand
      match values with
      | [] => exact .refl _
      | value :: _ => exact (hexpand value List.mem_cons_self).bind fun _ => .refl _

theorem agree_operands (kind : StepKind) (values : List Value)
    (hexpand : ∀ value, .reference value ∈ metOperands kind values →
      Agree allowed (expand value) (expand' value)) :
    Agree allowed (operands expand kind values) (operands expand' kind values) := by
  match values with
  | [] => exact .refl _
  | value :: values =>
    rw [metOperands] at hexpand
    rw [operands, operands]
    exact (agree_operand kind value fun value h =>
      hexpand value (List.mem_append_left _ h)).bind fun _ =>
        (agree_operands kind values fun value h =>
          hexpand value (List.mem_append_right _ h)).bind fun _ => .refl _

theorem agree_operand (kind : StepKind) (value : Value)
    (hexpand : ∀ other, .reference other ∈ metOperand kind value →
      Agree allowed (expand other) (expand' other)) :
    Agree allowed (operand expand kind value) (operand expand' kind value) := by
  -- only a sub-expression is walked into
  match value with
  | .vertex v =>
    rw [metOperand] at hexpand
    rw [operand, operand]
    exact (agree_vertex v hexpand).bind fun _ => .refl _
  | .null | .bool _ | .int _ | .float _ | .text _ | .list _ | .tuple _ | .object _ | .selector _
  | .kind _ | .step _ | .morphismRef _ | .path _ | .morphism _ | .query _ | .final _ =>
    exact .refl _

theorem agree_subexpression (kind : StepKind) (value : Value)
    (hexpand : ∀ other, .reference other ∈ metSubexpression kind value →
      Agree allowed (expand other) (expand' other)) :
    Agree allowed (subexpression expand kind value) (subexpression expand' kind value) := by
  match value with
  | .vertex v =>
    rw [metSubexpression] at hexpand
    exact agree_vertex v hexpand
  | .null | .bool _ | .int _ | .float _ | .text _ | .list _ | .tuple _ | .object _ | .selector _
  | .kind _ | .step _ | .morphismRef _ | .path _ | .morphism _ | .query _ | .final _ =>
    exact .refl _

theorem agree_vertex (v : Vertex)
    (hexpand : ∀ value, .reference value ∈ metVertex v →
      Agree allowed (expand value) (expand' value)) :
    Agree allowed (vertex expand v) (vertex expand' v) := by
  match v with
  | ⟨start, rest⟩ =>
    rw [metVertex] at hexpand
    -- the head is the same, for it is the same vertex
    rw [vertex, vertex]
    exact (agree_steps_of_met rest hexpand).bind fun _ => .refl _

end

/-- **Walks over the same steps agree** if references do. -/
theorem agree_steps (hexpand : ∀ value, Agree allowed (expand value) (expand' value))
    (l : List Step) : Agree allowed (steps expand l) (steps expand' l) :=
  agree_steps_of_met l fun value _ => hexpand value

end Compile

/-! ### Equal steps -/

/-- **References of one meaning**: they are one, or they refer to one name and expect steps
that are equal in both directions. -/
inductive SameReference : Value → Value → Prop where
  | refl (value : Value) : SameReference value value
  | expected {name : Text} {steps others : List Value} (hsame : Value.sameItems steps others)
    (hsame' : Value.sameItems others steps) :
    SameReference (.morphismRef ⟨.text name, some steps⟩) (.morphismRef ⟨.text name, some others⟩)

/-- A value without parts that are compared in any special way. -/
def Value.Atomic (value : Value) : Prop := value = .null ∨ ∃ s, value = .selector s

namespace Value

theorem Atomic.eq_of_same {a b : Value} (ha : a.Atomic) (h : same a b) : b = a := by
  rcases ha with rfl | ⟨s, rfl⟩
  · cases b <;> first | rfl | cases h
  · cases b with
    | selector t => rw [beq_iff_eq.1 h]
    | _ => cases h

theorem atomic_ofTags? (tags : Option TagSelector) : (Value.ofTags? tags).Atomic := by
  cases tags with
  | none => exact .inl rfl
  | some tags => exact .inr ⟨_, rfl⟩

theorem atomic_ofPredicate? (predicate : Option Name) : (Value.ofPredicate? predicate).Atomic := by
  cases predicate with
  | none => exact .inl rfl
  | some predicate => exact .inr ⟨_, rfl⟩

theorem sameItems_cons {a : Value} {items others : List Value}
    (h : sameItems (a :: items) others) :
    ∃ b rest, others = b :: rest ∧ same a b ∧ sameItems items rest := by
  cases others with
  | nil => cases h
  | cons b rest =>
    rw [sameItems, Bool.and_eq_true] at h
    exact ⟨b, rest, rfl, h.1, h.2⟩

theorem eq_of_sameItems {items others : List Value} (hatomic : ∀ a ∈ items, a.Atomic)
    (h : sameItems items others) : others = items := by
  induction items generalizing others with
  | nil => exact List.isEmpty_iff.1 h
  | cons a items ih =>
    obtain ⟨b, rest, rfl, hab, hrest⟩ := sameItems_cons h
    rw [(hatomic a List.mem_cons_self).eq_of_same hab,
      ih (fun c hc => hatomic c (List.mem_cons_of_mem _ hc)) hrest]

theorem sameStep_mk {kind : StepKind} {operands : List Value} {t : Step}
    (h : sameStep ⟨kind, operands⟩ t) : t.kind = kind ∧ sameItems operands t.operands := by
  rw [sameStep, Bool.and_eq_true, beq_iff_eq] at h
  exact ⟨h.1.symm, h.2⟩

/-- A step that is equal to one with a single operand, in both directions. -/
theorem sameStep_single {kind : StepKind} {a : Value} {t : Step} (h : sameStep ⟨kind, [a]⟩ t)
    (h' : sameStep t ⟨kind, [a]⟩) : ∃ b, t = ⟨kind, [b]⟩ ∧ same a b ∧ same b a := by
  obtain ⟨kind', operands⟩ := t
  obtain ⟨rfl, hitems⟩ := sameStep_mk h
  obtain ⟨b, rest, rfl, hab, hrest⟩ := sameItems_cons hitems
  obtain rfl := List.isEmpty_iff.1 hrest
  obtain ⟨a', _, ha', hba, -⟩ := sameItems_cons (sameStep_mk h').2
  cases ha'
  exact ⟨b, rfl, hab, hba⟩

/-- A step that is equal to a traversal, in both directions. -/
theorem sameStep_tagged {kind : StepKind} {a : Value} {tags : Option TagSelector} {t : Step}
    (h : sameStep ⟨kind, [a, .ofTags? tags]⟩ t) (h' : sameStep t ⟨kind, [a, .ofTags? tags]⟩) :
    ∃ b, t = ⟨kind, [b, .ofTags? tags]⟩ ∧ same a b ∧ same b a := by
  obtain ⟨kind', operands⟩ := t
  obtain ⟨rfl, hitems⟩ := sameStep_mk h
  obtain ⟨b, rest, rfl, hab, hrest⟩ := sameItems_cons hitems
  -- tags are equal to themselves only
  obtain rfl := eq_of_sameItems (by simpa using atomic_ofTags? tags) hrest
  obtain ⟨a', _, ha', hba, -⟩ := sameItems_cons (sameStep_mk h').2
  cases ha'
  exact ⟨b, rfl, hab, hba⟩

/-- Steps that are equal to a first step and others, in both directions. -/
theorem sameSteps_cons {s : Step} {steps others : List Step} (h : sameSteps (s :: steps) others)
    (h' : sameSteps others (s :: steps)) :
    ∃ t rest, others = t :: rest ∧ (sameStep s t ∧ sameStep t s) ∧ sameSteps steps rest ∧
      sameSteps rest steps := by
  cases others with
  | nil => cases h
  | cons t rest =>
    rw [sameSteps, Bool.and_eq_true] at h h'
    exact ⟨t, rest, rfl, ⟨h.1, h'.1⟩, h.2, h'.2⟩

end Value

/-- A step that is equal to a plain step is that step. -/
theorem Step.Plain.eq_of_same {s t : Step} (hs : s.Plain) (h : Value.sameStep s t) : t = s := by
  have hatomic : ∀ a ∈ s.operands, a.Atomic := by
    cases hs with
    | traverse _ predicate tags =>
      simp [Value.atomic_ofPredicate?, Value.atomic_ofTags?]
    | traverseSet _ predicates tags =>
      simpa [Value.Atomic] using Value.atomic_ofTags? tags
    | isNodes | has | tag | back | save => simp [Value.Atomic]
  obtain ⟨kind, operands⟩ := s
  obtain ⟨kind', operands'⟩ := t
  obtain ⟨rfl, hitems⟩ := Value.sameStep_mk h
  obtain rfl : operands' = operands := Value.eq_of_sameItems hatomic hitems
  rfl

namespace Value

/-- A value that is equal to a vertex, in both directions. -/
theorem same_vertex {v : Vertex} {b : Value} (h : same (.vertex v) b) (h' : same b (.vertex v)) :
    ∃ w : Vertex, b = .vertex w ∧ v.start = w.start ∧ sameSteps v.steps w.steps ∧
      sameSteps w.steps v.steps := by
  cases b with
  | vertex w =>
    obtain ⟨start, steps⟩ := v
    obtain ⟨start', steps'⟩ := w
    have hboth : sameVertex ⟨start, steps⟩ ⟨start', steps'⟩ := h
    have hboth' : sameVertex ⟨start', steps'⟩ ⟨start, steps⟩ := h'
    rw [sameVertex, Bool.and_eq_true, beq_iff_eq] at hboth hboth'
    exact ⟨_, rfl, hboth.1, hboth.2, hboth'.2⟩
  | _ => cases h

theorem same_query {q : Query} {b : Value} (h : same (.query q) b) : ∃ r, b = .query r := by
  obtain ⟨v, final⟩ := q
  cases b with
  | query r => exact ⟨r, rfl⟩
  | _ => cases h

/-- A value that is equal to a reference, in both directions, is a reference of one
meaning. -/
theorem sameReference_of_same {name : Name} {expected : Option (List Step)} {b : Value}
    (h : same (.morphismRef (.to name expected)) b)
    (h' : same b (.morphismRef (.to name expected))) :
    SameReference (.morphismRef (.to name expected)) b := by
  -- a reference with an expectation is equal only to one that has one as well
  cases expected with
  | none =>
    cases b with
    | morphismRef r =>
      obtain ⟨other, _ | others⟩ := r
      · cases other with
        | text t =>
          obtain rfl : name.text = t := beq_iff_eq.1 h
          exact .refl _
        | _ => cases h
      · cases h
    | _ => cases h
  | some steps =>
    cases b with
    | morphismRef r =>
      obtain ⟨other, _ | others⟩ := r
      · cases h
      · rw [MorphismRef.to, Option.map_some, same, Bool.and_eq_true] at h h'
        cases other with
        | text t =>
          obtain rfl : name.text = t := beq_iff_eq.1 h.1
          -- the expectations need not be one: they are equal both ways
          exact .expected h.2 h'.2
        | _ => cases h.1
    | _ => cases h

end Value

namespace Compile

variable {allowed : Fault → Prop} {expand expand' : Value → Except Fault (List Json)}

/-- **Walks over equal shaped steps agree** if references of one meaning do. -/
theorem agree_steps_of_same {l l' : List Step}
    (hexpand : ∀ a b, SameReference a b → Agree allowed (expand a) (expand' b))
    (hshaped : Shaped l) (hsame : Value.sameSteps l l') (hsame' : Value.sameSteps l' l) :
    Agree allowed (steps expand l) (steps expand' l') := by
  induction hshaped generalizing l' with
  | nil =>
    obtain rfl : l' = [] := List.isEmpty_iff.1 hsame
    exact .refl _
  | plain hplain _ ih =>
    obtain ⟨t, rest, rfl, ⟨hstep, -⟩, hrest, hrest'⟩ := Value.sameSteps_cons hsame hsame'
    -- nothing in a plain step is compared in any special way
    obtain rfl := hplain.eq_of_same hstep
    rw [steps_cons, steps_cons, step_plain hplain, step_plain hplain]
    exact (Agree.refl _).bind fun _ => (ih hrest hrest').bind fun _ => .refl _
  | through hkind tags _ _ ihSteps ih =>
    obtain ⟨t, rest, rfl, ⟨hstep, hstep'⟩, hrest, hrest'⟩ := Value.sameSteps_cons hsame hsame'
    obtain ⟨b, rfl, hvertex, hvertex'⟩ := Value.sameStep_tagged hstep hstep'
    obtain ⟨w, rfl, hstart, hsteps, hsteps'⟩ := Value.same_vertex hvertex hvertex'
    rw [steps_cons, steps_cons, step_through hkind, step_through hkind, hstart]
    exact ((ihSteps hsteps hsteps').bind fun _ => .refl _).bind fun _ =>
      (ih hrest hrest').bind fun _ => .refl _
  | throughQuery hkind q tags _ _ =>
    obtain ⟨t, rest, rfl, ⟨hstep, hstep'⟩, -, -⟩ := Value.sameSteps_cons hsame hsame'
    obtain ⟨b, rfl, hquery, -⟩ := Value.sameStep_tagged hstep hstep'
    -- whatever the finalizers are, both sub-expressions are refused
    obtain ⟨r, rfl⟩ := Value.same_query hquery
    rw [steps_cons, steps_cons, step_throughQuery hkind, step_throughQuery hkind]
    exact .refl _
  | combine hkind _ _ ihSteps ih =>
    obtain ⟨t, rest, rfl, ⟨hstep, hstep'⟩, hrest, hrest'⟩ := Value.sameSteps_cons hsame hsame'
    obtain ⟨b, rfl, hvertex, hvertex'⟩ := Value.sameStep_single hstep hstep'
    obtain ⟨w, rfl, hstart, hsteps, hsteps'⟩ := Value.same_vertex hvertex hvertex'
    rw [steps_cons, steps_cons, step_combine hkind, step_combine hkind, hstart]
    exact ((ihSteps hsteps hsteps').bind fun _ => .refl _).bind fun _ =>
      (ih hrest hrest').bind fun _ => .refl _
  | combineQuery hkind q _ _ =>
    obtain ⟨t, rest, rfl, ⟨hstep, hstep'⟩, -, -⟩ := Value.sameSteps_cons hsame hsame'
    obtain ⟨b, rfl, hquery, -⟩ := Value.sameStep_single hstep hstep'
    obtain ⟨r, rfl⟩ := Value.same_query hquery
    rw [steps_cons, steps_cons, step_combineQuery hkind, step_combineQuery hkind]
    exact .refl _
  | follow hkind name expected _ ih =>
    obtain ⟨t, rest, rfl, ⟨hstep, hstep'⟩, hrest, hrest'⟩ := Value.sameSteps_cons hsame hsame'
    obtain ⟨b, rfl, href, href'⟩ := Value.sameStep_single hstep hstep'
    -- equal references have one meaning, so their expansions agree
    have hreference := Value.sameReference_of_same href href'
    rw [steps_cons, steps_cons, step_follow hkind, step_follow hkind]
    exact ((hexpand _ _ hreference).bind fun _ => .refl _).bind fun _ =>
      (ih hrest hrest').bind fun _ => .refl _

end Compile

end GraphPath
