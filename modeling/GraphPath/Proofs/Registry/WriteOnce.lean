import GraphPath.Proofs.Wire.Extension
import Mathlib.Logic.Function.Basic

/-!
# A registry and its callers

Any number of callers share a registry, and their steps interleave in any order. A call checks
its arguments on its own; what is left of it happens under a lock. There a name is looked up in
one step and assigned in another, and an assignment would overwrite: that no name is written
twice is due to the lock, which keeps other callers out between the two.

Each call takes effect in one step, and the calls in the order of these steps are the history of
a run. It is a history of calls made one after another, and what the registry holds can be told
from it: every name has the steps of the first well-formed declaration of it.

* `Registry.Call`, `Registry.perform` — calls, made one after another;
* `Registry.Shared`, `Shared.Next`, `Shared.Run` — a registry under a lock, and its runs;
* `Shared.Exclusive` — only the holder of the lock is at the declarations, and what it is about
  to write is free;
* `Shared.sequential_of_run` — the history of a run is one of calls made one after another;
* `Registry.Sequential.find?_eq`, `Registry.Sequential.split` — what the registry holds, and
  which declarations succeed;
* `Registry.write_once` — the registry after any run.
-/

namespace GraphPath

namespace Registry

/-! ### Calls, one after another -/

/-- **The declaration that a registration asks for**, if its arguments are well formed. -/
def Registration.declaration : Registration → Except Fault Declaration
  | .declare (.text (c :: rest)) expression =>
    match stepsOf? expression with
    | some steps => .ok ⟨⟨c :: rest, List.cons_ne_nil c rest⟩, steps⟩
    | none => .error (.malformed "Morphism" (.expected .fragment expression))
  | .declare name _ => .error (.malformed "Morphism" (.expected .name name))
  | .save (.morphism ⟨some name, steps⟩) => .ok ⟨name, steps⟩
  | .save value => .error (.malformed "Morphism" (.expected .namedMorphism value))

/-- A question to the registry. -/
inductive Lookup where
  | resolve (name : Value)
  | names
  | contains (name : Value)
  | size

/-- **A call**: a registration, or a question. -/
inductive Call where
  | register (r : Registration)
  | look (lookup : Lookup)

/-- What a call answers. -/
inductive Answer where
  | morphism (m : Morphism)
  | names (names : List Name)
  | membership (declared : Bool)
  | count (n : Nat)
  | fault (fault : Fault)

/-- The answer of an outcome, which may be a fault. -/
def Answer.ofOutcome {α : Type} (answer : α → Answer) : Except Fault α → Answer
  | .ok a => answer a
  | .error e => .fault e

/-- The answer to a question. -/
def look (registry : Registry) : Lookup → Answer
  | .resolve name => .ofOutcome .morphism (registry.resolveValue name)
  | .names => .names registry.names
  | .contains name => .ofOutcome .membership (registry.containsValue name)
  | .size => .count registry.size

/-- **A call made alone**: the registry after it, and its answer. -/
def perform (registry : Registry) : Call → Registry × Answer
  | .register r =>
    match registry.outcome r with
    | .ok (after, m) => (after, .morphism m)
    | .error fault => (registry, .fault fault)
  | .look lookup => (registry, registry.look lookup)

/-- **A call in a history**: who made it, and what it answered. -/
structure Entry where
  caller : Nat
  call : Call
  answer : Answer

/-- The well-formed declaration that an entry asks for. -/
def Entry.declaration? (e : Entry) : Option Declaration :=
  match e.call with
  | .register r => r.declaration.toOption
  | .look _ => none

/-- The declaration of an entry that succeeded. -/
def Entry.declared? (e : Entry) : Option Declaration :=
  match e.answer with
  | .morphism _ => e.declaration?
  | _ => none

/-- An entry that asks for a well-formed declaration of a name. -/
def Entry.Declares (e : Entry) (name : Name) : Prop :=
  ∃ d, e.declaration? = some d ∧ d.name = name

/-- **A history of calls made one after another**, from an empty registry to this one. -/
inductive Sequential : List Entry → Registry → Prop where
  | nil : Sequential [] .empty
  | snoc {entries : List Entry} {registry after : Registry} {e : Entry}
    (hentries : Sequential entries registry)
    (hperform : registry.perform e.call = (after, e.answer)) : Sequential (entries ++ [e]) after

/-! ### What a registration does -/

section Registration

variable {registry : Registry} {r : Registration} {d : Declaration}

/-- A registration checks its arguments and declares what they ask for. -/
theorem outcome_eq (registry : Registry) (r : Registration) :
    registry.outcome r = (match r.declaration with
      | .error fault => .error fault
      | .ok d => match registry.declare d.name d.steps with
        | .ok outcome => .ok outcome
        | .error e => .error (.path e)) := by
  -- only a text that is not empty is a name, and only a named morphism is saved
  cases r with
  | declare name expression =>
    cases name with
    | text t =>
      cases t with
      | nil => rfl
      | cons c rest =>
        simp only [outcome, declareValue, Registration.declaration]
        cases stepsOf? expression <;> rfl
    | _ => rfl
  | save value =>
    cases value with
    | morphism m => obtain ⟨_ | name, steps⟩ := m <;> rfl
    | _ => rfl

theorem perform_refused {fault : Fault} (h : r.declaration = .error fault) :
    registry.perform (.register r) = (registry, .fault fault) := by
  simp only [perform, outcome_eq, h]

theorem perform_taken (h : r.declaration = .ok d) (htaken : d.name ∈ registry.names) :
    registry.perform (.register r)
      = (registry, .fault (.path (.duplicateMorphism d.name))) := by
  simp only [perform, outcome_eq, h, declare, dif_pos htaken]

theorem perform_free (h : r.declaration = .ok d) (hfree : d.name ∉ registry.names) :
    registry.perform (.register r) = (registry.insert d hfree, .morphism d.morphism) := by
  simp only [perform, outcome_eq, h, declare, dif_neg hfree]
  rfl

end Registration

/-! ### A registry under a lock -/

/-- **Assigning** steps to a name. Steps that it has already are overwritten. -/
def assign (registry : Registry) (d : Declaration) : Registry :=
  if h : d.name ∈ registry.names then
    { declarations := registry.declarations.map fun e => if e.name = d.name then d else e
      distinct := by
        have hnames : ∀ e : Declaration, (if e.name = d.name then d else e).name = e.name := by
          intro e
          split
          · rename_i heq
            exact heq.symm
          · rfl
        simpa [Function.comp_def, hnames] using registry.distinct }
  else registry.insert d h

theorem assign_of_free {registry : Registry} {d : Declaration} (h : d.name ∉ registry.names) :
    registry.assign d = registry.insert d h := dif_neg h

/-- **How far a caller is** with its call. -/
inductive Phase where
  | idle
  -- the arguments are well formed
  | waiting (call : Call)
  -- under the lock: nothing is looked up yet; a name was free; the call has taken effect
  | inside (call : Call)
  | writing (r : Registration) (d : Declaration)
  | leaving

/-- A phase under the lock. -/
def Phase.Inside : Phase → Prop
  | .inside _ | .writing _ _ | .leaving => True
  | .idle | .waiting _ => False

theorem Phase.inside_of_writing {phase : Phase} {r : Registration} {d : Declaration}
    (h : phase = .writing r d) : phase.Inside := by
  rw [h]
  trivial

/-- **A call that asks for the lock.** Of a question nothing is checked before. -/
inductive Call.Checked : Call → Prop where
  | register {r : Registration} {d : Declaration} (hchecked : r.declaration = .ok d) :
    Checked (.register r)
  | look (lookup : Lookup) : Checked (.look lookup)

/-- **A registry that callers share**, and who holds its lock. -/
structure Shared where
  registry : Registry
  holder : Option Nat
  phase : Nat → Phase

namespace Shared

/-- An empty registry that nobody uses. -/
def initial : Shared := ⟨.empty, none, fun _ => .idle⟩

/-- A caller gets to a phase. -/
def move (s : Shared) (i : Nat) (phase : Phase) : Shared :=
  { s with phase := Function.update s.phase i phase }

/-- **One step of one caller**, and the entry of its call if that takes effect in the step. -/
inductive Next (s : Shared) : Option Entry → Shared → Prop where
  -- arguments are checked before the lock is asked for
  | refuse {i : Nat} {r : Registration} {fault : Fault} (hphase : s.phase i = .idle)
    (hrefused : r.declaration = .error fault) :
    Next s (some ⟨i, .register r, .fault fault⟩) s
  | enter {i : Nat} {call : Call} (hphase : s.phase i = .idle) (hchecked : call.Checked) :
    Next s none (s.move i (.waiting call))
  | acquire {i : Nat} {call : Call} (hphase : s.phase i = .waiting call)
    (hfree : s.holder = none) :
    Next s none { s.move i (.inside call) with holder := some i }
  | look {i : Nat} {lookup : Lookup} (hphase : s.phase i = .inside (.look lookup)) :
    Next s (some ⟨i, .look lookup, s.registry.look lookup⟩) (s.move i .leaving)
  | taken {i : Nat} {r : Registration} {d : Declaration}
    (hphase : s.phase i = .inside (.register r)) (hchecked : r.declaration = .ok d)
    (htaken : d.name ∈ s.registry.names) :
    Next s (some ⟨i, .register r, .fault (.path (.duplicateMorphism d.name))⟩) (s.move i .leaving)
  | free {i : Nat} {r : Registration} {d : Declaration}
    (hphase : s.phase i = .inside (.register r)) (hchecked : r.declaration = .ok d)
    (hfree : d.name ∉ s.registry.names) :
    Next s none (s.move i (.writing r d))
  -- nothing is looked up again
  | write {i : Nat} {r : Registration} {d : Declaration} (hphase : s.phase i = .writing r d) :
    Next s (some ⟨i, .register r, .morphism d.morphism⟩)
      { s.move i .leaving with registry := s.registry.assign d }
  | release {i : Nat} (hphase : s.phase i = .leaving) :
    Next s none { s.move i .idle with holder := none }

/-- **A run** of any callers and any calls, with its history. What is in front of a step is a
run of its own. -/
inductive Run : List Entry → Shared → Prop where
  | initial : Run [] initial
  | step {entries : List Entry} {s s' : Shared} {effect : Option Entry} (hrun : Run entries s)
    (hnext : Next s effect s') : Run (entries ++ effect.toList) s'

/-! ### The lock keeps others out -/

/-- **Only the holder of the lock is under it**, and a name that is about to be written is
free. -/
structure Exclusive (s : Shared) : Prop where
  holder : ∀ i, (s.phase i).Inside → s.holder = some i
  writing : ∀ i r d, s.phase i = .writing r d →
    r.declaration = .ok d ∧ d.name ∉ s.registry.names

variable {s s' : Shared} {i j : Nat} {phase : Phase}

theorem move_phase_self : (s.move i phase).phase i = phase := Function.update_self ..

theorem move_phase_of_ne (h : j ≠ i) : (s.move i phase).phase j = s.phase j :=
  Function.update_of_ne h ..

/-- A lock that nobody is under keeps everybody out. -/
theorem exclusive_of_nobody (h : ∀ j, ¬ (s.phase j).Inside) : Exclusive s where
  holder := fun j hj => absurd hj (h j)
  writing := fun j _ _ hj => absurd (Phase.inside_of_writing hj) (h j)

theorem exclusive_initial : Exclusive initial := exclusive_of_nobody fun _ => id

/-- Two callers under the lock are one. -/
theorem Exclusive.eq_of_inside (h : Exclusive s) (hi : (s.phase i).Inside)
    (hj : (s.phase j).Inside) : j = i :=
  Option.some.inj ((h.holder j hj).symm.trans (h.holder i hi))

/-- A caller gets to a phase without taking the lock or writing. -/
theorem Exclusive.move (h : Exclusive s) (hinside : phase.Inside → (s.phase i).Inside)
    (hwriting : ∀ r d, phase = .writing r d →
      r.declaration = .ok d ∧ d.name ∉ s.registry.names) : Exclusive (s.move i phase) := by
  refine ⟨fun j hj => ?_, fun j r d hj => ?_⟩
  · -- of the caller that moves the new phase decides, and the others are where they were
    by_cases hji : j = i
    · subst hji
      rw [move_phase_self] at hj
      exact h.holder j (hinside hj)
    · rw [move_phase_of_ne hji] at hj
      exact h.holder j hj
  · by_cases hji : j = i
    · subst hji
      rw [move_phase_self] at hj
      exact hwriting r d hj
    · rw [move_phase_of_ne hji] at hj
      exact h.writing j r d hj

/-- A caller takes the lock when it is free. Nobody is under it then. -/
theorem Exclusive.acquire (h : Exclusive s) (hfree : s.holder = none) (call : Call) :
    Exclusive { s.move i (.inside call) with holder := some i } := by
  have hnobody : ∀ j, ¬ (s.phase j).Inside := by
    intro j hj
    rw [h.holder j hj] at hfree
    cases hfree
  -- the caller is the only one under the lock, and has looked nothing up yet
  refine ⟨fun j hj => ?_, fun j r d hj => ?_⟩
  · by_cases hji : j = i
    · rw [hji]
    · have hother : (s.phase j).Inside := by
        rwa [← move_phase_of_ne hji]
      exact absurd hother (hnobody j)
  · by_cases hji : j = i
    · subst hji
      cases move_phase_self.symm.trans hj
    · exact h.writing j r d ((move_phase_of_ne hji).symm.trans hj)

/-- A caller that leaves writes at most for itself: another one that is about to write would be
under the lock with it. -/
theorem Exclusive.write (h : Exclusive s) (hinside : (s.phase i).Inside) (registry : Registry) :
    Exclusive { s.move i .leaving with registry := registry } := by
  have hmoved : Exclusive (s.move i .leaving) := h.move (fun _ => hinside) nofun
  refine ⟨hmoved.holder, fun j r d hj => ?_⟩
  have hself : ((s.move i .leaving).phase i).Inside := by
    rw [move_phase_self]
    trivial
  rw [hmoved.eq_of_inside hself (Phase.inside_of_writing hj)] at hj
  cases move_phase_self.symm.trans hj

/-- A caller gives the lock back. Whoever is under it afterwards was so together with it. -/
theorem Exclusive.release (h : Exclusive s) (hinside : (s.phase i).Inside) :
    Exclusive { s.move i .idle with holder := none } := by
  refine exclusive_of_nobody fun j hj => ?_
  by_cases hji : j = i
  · subst hji
    have hidle : ((s.move j .idle).phase j).Inside := hj
    rw [move_phase_self] at hidle
    exact hidle
  · have hother : (s.phase j).Inside := by
      rwa [← move_phase_of_ne hji]
    exact hji (h.eq_of_inside hinside hother)

/-- **A step keeps other callers out.** -/
theorem Exclusive.next (h : Exclusive s) {effect : Option Entry} (hnext : Next s effect s') :
    Exclusive s' := by
  -- by the step: it takes the lock, stays under it, or gives it back
  cases hnext with
  | refuse => exact h
  | enter => exact h.move (fun hinside => hinside.elim) nofun
  | acquire _ hfree => exact h.acquire hfree _
  | look hphase => exact h.move (fun _ => by rw [hphase]; trivial) nofun
  | taken hphase => exact h.move (fun _ => by rw [hphase]; trivial) nofun
  | free hphase hchecked hfree =>
    refine h.move (fun _ => by rw [hphase]; trivial) fun r' d' heq => ?_
    cases heq
    exact ⟨hchecked, hfree⟩
  | write hphase => exact h.write (Phase.inside_of_writing hphase) _
  | release hphase => exact h.release (by rw [hphase]; trivial)

/-! ### Histories of runs -/

/-- **A step does what its call does alone**, and nothing if it has no entry. -/
theorem perform_of_next (h : Exclusive s) {effect : Option Entry} (hnext : Next s effect s') :
    match effect with
    | none => s'.registry = s.registry
    | some e => s.registry.perform e.call = (s'.registry, e.answer) := by
  cases hnext with
  | refuse _ hrefused => exact perform_refused hrefused
  | enter => rfl
  | acquire => rfl
  | look => rfl
  | taken _ hchecked htaken => exact perform_taken hchecked htaken
  | free => rfl
  | write hphase =>
    -- the name has been free ever since it was looked up
    obtain ⟨hchecked, hfree⟩ := h.writing _ _ _ hphase
    change _ = (s.registry.assign _, _)
    rw [assign_of_free hfree]
    exact perform_free hchecked hfree
  | release => rfl

/-- **The history of a run is one of calls made one after another**: the lock makes each of them
take effect in one step. -/
theorem sequential_of_run {entries : List Entry} (h : Run entries s) :
    Exclusive s ∧ Sequential entries s.registry := by
  -- on the run: each step keeps others out, so it does what its call does alone
  induction h with
  | initial => exact ⟨exclusive_initial, .nil⟩
  | @step entries s s' effect _ hnext ih =>
    obtain ⟨hexclusive, hentries⟩ := ih
    refine ⟨hexclusive.next hnext, ?_⟩
    have heffect := perform_of_next hexclusive hnext
    cases effect with
    | none =>
      have hregistry : s'.registry = s.registry := heffect
      rw [hregistry]
      simpa using hentries
    | some e => exact .snoc hentries heffect

end Shared

/-! ### What a registry holds after a history -/

section History

variable {registry after : Registry} {entries : List Entry} {e : Entry} {name : Name}

/-- **What an entry does**: it declares a name that is free, it fails at one that is taken, or
it asks for no well-formed declaration and changes nothing. -/
theorem perform_cases (h : registry.perform e.call = (after, e.answer)) :
    (∃ d, ∃ hfree : d.name ∉ registry.names, e.declaration? = some d ∧
      after = registry.insert d hfree ∧ e.answer = .morphism d.morphism) ∨
    (∃ d, d.name ∈ registry.names ∧ e.declaration? = some d ∧ after = registry ∧
      e.answer = .fault (.path (.duplicateMorphism d.name))) ∨
    (e.declaration? = none ∧ after = registry) := by
  obtain ⟨caller, call, answer⟩ := e
  cases call with
  | look lookup =>
    cases h
    exact .inr (.inr ⟨rfl, rfl⟩)
  | register r =>
    cases hchecked : r.declaration with
    | error fault =>
      have hnone : Entry.declaration? ⟨caller, .register r, answer⟩ = none := by
        simp [Entry.declaration?, hchecked, Except.toOption]
      cases h.symm.trans (perform_refused hchecked)
      exact .inr (.inr ⟨hnone, rfl⟩)
    | ok d =>
      have hsome : Entry.declaration? ⟨caller, .register r, answer⟩ = some d := by
        simp [Entry.declaration?, hchecked, Except.toOption]
      -- well-formed arguments declare a name that is free, or fail at one that is taken
      by_cases hname : d.name ∈ registry.names
      · cases h.symm.trans (perform_taken hchecked hname)
        exact .inr (.inl ⟨d, hname, hsome, rfl, rfl⟩)
      · cases h.symm.trans (perform_free hchecked hname)
        exact .inl ⟨d, hname, hsome, rfl, rfl⟩

theorem find?_isSome_iff : (registry.find? name.text).isSome ↔ name ∈ registry.names := by
  constructor
  · intro h
    by_contra hfree
    rw [find?_eq_none_of_not_mem hfree] at h
    cases h
  · intro h
    obtain ⟨d, hd, hname⟩ := List.mem_map.1 h
    exact List.find?_isSome.2 ⟨d, hd, by rw [hname]; exact decide_eq_true rfl⟩

/-- **The declarations are those that succeeded**, in order. -/
theorem Sequential.declarations_eq (h : Sequential entries registry) :
    registry.declarations = entries.filterMap Entry.declared? := by
  induction h with
  | nil => rfl
  | @snoc entries registry after e _ hperform ih =>
    rw [List.filterMap_append, ← ih]
    -- a declaration that succeeds is behind all others
    rcases perform_cases hperform with ⟨d, hfree, hd, rfl, hanswer⟩ | ⟨d, -, hd, rfl, hanswer⟩ |
      ⟨hd, rfl⟩
    · have hdeclared : e.declared? = some d := by simp [Entry.declared?, hanswer, hd]
      rw [List.filterMap_cons, hdeclared]
      rfl
    · have hdeclared : e.declared? = none := by simp [Entry.declared?, hanswer]
      simp [hdeclared]
    · have hdeclared : e.declared? = none := by
        unfold Entry.declared?
        split
        · exact hd
        · rfl
      simp [hdeclared]

/-- **A name has the steps of its first well-formed declaration.** -/
theorem Sequential.find?_eq (h : Sequential entries registry) (t : Text) :
    registry.find? t = (entries.filterMap Entry.declaration?).find? (·.name.text = t) := by
  induction h with
  | nil => rfl
  | @snoc entries registry after e _ hperform ih =>
    rw [List.filterMap_append, List.find?_append, ← ih]
    rcases perform_cases hperform with ⟨d, hfree, hd, rfl, -⟩ | ⟨d, htaken, hd, rfl, -⟩ |
      ⟨hd, rfl⟩
    · rw [find?_insert, List.filterMap_cons, hd]
      by_cases ht : d.name.text = t <;> simp [ht]
    · -- the name is taken, so the declaration is not the first one
      rw [List.filterMap_cons, hd]
      by_cases ht : d.name.text = t
      · obtain ⟨first, hfirst⟩ := Option.isSome_iff_exists.1 (find?_isSome_iff.2 htaken)
        rw [← ht, hfirst, Option.some_or]
      · simp [ht]
    · simp [hd]

theorem Entry.declares_iff {d : Declaration} (h : e.declaration? = some d) :
    e.Declares name ↔ d.name = name := by
  simp [Declares, h]

theorem Entry.not_declares (h : e.declaration? = none) : ¬ e.Declares name := by
  simp [Declares, h]

/-- The names are those of which there is a well-formed declaration. -/
theorem Sequential.mem_names_iff (h : Sequential entries registry) :
    name ∈ registry.names ↔ ∃ e ∈ entries, e.Declares name := by
  induction h with
  | nil => simp [names, empty]
  | @snoc entries registry after e _ hperform ih =>
    have hlast : (∃ x ∈ entries ++ [e], x.Declares name)
        ↔ (∃ x ∈ entries, x.Declares name) ∨ e.Declares name := by
      simp [or_and_right, exists_or]
    rw [hlast, ← ih]
    -- the last entry adds its name, or the name is there already
    rcases perform_cases hperform with ⟨d, hfree, hd, rfl, -⟩ | ⟨d, htaken, hd, rfl, -⟩ |
      ⟨hd, rfl⟩
    · have hnames : (registry.insert d hfree).names = registry.names ++ [d.name] := by
        simp [names, insert]
      rw [hnames, List.mem_append, List.mem_singleton, Entry.declares_iff hd, @eq_comm _ name]
    · rw [Entry.declares_iff hd]
      exact ⟨.inl, fun h => h.elim id fun hname => hname ▸ htaken⟩
    · exact ⟨.inl, fun h => h.resolve_right (Entry.not_declares hd)⟩

/-- **Exactly one of the declarations of a name succeeds**, and all others find it taken. -/
theorem Sequential.split (h : Sequential entries registry)
    (hname : ∃ e ∈ entries, e.Declares name) :
    ∃ before e behind d, entries = before ++ e :: behind ∧ e.declaration? = some d ∧
      d.name = name ∧ e.answer = .morphism d.morphism ∧
      ∀ other ∈ before ++ behind, other.Declares name →
        other.answer = .fault (.path (.duplicateMorphism name)) := by
  induction h with
  | nil =>
    obtain ⟨_, he, -⟩ := hname
    cases he
  | @snoc entries registry after e hentries hperform ih =>
    by_cases hearlier : ∃ x ∈ entries, x.Declares name
    · -- the name has been declared before, so this entry does not succeed if it declares it
      obtain ⟨before, first, behind, d, rfl, hd, hdname, hanswer, hothers⟩ := ih hearlier
      refine ⟨before, first, behind ++ [e], d, by simp, hd, hdname, hanswer, ?_⟩
      intro other hother hdeclares
      rw [← List.append_assoc] at hother
      rcases List.mem_append.1 hother with hother | hother
      · exact hothers other hother hdeclares
      · obtain rfl := List.mem_singleton.1 hother
        have htaken : name ∈ registry.names := hentries.mem_names_iff.2 hearlier
        rcases perform_cases hperform with ⟨d', hfree, hd', -, -⟩ | ⟨d', -, hd', -, hanswer'⟩ |
          ⟨hd', -⟩
        · rw [(Entry.declares_iff hd').1 hdeclares] at hfree
          exact absurd htaken hfree
        · rwa [(Entry.declares_iff hd').1 hdeclares] at hanswer'
        · exact absurd hdeclares (Entry.not_declares hd')
    · -- the name is free, and this entry is the one that declares it
      have hdeclares : e.Declares name := by
        obtain ⟨x, hx, hdeclares⟩ := hname
        rcases List.mem_append.1 hx with hx | hx
        · exact absurd ⟨x, hx, hdeclares⟩ hearlier
        · rwa [← List.mem_singleton.1 hx]
      have hfree : name ∉ registry.names := fun h => hearlier (hentries.mem_names_iff.1 h)
      rcases perform_cases hperform with ⟨d, -, hd, -, hanswer⟩ | ⟨d, htaken, hd, -, -⟩ |
        ⟨hd, -⟩
      · refine ⟨entries, e, [], d, rfl, hd, (Entry.declares_iff hd).1 hdeclares, hanswer, ?_⟩
        intro other hother hother'
        rw [List.append_nil] at hother
        exact absurd ⟨other, hother, hother'⟩ hearlier
      · rw [(Entry.declares_iff hd).1 hdeclares] at htaken
        exact absurd htaken hfree
      · exact absurd hdeclares (Entry.not_declares hd)

end History

/-! ### Any run -/

/-- **The registry is written once**, whoever calls it and in whatever order the steps of the
callers come. After any run, the names are those of the declarations that succeeded, in order
and none twice; every text is resolved to the steps of its first well-formed declaration, and is
unknown if there was none; of the well-formed declarations of a name one has succeeded, and all
others have found it taken; and a step changes nothing unless a declaration succeeds in it. -/
theorem write_once {entries : List Entry} {s : Shared} (h : Shared.Run entries s) :
    (∃ names, s.registry.perform (.look .names) = (s.registry, .names names) ∧ names.Nodup ∧
      names = (entries.filterMap Entry.declared?).map (·.name) ∧
      s.registry.perform (.look .size) = (s.registry, .count names.length)) ∧
    (∀ t : Text, s.registry.perform (.look (.resolve (.text t))) = (s.registry,
      match (entries.filterMap Entry.declaration?).find? (·.name.text = t) with
      | some d => .morphism ⟨some d.name, d.steps⟩
      | none => .fault (.path (.unknownMorphism (.text t))))) ∧
    (∀ name : Name, (∃ e ∈ entries, e.Declares name) →
      ∃ before e behind d, entries = before ++ e :: behind ∧ e.declaration? = some d ∧
        d.name = name ∧ e.answer = .morphism d.morphism ∧
        ∀ other ∈ before ++ behind, other.Declares name →
          other.answer = .fault (.path (.duplicateMorphism name))) ∧
    (∀ effect s', Shared.Next s effect s' → (∀ e ∈ effect, e.declared? = none) →
      s'.registry = s.registry) := by
  obtain ⟨hexclusive, hentries⟩ := Shared.sequential_of_run h
  refine ⟨⟨s.registry.names, rfl, s.registry.distinct, ?_, ?_⟩, fun t => ?_,
    fun name hname => hentries.split hname, fun effect s' hnext hfails => ?_⟩
  · rw [names, hentries.declarations_eq]
  · rw [names, List.length_map]
    rfl
  · simp only [perform, look, resolveValue, ← hentries.find?_eq]
    cases s.registry.find? t <;> rfl
  · -- a step does what its call does alone, and a call that declares nothing leaves everything
    have heffect := Shared.perform_of_next hexclusive hnext
    cases effect with
    | none => exact heffect
    | some e =>
      have hnone : e.declared? = none := hfails e rfl
      rcases perform_cases heffect with ⟨d, _, hd, -, hanswer⟩ | ⟨_, -, -, hsame, -⟩ | ⟨-, hsame⟩
      · simp [Entry.declared?, hanswer, hd] at hnone
      · exact hsame
      · exact hsame

end Registry

/-! ### Two callers that declare one name -/

namespace Sample

open Registry

/-- Another name. -/
def other : Name := ⟨"other", by decide⟩

/-- A registration without a name. -/
def nameless : Registration := .declare (.text []) .null

/-- The name of the sample with its steps. -/
def first : Registration := .declare (.text likes.text) (.path ⟨declared⟩)

/-- The same name without steps. -/
def second : Registration := .save (.morphism ⟨some likes, []⟩)

/-- A morphism under another name than its own. -/
def renamed : Registration := .declare (.text other.text) (.morphism ⟨some likes, declared⟩)

/-- The history of two callers. Both ask for the lock to declare one name. -/
def history : List Entry :=
  [⟨1, .register nameless, .fault (.malformed "Morphism" (.expected .name (.text [])))⟩,
    ⟨0, .register first, .morphism ⟨some likes, declared⟩⟩,
    ⟨1, .register second, .fault (.path (.duplicateMorphism likes))⟩,
    ⟨1, .register renamed, .morphism ⟨some other, declared⟩⟩]

theorem history_run : ∃ s, Shared.Run history s := by
  have hnameless : nameless.declaration
      = .error (.malformed "Morphism" (.expected .name (.text []))) := rfl
  have hfirst : first.declaration = .ok ⟨likes, declared⟩ := rfl
  have hsecond : second.declaration = .ok ⟨likes, []⟩ := rfl
  have hrenamed : renamed.declaration = .ok ⟨other, declared⟩ := rfl
  -- both callers have checked their arguments before either takes the lock
  have hrefused := Shared.Run.initial.step (.refuse (i := 1) rfl hnameless)
  have hwaiting := (hrefused.step (.enter (i := 0) rfl (.register hfirst))).step
    (.enter (i := 1) rfl (.register hsecond))
  have hwritten := ((hwaiting.step (.acquire (i := 0) rfl rfl)).step
    (.free (i := 0) rfl hfirst List.not_mem_nil)).step (.write (i := 0) rfl)
  have hduplicate := ((hwritten.step (.release (i := 0) rfl)).step
    (.acquire (i := 1) rfl rfl)).step (.taken (i := 1) rfl hsecond List.mem_cons_self)
  have hentered := (hduplicate.step (.release (i := 1) rfl)).step
    (.enter (i := 1) rfl (.register hrenamed))
  have hother := ((hentered.step (.acquire (i := 1) rfl rfl)).step
    (.free (i := 1) rfl hrenamed (by decide))).step (.write (i := 1) rfl)
  exact ⟨_, hother⟩

end Sample

namespace Registry

/-- After the two callers of the sample both names are there, the second one with the steps of
the morphism of the first, and one of the two declarations of the first name has failed. -/
theorem write_once_sample : ∃ s, Shared.Run Sample.history s ∧
    s.registry.perform (.look .names) = (s.registry, .names [Sample.likes, Sample.other]) ∧
    s.registry.perform (.look (.resolve (.text Sample.other.text)))
      = (s.registry, .morphism ⟨some Sample.other, Sample.declared⟩) ∧
    ∃ before e behind d, Sample.history = before ++ e :: behind ∧ e.declaration? = some d ∧
      d.name = Sample.likes ∧ e.answer = .morphism d.morphism ∧
      ∀ other ∈ before ++ behind, other.Declares Sample.likes →
        other.answer = .fault (.path (.duplicateMorphism Sample.likes)) := by
  obtain ⟨s, hrun⟩ := Sample.history_run
  obtain ⟨⟨names, hnames, -, hdeclared, -⟩, hresolve, hsplit, -⟩ := write_once hrun
  have hboth : names = [Sample.likes, Sample.other] := hdeclared
  have hlikes : ∃ e ∈ Sample.history, e.Declares Sample.likes :=
    ⟨_, List.mem_cons_of_mem _ List.mem_cons_self, _, rfl, rfl⟩
  exact ⟨s, hrun, hboth ▸ hnames, hresolve Sample.other.text, hsplit Sample.likes hlikes⟩

end Registry

end GraphPath
