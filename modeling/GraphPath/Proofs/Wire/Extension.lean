import GraphPath.Proofs.Wire.Agreement
import GraphPath.Proofs.Wire.Derivation

/-!
# Later declarations

What a query compiles to depends on the declarations that the compiler looks up, and these
are never changed. Under a registry with more declarations the outcome can be another one
only if it was an unknown name, one that has been declared since; the order of the
declarations does not matter.

* `Registry.Extends` — a registry has every declaration of another one, with equal steps;
* `Registry.run` — the registry after calls that declare and save, failing or not;
* `Compile.expandAt_depth` — a depth that is large enough makes no difference;
* `Compile.agree_expandAt` — expansion under an extension;
* `Registry.compile_extends` — the outcome of a query under an extension.
-/

namespace GraphPath

namespace Registry

/-- **A registry extends another one** if it has every name of it with the same steps, or,
for declarations of built expressions, with steps that are equal in both directions. -/
def Extends (registry larger : Registry) : Prop :=
  ∀ name l, registry.resolve? name = some l → ∃ l', larger.resolve? name = some l' ∧
    (l = l' ∨ registry.Built ∧ Value.sameSteps l l' ∧ Value.sameSteps l' l)

/-- **A registration**: a call that declares or saves. -/
inductive Registration where
  | declare (name expression : Value)
  | save (value : Value)

/-- What a registration gives. -/
def outcome (registry : Registry) : Registration → Except Fault (Registry × Morphism)
  | .declare name expression => registry.declareValue name expression
  | .save value => registry.save value

/-- The registry after a registration; one that fails changes nothing. -/
def after (registry : Registry) (call : Registration) : Registry :=
  match registry.outcome call with
  | .ok (registry, _) => registry
  | .error _ => registry

/-- **The registry after a run** of registrations. -/
def run (registry : Registry) (calls : List Registration) : Registry :=
  calls.foldl after registry

/-! ### Runs and orders -/

variable {registry larger other : Registry}

theorem resolve?_of_declare {name : Name} {steps l : List Step} {m : Morphism} {text : Text}
    (h : registry.declare name steps = .ok (larger, m)) (hl : registry.resolve? text = some l) :
    larger.resolve? text = some l := by
  -- the declared name was free
  have hne : name.text ≠ text := by
    rintro rfl
    unfold declare at h
    split at h
    · cases h
    · rename_i hfree
      rw [resolve?, find?_eq_none_of_not_mem hfree] at hl
      cases hl
  rw [resolve?_declare_of_ne h hne, hl]

/-- **A registration keeps every declaration.** -/
theorem resolve?_after {call : Registration} {name : Text} {l : List Step}
    (h : registry.resolve? name = some l) : (registry.after call).resolve? name = some l := by
  unfold after
  split
  · rename_i larger m hcall
    -- declaring and saving come down to one declaration
    cases call with
    | declare =>
      obtain ⟨_, _, -, hdeclare⟩ := declareValue_ok hcall
      exact resolve?_of_declare hdeclare h
    | save =>
      obtain ⟨_, _, -, hdeclare⟩ := save_ok hcall
      exact resolve?_of_declare hdeclare h
  · exact h

/-- **A run keeps every declaration.** -/
theorem resolve?_run {calls : List Registration} {name : Text} {l : List Step}
    (h : registry.resolve? name = some l) : (registry.run calls).resolve? name = some l := by
  induction calls generalizing registry with
  | nil => exact h
  -- what one call keeps, the calls behind it keep
  | cons call calls ih => exact ih (resolve?_after h)

theorem extends_run (registry : Registry) (calls : List Registration) :
    registry.Extends (registry.run calls) :=
  fun _ l h => ⟨l, resolve?_run h, .inl rfl⟩

/-- The order of the declarations does not matter to a name. -/
theorem resolve?_of_perm (h : registry.declarations.Perm other.declarations) (name : Text) :
    other.resolve? name = registry.resolve? name := by
  ext l
  simp only [resolve?_eq_some, h.mem_iff]

/-- The same declarations in another order are an extension. -/
theorem extends_of_perm (h : registry.declarations.Perm other.declarations) :
    registry.Extends other :=
  fun name l hl => ⟨l, (resolve?_of_perm h name).trans hl, .inl rfl⟩

end Registry

namespace Compile

variable {registry larger : Registry}

/-! ### References -/

/-- **The name that a reference looks up**, in any registry. -/
theorem expandReference_of_name {chain : List Text}
    {body : List Text → List Step → Except Fault (List Json)} {operand : Value} {name : Text}
    (h : referencedName operand = .ok (.text name)) :
    expandReference registry chain body operand =
      if name ∈ chain then .error (.path (.morphismCycle (chain ++ [name])))
      else match registry.resolve? name with
        | none => .error (.path (.unknownMorphism (.text name)))
        | some declared => (do
          checkExpected operand name declared
          body (chain ++ [name]) declared) := by
  unfold expandReference
  rw [h]
  rfl

/-- A reference without a name has a fault that no registry changes. -/
theorem expandReference_of_no_name {chain chain' : List Text}
    {body body' : List Text → List Step → Except Fault (List Json)} {operand : Value}
    (h : ∀ name, referencedName operand ≠ .ok (.text name)) :
    expandReference registry chain body operand
      = expandReference larger chain' body' operand := by
  unfold expandReference
  -- without a name the registry, the chain and the renderer are not used
  cases hname : referencedName operand with
  | error fault => rfl
  | ok value =>
    cases value with
    | text name => exact absurd hname (h name)
    | _ => rfl

/-- Expansion looks at the declared steps of names outside its chain only. -/
theorem expandReference_congr {chain : List Text}
    {body body' : List Text → List Step → Except Fault (List Json)}
    (h : ∀ name declared, name ∉ chain → registry.resolve? name = some declared →
      body (chain ++ [name]) declared = body' (chain ++ [name]) declared) :
    expandReference registry chain body = expandReference registry chain body' := by
  funext operand
  by_cases hname : ∃ name, referencedName operand = .ok (.text name)
  · obtain ⟨name, hname⟩ := hname
    rw [expandReference_of_name hname, expandReference_of_name hname]
    by_cases hchain : name ∈ chain
    · rw [if_pos hchain, if_pos hchain]
    · rw [if_neg hchain, if_neg hchain]
      cases hresolve : registry.resolve? name with
      | none => rfl
      | some declared => simp only [h name declared hchain hresolve]
  · exact expandReference_of_no_name (not_exists.1 hname)

/-! ### Depth -/

/-- **A depth that is large enough makes no difference**: the names of the chain and the
depth that is left make up for the size of the registry. -/
theorem expandAt_depth {depth depth' : Nat} {chain : List Text} (hchain : registry.Chain chain)
    (h : registry.size ≤ chain.length + depth) (h' : registry.size ≤ chain.length + depth') :
    expandAt registry depth chain = expandAt registry depth' chain := by
  rw [expandAt_eq, expandAt_eq]
  congr 1
  -- only names outside the chain are expanded, each behind a longer one
  refine expandReference_congr fun name declared hfresh hdeclared => ?_
  have hnext : registry.Chain (chain ++ [name]) := hchain.snoc hfresh hdeclared
  have hlength : (chain ++ [name]).length = chain.length + 1 := by simp
  have hlong : chain.length + 1 ≤ registry.size := hlength ▸ hnext.length_le
  -- both depths are positive, since the chain has room for one more name
  obtain ⟨left, rfl⟩ : ∃ left, depth = left + 1 := ⟨depth - 1, by omega⟩
  obtain ⟨left', rfl⟩ : ∃ left', depth' = left' + 1 := ⟨depth' - 1, by omega⟩
  exact congrFun (expandAt_depth hnext (by omega) (by omega)) declared
termination_by depth

/-! ### Expansion under an extension -/

/-- Steps that are the same, or shaped and equal in both directions. -/
def EqualSteps (l l' : List Step) : Prop :=
  l = l' ∨ Shaped l ∧ Value.sameSteps l l' ∧ Value.sameSteps l' l

/-- **A fault that an extension may change**: a name is unknown that the extension has. -/
def Missing (registry larger : Registry) (fault : Fault) : Prop :=
  ∃ name, fault = .path (.unknownMorphism (.text name)) ∧ registry.resolve? name = none ∧
    (larger.resolve? name).isSome

theorem sameItems_map_step (l l' : List Step) :
    Value.sameItems (l.map .step) (l'.map .step) = Value.sameSteps l l' := by
  induction l generalizing l' with
  | nil => cases l' <;> rfl
  | cons s l ih =>
    cases l' with
    | nil => rfl
    | cons s' l' =>
      rw [List.map_cons, List.map_cons, Value.sameItems, Value.sameSteps, ih]
      rfl

/-- Steps that are equal are equal to the same sequences. -/
theorem sameItems_of_equalSteps {l l' : List Step} (h : EqualSteps l l') (items : List Value) :
    Value.sameItems items (l.map .step) = Value.sameItems items (l'.map .step) := by
  rcases h with rfl | ⟨-, hsame, hsame'⟩
  · rfl
  · -- equality is transitive, and it holds in both directions
    rw [← sameItems_map_step] at hsame hsame'
    exact Bool.eq_iff_iff.2 ⟨fun h => Value.sameItems_trans _ _ _ h hsame,
      fun h => Value.sameItems_trans _ _ _ h hsame'⟩

/-- References of one meaning have one name. -/
theorem referencedName_congr {a b : Value} (h : SameReference a b) :
    referencedName a = referencedName b := by
  cases h <;> rfl

/-- References of one meaning expect equal steps to be declared, or neither does. -/
theorem checkExpected_congr {a b : Value} {name : Text} {declared declared' : List Step}
    (h : SameReference a b) (hdeclared : EqualSteps declared declared') :
    checkExpected a name declared = checkExpected b name declared' := by
  cases h with
  | refl a =>
    cases a with
    | morphismRef r =>
      obtain ⟨_, _ | steps⟩ := r
      · rfl
      · simp only [checkExpected, sameItems_of_equalSteps hdeclared]
    | _ => rfl
  | @expected _ steps others hsame hsame' =>
    -- the expected steps are equal to each other, too
    have hboth : Value.sameItems steps (declared'.map .step)
        = Value.sameItems others (declared'.map .step) :=
      Bool.eq_iff_iff.2 ⟨fun h => Value.sameItems_trans _ _ _ hsame' h,
        fun h => Value.sameItems_trans _ _ _ hsame h⟩
    simp only [checkExpected, sameItems_of_equalSteps hdeclared, hboth]

/-- What an extension has for the names of a registry. -/
theorem equalSteps_of_extends (hext : registry.Extends larger) {name : Text} {l : List Step}
    (h : registry.resolve? name = some l) :
    ∃ l', larger.resolve? name = some l' ∧ EqualSteps l l' := by
  obtain ⟨l', hl', rfl | ⟨hbuilt, hsame⟩⟩ := hext name l h
  · exact ⟨l, hl', .inl rfl⟩
  · exact ⟨l', hl', .inr ⟨hbuilt.shaped h, hsame⟩⟩

/-- **References of one meaning agree** under an extension if declared steps do. -/
theorem agree_expandReference (hext : registry.Extends larger) {chain : List Text}
    {body body' : List Text → List Step → Except Fault (List Json)}
    (hbody : ∀ chain l l', EqualSteps l l' →
      Agree (Missing registry larger) (body chain l) (body' chain l'))
    {a b : Value} (h : SameReference a b) :
    Agree (Missing registry larger) (expandReference registry chain body a)
      (expandReference larger chain body' b) := by
  by_cases hname : ∃ name, referencedName a = .ok (.text name)
  · -- both look up one name, and the chain is the same
    obtain ⟨name, hname⟩ := hname
    rw [expandReference_of_name hname,
      expandReference_of_name ((referencedName_congr h).symm.trans hname)]
    by_cases hchain : name ∈ chain
    · rw [if_pos hchain, if_pos hchain]
      exact .refl _
    · rw [if_neg hchain, if_neg hchain]
      cases hresolve : registry.resolve? name with
      -- a name that is not declared may be declared in the extension, and only there
      | none =>
        cases hlarger : larger.resolve? name with
        | none => exact .refl _
        | some l' => exact .inr ⟨_, ⟨name, rfl, hresolve, by rw [hlarger]; rfl⟩, rfl⟩
      | some l =>
        obtain ⟨l', hl', hequal⟩ := equalSteps_of_extends hext hresolve
        simp only [hl', checkExpected_congr h hequal]
        exact (Agree.refl _).bind fun _ => hbody _ l l' hequal
  · cases h with
    | refl => exact .inl (expandReference_of_no_name (not_exists.1 hname))
    | expected => exact absurd ⟨_, rfl⟩ hname

/-- **Expansion agrees under an extension**, for equal steps and any depth. -/
theorem agree_expandAt (hext : registry.Extends larger) {depth : Nat} {chain : List Text}
    {l l' : List Step} (h : EqualSteps l l') :
    Agree (Missing registry larger) (expandAt registry depth chain l)
      (expandAt larger depth chain l') := by
  have hsteps : ∀ {body body' : List Text → List Step → Except Fault (List Json)}
      {chain : List Text} {l l' : List Step}, EqualSteps l l' →
      (∀ chain l l', EqualSteps l l' →
        Agree (Missing registry larger) (body chain l) (body' chain l')) →
      Agree (Missing registry larger) (steps (expandReference registry chain body) l)
        (steps (expandReference larger chain body') l') := by
    -- the same steps need no shape, and equal ones have it
    rintro body body' chain l l' (rfl | ⟨hshaped, hsame, hsame'⟩) hbody
    · exact agree_steps (fun value => agree_expandReference hext hbody (.refl value)) l
    · exact agree_steps_of_same (fun a b hab => agree_expandReference hext hbody hab) hshaped
        hsame hsame'
  -- on the depth: declared steps are expanded to one less
  induction depth generalizing chain l l' with
  | zero =>
    rw [expandAt_eq, expandAt_eq]
    exact hsteps h fun chain _ _ _ => .refl _
  | succ depth ih =>
    rw [expandAt_eq, expandAt_eq]
    exact hsteps h fun chain _ _ hequal => ih hequal

end Compile

namespace Registry

open Compile

variable {registry larger : Registry}

theorem expandAt_of_size_le {depth : Nat} (h : registry.size ≤ depth) (l : List Step) :
    expandAt registry depth [] l = Compile.expand registry l :=
  congrFun (expandAt_depth .nil (by simpa using h) (by simp)) l

/-- **Compiling under an extension.** -/
theorem agree_compile (hext : registry.Extends larger) (expression : Value) :
    Agree (Missing registry larger) (registry.compile expression)
      (larger.compile expression) := by
  cases expression with
  | query q =>
    -- the sizes differ, but both registries may be given the larger depth
    have hsteps : Agree (Missing registry larger) (Compile.expand registry q.vertex.steps)
        (Compile.expand larger q.vertex.steps) := by
      rw [← expandAt_of_size_le (Nat.le_max_left registry.size larger.size),
        ← expandAt_of_size_le (Nat.le_max_right registry.size larger.size)]
      exact agree_expandAt hext (.inl rfl)
    exact hsteps.bind fun _ => .refl _
  | _ => exact .refl _

/-- **Later declarations change nothing that is settled.** Under an extension, every outcome
but an unknown name stays as it is, and so does that one if the names are the same. Runs of
registrations extend a registry, and its declarations in another order change nothing. -/
theorem compile_extends :
    (∀ {registry larger : Registry}, registry.Extends larger → ∀ expression : Value,
      ((∀ name, registry.compile expression ≠ .error (.path (.unknownMorphism name))) →
        larger.compile expression = registry.compile expression) ∧
      ((∀ name, (larger.resolve? name).isSome → (registry.resolve? name).isSome) →
        larger.compile expression = registry.compile expression)) ∧
    (∀ (registry : Registry) (calls : List Registration),
      registry.Extends (registry.run calls)) ∧
    (∀ {registry other : Registry}, registry.declarations.Perm other.declarations →
      ∀ expression : Value, other.compile expression = registry.compile expression) := by
  have hsettled : ∀ {registry larger : Registry}, registry.Extends larger → ∀ expression : Value,
      (∀ name, (larger.resolve? name).isSome → (registry.resolve? name).isSome) →
        larger.compile expression = registry.compile expression := by
    -- the names being the same, no fault can be of the class that may change
    intro registry larger hext expression hnames
    rcases agree_compile hext expression with heq | ⟨_, ⟨name, -, hnone, hsome⟩, -⟩
    · exact heq.symm
    · simpa [hnone] using hnames name hsome
  refine ⟨fun {registry larger} hext expression => ⟨fun hknown => ?_, hsettled hext expression⟩,
    extends_run, fun {registry other} h expression => ?_⟩
  · rcases agree_compile hext expression with heq | ⟨_, ⟨name, rfl, -⟩, hfault⟩
    · exact heq.symm
    · exact absurd hfault (hknown _)
  · -- in another order the names are the same, so no outcome can change
    exact hsettled (extends_of_perm h) expression fun name hname => resolve?_of_perm h name ▸ hname

/-- The sample compiles as before when another name has been declared and a second
declaration of its own name has failed; and it does in either order of the two names. -/
theorem compile_extends_sample :
    let likes : Registration := .declare (.text Sample.likes.text) (.path ⟨Sample.declared⟩)
    let knows : Registration := .declare (.text "knows") (.path ⟨[]⟩)
    (Sample.registry.run [knows, likes]).size = 2 ∧
      (Sample.registry.run [knows, likes]).compile (.query Sample.query)
        = Sample.registry.compile (.query Sample.query) ∧
      (Registry.empty.run [knows, likes]).compile (.query Sample.query)
        = (Registry.empty.run [likes, knows]).compile (.query Sample.query) := by
  refine ⟨rfl, ?_, ?_⟩
  · exact (compile_extends.1 (compile_extends.2.1 Sample.registry _) (.query Sample.query)).1
      fun name => nofun
  · exact compile_extends.2.2 (.swap _ _ []) (.query Sample.query)

end Registry

end GraphPath
