import GraphPath.Path.Build
import GraphPath.Path.Equality

/-!
# The registry of morphisms

Morphisms are declared once under a name and never removed or changed, so a query may
refer to a name that is declared later.

* `Registry` — the declarations, in order, under distinct names;
* `Registry.declare` — one more declaration, or the reason against it;
* `Registry.resolve?` — the steps under a name;
* `Registry.resolve?_declare_self`, `Registry.resolve?_declare_of_ne` — what a declaration
  changes: the name was free, it now has the steps, and every other name is as before.
-/

namespace GraphPath

/-- **A declaration**: steps under a name. -/
structure Declaration where
  name : Name
  steps : List Step

/-- The declaration as a morphism. -/
def Declaration.morphism (d : Declaration) : Morphism := ⟨some d.name, d.steps⟩

/-- **The registry.** Declarations in order, no name twice. -/
structure Registry where
  declarations : List Declaration
  distinct : (declarations.map (·.name)).Nodup

namespace Registry

/-- The registry without declarations. -/
def empty : Registry := ⟨[], List.nodup_nil⟩

/-- The declared names, in order of declaration. -/
def names (registry : Registry) : List Name := registry.declarations.map (·.name)

/-- The number of declarations. -/
def size (registry : Registry) : Nat := registry.declarations.length

/-- The declaration under a text. -/
def find? (registry : Registry) (name : Text) : Option Declaration :=
  registry.declarations.find? (·.name.text = name)

/-- **The steps under a name.** -/
def resolve? (registry : Registry) (name : Text) : Option (List Step) :=
  (registry.find? name).map (·.steps)

/-- Whether a text is a declared name. -/
def contains (registry : Registry) (name : Text) : Bool := (registry.find? name).isSome

/-- A declaration under a name that is free. -/
def insert (registry : Registry) (d : Declaration) (h : d.name ∉ registry.names) : Registry where
  declarations := registry.declarations ++ [d]
  distinct := by
    rw [List.map_append, List.map_cons, List.map_nil]
    refine List.nodup_append.2 ⟨registry.distinct, by simp, fun a ha b hb => ?_⟩
    rw [List.mem_singleton] at hb
    exact fun hab => h (hb ▸ hab ▸ ha)

/-- **Declaring** steps under a name, which must be free. -/
def declare (registry : Registry) (name : Name) (steps : List Step) :
    Except PathError (Registry × Morphism) :=
  if h : name ∈ registry.names then .error (.duplicateMorphism name)
  else .ok (registry.insert ⟨name, steps⟩ h, ⟨some name, steps⟩)

/-- The steps of a value that may be declared: a morphism or a path. -/
def stepsOf? : Value → Option (List Step)
  | .morphism m => some m.steps
  | .path p => some p.steps
  | _ => none

/-- **Declaring** a value under a value: a morphism or path under a name. -/
def declareValue (registry : Registry) (name expression : Value) :
    Except Fault (Registry × Morphism) :=
  match name with
  | .text (c :: rest) =>
    -- of a morphism only the steps are declared, its own name is not used
    match stepsOf? expression with
    | some steps =>
      match registry.declare ⟨c :: rest, List.cons_ne_nil c rest⟩ steps with
      | .ok outcome => .ok outcome
      | .error e => .error (.path e)
    | none => .error (.malformed "Morphism" (.expected .fragment expression))
  | _ => .error (.malformed "Morphism" (.expected .name name))

/-- **Saving** a morphism under its own name. -/
def save (registry : Registry) (value : Value) : Except Fault (Registry × Morphism) :=
  match value with
  | .morphism ⟨some name, steps⟩ =>
    match registry.declare name steps with
    | .ok outcome => .ok outcome
    | .error e => .error (.path e)
  | _ => .error (.malformed "Morphism" (.expected .namedMorphism value))

/-- **Looking up** the morphism under a value; only texts can be names. -/
def resolveValue (registry : Registry) (name : Value) : Except Fault Morphism :=
  match name with
  | .text t =>
    match registry.find? t with
    | some d => .ok d.morphism
    | none => .error (.path (.unknownMorphism name))
  | _ =>
    match name.unhashable? with
    | some kind => .error (.usage (.unhashable kind))
    | none => .error (.ofError (.unknownMorphism name))

/-- **Whether a value is a declared name**; only texts can be names. -/
def containsValue (registry : Registry) (name : Value) : Except Fault Bool :=
  match name with
  | .text t => .ok (registry.contains t)
  | _ =>
    match name.unhashable? with
    | some kind => .error (.usage (.unhashable kind))
    | none => .ok false

/-! ### What a declaration changes -/

theorem find?_insert (registry : Registry) (d : Declaration) (h : d.name ∉ registry.names)
    (name : Text) :
    (registry.insert d h).find? name =
      (registry.find? name).or (if d.name.text = name then some d else none) := by
  simp only [find?, insert, List.find?_append]
  congr 1
  -- behind the others, so it counts only if no other has the name
  by_cases hn : d.name.text = name <;> simp [List.find?, hn]

theorem find?_eq_none_of_not_mem {registry : Registry} {name : Name}
    (h : name ∉ registry.names) : registry.find? name.text = none := by
  rw [find?, List.find?_eq_none]
  intro d hd heq
  -- a declaration that is found would be of the name, for names are equal by their texts
  refine h (List.mem_map.2 ⟨d, hd, ?_⟩)
  obtain ⟨⟨t, ht⟩, steps⟩ := d
  obtain ⟨u, hu⟩ := name
  simp only [decide_eq_true_eq] at heq
  subst heq
  rfl

/-- A name that was declared has the declared steps. -/
theorem resolve?_declare_self {registry after : Registry} {name : Name} {steps : List Step}
    {m : Morphism} (h : registry.declare name steps = .ok (after, m)) :
    after.resolve? name.text = some steps := by
  unfold declare at h
  split at h
  · cases h
  · rename_i hfree
    cases h
    simp [resolve?, find?_insert, find?_eq_none_of_not_mem hfree]

/-- A declaration changes no other name. -/
theorem resolve?_declare_of_ne {registry after : Registry} {name : Name} {steps : List Step}
    {m : Morphism} {other : Text} (h : registry.declare name steps = .ok (after, m))
    (hne : name.text ≠ other) : after.resolve? other = registry.resolve? other := by
  unfold declare at h
  split at h
  · cases h
  · cases h
    simp [resolve?, find?_insert, hne]

end Registry

end GraphPath
