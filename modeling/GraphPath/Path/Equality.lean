import GraphPath.Path.Shown

/-!
# Equality of values

When two values count as equal. Selectors, steps and expressions are equal if they are of
one kind and all their parts are equal; plain numbers compare by what they are worth, so
`1`, `1.0` and `True` are equal.

* `Value.same` — equality of values;
* `Value.sameItems` — equality of sequences, position by position;
* `Value.unhashable?` — the first part of a value, if any, that cannot be a member of a
  set: a list or a dictionary;
* `Value.distinct` — how many different members two values make.
-/

namespace GraphPath

namespace Value

/-- The integer that a boolean or an integer is worth. -/
def worth? : Value → Option Int
  | .bool b => some (Json.ofBool b)
  | .int n => some n
  | _ => none

mutual

/-- **Equality of values.** -/
def same : Value → Value → Bool
  | .null, other => match other with
    | .null => true
    | _ => false
  | .bool b, other => match other with
    -- numbers compare exactly: no integer is rounded to a float first
    | .float y => y.sameInt (Json.ofBool b)
    | _ => other.worth? == some (Json.ofBool b)
  | .int n, other => match other with
    | .float y => y.sameInt n
    | _ => other.worth? == some n
  | .float x, other => match other with
    | .float y => x.same y
    | _ => other.worth?.any x.sameInt
  | .text t, other => match other with
    | .text u => t == u
    | _ => false
  | .list items, other => match other with
    | .list others => sameItems items others
    | _ => false
  | .tuple items, other => match other with
    | .tuple others => sameItems items others
    | _ => false
  | .object fields, other => match other with
    -- dictionaries compare in any order of their entries
    | .object others => fields.length == others.length && sameFields fields others
    | _ => false
  | .selector s, other => match other with
    | .selector t => s == t
    | _ => false
  | .kind k, other => match other with
    | .kind l => k == l
    | _ => false
  | .step s, other => match other with
    | .step t => sameStep s t
    | _ => false
  | .morphismRef ⟨name, none⟩, other => match other with
    -- an expectation that is missing is equal only to one that is missing
    | .morphismRef ⟨otherName, none⟩ => same name otherName
    | _ => false
  | .morphismRef ⟨name, some steps⟩, other => match other with
    | .morphismRef ⟨otherName, some others⟩ => same name otherName && sameItems steps others
    | _ => false
  | .path ⟨steps⟩, other => match other with
    | .path ⟨others⟩ => sameSteps steps others
    | _ => false
  | .morphism ⟨name, steps⟩, other => match other with
    | .morphism ⟨otherName, others⟩ => name == otherName && sameSteps steps others
    | _ => false
  | .vertex v, other => match other with
    | .vertex w => sameVertex v w
    | _ => false
  | .query ⟨v, f⟩, other => match other with
    | .query ⟨w, g⟩ => sameVertex v w && sameFinal f g
    | _ => false
  | .final f, other => match other with
    | .final g => sameFinal f g
    | _ => false
termination_by structural value => value

/-- Equality of sequences, position by position. -/
def sameItems : List Value → List Value → Bool
  | [], others => others.isEmpty
  | item :: items, others => match others with
    | [] => false
    | other :: others => same item other && sameItems items others
termination_by structural value => value

/-- Every entry has an equal one among the others. -/
def sameFields : List (Text × Value) → List (Text × Value) → Bool
  | [], _ => true
  | (name, value) :: fields, others =>
    (match Fields.get? name others with
      | some other => same value other
      | none => false) && sameFields fields others
termination_by structural value => value

/-- Equality of steps: the same kind with equal operands. -/
def sameStep : Step → Step → Bool
  | ⟨k, operands⟩, other => k == other.kind && sameItems operands other.operands
termination_by structural value => value

/-- Equality of step sequences. -/
def sameSteps : List Step → List Step → Bool
  | [], others => others.isEmpty
  | s :: steps, others => match others with
    | [] => false
    | other :: others => sameStep s other && sameSteps steps others
termination_by structural value => value

/-- Equality of vertices. -/
def sameVertex : Vertex → Vertex → Bool
  | ⟨start, steps⟩, other => start == other.start && sameSteps steps other.steps
termination_by structural value => value

/-- Equality of finalizers. -/
def sameFinal : Final → Final → Bool
  | .all, other => match other with
    | .all => true
    | .getLimit _ => false
  | .getLimit limit, other => match other with
    | .all => false
    | .getLimit otherLimit => same limit otherLimit
termination_by structural value => value

end

/-! ### Members of sets -/

mutual

/-- **The first part that cannot be a member of a set**, by its kind. -/
def unhashable? : Value → Option Text
  | .list _ => some "list"
  | .object _ => some "dict"
  | .tuple items => unhashableItem? items
  | .step ⟨_, operands⟩ => unhashableItem? operands
  | .morphismRef ⟨name, none⟩ => unhashable? name
  | .morphismRef ⟨name, some steps⟩ => (unhashable? name).or (unhashableItem? steps)
  | .path ⟨steps⟩ => unhashableStep? steps
  | .morphism ⟨_, steps⟩ => unhashableStep? steps
  | .vertex ⟨_, steps⟩ => unhashableStep? steps
  -- a vertex is hashed before its finalizer
  | .query ⟨⟨_, steps⟩, .all⟩ => unhashableStep? steps
  | .query ⟨⟨_, steps⟩, .getLimit limit⟩ => (unhashableStep? steps).or (unhashable? limit)
  | .final (.getLimit limit) => unhashable? limit
  | .null | .bool _ | .int _ | .float _ | .text _ | .selector _ | .kind _ | .final .all => none

/-- The first such part of a sequence. -/
def unhashableItem? : List Value → Option Text
  | [] => none
  | item :: items => (unhashable? item).or (unhashableItem? items)

/-- The first such part of a step sequence. -/
def unhashableStep? : List Step → Option Text
  | [] => none
  | ⟨_, operands⟩ :: steps => (unhashableItem? operands).or (unhashableStep? steps)

end

/-- **How many members two values make**, or the kind of the first part that cannot be
in a set. -/
def distinct (a b : Value) : Except Text Nat :=
  match a.unhashable?.or b.unhashable? with
  | some name => .error name
  -- equal values have equal hashes, so they are one member
  | none => .ok (if a.same b then 1 else 2)

end Value

end GraphPath
