import GraphPath.Decimal.Binary64
import GraphPath.Fields

/-!
# JSON values

The data that travels between a caller, the compiler and the server. Objects keep the
order of their fields, and integers are unbounded and distinct from floating-point
numbers.

* `Json` — the values;
* `Json.typeName` — the kind of a value, as messages name it;
* `Json.same` — equality of values, in which numbers of both kinds and booleans compare
  by what they are worth and the order of fields does not matter;
* `Json.merged` — objects with one field per name: the last value at the first place;
* `Json.hasOversized`, `Json.nesting`, `Json.hasSurrogate` — what readers and writers refuse.
-/

namespace GraphPath

/-- **A JSON value.** -/
inductive Json where
  | null
  | bool (b : Bool)
  | int (n : Int)
  | float (x : Binary64)
  | text (t : Text)
  | array (items : List Json)
  | object (fields : List (Text × Json))
deriving Inhabited

namespace Json

/-- The kind of a value, in the words of the messages. -/
def typeName : Json → Text
  | .null => "NoneType"
  | .bool _ => "bool"
  | .int _ => "int"
  | .float _ => "float"
  | .text _ => "str"
  | .array _ => "list"
  | .object _ => "dict"

/-- The text of a value that is one. -/
def text? : Json → Option Text
  | .text t => some t
  | _ => none

/-- The field of a name, for a value that is an object. -/
def get? (name : Text) : Json → Option Json
  | .object fields => Fields.get? name fields
  | _ => none

/-! ### Equality -/

/-- A boolean counts as `0` or `1`. -/
def ofBool (b : Bool) : Int := if b then 1 else 0

/-- The integer that a boolean or an integer is worth. -/
def worth? : Json → Option Int
  | .bool b => some (ofBool b)
  | .int n => some n
  | _ => none

mutual

/-- **Equality of values.** Numbers compare by worth, objects by their fields in any
order. -/
def same : Json → Json → Bool
  | .null, other => match other with
    | .null => true
    | _ => false
  | .bool b, other => match other with
    | .float y => y.sameInt (ofBool b)
    | _ => other.worth? == some (ofBool b)
  | .int n, other => match other with
    | .float y => y.sameInt n
    | _ => other.worth? == some n
  | .float x, other => match other with
    | .float y => x.same y
    | _ => other.worth?.any x.sameInt
  | .text t, other => match other with
    | .text u => t == u
    | _ => false
  | .array items, other => match other with
    | .array others => sameItems items others
    | _ => false
  | .object fields, other => match other with
    | .object others => fields.length == others.length && sameFields fields others
    | _ => false

/-- Equality of arrays, position by position. -/
def sameItems : List Json → List Json → Bool
  | [], others => others.isEmpty
  | item :: items, others => match others with
    | [] => false
    | other :: others => same item other && sameItems items others

/-- Every field has an equal one among the others. -/
def sameFields : List (Text × Json) → List (Text × Json) → Bool
  | [], _ => true
  | (name, value) :: fields, others =>
    (match Fields.get? name others with
      | some other => same value other
      | none => false) && sameFields fields others

end

/-! ### Repeated names -/

mutual

/-- **One field per name**, at every depth. -/
def merged : Json → Json
  | .array items => .array (mergedItems items)
  | .object fields => .object (Fields.ofList (mergedFields fields))
  | .null => .null
  | .bool b => .bool b
  | .int n => .int n
  | .float x => .float x
  | .text t => .text t

/-- One field per name in every item. -/
def mergedItems : List Json → List Json
  | [] => []
  | item :: items => merged item :: mergedItems items

/-- One field per name in the value of every field. -/
def mergedFields : List (Text × Json) → List (Text × Json)
  | [] => []
  | (name, value) :: fields => (name, merged value) :: mergedFields fields

end

/-! ### Integers, depth and surrogates -/

/-- The most digits that an integer may have where it is read or written. -/
def digitLimit : Nat := 4300

/-- Whether an integer has more digits than that. -/
def isOversized (n : Int) : Bool := decide (Nat.pow 10 digitLimit ≤ n.natAbs)

mutual

/-- **Whether some integer** of the value, at any depth, is of a kind. -/
def anyInt (kind : Int → Bool) : Json → Bool
  | .int n => kind n
  | .array items => anyIntOfItems kind items
  | .object fields => anyIntOfFields kind fields
  | .null | .bool _ | .float _ | .text _ => false

/-- Whether some integer of an item is of a kind. -/
def anyIntOfItems (kind : Int → Bool) : List Json → Bool
  | [] => false
  | item :: items => anyInt kind item || anyIntOfItems kind items

/-- Whether some integer of a field's value is of a kind. -/
def anyIntOfFields (kind : Int → Bool) : List (Text × Json) → Bool
  | [] => false
  | (_, value) :: fields => anyInt kind value || anyIntOfFields kind fields

end

/-- Whether an integer in the value has too many digits. -/
def hasOversized (v : Json) : Bool := v.anyInt isOversized

mutual

/-- **How deeply a value is nested**: how many containers with something in them stand inside
one another. -/
def nesting : Json → Nat
  | .array items => if items.isEmpty then 0 else 1 + nestingOfItems items
  | .object fields => if fields.isEmpty then 0 else 1 + nestingOfFields fields
  | .null | .bool _ | .int _ | .float _ | .text _ => 0

/-- The greatest nesting of an item. -/
def nestingOfItems : List Json → Nat
  | [] => 0
  | item :: items => max (nesting item) (nestingOfItems items)

/-- The greatest nesting of a field's value. -/
def nestingOfFields : List (Text × Json) → Nat
  | [] => 0
  | (_, value) :: fields => max (nesting value) (nestingOfFields fields)

end

mutual

/-- Whether a surrogate occurs in some text or name of the value. -/
def hasSurrogate : Json → Bool
  | .text t => t.any (·.isSurrogate)
  | .array items => itemsHaveSurrogate items
  | .object fields => fieldsHaveSurrogate fields
  | .null | .bool _ | .int _ | .float _ => false

/-- Whether a surrogate occurs in some item. -/
def itemsHaveSurrogate : List Json → Bool
  | [] => false
  | item :: items => hasSurrogate item || itemsHaveSurrogate items

/-- Whether a surrogate occurs in some field, its name included. -/
def fieldsHaveSurrogate : List (Text × Json) → Bool
  | [] => false
  | (name, value) :: fields =>
    name.any (·.isSurrogate) || hasSurrogate value || fieldsHaveSurrogate fields

end

end Json

end GraphPath
