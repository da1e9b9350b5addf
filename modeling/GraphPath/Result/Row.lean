import GraphPath.Json.Printer
import GraphPath.Text.Quoted

/-!
# Result rows

A row of a result names some fields and gives each a text. Which fields there are
depends on the tags of the query, so a missing field is a valid shape.

* `Row` — the fields, with distinct names;
* `Row.get?`, `Row.id?` — the text under a name, the node id;
* `Row.same` — equality of rows as maps: the order of the fields does not matter;
* `Json.toFieldText` — the text that a value has as a field, if it can be written.
-/

namespace GraphPath

/-- **Field text.** A string is kept, and any other value becomes its compact JSON text. -/
def Json.toFieldText : Json → Except Json.Unwritable Text
  | .text t => .ok t
  | value => value.write .compact

/-- **A result row.** -/
structure Row where
  fields : Fields Text
  distinct : fields.names.Nodup

namespace Row

/-- The row of a list of fields, the last value of a name winning at its first place. -/
def ofList (fields : Fields Text) : Row := ⟨Fields.ofList fields, Fields.nodup_names_ofList fields⟩

/-- The text under a name. -/
def get? (row : Row) (name : Text) : Option Text := Fields.get? name row.fields

/-- The node id, if the row carries one. -/
def id? (row : Row) : Option Text := row.get? "id"

/-- The names of the fields, in order. -/
def names (row : Row) : List Text := row.fields.names

/-- The texts of the fields, in order. -/
def values (row : Row) : List Text := row.fields.map (·.2)

/-- The number of fields. -/
def size (row : Row) : Nat := row.fields.length

/-- **Equality as maps.** Equally many fields, each with the same text in the other row. -/
def same (row other : Row) : Bool :=
  row.size == other.size && row.fields.all fun (name, value) => other.get? name == some value

/-- Equality of a row with a JSON value: an object with the same strings under the same
names. No other value is equal to a row. -/
def sameJson (row : Row) : Json → Bool
  | .object fields =>
    row.size == fields.length && row.fields.all fun (name, value) =>
      -- the order of the fields does not matter
      match Fields.get? name fields with
      | some (.text t) => t == value
      | _ => false
  | _ => false

/-- One field as it is shown. -/
def shownField (field : Text × Text) : Text := field.1.quoted ++ ": " ++ field.2.quoted

/-- How a row is shown. -/
def shown (row : Row) : Text :=
  "GraphNode(\x7b" ++ Text.join ", " (row.fields.map shownField) ++ "\x7d)"

end Row

end GraphPath
