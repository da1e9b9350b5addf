import GraphPath.Json.Printer

/-!
# Wire queries

A compiled query: the ids to start from and one JSON object per step, each with the name
of its operation as the only field and the operands under it. The start travels apart
from the steps.

* `WireQuery` — the start and the steps;
* `WireQuery.toJson` — the steps as compact JSON text, if their integers can be written;
* `Json.wireStep` — the object of an operation with its operand.
-/

namespace GraphPath

/-- **A compiled query.** No start ids stand for every node. -/
structure WireQuery where
  start : List Json
  steps : List Json

/-- **A step on the wire**: its operation and its operand. -/
def Json.wireStep (operation : Text) (operand : Json) : Json := .object [(operation, operand)]

/-- The operation that heads a sub-expression. -/
def Wire.startOperation : Text := "V"

/-- The operation that fetches every result. -/
def Wire.allOperation : Text := "All"

/-- The operation that fetches so many results. -/
def Wire.limitOperation : Text := "GetLimit"

namespace WireQuery

/-- The number of steps. -/
def size (wire : WireQuery) : Nat := wire.steps.length

/-- **The JSON text of the steps.** -/
def toJson (wire : WireQuery) : Except Json.Unwritable Text :=
  (Json.array wire.steps).write .compact

end WireQuery

end GraphPath
