import GraphPath.Json.Printer
import GraphPath.Log.Level
import GraphPath.Log.Template

/-!
# Log records

A record of something that happened, and the line that is written for it: one JSON object
with its fields in a fixed order. Control characters are escaped, so no text inside a
record can end its line or begin another.

* `LogValue` — what a record may hold as its context; `Value.logged` — any value as one;
* `LogRecord` — a record, perhaps with a `LogFailure`;
* `LogRecord.tagged` — a record as the filter of a handler leaves it;
* `LogRecord.toJson`, `LogRecord.line` — the object and the line of a record;
* `LogRecord.format` — the line of a record whose message is still a template;
* `moduleOfPath` — the module that a source path names.
-/

namespace GraphPath

/-- **A logged value**: data, or anything else by the text that stands for it. There is no such
text if an integer in it has too many digits. -/
inductive LogValue where
  | null
  | bool (b : Bool)
  | int (n : Int)
  | float (x : Binary64)
  | text (t : Text)
  | list (items : List LogValue)
  | tuple (items : List LogValue)
  | object (fields : List (Text × LogValue))
  | other (shown : Text)
  | unshown

namespace LogValue

mutual

/-- **A logged value as JSON.** Lists and tuples are arrays, dictionaries are objects, and
what is no data is the text that stands for it; without that text nothing is written. -/
def toJson : LogValue → Json
  | .null => .null
  | .bool b => .bool b
  | .int n => .int n
  | .float x => .float x
  | .text t => .text t
  | .list items => .array (toJsonItems items)
  | .tuple items => .array (toJsonItems items)
  | .object fields => .object (toJsonFields fields)
  | .other shown => .text shown
  | .unshown => .null

/-- The items of a sequence as JSON. -/
def toJsonItems : List LogValue → List Json
  | [] => []
  | item :: items => toJson item :: toJsonItems items

/-- The fields of a dictionary as JSON. -/
def toJsonFields : List (Text × LogValue) → List (Text × Json)
  | [] => []
  | (name, value) :: fields => (name, toJson value) :: toJsonFields fields

end

mutual

/-- **Whether a logged value cannot be written**, for an integer in it has too many digits. -/
def isOversized : LogValue → Bool
  | .int n => Json.isOversized n
  | .list items | .tuple items => isOversizedItems items
  | .object fields => isOversizedFields fields
  | .unshown => true
  | .null | .bool _ | .float _ | .text _ | .other _ => false

/-- Whether some item of a sequence cannot be written. -/
def isOversizedItems : List LogValue → Bool
  | [] => false
  | item :: items => isOversized item || isOversizedItems items

/-- Whether some value of a dictionary cannot be written. -/
def isOversizedFields : List (Text × LogValue) → Bool
  | [] => false
  | (_, value) :: fields => isOversized value || isOversizedFields fields

end

end LogValue

namespace Value

mutual

/-- **A value as it is logged**: selectors and expressions are no data. -/
def logged : Value → LogValue
  | .null => .null
  | .bool b => .bool b
  | .int n => .int n
  | .float x => .float x
  | .text t => .text t
  | .list items => .list (loggedItems items)
  | .tuple items => .tuple (loggedItems items)
  | .object fields => .object (loggedFields fields)
  | value => if value.isOversized then .unshown else .other value.plainText

/-- The items of a sequence as they are logged. -/
def loggedItems : List Value → List LogValue
  | [] => []
  | item :: items => logged item :: loggedItems items

/-- The fields of a dictionary as they are logged. -/
def loggedFields : List (Text × Value) → List (Text × LogValue)
  | [] => []
  | (name, value) :: fields => (name, logged value) :: loggedFields fields

end

end Value

/-- The last segment of a path. -/
def lastSegment (path : Text) : Text := ((Text.splitOn (.char '/') path).getLast?).getD []

/-- A file name without its last extension. Dots in front belong to the name. -/
def withoutExtension (file : Text) : Text :=
  let behind := file.dropWhile (· = .char '.')
  let dots := file.takeWhile (· = .char '.')
  match (Text.splitOn (.char '.') behind) with
  -- a file whose only dots are in front has no extension
  | [] | [_] => file
  | pieces => dots ++ Text.join "." pieces.dropLast

/-- **The module of a source path**: its file without the extension. -/
def moduleOfPath (path : Text) : Text := withoutExtension (lastSegment path)

/-- **A failure** that a record reports: its kind and its message. -/
structure LogFailure where
  kind : Text
  message : Text

/-- The text of a failure. -/
def LogFailure.text (failure : LogFailure) : Text :=
  if failure.message.isEmpty then failure.kind else failure.kind ++ ": " ++ failure.message

/-- **A log record.** `correlation` is the id that it carries: that of the exchange in which it
was logged, until a handler tags it. `context` may be any value. -/
structure LogRecord where
  level : Level
  module : Text
  message : Text
  context : LogValue
  correlation : Option Text
  failure : Option LogFailure

namespace LogRecord

/-- What stands for no correlation id. -/
def dash : Text := "-"

/-- The tag of a correlation id: a dash if there is none, or an empty one. -/
def tag (correlation : Option Text) : Text :=
  match correlation with
  | none | some [] => dash
  | some id => id

/-- **The filter of a handler**: the record with the tag of its correlation id as the id. -/
def tagged (record : LogRecord) : LogRecord :=
  { record with correlation := some (tag record.correlation) }

/-- The correlation id that is written. A record that no handler has tagged may carry none. -/
def correlationText (record : LogRecord) : Text := record.correlation.getD dash

/-- The fields of a record that every line has, without the time. -/
def header (record : LogRecord) (service : Text) : Fields Json :=
  [("level", .text record.level.name), ("service", .text service),
    ("correlation_id", .text record.correlationText),
    ("module", .text record.module), ("message", .text record.message)]

/-- The context of a record, if it is a dictionary. -/
def contextField (record : LogRecord) : Fields Json :=
  match record.context with
  | .object fields => [("context", .object (LogValue.toJsonFields fields))]
  | _ => []

/-- The failure of a record, if it has one. -/
def failureField (record : LogRecord) : Fields Json :=
  match record.failure with
  | some failure => [("exception", .text failure.text)]
  | none => []

/-- **The object of a record.** -/
def toJson (record : LogRecord) (timestamp service : Text) : Json :=
  -- the fields come in this order, and the last two only if there is something to tell
  .object (("timestamp", .text timestamp) :: (record.header service
    ++ record.contextField ++ record.failureField : Fields Json))

/-- **The line of a record.** -/
def line (record : LogRecord) (timestamp service : Text) : Text :=
  (record.toJson timestamp service).print .spaced

/-- Whether the context of a record cannot be written. Only a dictionary is. -/
def isOversized (record : LogRecord) : Bool :=
  match record.context with
  | .object fields => LogValue.isOversizedFields fields
  | _ => false

/-- **Formatting** a record whose message is a template for some arguments: the line of the
record with the message, if the arguments fit and the context can be written. -/
def format (record : LogRecord) (arguments : List Value) (timestamp service : Text) :
    Except Template.Fault Text := do
  let message ← Template.fill record.message arguments
  -- the arguments are filled in first, so their fault wins
  if record.isOversized then .error .tooManyDigits
  else .ok ({ record with message := message }.line timestamp service)

end LogRecord

end GraphPath
