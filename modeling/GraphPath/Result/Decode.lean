import GraphPath.Json.Encoding
import GraphPath.Json.Strict
import GraphPath.Result.Rows

/-!
# Decoding answers

From what the server sent to the rows of a result. A payload is JSON text, JSON bytes or
a value that is read already; an answer is an object with the rows under `result` or a
complaint under `error`.

* `Payload`, `Payload.fragment` — the payload, and the piece of it shown in errors;
* `ResponseProblem`, `ResponseFault`, `DecodeError` — why there are no rows;
* `DecodeError.about` — a problem with a payload, which is shown if it can be written;
* `Rows.ofJson` — all rows of an array of objects, or what is wrong with the first element
  that has no row;
* `Rows.ofPayload` — the rows of a payload;
* `Rows.ofResponse` — the rows of an answer. A complaint counts if it is not empty, and
  then wins over any rows.
-/

namespace GraphPath

/-- **What is decoded**: text, bytes, or a value. -/
inductive Payload where
  | text (t : Text)
  | bytes (bytes : Bytes)
  | value (v : Json)

/-- How many code points of a payload an error shows. -/
def fragmentLimit : Nat := 200

/-- The text of a value as errors show it: a string as it is, the rest as JSON. -/
def Json.shownText : Json → Except Json.Unwritable Text
  | .text t => .ok t
  | value => value.write .spaced

namespace Payload

/-- The text of a payload, whatever its bytes are. -/
def shownText : Payload → Except Json.Unwritable Text
  | .text t => .ok t
  | .bytes raw => .ok (Utf8.decodeLossy raw)
  | .value v => v.shownText

/-- **The fragment** of a payload that an error shows. -/
def fragment (payload : Payload) : Except Json.Unwritable Text :=
  payload.shownText.map (·.take fragmentLimit)

end Payload

/-! ### Faults -/

/-- **What is wrong with a payload.** -/
inductive ResponseProblem where
  | notJson (source : Text) (what : Json.Malformation) (left : Nat)
  | notText (fault : DecodeFault)
  | notAnArray (kind : Text)
  | notAnObject (row : Nat)
  | malformed (count : Nat)

/-- A problem with the fragment of the payload that has it. -/
structure ResponseFault where
  problem : ResponseProblem
  fragment : Text

/-- The wording of a problem. -/
def ResponseProblem.message : ResponseProblem → Text
  | .notJson source what left =>
    "Result payload is not valid JSON: " ++ (Json.ReadFault.malformed what left).message source
  | .notText fault => "Result payload is not valid JSON: " ++ fault.message
  | .notAnArray kind => "Expected a JSON array of results, got " ++ kind
  | .notAnObject row => "Result row " ++ Text.ofNat row ++ " is not a JSON object"
  | .malformed count =>
    "Malformed Cayley response: " ++ Text.ofNat count ++ " validation error(s)"

/-- **Why there are no rows**: the payload is faulty, an integer in it is too long to be
read or written, or the server rejected the query. -/
inductive DecodeError where
  | response (fault : ResponseFault)
  | tooManyDigits (count : Nat)
  | unwritable (fault : Json.Unwritable)
  | rejected (complaint : Text) (query : Option Text)

/-- The wording of an error. -/
def DecodeError.message : DecodeError → Text
  | .response fault => fault.problem.message
  | .tooManyDigits count => (Json.ReadFault.tooManyDigits count).message []
  | .unwritable fault => fault.message
  | .rejected complaint _ => complaint

/-- **A problem with a payload.** The error shows a fragment; if that cannot be written, this
is the error. -/
def DecodeError.about (problem : ResponseProblem) (payload : Payload) : DecodeError :=
  match payload.fragment with
  | .ok fragment => .response ⟨problem, fragment⟩
  | .error fault => .unwritable fault

/-! ### Rows of values -/

/-- The field texts of fields, up to the first value that has none. -/
def Row.fieldTexts : Fields Json → Except Json.Unwritable (Fields Text)
  | [] => .ok []
  -- the first value that cannot be written decides
  | (name, value) :: fields => do
    let text ← value.toFieldText
    .ok ((name, text) :: (← fieldTexts fields))

/-- The row of an object: each value as its field text. -/
def Row.ofObject (fields : Fields Json) : Except Json.Unwritable Row := do
  .ok (Row.ofList (← Row.fieldTexts fields))

namespace Rows

/-- The row of the element with a number. -/
def ofItem (index : Nat) : Json → Except DecodeError Row
  | .object fields => (Row.ofObject fields).mapError .unwritable
  | item => .error (.about (.notAnObject index) (.value item))

/-- The rows of elements numbered from `index`, up to the first that has none. -/
def ofItems (index : Nat) : List Json → Except DecodeError (List Row)
  | [] => .ok []
  | item :: items => do
    let row ← ofItem index item
    .ok (row :: (← ofItems (index + 1) items))

/-- **The rows of a value**: of an array whose elements are all objects. -/
def ofJson : Json → Except DecodeError Rows
  | .array items => do .ok ⟨← ofItems 0 items⟩
  | value => .error (.about (.notAnArray value.typeName) (.value value))

/-- The rows of what was read from a text that belongs to a payload. -/
def ofReading (payload : Payload) (source : Text) :
    Except Json.ReadFault Json → Except DecodeError Rows
  | .ok value => ofJson value
  | .error (.malformed what left) => .error (.about (.notJson source what left) payload)
  | .error (.tooManyDigits count) => .error (.tooManyDigits count)

/-- **The rows of a payload.** A value that is a string is JSON text like any other. -/
def ofPayload (payload : Payload) : Except DecodeError Rows :=
  match payload with
  | .text t => ofReading payload t (Json.readUnmarked t)
  | .value (.text t) => ofReading payload t (Json.readUnmarked t)
  | .value v => ofJson v
  -- a byte order mark in bytes is no part of the text
  | .bytes bytes =>
    match Json.ofBytes bytes with
    | .ok t => ofReading payload t (Json.read t)
    | .error fault => .error (.about (.notText fault) payload)

end Rows

/-! ### Answers -/

/-- **An answer** of the server that has the right shape. -/
structure Envelope where
  result : Option (List Json)
  complaint : Option Text

/-- **The value of an answer**, if the strict reader takes it. -/
def Payload.strictJson? : Payload → Option Json
  | .text t | .value (.text t) => Json.readStrict? t
  | .bytes raw => (Utf8.decode false raw).toOption.bind Json.readStrict?
  | .value _ => none

namespace Envelope

/-- The rows under `result`: an array, or nothing for a null or missing member. -/
def result? (fields : Fields Json) : Option (Option (List Json)) :=
  match Fields.get? "result" fields with
  | none | some .null => some none
  | some (.array items) => some (some items)
  | some _ => none

/-- The complaint under `error`: a string, or nothing for a null or missing member. -/
def complaint? (fields : Fields Json) : Option (Option Text) :=
  match Fields.get? "error" fields with
  | none | some .null => some none
  | some (.text t) => some (some t)
  | some _ => none

/-- **The shape of an answer**, or the number of things that are wrong with it. -/
def ofPayload (payload : Payload) : Except Nat Envelope :=
  match payload.strictJson? with
  | some (.object fields) =>
    -- the two members are looked at apart from each other, and the faults are counted
    match result? fields, complaint? fields with
    | some result, some complaint => .ok ⟨result, complaint⟩
    | none, none => .error 2
    | _, _ => .error 1
  | _ => .error 1

end Envelope

/-- **The rows of an answer** to a query. -/
def Rows.ofResponse (payload : Payload) (query : Option Text) : Except DecodeError Rows :=
  match Envelope.ofPayload payload with
  | .error count => .error (.about (.malformed count) payload)
  | .ok ⟨result, complaint⟩ =>
    match complaint with
    -- an empty complaint is none
    | some (c :: complaint) => .error (.rejected (c :: complaint) query)
    | _ => match result with
      | none => .ok .empty
      | some items => Rows.ofJson (.array items)

end GraphPath
