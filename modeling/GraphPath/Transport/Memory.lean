import GraphPath.Json.Printer
import GraphPath.Result.Decode
import GraphPath.Transport.Basic

/-!
# The transport in memory

A transport without a server. It keeps every program that it is given, and hands out
bodies that were put into a queue, or a standing body when the queue is empty. While an
error is set every exchange fails with it, and no body is handed out.

* `Memory` — the state;
* `Memory.respond`, `Memory.fail` — what the next exchanges bring;
* `Memory.exchange` — one exchange.
-/

namespace GraphPath

/-- **A transport in memory**: the bodies to hand out, the error that is set, the programs
so far, and whether it was closed. -/
structure Memory where
  queue : List Bytes
  error : Option TransportError
  sent : List Text
  isClosed : Bool

namespace Memory

/-- A transport that was not used yet. -/
def empty : Memory := ⟨[], none, [], false⟩

/-- The body of an answer without rows. -/
def standingText : Text := "\x7b\"result\": null\x7d"

/-- The standing body. -/
def standing : Bytes := standingText.flatMap fun c => Utf8.encodeScalar c.toNat

/-- **Why a payload is no body**: its text has no UTF-8 form, or its value cannot be
written. -/
inductive BodyFault where
  | notEncodable (fault : Utf8.EncodeFault)
  | unwritable (fault : Json.Unwritable)
deriving DecidableEq, Repr

/-- The wording of a fault. -/
def BodyFault.message : BodyFault → Text
  | .notEncodable fault => fault.message
  | .unwritable fault => fault.message

/-- The bytes of a payload: a text in UTF-8, bytes as they are, and any other value as
JSON. -/
def bytesOf (payload : Payload) : Except BodyFault Bytes :=
  match payload with
  | .text t | .value (.text t) => (Utf8.encode t).mapError .notEncodable
  | .bytes raw => .ok raw
  | .value v => do
    let t ← (v.write .spacedAscii).mapError .unwritable
    (Utf8.encode t).mapError .notEncodable

/-- One more body in the queue. -/
def enqueue (memory : Memory) (body : Bytes) : Memory :=
  { memory with queue := memory.queue ++ [body] }

/-- **Queueing a body.** -/
def respond (memory : Memory) (payload : Payload) : Except BodyFault Memory := do
  .ok (memory.enqueue (← bytesOf payload))

/-- **Setting the error** of every exchange from now on, or none. -/
def fail (memory : Memory) (error : Option TransportError) : Memory :=
  { memory with error := error }

/-- **One exchange**: the program is kept; then the error that is set, the body at the head
of the queue, or the standing body. -/
def exchange (memory : Memory) (program : Text) : Except ExchangeFault Bytes × Memory :=
  let memory := { memory with sent := memory.sent ++ [program] }
  -- the error goes before the queue, and leaves it as it is
  match memory.error, memory.queue with
  | some error, _ => (.error (.failed error), memory)
  | none, body :: queue => (.ok body, { memory with queue := queue })
  | none, [] => (.ok standing, memory)

/-- The transport, closed. -/
def close (memory : Memory) : Memory := { memory with isClosed := true }

instance : Transport Memory where
  exchange memory _ program :=
    let (outcome, memory) := memory.exchange program
    ⟨outcome, memory, []⟩
  close := close

end Memory

end GraphPath
