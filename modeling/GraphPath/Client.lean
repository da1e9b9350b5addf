import GraphPath.Gremlin
import GraphPath.Result.Decode
import GraphPath.Transport.Basic
import GraphPath.Wire.Compile

/-!
# The client

A client owns a registry and a transport. It compiles queries, sends their programs and
decodes the rows of the answers. A query that does not compile is never sent.

Every exchange runs under a correlation id: the one that the caller has set, or one that is
made for this exchange and forgotten after it, however the exchange ends.

* `Client` — the state;
* `Client.declare`, `Client.save` — morphisms;
* `Client.compile`, `Client.toGremlin` — what would be sent;
* `Client.find`, `Client.findRaw` — the rows of a query or a program;
* `Client.gather` — the rows of several queries at once;
* `ClientFault` — why there are none.
-/

namespace GraphPath

/-- **A client.** `correlation` is the id that is set, `issued` counts the ids that were
made, `freshId` makes them, and `log` holds the records so far. -/
structure Client (σ : Type) where
  registry : Registry
  transport : σ
  correlation : Option Text
  issued : Nat
  freshId : Nat → Text
  log : List LogRecord

/-- **Why an operation of a client fails**: the expression does not compile, its wire query
has no program, there is no body, or the body has no rows. -/
inductive ClientFault where
  | expression (fault : Fault)
  | program (fault : RenderFault)
  | exchange (fault : ExchangeFault)
  | answer (error : DecodeError)

/-- The wording of a fault. -/
def ClientFault.message : ClientFault → Text
  | .expression fault => fault.message
  | .program fault => fault.message
  | .exchange fault => fault.message
  | .answer error => error.message

namespace Client

variable {σ : Type}

/-- A client that was not used yet. -/
def ofTransport (transport : σ) (freshId : Nat → Text) : Client σ :=
  ⟨.empty, transport, none, 0, freshId, []⟩

/-- One more record, under the correlation id that is set. -/
def record (client : Client σ) (level : Level) (module message : Text)
    (context : List (Text × Value)) : Client σ :=
  { client with log := client.log ++
      [⟨level, module, message, (Value.object context).logged, client.correlation, none⟩] }

/-- Setting the correlation id. -/
def setCorrelation (client : Client σ) (id : Text) : Client σ :=
  { client with correlation := some id }

/-- Setting no correlation id. -/
def clearCorrelation (client : Client σ) : Client σ := { client with correlation := none }

/-! ### Morphisms -/

/-- A client after a declaration that may have failed. -/
def declared (client : Client σ) :
    Except Fault (Registry × Morphism) → Except Fault Morphism × Client σ
  | .error fault => (.error fault, client)
  | .ok (registry, morphism) =>
    let name : Text := (morphism.name.map Name.text).getD []
    (.ok morphism, { client with registry := registry }.record .debug "registry"
      ("Declared morphism '" ++ name ++ "'")
      [("morphism", .text name), ("steps", .int morphism.steps.length)])

/-- **Declaring** a morphism or path under a name. -/
def declare (client : Client σ) (name expression : Value) : Except Fault Morphism × Client σ :=
  client.declared (client.registry.declareValue name expression)

/-- **Saving** a morphism under its own name. -/
def save (client : Client σ) (value : Value) : Except Fault Morphism × Client σ :=
  client.declared (client.registry.save value)

/-! ### Programs -/

/-- **Compiling** a query with the morphisms that are declared. -/
def compile (client : Client σ) (expression : Value) : Except Fault WireQuery × Client σ :=
  match client.registry.compile expression with
  | .error fault => (.error fault, client)
  | .ok wire =>
    (.ok wire, client.record .debug "compiler" "Compiled query"
      [("start", .list (wire.start.map .ofJson)), ("steps", .int wire.size)])

/-- **The program** of a query. -/
def toGremlin (client : Client σ) (expression : Value) : Except ClientFault Text × Client σ :=
  match client.compile expression with
  | (.error fault, client) => (.error (.expression fault), client)
  | (.ok wire, client) =>
    match wire.toGremlin with
    | .error fault => (.error (.program fault), client)
    | .ok program => (.ok program, client)

/-! ### Exchanges -/

/-- Entering an exchange: the id that is set stays, otherwise one is made. The flag says
which of them happened. -/
def enter (client : Client σ) : Bool × Client σ :=
  match client.correlation with
  | some _ => (false, client)
  | none =>
    (true, { client with
      correlation := some (client.freshId client.issued), issued := client.issued + 1 })

/-- Leaving an exchange: an id that was made for it is forgotten. -/
def leave (client : Client σ) (owns : Bool) : Client σ :=
  if owns then client.clearCorrelation else client

variable [Transport σ]

/-- A program through the transport. -/
def send (client : Client σ) (program : Text) : Except ExchangeFault Bytes × Client σ :=
  let exchange := Transport.exchange client.transport client.correlation program
  (exchange.outcome,
    { client with transport := exchange.state, log := client.log ++ exchange.records })

/-- A program through the transport, and the rows of the answer. -/
def talk (client : Client σ) (program : Text) : Except ClientFault Rows × Client σ :=
  match client.send program with
  | (.error fault, client) => (.error (.exchange fault), client)
  | (.ok body, client) =>
    match Rows.ofResponse (.bytes body) (some program) with
    | .error error => (.error (.answer error), client)
    -- the number of rows is recorded only when there are rows
    | .ok rows =>
      (.ok rows, client.record .info "client"
        ("Query returned " ++ Text.ofNat rows.size ++ " node(s)")
        [("query", .text program), ("count", .int rows.size)])

/-- **An exchange** under a correlation id. -/
def exchange (client : Client σ) (program : Text) : Except ClientFault Rows × Client σ :=
  let (owns, client) := client.enter
  let (outcome, client) := client.talk program
  (outcome, client.leave owns)

/-- **The rows of a program.** -/
def findRaw (client : Client σ) (program : Text) : Except ClientFault Rows × Client σ :=
  client.exchange program

/-- **The rows of a query.** -/
def find (client : Client σ) (expression : Value) : Except ClientFault Rows × Client σ :=
  match client.toGremlin expression with
  | (.error fault, client) => (.error fault, client)
  | (.ok program, client) => client.exchange program

/-- **The body of the answer** to a query, as it is and outside any exchange of the
client. -/
def execute (client : Client σ) (expression : Value) : Except ClientFault Bytes × Client σ :=
  match client.toGremlin expression with
  | (.error fault, client) => (.error fault, client)
  | (.ok program, client) =>
    match client.send program with
    | (.error fault, client) => (.error (.exchange fault), client)
    | (.ok body, client) => (.ok body, client)

/-- Giving up the resources of the transport. -/
def close (client : Client σ) : Client σ :=
  { client with transport := Transport.close client.transport }

/-! ### Several queries at once -/

/-- A query that waits for its exchange: its program with the id of the exchange, or the
fault that keeps it from being sent. -/
abbrev Waiting := Except ClientFault (Text × Option Text)

/-- The first half of a query: it is compiled and its exchange entered. -/
def begin (client : Client σ) (expression : Value) : Waiting × Client σ :=
  match client.toGremlin expression with
  | (.error fault, client) => (.error fault, client)
  | (.ok program, client) =>
    -- the id is taken now, but only set while the exchange runs
    let entered := client.enter.2
    (.ok (program, entered.correlation), { client with issued := entered.issued })

/-- The first halves of queries, in order. -/
def beginAll (client : Client σ) : List Value → List Waiting × Client σ
  | [] => ([], client)
  | expression :: expressions =>
    let (waiting, client) := client.begin expression
    let (rest, client) := client.beginAll expressions
    (waiting :: rest, client)

/-- The second half of a query: its exchange under its own id. -/
def finish (client : Client σ) (waiting : Waiting) : Except ClientFault Rows × Client σ :=
  match waiting with
  | .error fault => (.error fault, client)
  | .ok (program, id) =>
    -- the exchange runs under the id that was taken for it, and this is set back behind it
    let (outcome, after) := { client with correlation := id }.talk program
    (outcome, { after with correlation := client.correlation })

/-- The second halves of queries, in order. -/
def finishAll (client : Client σ) : List Waiting → List (Except ClientFault Rows) × Client σ
  | [] => ([], client)
  | waiting :: others =>
    let (outcome, client) := client.finish waiting
    let (rest, client) := client.finishAll others
    (outcome :: rest, client)

/-- **The rows of several queries at once.** All of them are compiled before the first is
sent; exchanges and outcomes are in the order of the queries, and a fault of one does not
stop the others. -/
def gather (client : Client σ) (expressions : List Value) :
    List (Except ClientFault Rows) × Client σ :=
  let (waiting, client) := client.beginAll expressions
  client.finishAll waiting

end Client

end GraphPath
