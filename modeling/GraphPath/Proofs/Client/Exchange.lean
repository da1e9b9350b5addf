import GraphPath.Client
import GraphPath.Proofs.Gremlin.Rendering
import GraphPath.Proofs.Result.Rows

/-!
# What an exchange does

An exchange of a client hands its program to the transport once, under the correlation id that
is set or a fresh one, and decodes what comes back. Apart from the log it changes the transport
only; the id that was set before is set after it, whatever came back. A query is exchanged as
its program, and one that does not compile changes nothing at all.

* `Client.unlogged` — a client apart from its log;
* `Client.exchange_eq` — outcome and state of an exchange, by what the transport did;
* `Client.toGremlin_of_compile` — which of the queries that compile have a program;
* `Client.find_of_fault`, `Client.find_of_program` — a query that does not compile, and one
  that does.
-/

namespace GraphPath.Client

variable {σ : Type}

/-- **A client apart from its log.** -/
def unlogged (client : Client σ) : Client σ := { client with log := [] }

/-! ### Programs -/

/-- Compiling leaves a record, and nothing else. -/
theorem unlogged_compile (client : Client σ) (expression : Value) :
    (client.compile expression).2.unlogged = client.unlogged := by
  unfold compile
  cases client.registry.compile expression <;> rfl

theorem compile_outcome (client : Client σ) (expression : Value) :
    (client.compile expression).1 = client.registry.compile expression := by
  unfold compile
  cases client.registry.compile expression <;> rfl

/-- Rendering changes nothing further. -/
theorem unlogged_toGremlin (client : Client σ) (expression : Value) :
    (client.toGremlin expression).2.unlogged = client.unlogged := by
  rw [← client.unlogged_compile expression]
  unfold toGremlin
  obtain ⟨fault | wire, after⟩ := client.compile expression
  · rfl
  · simp only
    cases wire.toGremlin <;> rfl

/-- **A query that compiles has a program**, unless its limit has too many digits. -/
theorem toGremlin_of_compile {client : Client σ} {q : Query} {wire : WireQuery}
    (hregistry : client.registry.Built) (hquery : (Value.query q).Built)
    (h : client.registry.compile (.query q) = .ok wire) :
    (q.final.Writable → ∃ program,
      wire.toGremlin = .ok program ∧ (client.toGremlin (.query q)).1 = .ok program) ∧
    (¬q.final.Writable → (client.toGremlin (.query q)).1
      = .error (.program (.unwritable .tooManyDigits))) := by
  refine ⟨fun hwritable => ?_, fun hwritable => ?_⟩
  · have hprogram := Gremlin.program_of_compile hregistry hquery (Nat.le_refl _) h hwritable
    exact ⟨_, hprogram, by simp only [toGremlin, compile, h, hprogram]⟩
  · have hnone := Gremlin.no_program_of_compile hregistry hquery h hwritable
    simp only [toGremlin, compile, h, hnone]

/-- Nothing but a query compiles. -/
theorem exists_query_of_compile {registry : Registry} {expression : Value} {wire : WireQuery}
    (h : registry.compile expression = .ok wire) : ∃ q, expression = .query q := by
  cases expression with
  | query q => exact ⟨q, rfl⟩
  | _ => cases h

/-! ### Exchanges -/

/-- The correlation id of an exchange: the one that is set, or else a fresh one. -/
def exchangeId (client : Client σ) : Text :=
  client.correlation.getD (client.freshId client.issued)

/-- The ids that were made once an exchange is over. -/
def issuedAfter (client : Client σ) : Nat :=
  if client.correlation.isNone then client.issued + 1 else client.issued

/-- The rows of what came back for a program. -/
def rowsOf (program : Text) : Except ExchangeFault Bytes → Except ClientFault Rows
  | .error fault => .error (.exchange fault)
  | .ok body =>
    match Rows.ofResponse (.bytes body) (some program) with
    | .error error => .error (.answer error)
    | .ok rows => .ok rows

/-- **A rejected query is the program** that was sent. -/
theorem rowsOf_rejected {program : Text} {outcome : Except ExchangeFault Bytes}
    {complaint : Text} {query : Option Text}
    (h : rowsOf program outcome = .error (.answer (.rejected complaint query))) :
    query = some program := by
  cases outcome with
  | error fault => cases h
  | ok body =>
    simp only [rowsOf] at h
    split at h
    · rename_i error herror
      cases h
      -- what was decoded names the program that it was decoded for
      exact Rows.ofResponse_rejected herror
    · cases h

variable [Transport σ]

/-- What the transport does with the program of an exchange. -/
def delivery (client : Client σ) (program : Text) : Exchange σ :=
  Transport.exchange client.transport (some client.exchangeId) program

theorem talk_eq (client : Client σ) (program : Text) :
    let sent := Transport.exchange client.transport client.correlation program
    (client.talk program).1 = rowsOf program sent.outcome ∧
      (client.talk program).2.unlogged = { client.unlogged with transport := sent.state } := by
  intro sent
  have hsend : client.send program = (sent.outcome,
      { client with transport := sent.state, log := client.log ++ sent.records }) := rfl
  unfold talk
  rw [hsend]
  -- only what came back decides, and decoding it leaves the client alone
  cases sent.outcome with
  | error fault => exact ⟨rfl, rfl⟩
  | ok body =>
    simp only [rowsOf]
    cases Rows.ofResponse (.bytes body) (some program) <;> exact ⟨rfl, rfl⟩

/-- **An exchange** has the rows of what came back, and apart from the log it leaves a client
whose transport has delivered the program. -/
theorem exchange_eq (client : Client σ) (program : Text) :
    (client.exchange program).1 = rowsOf program (client.delivery program).outcome ∧
      (client.exchange program).2.unlogged = { client.unlogged with
        transport := (client.delivery program).state, issued := client.issuedAfter } := by
  obtain ⟨registry, transport, correlation, issued, freshId, log⟩ := client
  cases correlation with
  | some id => exact talk_eq _ program
  | none =>
    -- a fresh id is set for the exchange and taken back after it
    obtain ⟨houtcome, hafter⟩ := talk_eq
      (⟨registry, transport, some (freshId issued), issued + 1, freshId, log⟩ : Client σ) program
    exact ⟨houtcome, congrArg clearCorrelation hafter⟩

/-- An exchange takes no notice of the log. -/
theorem exchange_congr {client other : Client σ} (h : client.unlogged = other.unlogged)
    (program : Text) : (client.exchange program).1 = (other.exchange program).1 ∧
      (client.exchange program).2.unlogged = (other.exchange program).2.unlogged := by
  -- the id and the transport are the same apart from the log
  have hdelivery : client.delivery program = other.delivery program := by
    change client.unlogged.delivery program = other.unlogged.delivery program
    rw [h]
  have hissued : client.issuedAfter = other.issuedAfter := by
    change client.unlogged.issuedAfter = other.unlogged.issuedAfter
    rw [h]
  rw [(client.exchange_eq program).1, (other.exchange_eq program).1,
    (client.exchange_eq program).2, (other.exchange_eq program).2, hdelivery, hissued, h]
  exact ⟨rfl, rfl⟩

/-! ### Queries -/

/-- A query without a program is not exchanged. -/
theorem find_of_no_program {client : Client σ} {expression : Value} {fault : ClientFault}
    (h : (client.toGremlin expression).1 = .error fault) :
    client.find expression = (.error fault, (client.toGremlin expression).2) := by
  unfold find
  generalize client.toGremlin expression = result at h ⊢
  obtain ⟨outcome, after⟩ := result
  subst h
  rfl

/-- A query that does not compile changes nothing. -/
theorem find_of_fault {client : Client σ} {expression : Value} {fault : Fault}
    (h : client.registry.compile expression = .error fault) :
    client.find expression = (.error (.expression fault), client) := by
  simp only [find, toGremlin, compile, h]

/-- **A query with a program is exchanged as its program.** -/
theorem find_of_program {client : Client σ} {expression : Value} {program : Text}
    (h : (client.toGremlin expression).1 = .ok program) :
    (client.find expression).1 = (client.exchange program).1 ∧
      (client.find expression).2.unlogged = (client.exchange program).2.unlogged := by
  -- compiling and rendering have left records, and nothing else
  have hfind : client.find expression = (client.toGremlin expression).2.exchange program := by
    unfold find
    generalize client.toGremlin expression = result at h ⊢
    obtain ⟨outcome, after⟩ := result
    subst h
    rfl
  rw [hfind]
  exact exchange_congr (client.unlogged_toGremlin expression) program

end GraphPath.Client
