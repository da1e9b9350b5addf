import GraphPath.Proofs.Client.Exchange
import GraphPath.Proofs.Transport.Memory

/-!
# Sessions over a transport in memory

A client declares and saves morphisms, compiles queries, and exchanges queries and programs, in
any order; in between, bodies are queued in its transport, and errors and correlation ids are
set. Whatever fails on the way, the transport has been given the programs of the exchanges, in
order and each of them once.

* `Client.Action`, `Client.Answer`, `Client.act` — what is done in a session, and what it gives;
* `Client.program?` — the program that an action has to send;
* `Client.act_built` — declarations of built expressions keep the registry built;
* `Client.sent_act` — what one action sends;
* `Client.session_sends` — any session.
-/

namespace GraphPath

namespace Client

/-- **What is done in a session.** -/
inductive Action where
  | declare (name expression : Value)
  | save (value : Value)
  | compile (expression : Value)
  | toGremlin (expression : Value)
  | find (expression : Value)
  | findRaw (program : Text)
  | respond (payload : Payload)
  | fail (error : Option TransportError)
  | setCorrelation (id : Text)
  | clearCorrelation

/-- An action whose expressions are built. -/
def Action.Built : Action → Prop
  | .declare _ expression => expression.Built
  | .save expression | .compile expression | .toGremlin expression | .find expression =>
    expression.Built
  | .findRaw _ | .respond _ | .fail _ | .setCorrelation _ | .clearCorrelation => True

/-- **What an action gives.** -/
inductive Answer where
  | morphism (outcome : Except Fault Morphism)
  | wire (outcome : Except Fault WireQuery)
  | program (outcome : Except ClientFault Text)
  | rows (outcome : Except ClientFault Rows)
  | queued (outcome : Except Memory.BodyFault Unit)
  | done

/-- Queueing a body in the transport. -/
def queue (client : Client Memory) (payload : Payload) :
    Except Memory.BodyFault Unit × Client Memory :=
  match client.transport.respond payload with
  | .ok memory => (.ok (), { client with transport := memory })
  | .error fault => (.error fault, client)

/-- **An action**: its answer, and the client after it. -/
def act (client : Client Memory) : Action → Answer × Client Memory
  | .declare name expression => (client.declare name expression).map .morphism id
  | .save value => (client.save value).map .morphism id
  | .compile expression => (client.compile expression).map .wire id
  | .toGremlin expression => (client.toGremlin expression).map .program id
  | .find expression => (client.find expression).map .rows id
  | .findRaw program => (client.findRaw program).map .rows id
  | .respond payload => (client.queue payload).map .queued id
  | .fail error => (.done, { client with transport := client.transport.fail error })
  | .setCorrelation id => (.done, client.setCorrelation id)
  | .clearCorrelation => (.done, client.clearCorrelation)

/-- **The program that an action has to send**: that of a query as it compiles now, if it does,
or the program that is asked for. -/
def program? (client : Client Memory) : Action → Option Text
  | .find expression => (client.toGremlin expression).1.toOption
  | .findRaw program => some program
  | _ => none

/-! ### What an action keeps -/

variable {client : Client Memory}

/-- Declarations of built expressions keep the registry built. -/
theorem declared_built {outcome : Except Fault (Registry × Morphism)}
    (hregistry : client.registry.Built)
    (houtcome : ∀ registry m, outcome = .ok (registry, m) → registry.Built) :
    (client.declared outcome).2.registry.Built := by
  cases outcome with
  | error fault => exact hregistry
  | ok pair => exact houtcome pair.1 pair.2 rfl

theorem registry_exchange (client : Client Memory) (program : Text) :
    (client.exchange program).2.registry = client.registry :=
  congrArg (·.registry) (client.exchange_eq program).2

/-- **Finding rows changes no declaration**, whatever becomes of the query. -/
theorem registry_find (client : Client Memory) (expression : Value) :
    (client.find expression).2.registry = client.registry := by
  cases h : (client.toGremlin expression).1 with
  | error fault =>
    -- compiling and rendering declare nothing, and neither does an exchange
    rw [find_of_no_program h]
    exact congrArg (·.registry) (client.unlogged_toGremlin expression)
  | ok program =>
    rw [← registry_exchange client program]
    exact congrArg (·.registry) (find_of_program h).2

theorem registry_queue (client : Client Memory) (payload : Payload) :
    (client.queue payload).2.registry = client.registry := by
  unfold queue
  cases client.transport.respond payload <;> rfl

/-- **An action keeps the registry built.** -/
theorem act_built {action : Action} (haction : action.Built) (h : client.registry.Built) :
    (client.act action).2.registry.Built := by
  cases action with
  | declare name expression => exact declared_built h fun _ _ => .declare h haction
  | save value => exact declared_built h fun _ _ => .save h haction
  | compile expression =>
    -- compiling leaves a record, and no declaration
    have hsame := congrArg (·.registry) (client.unlogged_compile expression)
    exact (hsame : (client.compile expression).2.registry = client.registry) ▸ h
  | toGremlin expression =>
    have hsame := congrArg (·.registry) (client.unlogged_toGremlin expression)
    exact (hsame : (client.toGremlin expression).2.registry = client.registry) ▸ h
  | find expression => exact (client.registry_find expression) ▸ h
  | findRaw program => exact (client.registry_exchange program) ▸ h
  | respond payload => exact (client.registry_queue payload) ▸ h
  | fail error => exact h
  | setCorrelation id => exact h
  | clearCorrelation => exact h

end Client

/-! ### What an action sends -/

namespace Client

theorem sent_exchange (client : Client Memory) (program : Text) :
    (client.exchange program).2.transport.sent = client.transport.sent ++ [program] :=
  (congrArg (·.transport.sent) (client.exchange_eq program).2).trans
    (client.transport.sent_exchange program)

theorem sent_find (client : Client Memory) (expression : Value) :
    (client.find expression).2.transport.sent
      = client.transport.sent ++ (client.toGremlin expression).1.toOption.toList := by
  cases h : (client.toGremlin expression).1 with
  | error fault =>
    -- nothing is sent for a query without a program
    rw [find_of_no_program h]
    exact (congrArg (·.transport.sent) (client.unlogged_toGremlin expression)).trans
      (List.append_nil _).symm
  | ok program =>
    exact (congrArg (·.transport.sent) (find_of_program h).2).trans (client.sent_exchange program)

theorem transport_declared (client : Client Memory)
    (outcome : Except Fault (Registry × Morphism)) :
    (client.declared outcome).2.transport = client.transport := by
  cases outcome <;> rfl

theorem sent_queue (client : Client Memory) (payload : Payload) :
    (client.queue payload).2.transport.sent = client.transport.sent := by
  unfold queue Memory.respond
  cases Memory.bytesOf payload <;> rfl

/-- **An action sends its program**, if it has one, and nothing else. -/
theorem sent_act (client : Client Memory) (action : Action) :
    (client.act action).2.transport.sent
      = client.transport.sent ++ (client.program? action).toList := by
  -- most actions have no program and leave what was sent as it is
  have hnone {after : Client Memory} (h : after.transport.sent = client.transport.sent) :
      after.transport.sent = client.transport.sent ++ (none : Option Text).toList := by
    rw [h, Option.toList_none, List.append_nil]
  cases action with
  | declare name expression => exact hnone (congrArg (·.sent) (client.transport_declared _))
  | save value => exact hnone (congrArg (·.sent) (client.transport_declared _))
  | compile expression =>
    exact hnone (congrArg (·.transport.sent) (client.unlogged_compile expression))
  | toGremlin expression =>
    exact hnone (congrArg (·.transport.sent) (client.unlogged_toGremlin expression))
  | find expression => exact client.sent_find expression
  | findRaw program => exact client.sent_exchange program
  | respond payload => exact hnone (client.sent_queue payload)
  | fail error => exact hnone rfl
  | setCorrelation id => exact hnone rfl
  | clearCorrelation => exact hnone rfl

/-! ### What an exchange answers -/

variable {client : Client Memory}

/-- A query that has no program is not one that a server rejected. -/
theorem toGremlin_ne_rejected {expression : Value} {error : DecodeError} :
    (client.toGremlin expression).1 ≠ .error (.answer error) := by
  unfold toGremlin compile
  cases client.registry.compile expression with
  | error fault => exact nofun
  | ok wire =>
    simp only
    cases wire.toGremlin <;> exact nofun

/-- **A rejection names the program** that the action has sent. -/
theorem rejected_act {action : Action} {complaint : Text} {query : Option Text}
    (h : (client.act action).1 = .rows (.error (.answer (.rejected complaint query)))) :
    ∃ program, client.program? action = some program ∧ query = some program := by
  have hexchange {program : Text}
      (h : (client.exchange program).1 = .error (.answer (.rejected complaint query))) :
      query = some program :=
    rowsOf_rejected ((client.exchange_eq program).1.symm.trans h)
  cases action with
  | find expression =>
    have houtcome : (client.find expression).1
        = .error (.answer (.rejected complaint query)) := Answer.rows.inj h
    cases hprogram : (client.toGremlin expression).1 with
    | error fault =>
      -- without a program there was no answer
      rw [find_of_no_program hprogram] at houtcome
      cases houtcome
      exact absurd hprogram toGremlin_ne_rejected
    | ok program =>
      refine ⟨program, by rw [program?, hprogram]; rfl, hexchange ?_⟩
      rw [← (find_of_program hprogram).1]
      exact houtcome
  | findRaw program => exact ⟨program, rfl, hexchange (Answer.rows.inj h)⟩
  | _ => cases h

/-- Actions that give rows change no declaration. -/
theorem registry_act {action : Action} {outcome : Except ClientFault Rows}
    (h : (client.act action).1 = .rows outcome) :
    (client.act action).2.registry = client.registry := by
  cases action with
  | find expression => exact client.registry_find expression
  | findRaw program => exact client.registry_exchange program
  | _ => cases h

/-! ### Any session -/

/-- **Sessions send what they should.** After any session the transport was given the programs of
the queries that compiled, as they compiled at that moment, and the programs that were asked for, in
order, each of them once and whatever came back. A query that does not compile fails as compiling it
does, and changes nothing. A query that compiles has a program, and is in answer and effect, the log
aside, the exchange of that program; if its limit has too many digits, it has no program, and fails
for that without an effect. None of them changes a declaration, and a query that is rejected is the
program that has just been sent. -/
theorem session_sends {actions : List Action}
    (hregistry : client.registry.Built) (hactions : ∀ action ∈ actions, action.Built) :
    (Run.last act client actions).transport.sent = client.transport.sent ++
        (Run.turns act client actions).filterMap (fun turn => turn.before.program? turn.action) ∧
      ∀ turn ∈ Run.turns act client actions,
        (∀ expression fault, turn.action = .find expression →
          (turn.before.compile expression).1 = .error fault →
          turn.answer = .rows (.error (.expression fault)) ∧ turn.after = turn.before) ∧
        (∀ expression wire, turn.action = .find expression →
          (turn.before.compile expression).1 = .ok wire → ∃ q, expression = .query q ∧
            (q.final.Writable → ∃ program, (turn.before.toGremlin expression).1 = .ok program ∧
              turn.answer = .rows (turn.before.findRaw program).1 ∧
              turn.after.unlogged = (turn.before.findRaw program).2.unlogged) ∧
            (¬q.final.Writable →
              turn.answer = .rows (.error (.program (.unwritable .tooManyDigits))) ∧
              turn.after.unlogged = turn.before.unlogged)) ∧
        (∀ outcome, turn.answer = .rows outcome → turn.after.registry = turn.before.registry) ∧
        ∀ complaint query, turn.answer = .rows (.error (.answer (.rejected complaint query))) →
          ∃ program, query = some program ∧
            turn.after.transport.sent = turn.before.transport.sent ++ [program] := by
  -- every turn is one action of a client whose registry is built
  have hturn {turn : Turn (Client Memory) Action Answer}
      (h : turn ∈ Run.turns act client actions) :=
    Run.turn_kept (P := fun client => client.registry.Built)
      (fun _ action haction hbuilt => act_built (hactions action haction) hbuilt) hregistry h
  refine ⟨Run.log_eq (fun client : Client Memory => client.transport.sent)
    (fun turn => turn.before.program? turn.action) fun turn h => ?_, fun turn h => ?_⟩
  · obtain ⟨-, -, -, hafter⟩ := hturn h
    rw [hafter, sent_act]
  · obtain ⟨hbuilt, haction, hanswer, hafter⟩ := hturn h
    refine ⟨fun expression fault hfind hfault => ?_, fun expression wire hfind hwire => ?_,
      fun outcome hrows => ?_, fun complaint query hrejected => ?_⟩
    · rw [compile_outcome] at hfault
      rw [hanswer, hafter, hfind, act, find_of_fault hfault]
      exact ⟨rfl, rfl⟩
    · rw [compile_outcome] at hwire
      obtain ⟨q, rfl⟩ := exists_query_of_compile hwire
      have hquery : (Action.find (.query q)).Built := hfind ▸ hactions _ haction
      obtain ⟨hprogram, hnone⟩ := toGremlin_of_compile hbuilt hquery hwire
      refine ⟨q, rfl, fun hwritable => ?_, fun hwritable => ?_⟩
      · -- the exchange is that of the program
        obtain ⟨program, -, hprogram⟩ := hprogram hwritable
        obtain ⟨houtcome, hclient⟩ := find_of_program hprogram
        refine ⟨program, hprogram, ?_, ?_⟩
        · rw [hanswer, hfind]
          exact congrArg Answer.rows houtcome
        · rw [hafter, hfind]
          exact hclient
      · -- there is nothing to exchange
        have hunsent := find_of_no_program (hnone hwritable)
        refine ⟨?_, ?_⟩
        · rw [hanswer, hfind, act, hunsent]
          rfl
        · rw [hafter, hfind, act, hunsent]
          exact turn.before.unlogged_toGremlin _
    · rw [hafter]
      exact registry_act (hanswer.symm.trans hrows)
    · obtain ⟨program, hprogram, hquery⟩ := rejected_act (hanswer.symm.trans hrejected)
      refine ⟨program, hquery, ?_⟩
      -- what was rejected is what was sent last
      rw [hafter, sent_act, hprogram]
      rfl

end Client

/-! ### A session that meets every kind of fault -/

namespace Sample

/-- A client that was not used yet. -/
def client : Client Memory := .ofTransport .empty fun n => Text.ofNat n

/-- The program of the sample query. -/
def program : Text :=
  ("g.V(\"A\\\"\").Follow(g.M().Out(\"likes\")).Is(\"B\").Or(g.V().Out(null,\"t\")).GetLimit(2)" :
    String)

/-- A query that is asked too early, the declaration that it misses, an answer that complains,
the query again, a program that meets an error, and an expression that is no query. -/
def session : List Client.Action :=
  [.find (.query query), .declare (.text likes.text) (.path ⟨declared⟩),
    .respond (.text ("\x7b\"error\":\"no\"\x7d" : String)), .find (.query query),
    .fail (some ⟨"down", none, none, none, none, none⟩), .findRaw "g.V().All()",
    .find (.vertex nested)]

theorem session_built : ∀ action ∈ session, action.Built := by
  intro action haction
  simp only [session, List.mem_cons, List.not_mem_nil, or_false] at haction
  rcases haction with rfl | rfl | rfl | rfl | rfl | rfl | rfl
  · exact query_built
  · exact declared_built
  · trivial
  · exact query_built
  · trivial
  · trivial
  · exact nested_built

end Sample

namespace Client

/-- The sample session sends two programs: the query the second time, and the program that meets
the error. -/
theorem session_sends_sample :
    (Run.last act Sample.client Sample.session).transport.sent
      = [Sample.program, "g.V().All()"] :=
  (session_sends Registry.Built.empty Sample.session_built).1.trans (by decide +kernel)

/-- **A query that compiles and is not sent**: its limit has too many digits. -/
theorem session_unsent :
    let find : Action := .find (.query (Sample.upTo Sample.huge))
    find.Built ∧
      (Sample.client.compile (.query (Sample.upTo Sample.huge))).1 = .ok Sample.hugeWire ∧
      (Sample.client.act find).1 = .rows (.error (.program (.unwritable .tooManyDigits))) ∧
      (Run.last act Sample.client [find]).transport.sent = [] := by
  have hcompile := Sample.compile_upTo_huge Sample.client.registry
  -- the program is missing, for the digits of the limit
  have hnone : (Sample.client.toGremlin (.query (Sample.upTo Sample.huge))).1
      = .error (.program (.unwritable .tooManyDigits)) :=
    (toGremlin_of_compile .empty (Sample.upTo_built _) hcompile).2 Sample.huge_not_writable
  have hunsent := find_of_no_program hnone
  refine ⟨Sample.upTo_built _, ?_, ?_, ?_⟩
  · rw [compile_outcome, hcompile]
  · rw [act, hunsent]
    rfl
  · rw [Run.last, Run.last, sent_act, program?, hnone]
    rfl

end Client

end GraphPath
