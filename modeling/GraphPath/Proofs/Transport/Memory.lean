import GraphPath.Gremlin
import GraphPath.Proofs.Run
import GraphPath.Transport.Memory
import Mathlib.Data.List.Perm.Basic

/-!
# Sharing a transport in memory

Several callers use one transport in memory at the same time. A call of an exchange, or of
closing, yields once before it takes effect, so any number of calls may wait, and they go on in
any order; each then takes effect at once. In between bodies are queued, and errors are set and
taken back. Whatever the order, every call takes effect at most once, its program is kept when
it does, and no body is lost or handed out twice.

* `Memory.Serves` — what an exchange gives;
* `Memory.Call`, `Memory.Shared` — calls that wait, and the transport that they wait for;
* `Memory.Event`, `Memory.Answer`, `Memory.Shared.step` — what happens, and what it gives;
* `Memory.Shared.Next` — everything that a step can do;
* `Memory.Shared.keeps_account` — any course of events.
-/

namespace GraphPath.Memory

/-! ### One exchange -/

theorem sent_exchange (memory : Memory) (program : Text) :
    (memory.exchange program).2.sent = memory.sent ++ [program] := by
  obtain ⟨queue, error, sent, isClosed⟩ := memory
  cases error <;> cases queue <;> rfl

/-- **What an exchange gives**: the error that is set, and then no body is handed out, or else the
body at the head of the queue, or else the standing body. -/
structure Serves (before after : Memory) (outcome : Except ExchangeFault Bytes) : Prop where
  failed : ∀ error, before.error = some error →
    outcome = .error (.failed error) ∧ after.queue = before.queue
  served : before.error = none → ∀ body rest, before.queue = body :: rest →
    outcome = .ok body ∧ after.queue = rest
  standing : before.error = none → before.queue = [] →
    outcome = .ok standing ∧ after.queue = []

theorem serves_exchange (memory : Memory) (program : Text) :
    memory.Serves (memory.exchange program).2 (memory.exchange program).1 := by
  refine ⟨fun error herror => ?_, fun herror body rest hqueue => ?_, fun herror hqueue => ?_⟩
  · simp only [exchange, herror, and_self]
  · simp only [exchange, herror, hqueue, and_self]
  · simp only [exchange, herror, hqueue, and_self]

/-! ### What happens -/

/-- **A call** of an operation that yields before it takes effect. -/
inductive Call where
  | exchange (program : Text)
  | close

/-- **A transport in memory that is shared**, with the calls that wait. -/
structure Shared where
  memory : Memory
  waiting : List Call

/-- **What happens**: a body is queued, an error is set or taken back, a wire query or a program
is to be exchanged, the transport is to be closed, and one of the calls that wait goes on. -/
inductive Event where
  | respond (payload : Payload)
  | fail (error : Option TransportError)
  | execute (wire : WireQuery)
  | executeRaw (program : Text)
  | close
  | resume (i : Nat)

/-- **What it gives.** A call waits at first, and gives its answer when it takes effect. -/
inductive Answer where
  | queued (outcome : Except BodyFault Unit)
  | set
  | noProgram (fault : RenderFault)
  | waits
  | exchanged (program : Text) (outcome : Except ExchangeFault Bytes)
  | closed
  | idle

/-- The call that starts at an event. -/
def Event.call? : Event → Option Call
  | .execute wire => wire.toGremlin.toOption.map .exchange
  | .executeRaw program => some (.exchange program)
  | .close => some .close
  | .respond _ | .fail _ | .resume _ => none

/-- The body that an event queues. -/
def Event.body? : Event → Option Bytes
  | .respond payload => (bytesOf payload).toOption
  | .fail _ | .execute _ | .executeRaw _ | .close | .resume _ => none

/-- The error that an event sets, or that it sets none. -/
def Event.error? : Event → Option (Option TransportError)
  | .fail error => some error
  | .respond _ | .execute _ | .executeRaw _ | .close | .resume _ => none

/-- A call that starts queues no body and sets no error. -/
theorem Event.none_of_call? {event : Event} {call : Call} (h : event.call? = some call) :
    event.body? = none ∧ event.error? = none := by
  cases event with
  | respond payload => cases h
  | fail error => cases h
  | _ => exact ⟨rfl, rfl⟩

/-- The call that takes effect with an answer. -/
def Answer.call? : Answer → Option Call
  | .exchanged program _ => some (.exchange program)
  | .closed => some .close
  | _ => none

/-- The program of the exchange that takes effect with an answer. -/
def Answer.program? : Answer → Option Text
  | .exchanged program _ => some program
  | _ => none

namespace Shared

/-- A call starts to wait. -/
def start (shared : Shared) (call : Call) : Answer × Shared :=
  (.waits, { shared with waiting := shared.waiting ++ [call] })

/-- A call takes effect. -/
def effect (memory : Memory) : Call → Answer × Memory
  | .exchange program => (memory.exchange program).map (.exchanged program) id
  | .close => (.closed, memory.close)

/-- **One event**: its answer, and the transport after it. -/
def step (shared : Shared) : Event → Answer × Shared
  | .respond payload =>
    match shared.memory.respond payload with
    | .error fault => (.queued (.error fault), shared)
    | .ok memory => (.queued (.ok ()), { shared with memory := memory })
  | .fail error => (.set, { shared with memory := shared.memory.fail error })
  | .execute wire =>
    match wire.toGremlin with
    | .error fault => (.noProgram fault, shared)
    | .ok program => shared.start (.exchange program)
  | .executeRaw program => shared.start (.exchange program)
  | .close => shared.start .close
  | .resume i =>
    match shared.waiting[i]? with
    | none => (.idle, shared)
    | some call =>
      (effect shared.memory call).map id fun memory => ⟨memory, shared.waiting.eraseIdx i⟩

/-- **Everything that a step can do.** -/
inductive Next (shared : Shared) : Event → Answer → Shared → Prop where
  | queued {payload : Payload} {body : Bytes} (h : bytesOf payload = .ok body) :
    Next shared (.respond payload) (.queued (.ok ()))
      { shared with memory := shared.memory.enqueue body }
  | unqueued {payload : Payload} {fault : BodyFault} (h : bytesOf payload = .error fault) :
    Next shared (.respond payload) (.queued (.error fault)) shared
  | set {error : Option TransportError} :
    Next shared (.fail error) .set { shared with memory := shared.memory.fail error }
  | noProgram {wire : WireQuery} {fault : RenderFault} (h : wire.toGremlin = .error fault) :
    Next shared (.execute wire) (.noProgram fault) shared
  | waits {event : Event} {call : Call} (h : event.call? = some call) :
    Next shared event .waits { shared with waiting := shared.waiting ++ [call] }
  | exchanged {i : Nat} {program : Text} (h : shared.waiting[i]? = some (.exchange program)) :
    Next shared (.resume i) (.exchanged program (shared.memory.exchange program).1)
      ⟨(shared.memory.exchange program).2, shared.waiting.eraseIdx i⟩
  | closed {i : Nat} (h : shared.waiting[i]? = some .close) :
    Next shared (.resume i) .closed ⟨shared.memory.close, shared.waiting.eraseIdx i⟩
  | idle {i : Nat} (h : shared.waiting[i]? = none) : Next shared (.resume i) .idle shared

theorem next_step (shared : Shared) (event : Event) :
    shared.Next event (shared.step event).1 (shared.step event).2 := by
  -- one constructor for each branch of a step
  cases event with
  | respond payload =>
    simp only [step, respond]
    cases h : bytesOf payload with
    | error fault => exact .unqueued h
    | ok body => exact .queued h
  | fail error => exact .set
  | execute wire =>
    simp only [step]
    cases h : wire.toGremlin with
    | error fault => exact .noProgram h
    | ok program => exact .waits (by rw [Event.call?, h]; rfl)
  | executeRaw program => exact .waits rfl
  | close => exact .waits rfl
  | resume i =>
    simp only [step]
    cases h : shared.waiting[i]? with
    | none => exact .idle h
    | some call =>
      cases call with
      | exchange program => exact .exchanged h
      | close => exact .closed h

/-! ### What one step adds and takes -/

variable {shared after : Shared} {event : Event} {answer : Answer}

/-- The programs of the exchanges that take effect are kept, and no others. -/
theorem Next.sent (h : shared.Next event answer after) :
    after.memory.sent = shared.memory.sent ++ answer.program?.toList := by
  cases h with
  | exchanged h => exact shared.memory.sent_exchange _
  | _ => exact (List.append_nil _).symm

/-- The body that is handed out of the queue in a turn: that of an exchange, if there is one in the
queue. -/
def handed? (turn : Turn Shared Event Answer) : Option Bytes :=
  match turn.answer, turn.before.memory.queue with
  | .exchanged _ (.ok body), _ :: _ => some body
  | _, _ => none

/-- **Bodies leave the queue at its head** and enter it at its end. -/
theorem Next.queue (h : shared.Next event answer after) :
    (handed? ⟨shared, event, answer, after⟩).toList ++ after.memory.queue
      = shared.memory.queue ++ event.body?.toList := by
  cases h with
  | queued h =>
    rw [Event.body?, h]
    rfl
  | unqueued h =>
    rw [Event.body?, h]
    exact (List.append_nil _).symm
  | exchanged h =>
    rw [Event.body?, Option.toList_none, List.append_nil]
    -- an error takes nothing, and without one the head goes if there is one
    obtain ⟨⟨queue, error, sent, isClosed⟩, waiting⟩ := shared
    cases error <;> cases queue <;> rfl
  | waits h =>
    rw [(Event.none_of_call? h).1]
    exact (List.append_nil _).symm
  | _ => exact (List.append_nil _).symm

/-- **A call starts to wait, and waits until it takes effect.** -/
theorem Next.waiting (h : shared.Next event answer after) :
    (answer.call?.toList ++ after.waiting).Perm (shared.waiting ++ event.call?.toList) := by
  -- a call that takes effect leaves its place to those that go on waiting
  have htaken {i : Nat} {call : Call} (h : shared.waiting[i]? = some call) :
      (call :: shared.waiting.eraseIdx i).Perm shared.waiting := by
    obtain ⟨hlt, rfl⟩ := List.getElem?_eq_some_iff.1 h
    exact List.getElem_cons_eraseIdx_perm hlt
  cases h with
  | waits h =>
    rw [h]
    exact .refl _
  | exchanged h =>
    rw [Event.call?, Option.toList_none, List.append_nil]
    exact htaken h
  | closed h =>
    rw [Event.call?, Option.toList_none, List.append_nil]
    exact htaken h
  | noProgram h =>
    rw [Event.call?, h]
    exact .of_eq (List.append_nil _).symm
  | _ => exact .of_eq (List.append_nil _).symm

/-- The error is the one that was set last. -/
theorem Next.error (h : shared.Next event answer after) :
    after.memory.error = event.error?.getD shared.memory.error := by
  cases h with
  | waits h =>
    rw [(Event.none_of_call? h).2]
    rfl
  | exchanged h =>
    obtain ⟨⟨queue, error, sent, isClosed⟩, waiting⟩ := shared
    cases error <;> cases queue <;> rfl
  | _ => rfl

/-- Closing, and asking for it, keeps queue, error and programs. -/
theorem Next.close (h : shared.Next event answer after)
    (hclose : event = .close ∨ answer = .closed) :
    after.memory = { shared.memory with isClosed := after.memory.isClosed } := by
  cases h with
  | exchanged h => rcases hclose with hclose | hclose <;> cases hclose
  | queued h => rcases hclose with hclose | hclose <;> cases hclose
  | set => rcases hclose with hclose | hclose <;> cases hclose
  | _ => rfl

/-! ### Exchanges that take effect -/

/-- **An exchange that goes on takes effect.** -/
theorem Next.goes_on {i : Nat} {program : Text} (h : shared.Next (.resume i) answer after)
    (hcall : shared.waiting[i]? = some (.exchange program)) :
    ∃ outcome, answer = .exchanged program outcome := by
  -- no other step resumes a call that is an exchange
  cases h with
  | exchanged hother =>
    rw [hcall] at hother
    cases hother
    exact ⟨_, rfl⟩
  | closed hother =>
    rw [hcall] at hother
    cases hother
  | idle hnone =>
    rw [hcall] at hnone
    cases hnone
  | waits hstart => cases hstart

/-- **What takes effect is an exchange that has waited.** -/
theorem Next.of_exchanged {program : Text} {outcome : Except ExchangeFault Bytes}
    (h : shared.Next event (.exchanged program outcome) after) :
    shared.memory.Serves after.memory outcome ∧
      ∃ i, event = .resume i ∧ shared.waiting[i]? = some (.exchange program) ∧
        after.waiting = shared.waiting.eraseIdx i := by
  cases h with
  | exchanged hcall => exact ⟨shared.memory.serves_exchange program, _, rfl, hcall, rfl⟩

/-! ### Being closed -/

/-- **Alike apart from being closed.** -/
def Alike (shared other : Shared) : Prop :=
  ∃ isClosed, other = { shared with memory := { shared.memory with isClosed := isClosed } }

/-- **No answer depends on being closed.** -/
theorem Alike.step {other : Shared} (h : shared.Alike other) (event : Event) :
    (shared.step event).1 = (other.step event).1 ∧
      (shared.step event).2.Alike (other.step event).2 := by
  -- closing sets the flag in both, and nothing else reads it
  obtain ⟨isClosed, rfl⟩ := h
  obtain ⟨⟨queue, error, sent, wasClosed⟩, waiting⟩ := shared
  cases event with
  | respond payload =>
    simp only [Shared.step, respond]
    cases bytesOf payload <;> exact ⟨rfl, isClosed, rfl⟩
  | execute wire =>
    simp only [Shared.step]
    cases wire.toGremlin <;> exact ⟨rfl, isClosed, rfl⟩
  | resume i =>
    simp only [Shared.step]
    cases waiting[i]? with
    | none => exact ⟨rfl, isClosed, rfl⟩
    | some call =>
      cases call with
      | close => exact ⟨rfl, true, rfl⟩
      | exchange program => cases error <;> cases queue <;> exact ⟨rfl, isClosed, rfl⟩
  | _ => exact ⟨rfl, isClosed, rfl⟩

/-! ### Any course of events -/

/-- The error after some events is the one that was set last. -/
theorem error_last (shared : Shared) (events : List Event) :
    (Run.last step shared events).memory.error
      = (events.filterMap Event.error?).getLast?.getD shared.memory.error := by
  -- on the events: a later error takes the place of the first one
  induction events generalizing shared with
  | nil => rfl
  | cons event rest ih =>
    rw [Run.last, ih, (shared.next_step event).error]
    cases h : event.error? with
    | none => rw [List.filterMap_cons_none h, Option.getD_none]
    | some error =>
      rw [List.filterMap_cons_some h, List.getLast?_cons, Option.getD_some, Option.getD_some]

/-- **Nothing is lost and nothing is doubled**, whatever callers do and in whatever order their
calls go on.

The programs that are kept are those of the exchanges that took effect, in this order and
whatever came of them. The calls that took effect and those that still wait are those that waited
at first and those that were started since. The bodies that were handed out of the queue, and then
those that are left in it, are those that were in it at first and then those that were queued
since, in order. The error that is set is the last one.

An exchange that goes on takes effect, and no other does: it gives the error that is set at this
moment, and then no body leaves the queue, or else the body at the head of the queue, or else the
standing body. Closing changes nothing of this, and no answer depends on it. -/
theorem keeps_account (shared : Shared) (events : List Event) :
    let turns := Run.turns step shared events
    let final := Run.last step shared events
    final.memory.sent = shared.memory.sent ++ turns.filterMap (·.answer.program?) ∧
      (turns.filterMap (·.answer.call?) ++ final.waiting).Perm
        (shared.waiting ++ turns.filterMap (·.action.call?)) ∧
      turns.filterMap handed? ++ final.memory.queue
        = shared.memory.queue ++ turns.filterMap (·.action.body?) ∧
      final.memory.error = (events.filterMap Event.error?).getLast?.getD shared.memory.error ∧
      (∀ turn ∈ turns, ∀ program,
        (∀ i, turn.action = .resume i → turn.before.waiting[i]? = some (.exchange program) →
          ∃ outcome, turn.answer = .exchanged program outcome) ∧
        ∀ outcome, turn.answer = .exchanged program outcome →
          turn.before.memory.Serves turn.after.memory outcome ∧
          ∃ i, turn.action = .resume i ∧ turn.before.waiting[i]? = some (.exchange program) ∧
            turn.after.waiting = turn.before.waiting.eraseIdx i) ∧
      (∀ turn ∈ turns, turn.action = .close ∨ turn.answer = .closed →
        turn.after.memory
          = { turn.before.memory with isClosed := turn.after.memory.isClosed }) ∧
      ∀ other, shared.Alike other →
        turns.map (·.answer) = (Run.turns step other events).map (·.answer) ∧
          final.Alike (Run.last step other events) := by
  intro turns final
  -- every turn is a step, so each part is what a step does, collected over the run
  have hnext {turn : Turn Shared Event Answer} (h : turn ∈ turns) :
      turn.before.Next turn.action turn.answer turn.after := by
    rw [Run.turn_eq h]
    exact turn.before.next_step turn.action
  refine ⟨Run.log_eq (·.memory.sent) _ fun turn h => (hnext h).sent,
    Run.pool_perm (·.waiting) _ _ fun turn h => (hnext h).waiting,
    Run.queue_eq (·.memory.queue) _ _ fun turn h => (hnext h).queue,
    shared.error_last events, fun turn h program => ⟨fun i haction hcall => ?_,
      fun outcome hanswer => ?_⟩, fun turn h => (hnext h).close, fun other hother =>
    Run.answers_congr (fun _ _ event halike => halike.step event) hother⟩
  · have hturn := hnext h
    rw [haction] at hturn
    exact hturn.goes_on hcall
  · have hturn := hnext h
    rw [hanswer] at hturn
    exact hturn.of_exchanged

/-- Two programs wait while an error is set. The second goes on first and fails; the error is taken
back, and the first has the body. -/
example : (Run.turns step ⟨.empty, []⟩ [.executeRaw "g.V()", .executeRaw "g.V().In()",
    .respond (.bytes [0x5B, 0x5D]), .fail (some ⟨"down", none, none, none, none, none⟩),
    .resume 1, .fail none, .close, .resume 1, .resume 0]).map (·.answer)
      = [.waits, .waits, .queued (.ok ()), .set,
        .exchanged "g.V().In()" (.error (.failed ⟨"down", none, none, none, none, none⟩)), .set,
        .waits, .closed, .exchanged "g.V()" (.ok [0x5B, 0x5D])] := rfl

end Shared

end GraphPath.Memory
