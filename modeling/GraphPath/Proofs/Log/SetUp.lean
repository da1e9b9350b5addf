import GraphPath.Log.Logger
import GraphPath.Proofs.Log.Line

/-!
# The last set-up decides

A logger can be set up any number of times, with other levels and files. What is logged from then
on goes to the sinks of the last set-up and to no others: each of them gets one line for every
record that passes the level, in order, under the correlation id that is set at the time.

A record of a level that is not positive never passes, an empty correlation id is written like
none, a record need not have a line, and a file cannot hold every line.

* `SetUp` — a set-up, with its level and its sinks;
* `Journal`, `Journal.Event` — a logger in use, and what happens around it;
* `Journal.stamped` — the messages among events, each under the id that is set when it is logged;
* `Message.line?`, `Message.Written` — the line of a message at a sink;
* `SetUp.lines_log` — what one message leaves, `Journal.lines_after` — what many leave;
* `Journal.last_setUp_decides` — all this after any history of set-ups.
-/

namespace GraphPath

/-! ### Set-ups -/

/-- **A set-up of a logger**: how its level is chosen, in which environment, and its file. -/
structure SetUp where
  environment : Fields Text
  choice : Level.Choice
  file : Option Text

namespace SetUp

/-- The level of a set-up. -/
def level (call : SetUp) : Level := Level.ofChoice call.environment call.choice

/-- **The sinks of a set-up**: the console, and a file if one is named. -/
def sinks (call : SetUp) : List Sink :=
  .console :: match call.file with
    | none | some [] => []
    | some path => [.file path]

/-- A logger after a set-up. -/
def apply (call : SetUp) (service : Text) (logger : Logger) : Logger :=
  logger.setUp service call.file call.level

end SetUp

/-! ### Messages -/

/-- **A message that is logged**: a record with a template, the arguments that fill it, and the
time at which each sink writes. -/
structure Message where
  record : LogRecord
  arguments : List Value
  clock : Sink → Text

namespace Message

/-- A message under a correlation id. -/
def under (message : Message) (id : Option Text) : Message :=
  { message with record := { message.record with correlation := id } }

/-- **Whether a message passes a level**: its own is positive and at least that one. -/
def Passes (message : Message) (level : Level) : Prop :=
  0 < message.record.level.number ∧ level.number ≤ message.record.level.number
deriving Decidable

/-- **The line of a message at a sink** of a set-up, if it passes the level and has one. -/
def line? (message : Message) (service : Text) (level : Level) (sink : Sink) : Option Text :=
  if message.Passes level then
    (Handler.line ⟨sink, level, service⟩ message.clock message.record message.arguments).toOption
  else none

/-- **A line that is written for a message.** The message passes the level, its arguments fit, its
context can be written, and the sink can hold the line. The line is that of the tagged record with
the message filled in, and it carries the tag of the correlation id. -/
structure Written (message : Message) (service : Text) (level : Level) (sink : Sink)
    (line : Text) : Prop where
  passes : message.Passes level
  contextWritten : message.record.isOversized = false
  line_eq : ∃ text, Template.fill message.record.message message.arguments = .ok text ∧
    line = { message.record.tagged with message := text }.line (message.clock sink) service
  held : sink = .console ∨ ∀ c ∈ line, c.isSurrogate = false
  carries : ∃ fields, line = Json.print .spaced (.object fields) ∧
    Fields.get? "correlation_id" fields
      = some (.text (LogRecord.tag message.record.correlation))

end Message

/-! ### Lines -/

theorem LogRecord.format_eq_ok_iff {record : LogRecord} {arguments : List Value}
    {timestamp service line : Text} : record.format arguments timestamp service = .ok line ↔
      ∃ text, Template.fill record.message arguments = .ok text ∧ record.isOversized = false ∧
        line = LogRecord.line { record with message := text } timestamp service := by
  -- the message is filled in first, and then the context has to be written
  cases hfill : Template.fill record.message arguments with
  | error fault => simp [format_of_misfit record timestamp service hfill]
  | ok text =>
    rw [format_of_fill record timestamp service hfill]
    cases record.isOversized with
    | true =>
      rw [if_pos rfl]
      exact ⟨nofun, fun ⟨_, _, hsize, _⟩ => nomatch hsize⟩
    | false =>
      rw [if_neg Bool.false_ne_true, Except.ok.injEq]
      constructor
      · rintro rfl
        exact ⟨text, rfl, rfl, rfl⟩
      · rintro ⟨_, ⟨⟩, -, rfl⟩
        rfl

theorem Sink.hold_eq_ok_iff {sink : Sink} {written line : Text} :
    sink.hold written = .ok line ↔
      line = written ∧ (sink = .console ∨ ∀ c ∈ written, c.isSurrogate = false) := by
  cases sink with
  | console => exact ⟨fun h => ⟨(Except.ok.inj h).symm, .inl rfl⟩, fun h => congrArg _ h.1.symm⟩
  | file path =>
    rw [← Utf8.encode_isOk_iff]
    cases h : Utf8.encode written <;> simp [hold, h, eq_comm]

theorem Handler.line_eq_ok_iff {handler : Handler} {clock : Sink → Text} {record : LogRecord}
    {arguments : List Value} {line : Text} : handler.line clock record arguments = .ok line ↔
      record.tagged.format arguments (clock handler.sink) handler.service = .ok line ∧
        (handler.sink = .console ∨ ∀ c ∈ line, c.isSurrogate = false) := by
  cases h : record.tagged.format arguments (clock handler.sink) handler.service with
  | error fault => simp [Handler.line, h]
  | ok written =>
    rw [Handler.line, h, Except.ok.injEq]
    dsimp only
    rw [Sink.hold_eq_ok_iff]
    constructor
    · rintro ⟨rfl, hheld⟩
      exact ⟨rfl, hheld⟩
    · rintro ⟨rfl, hheld⟩
      exact ⟨rfl, hheld⟩

/-- The line of a record carries its correlation id. -/
theorem LogRecord.line_carries (record : LogRecord) (timestamp service : Text) :
    ∃ fields, record.line timestamp service = Json.print .spaced (.object fields) ∧
      Fields.get? "correlation_id" fields = some (.text record.correlationText) :=
  ⟨_, rfl, (record.entry_fields timestamp service).correlation⟩

/-- **The line of a message at a sink** is what is written for it. -/
theorem Message.line?_eq_some_iff {message : Message} {service : Text} {level : Level}
    {sink : Sink} {line : Text} :
    message.line? service level sink = some line ↔ message.Written service level sink line := by
  -- a message that does not pass has no line
  have hline : message.line? service level sink = some line ↔ message.Passes level ∧
      (⟨sink, level, service⟩ : Handler).line message.clock message.record message.arguments
        = .ok line := by
    unfold line?
    split_ifs with hpass
    · cases (⟨sink, level, service⟩ : Handler).line message.clock message.record
        message.arguments <;> simp [Except.toOption, hpass]
    · simp [hpass]
  rw [hline, Handler.line_eq_ok_iff, LogRecord.format_eq_ok_iff]
  constructor
  · rintro ⟨hpass, ⟨text, hfill, hsize, rfl⟩, hheld⟩
    exact ⟨hpass, hsize, ⟨text, hfill, rfl⟩, hheld, LogRecord.line_carries _ _ _⟩
  · rintro ⟨hpass, hsize, ⟨text, hfill, rfl⟩, hheld, -⟩
    exact ⟨hpass, ⟨text, hfill, hsize, rfl⟩, hheld⟩

/-! ### Logging one message -/

namespace Output

variable {output : Output} {sink other : Sink} {line : Text}

theorem lines_write_self : (output.write sink line).lines sink = output.lines sink ++ [line] := by
  cases sink with
  | console => rfl
  | file path => simp [write, lines, Fields.get?_set_self]

theorem lines_write_of_ne (h : sink ≠ other) :
    (output.write sink line).lines other = output.lines other := by
  cases sink with
  | console =>
    cases other with
    | console => exact absurd rfl h
    | file path => rfl
  | file path =>
    cases other with
    | console => rfl
    | file otherPath =>
      have hpath : path ≠ otherPath := fun heq => h (congrArg Sink.file heq)
      simp [write, lines, Fields.get?_set_of_ne hpath]

theorem lines_report (fault : WriteFault) :
    (output.report fault).lines sink = output.lines sink := by
  cases sink <;> rfl

end Output

section Handle

variable {handler : Handler} {clock : Sink → Text} {record : LogRecord} {arguments : List Value}
  {output : Output} {sink : Sink}

/-- A handler leaves the sinks of others alone. -/
theorem Handler.lines_handle_of_ne (h : handler.sink ≠ sink) :
    (handler.handle clock record arguments output).lines sink = output.lines sink := by
  unfold handle
  split
  · split
    · exact Output.lines_write_of_ne h
    · exact Output.lines_report _
  · rfl

/-- **A handler writes the line of a record**, if it is serious enough and has one. -/
theorem Handler.lines_handle_self (h : handler.level.number ≤ record.level.number) :
    (handler.handle clock record arguments output).lines handler.sink
      = output.lines handler.sink ++ (handler.line clock record arguments).toOption.toList := by
  rw [handle, if_pos h]
  cases handler.line clock record arguments with
  | ok line => exact Output.lines_write_self
  | error fault =>
    rw [Output.lines_report]
    exact (List.append_nil _).symm

end Handle

namespace SetUp

variable {call : SetUp}

/-- A logger with a level of its own lets pass what passes this level. -/
theorem accepts_apply (hlevel : call.level ≠ .notSet) (service : Text) (logger : Logger)
    (message : Message) :
    (call.apply service logger).accepts message.record.level = true ↔
      message.Passes call.level := by
  have heffective : (call.apply service logger).effectiveLevel = call.level := by
    rw [Logger.effectiveLevel, if_neg fun h => hlevel h.1]
    rfl
  rw [Logger.accepts, heffective]
  simp [Message.Passes]

/-- The handler of a set-up at a sink. Only that of a file has a level. -/
def handler (call : SetUp) (service : Text) (sink : Sink) : Handler :=
  ⟨sink, if sink = .console then .notSet else call.level, service⟩

theorem handlers_apply (call : SetUp) (service : Text) (logger : Logger) :
    (call.apply service logger).handlers = call.sinks.map (call.handler service) := by
  obtain ⟨environment, choice, _ | _ | ⟨c, path⟩⟩ := call <;> rfl

theorem nodup_sinks (call : SetUp) : call.sinks.Nodup := by
  obtain ⟨environment, choice, _ | _ | ⟨c, path⟩⟩ := call <;> simp [sinks]

/-- What passes the logger passes each of its handlers. -/
theorem handler_level_le {message : Message} (h : message.Passes call.level) (service : Text)
    (sink : Sink) : (call.handler service sink).level.number ≤ message.record.level.number := by
  unfold handler
  split
  · exact Int.le_of_lt h.1
  · exact h.2

/-- What passes leaves its line at every sink that has a handler, and nothing elsewhere. -/
theorem lines_foldl {message : Message} (hpass : message.Passes call.level) (service : Text)
    {sinks : List Sink} (hsinks : sinks.Nodup) (sink : Sink) (output : Output) :
    ((sinks.map (call.handler service)).foldl (fun output handler =>
        handler.handle message.clock message.record message.arguments output) output).lines sink
      = output.lines sink ++
        if sink ∈ sinks then (message.line? service call.level sink).toList else [] := by
  induction sinks generalizing output with
  | nil => simp
  | cons first sinks ih =>
    obtain ⟨hfirst, hrest⟩ := List.nodup_cons.1 hsinks
    rw [List.map_cons, List.foldl_cons, ih hrest]
    -- the first handler writes to its own sink, which no later one has
    by_cases hsink : sink = first
    · subst hsink
      have hline : message.line? service call.level sink = ((call.handler service sink).line
          message.clock message.record message.arguments).toOption := if_pos hpass
      rw [if_neg hfirst, List.append_nil, if_pos List.mem_cons_self, hline]
      exact Handler.lines_handle_self (handler_level_le hpass service sink)
    · have hne : (call.handler service first).sink ≠ sink := Ne.symm hsink
      rw [Handler.lines_handle_of_ne hne]
      simp [hsink]

/-- **What one message leaves** after a set-up: its line at each sink of the set-up, and nothing
elsewhere. -/
theorem lines_log (hlevel : call.level ≠ .notSet) (service : Text) (logger : Logger)
    (message : Message) (output : Output) (sink : Sink) :
    ((call.apply service logger).log message.clock message.record message.arguments output).lines
      sink = output.lines sink ++
        if sink ∈ call.sinks then (message.line? service call.level sink).toList else [] := by
  rw [Logger.log, handlers_apply]
  by_cases hpass : message.Passes call.level
  · rw [if_pos ((accepts_apply hlevel service logger message).2 hpass)]
    exact lines_foldl hpass service call.nodup_sinks sink output
  · have hnone : message.line? service call.level sink = none := if_neg hpass
    rw [if_neg fun h => hpass ((accepts_apply hlevel service logger message).1 h), hnone]
    simp

end SetUp

/-! ### Histories -/

/-- **A logger in use**, with the correlation id that is set and what was written. -/
structure Journal where
  logger : Logger
  correlation : Option Text
  output : Output

namespace Journal

/-- **What happens around a logger**: it is set up, a correlation id is set or cleared, or a
message is logged. -/
inductive Event where
  | setUp (call : SetUp)
  | correlate (id : Option Text)
  | log (message : Message)

/-- Whether an event is a set-up. -/
def Event.isSetUp : Event → Bool
  | .setUp _ => true
  | .correlate _ | .log _ => false

/-- One event on the logger of a service. A message is logged under the id that is set. -/
def act (service : Text) (journal : Journal) : Event → Journal
  | .setUp call => { journal with logger := call.apply service journal.logger }
  | .correlate id => { journal with correlation := id }
  | .log message =>
    let logged := message.under journal.correlation
    { journal with
      output := journal.logger.log logged.clock logged.record logged.arguments journal.output }

/-- Events, one after another. -/
def after (service : Text) (journal : Journal) (events : List Event) : Journal :=
  events.foldl (act service) journal

/-- **The messages among events**, each under the correlation id that is set when it is logged. -/
def stamped (id : Option Text) : List Event → List Message
  | [] => []
  | .setUp _ :: events => stamped id events
  | .correlate id :: events => stamped id events
  | .log message :: events => message.under id :: stamped id events

/-- **What messages leave** after a set-up that no other follows: their lines at the sinks of the
set-up, in order, and nothing elsewhere. -/
theorem lines_after {service : Text} {call : SetUp} (hlevel : call.level ≠ .notSet)
    {events : List Event} (hevents : ∀ event ∈ events, event.isSetUp = false) (sink : Sink)
    {journal : Journal} {logger : Logger} (hlogger : journal.logger = call.apply service logger) :
    (journal.after service events).output.lines sink = journal.output.lines sink ++
      if sink ∈ call.sinks then
        (stamped journal.correlation events).filterMap (·.line? service call.level sink)
      else [] := by
  induction events generalizing journal with
  | nil => simp [after, stamped]
  | cons event events ih =>
    obtain ⟨hevent, hrest⟩ := List.forall_mem_cons.1 hevents
    cases event with
    | setUp other => cases hevent
    | correlate id => exact ih hrest hlogger
    | log message =>
      -- a message is logged under the id that is set, at the logger that was set up
      have hact : (journal.act service (.log message)).output.lines sink
          = journal.output.lines sink ++ if sink ∈ call.sinks then
            ((message.under journal.correlation).line? service call.level sink).toList else [] := by
        rw [act, hlogger]
        exact call.lines_log hlevel service logger _ journal.output sink
      have hkept : (journal.act service (.log message)).logger = call.apply service logger :=
        hlogger
      have hafter : (journal.after service (.log message :: events)).output.lines sink = _ :=
        ih hrest hkept
      rw [hafter, hact, stamped, List.append_assoc]
      simp only [List.filterMap_eq_flatMap_toList, List.flatMap_cons]
      -- the line of the first message stands in front of those of the others
      by_cases hsink : sink ∈ call.sinks
      · rw [if_pos hsink, if_pos hsink, if_pos hsink]
        rfl
      · rw [if_neg hsink, if_neg hsink, if_neg hsink, List.append_nil]

/-- **The last set-up decides.** After any history, what is logged goes to the sinks of the last
set-up, in order, and to no other sink, whatever files earlier set-ups named. A message has its line
at a sink just if it passes the level of the last set-up, its arguments fit, its context can be
written and the sink can hold the line. The line carries the correlation id that is set when the
message is logged, and it is the same at all sinks but for the time. -/
theorem last_setUp_decides (service : Text) (journal : Journal) (earlier : List Event)
    {last : SetUp} {later : List Event} (hlevel : last.level ≠ .notSet)
    (hlater : ∀ event ∈ later, event.isSetUp = false) :
    let ready := journal.after service (earlier ++ [.setUp last])
    let done := ready.after service later
    let messages := stamped ready.correlation later
    (∀ sink ∈ last.sinks, done.output.lines sink
      = ready.output.lines sink ++ messages.filterMap (·.line? service last.level sink)) ∧
    (∀ sink ∉ last.sinks, done.output.lines sink = ready.output.lines sink) ∧
    ∀ message ∈ messages, ∀ sink line,
      (message.line? service last.level sink = some line ↔
        message.Written service last.level sink line) ∧
      ∀ other otherLine, message.Written service last.level sink line →
        message.Written service last.level other otherLine →
        ∃ record : LogRecord, line = record.line (message.clock sink) service ∧
          otherLine = record.line (message.clock other) service := by
  intro ready done messages
  -- whatever happened before, the logger is the one that the last set-up made
  have hready : ready.logger = last.apply service (journal.after service earlier).logger := by
    simp only [ready, after, List.foldl_append]
    rfl
  have hlines := fun sink => lines_after hlevel hlater sink hready
  refine ⟨fun sink hsink => ?_, fun sink hsink => ?_, fun message _ sink line =>
    ⟨Message.line?_eq_some_iff, fun other otherLine h hother => ?_⟩⟩
  · rw [hlines sink, if_pos hsink]
  · rw [hlines sink, if_neg hsink, List.append_nil]
  · -- the template is filled in one way
    obtain ⟨text, hfill, rfl⟩ := h.line_eq
    obtain ⟨text', hfill', rfl⟩ := hother.line_eq
    rw [hfill] at hfill'
    obtain rfl := Except.ok.inj hfill'
    exact ⟨_, rfl, rfl⟩

end Journal

/-! ### A logger that is set up twice -/

namespace Sample

/-- A message of a level; the console and the files have clocks of their own. -/
def message (level : Level) (template : Text) (arguments : List Value) : Message where
  record := ⟨level, "mod", template, .null, none, none⟩
  arguments := arguments
  clock
    | .console => "12:00"
    | .file _ => "12:01"

/-- A logger that was not set up yet. -/
def journal : Journal := ⟨.ofService "svc", none, .empty⟩

/-- A set-up at a level, with a file. -/
def setUp (level : Int) (file : Option Text) : SetUp := ⟨[], .number level, file⟩

/-- Set up with a file, and used under an id that stays set. -/
def earlierEvents : List Journal.Event :=
  [.setUp (setUp 10 (some "old.log")), .log (message .debug "begin" []), .correlate (some "id")]

/-- Below the level, and above it under the id. -/
def laterEvents : List Journal.Event :=
  [.log (message .info "hidden" []), .log (message .warning "user %s" [.text "a"])]

/-- The tagged record of the sample that passes, with its message filled in. -/
def warned : LogRecord := ⟨.warning, "mod", "user a", .null, some "id", none⟩

theorem warned_held : ∀ c ∈ warned.line "12:01" "svc", c.isSurrogate = false := by
  have hall : (warned.line "12:01" "svc").all (!·.isSurrogate) = true := by rfl
  exact fun c hc => by simpa using List.all_eq_true.1 hall c hc

/-- The message is written for both sinks. -/
theorem warned_written {sink : Sink}
    (hheld : sink = .console ∨ ∀ c ∈ warned.line ((message .warning "user %s" []).clock sink) "svc",
      c.isSurrogate = false) :
    ((message .warning "user %s" [.text "a"]).under (some "id")).line? "svc" ⟨30⟩ sink
      = some (warned.line ((message .warning "user %s" []).clock sink) "svc") :=
  Message.line?_eq_some_iff.2
    { passes := by decide
      contextWritten := rfl
      line_eq := ⟨"user a", rfl, rfl⟩
      held := hheld
      carries := warned.line_carries _ _ }

/-- A message with a surrogate, which no file can hold. -/
def unheld : Message := message .info [.surrogate (Fin.last 2047)] []

theorem unheld_line? (level : Level) : unheld.line? "svc" level (.file "a.log") = none := by
  refine Option.eq_none_iff_forall_ne_some.2 fun line hline => ?_
  have hwritten := Message.line?_eq_some_iff.1 hline
  obtain ⟨text, ⟨⟩, hline⟩ := hwritten.line_eq
  have hany : line.any (·.isSurrogate) = true := by
    rw [hline]
    rfl
  -- the surrogate of the message is in the line
  obtain ⟨c, hc, hsurrogate⟩ := List.any_eq_true.1 hany
  rcases hwritten.held with hsink | hheld
  · cases hsink
  · rw [hheld c hc] at hsurrogate
    cases hsurrogate

end Sample

namespace Journal

/-- The message below the level leaves nothing, and the earlier file gets nothing any more. -/
theorem last_setUp_decides_sample :
    let last := Sample.setUp 30 (some "new.log")
    let ready := Sample.journal.after "svc" (Sample.earlierEvents ++ [.setUp last])
    let done := ready.after "svc" Sample.laterEvents
    last.level ≠ .notSet ∧ (∀ event ∈ Sample.laterEvents, event.isSetUp = false) ∧
      done.output.lines .console
        = ready.output.lines .console ++ [Sample.warned.line "12:00" "svc"] ∧
      done.output.lines (.file "new.log")
        = ready.output.lines (.file "new.log") ++ [Sample.warned.line "12:01" "svc"] ∧
      done.output.lines (.file "old.log") = ready.output.lines (.file "old.log") := by
  have hlevel : (Sample.setUp 30 (some "new.log")).level ≠ .notSet := by decide
  have hlater : ∀ event ∈ Sample.laterEvents, event.isSetUp = false := by
    simp [Sample.laterEvents, Event.isSetUp]
  obtain ⟨hsinks, hothers, -⟩ :=
    last_setUp_decides "svc" Sample.journal Sample.earlierEvents hlevel hlater
  -- the first message does not pass, whatever the sink
  have hmessages (sink : Sink) (line : Text)
      (hline : ((Sample.message .warning "user %s" [.text "a"]).under (some "id")).line? "svc" ⟨30⟩
        sink = some line) :
      (stamped (some "id") Sample.laterEvents).filterMap (·.line? "svc" ⟨30⟩ sink) = [line] := by
    rw [Sample.laterEvents, stamped, stamped, stamped, List.filterMap_cons_none rfl]
    simp only [List.filterMap_cons, hline, List.filterMap_nil]
  refine ⟨hlevel, hlater, ?_, ?_, hothers _ (by decide)⟩
  · exact (hsinks .console (by decide)).trans
      (congrArg _ (hmessages .console _ (Sample.warned_written (.inl rfl))))
  · exact (hsinks (.file "new.log") (by decide)).trans
      (congrArg _ (hmessages (.file "new.log") _ (Sample.warned_written (.inr Sample.warned_held))))

/-- **Not every message is written** as it should be, even at the level of the last set-up. A level
that is not positive is never written; an empty correlation id is written like none; a message whose
arguments do not fit has no line; and a file cannot hold a line with a surrogate. -/
theorem last_setUp_loses :
    (Sample.setUp (-5) none).level.number ≤ Level.notSet.number ∧
    (Sample.journal.after "svc" [.setUp (Sample.setUp (-5) none),
      .log (Sample.message .notSet "m" [])]).output.lines .console = [] ∧
    (Sample.journal.after "svc" [.setUp (Sample.setUp 20 none), .correlate (some []),
      .log (Sample.message .info "m" [])]).output.lines .console
        = [(Sample.message .info "m" []).record.line "12:00" "svc"] ∧
    (Sample.journal.after "svc" [.setUp (Sample.setUp 20 none),
      .log (Sample.message .info "%d" [.text "x"])]).output.lines .console = [] ∧
    (Sample.journal.after "svc" [.setUp (Sample.setUp 20 (some "a.log")),
      .log Sample.unheld]).output.lines (.file "a.log") = [] := by
  refine ⟨by decide, rfl, rfl, rfl, ?_⟩
  -- what is written to a file is not computed: that it is held takes a proof
  have hlevel : (Sample.setUp 20 (some "a.log")).level ≠ .notSet := by decide
  have hlog := SetUp.lines_log hlevel "svc" Sample.journal.logger (Sample.unheld.under none) .empty
    (.file "a.log")
  have hnone : (Sample.unheld.under none).line? "svc" (Sample.setUp 20 (some "a.log")).level
      (.file "a.log") = none := Sample.unheld_line? _
  rw [hnone] at hlog
  simp only [after, List.foldl_cons, List.foldl_nil, act]
  exact hlog.trans (by split <;> rfl)

end Journal

end GraphPath
