import GraphPath.Log.Record
import GraphPath.Text.Utf8

/-!
# Loggers

A logger has a name, a level and handlers; a handler writes the lines of records to the
console or to a file. Setting a logger up replaces its level and all of its handlers, so
the last set-up alone decides where records go.

A record is written if logging is on for its level, which must be positive and not below
that of the logger. A logger without a level of its own takes that of the root logger,
unless it is the root logger, which then lets every record pass.

Not every record has a line, and files cannot hold every line: their text is UTF-8, in which
surrogates have no form. Logging never fails for that; the console gets a report instead.

* `Logger` — a logger; `Handler`, `Sink` — where its records go;
* `Logger.setUp` — setting a logger up;
* `Logger.accepts` — whether a record of a level is written at all;
* `Handler.line`, `WriteFault` — the line of a record at a handler, or why there is none;
* `Output` — the lines that were written, and `Logger.log` for one more record.
-/

namespace GraphPath

/-- **Where lines go.** -/
inductive Sink where
  | console
  | file (path : Text)
deriving DecidableEq, Repr

/-- **A handler** writes the records of a level or above. -/
structure Handler where
  sink : Sink
  level : Level
  service : Text
deriving DecidableEq, Repr

/-- **A logger.** `propagates` says whether records also go to the root logger. -/
structure Logger where
  name : Text
  level : Level
  handlers : List Handler
  propagates : Bool
deriving DecidableEq, Repr

namespace Logger

/-- The name of the root logger, which is also that of a service without a name. -/
def rootName : Text := "root"

/-- The service of this library. -/
def defaultService : Text := "cayley-client"

/-- **The name of a logger of this library**: its service, or a part of it. -/
def nameOf (part : Option Text) : Text :=
  match part with
  | none | some [] => defaultService
  | some part => defaultService ++ "." ++ part

/-- The logger of a service before any set-up. -/
def ofService (service : Text) : Logger where
  name := if service.isEmpty then rootName else service
  level := .notSet
  handlers := []
  propagates := true

/-- The handlers of a set-up: the console, and a file if one is named. -/
def handlersOf (service : Text) (file : Option Text) (level : Level) : List Handler :=
  -- the console lets pass what the logger lets pass, and the file only the level
  ⟨.console, .notSet, service⟩ ::
    match file with
    | none | some [] => []
    | some path => [⟨.file path, level, service⟩]

/-- **Setting a logger up** for a service: its level and its handlers are replaced, and
its records stay with it. -/
def setUp (logger : Logger) (service : Text) (file : Option Text) (level : Level) : Logger :=
  { logger with level := level, handlers := handlersOf service file level, propagates := false }

/-- The level at which a logger begins to write. -/
def effectiveLevel (logger : Logger) : Level :=
  -- the root logger is at warnings, unless it is this one
  if logger.level = .notSet ∧ logger.name ≠ rootName then .warning else logger.level

/-- **Whether records of a level are written.** -/
def accepts (logger : Logger) (level : Level) : Bool :=
  0 < level.number && logger.effectiveLevel.number ≤ level.number

end Logger

/-! ### Output -/

/-- **Why a record has no line** at a handler: it cannot be formatted, or the file cannot hold
its line. -/
inductive WriteFault where
  | format (fault : Template.Fault)
  | encoding (fault : Utf8.EncodeFault)
deriving DecidableEq, Repr

/-- **What was written**: lines on the console, lines in files by their paths, and reports of
records without a line, which the console shows as well. -/
structure Output where
  console : List Text
  files : Fields (List Text)
  reports : List WriteFault

namespace Output

/-- Nothing. -/
def empty : Output := ⟨[], [], []⟩

/-- The lines of a sink, in order. -/
def lines (output : Output) : Sink → List Text
  | .console => output.console
  | .file path => (Fields.get? path output.files).getD []

/-- One more line on a sink. -/
def write (output : Output) (sink : Sink) (line : Text) : Output :=
  match sink with
  | .console => { output with console := output.console ++ [line] }
  | .file path =>
    { output with files := Fields.set path (output.lines (.file path) ++ [line]) output.files }

/-- One more report. -/
def report (output : Output) (fault : WriteFault) : Output :=
  { output with reports := output.reports ++ [fault] }

end Output

/-- A line as a sink holds it. The console holds any line. -/
def Sink.hold (line : Text) : Sink → Except WriteFault Text
  | .console => .ok line
  | .file _ =>
    match Utf8.encode line with
    | .ok _ => .ok line
    | .error fault => .error (.encoding fault)

/-- **The line of a record at a handler**, which tags it first, with the time at which its sink
writes. -/
def Handler.line (handler : Handler) (clock : Sink → Text) (record : LogRecord)
    (arguments : List Value) : Except WriteFault Text :=
  match record.tagged.format arguments (clock handler.sink) handler.service with
  | .ok line => handler.sink.hold line
  | .error fault => .error (.format fault)

/-- One record through a handler, if it is serious enough. -/
def Handler.handle (handler : Handler) (clock : Sink → Text) (record : LogRecord)
    (arguments : List Value) (output : Output) : Output :=
  if handler.level.number ≤ record.level.number then
    match handler.line clock record arguments with
    | .ok line => output.write handler.sink line
    | .error fault => output.report fault
  else output

namespace Logger

/-- **Logging a record** whose message is a template for some arguments, through every handler
of a logger. -/
def log (logger : Logger) (clock : Sink → Text) (record : LogRecord) (arguments : List Value)
    (output : Output) : Output :=
  if logger.accepts record.level then
    logger.handlers.foldl (fun output handler => handler.handle clock record arguments output)
      output
  else output

/-- Logging a record with its message as it is, at one time on every sink. -/
def write (logger : Logger) (timestamp : Text) (record : LogRecord) (output : Output) : Output :=
  logger.log (fun _ => timestamp) record [] output

end Logger

end GraphPath
