import GraphPath.Client
import GraphPath.Demo.Arguments
import GraphPath.Log.Logger
import GraphPath.Settings.Basic

/-!
# The demo

Seven queries about films. Each is shown by its title and its program, and then, unless
the run is dry, by the number of nodes that it finds and the ids of the first of them. The
first query that fails ends the run.

* `Demo.queries`, `Demo.filmToActor` — the queries, and the morphism that one of them uses;
* `Demo.run` — the queries through a client;
* `Demo.main` — the whole command: arguments, settings, logging and run.
-/

namespace GraphPath

namespace Demo

/-! ### Queries -/

/-- The predicate that leads to the name of a node. -/
def namePredicate : Name := ⟨"name", by decide⟩

/-- The predicate that leads from a film to its roles. -/
def starring : Name := ⟨"/film/film/starring", by decide⟩

/-- The predicate that leads from a role to its actor. -/
def actor : Name := ⟨"/film/performance/actor", by decide⟩

/-- The name of a film. -/
def casablanca : Name := ⟨"Casablanca", by decide⟩

/-- The name of an actor. -/
def bogart : Name := ⟨"Humphrey Bogart", by decide⟩

/-- Going along a predicate. -/
def outStep (predicate : Name) : Step := ⟨.out, [.selector (.predicate predicate), .null]⟩

/-- Going against a predicate. -/
def inStep (predicate : Name) : Step := ⟨.inn, [.selector (.predicate predicate), .null]⟩

/-- Keeping what is named after the film. -/
def namedCasablanca : Step :=
  ⟨.has, [.selector (.predicate namePredicate), .selector (.nodes (.one casablanca))]⟩

/-- **The way from a film to its actors.** -/
def filmToActor : Morphism :=
  ⟨some ⟨"filmToActor", by decide⟩, [outStep starring, outStep actor]⟩

/-- Following the way from a film to its actors. -/
def followFilmToActor : Step := ⟨.follow, [.morphismRef ⟨.text "filmToActor", none⟩]⟩

/-- **The queries** with their titles, in order. -/
def queries : List (Text × Query) :=
  [("Any five nodes", ⟨⟨.any, []⟩, .getLimit (.int 5)⟩),
    ("Humphrey Bogart", ⟨⟨.one bogart, []⟩, .all⟩),
    ("Named Humphrey Bogart", ⟨⟨.one bogart, [inStep namePredicate]⟩, .all⟩),
    ("Named Casablanca", ⟨⟨.one casablanca, [inStep namePredicate]⟩, .all⟩),
    ("Has name Casablanca", ⟨⟨.any, [namedCasablanca]⟩, .all⟩),
    ("Casablanca actors",
      ⟨⟨.any, [namedCasablanca, outStep starring, outStep actor, outStep namePredicate]⟩, .all⟩),
    ("Casablanca actors via morphism",
      ⟨⟨.any, [namedCasablanca, followFilmToActor, outStep namePredicate]⟩, .all⟩)]

/-! ### The run -/

/-- How many ids are shown. -/
def shownIds : Nat := 10

/-- The ids of the first rows in brackets. -/
def idsText (rows : Rows) : Text :=
  let ids := (rows.ids.take shownIds).map fun
    | some id => id.quoted
    | none => "None"
  "[" ++ Text.join ", " ids ++ "]"

/-- What is shown of the rows of a query. -/
def rowsText (rows : Rows) : Text :=
  Text.ofNat rows.size ++ " node(s): " ++ idsText rows ++ "\n"

/-- **The end of a run**: what was printed, the fault that ended it, and the client. -/
structure Ending (σ : Type) where
  output : Text
  fault : Option ClientFault
  client : Client σ

/-- An ending with more in front of its output. -/
def Ending.after {σ : Type} (ending : Ending σ) (front : Text) : Ending σ :=
  { ending with output := front ++ ending.output }

section Run

variable {σ : Type} [Transport σ]

/-- Queries through a client until one of them fails. -/
def runQueries (dryRun : Bool) : List (Text × Query) → Client σ → Ending σ
  | [], client => ⟨[], none, client⟩
  | (title, query) :: rest, client =>
    let header := "\n--- " ++ title ++ " ---\n"
    match client.toGremlin (.query query) with
    | (.error fault, client) => ⟨header, some fault, client⟩
    | (.ok program, client) =>
      let front := header ++ program ++ "\n"
      -- a dry run sends nothing
      if dryRun then (runQueries dryRun rest client).after front
      else match client.find (.query query) with
        | (.error fault, client) => ⟨front, some fault, client⟩
        | (.ok rows, client) => (runQueries dryRun rest client).after (front ++ rowsText rows)

/-- **The run**: the morphism is saved, the queries go through, and the client is closed
however they end. -/
def run (dryRun : Bool) (client : Client σ) : Ending σ :=
  -- the command starts with a client of its own, so saving the morphism cannot fail there
  let client := (client.save (.morphism filmToActor)).2
  let ending := runQueries dryRun queries client
  { ending with client := ending.client.close }

end Run

/-! ### The command -/

/-- **What appears on the console** besides the output: a record or plain text. -/
inductive Notice where
  | record (r : LogRecord)
  | text (t : Text)

/-- **What the command leaves**: its exit code, output and notices, and the settings and
the transport of the client, if it came to that. -/
structure Report (σ : Type) where
  exitCode : Nat
  output : Text
  notices : List Notice
  settings : Option Settings
  transport : σ

/-- The logger of the command. -/
def logger (environment : Fields Text) : Logger :=
  (Logger.ofService Logger.defaultService).setUp Logger.defaultService none
    (Level.ofChoice environment .environment)

/-- The line for a fault that ended the run. -/
def faultNotice : Option ClientFault → List Notice
  | some fault => [.text ("FAILED: " ++ fault.message ++ "\n")]
  | none => []

/-- The report of a run with settings. -/
def reportOf {σ : Type} [Transport σ] (environment : Fields Text) (settings : Settings)
    (dryRun : Bool) (client : Client σ) : Report σ :=
  let ending := run dryRun client
  let records := ending.client.log.filter fun r => (logger environment).accepts r.level
  ⟨if ending.fault.isSome then 1 else 0, ending.output,
    records.map .record ++ faultNotice ending.fault, some settings, ending.client.transport⟩

/-- **The command.** Faults of the settings are for the caller to show. -/
def main {σ : Type} [Transport σ] (line : List Text) (environment : Fields Text)
    (file : Option Text) (transport : σ) (freshId : Nat → Text) :
    Except (List SettingsFault) (Report σ) :=
  match Arguments.parse line with
  | .error .help => .ok ⟨0, Arguments.help, [], none, transport⟩
  | .error (.refused fault) =>
    .ok ⟨2, [], [.text (Arguments.complaint fault)], none, transport⟩
  | .ok arguments => do
    let settings ← Settings.load ⟨arguments.overrides, environment, file⟩
    .ok (reportOf environment settings arguments.dryRun (Client.ofTransport transport freshId))

end Demo

end GraphPath
