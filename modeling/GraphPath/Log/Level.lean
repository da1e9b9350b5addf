import GraphPath.Fields
import GraphPath.Text.Blank

/-!
# Levels

How serious a record is: an integer, some of which have names. A level can be chosen by
number, by name or through the environment; a name that is none means the level `INFO`.

* `Level` — the levels, ordered by their numbers;
* `Level.name` — the name of a level;
* `Level.ofName?` — the level of a name, in capital or small letters;
* `Level.fromEnvironment` — the level that the environment asks for.
-/

namespace GraphPath

/-- **A level.** -/
structure Level where
  number : Int
deriving DecidableEq, Repr

namespace Level

/-- No level: records of any level are above it. -/
def notSet : Level := ⟨0⟩

/-- Details for the search for faults. -/
def debug : Level := ⟨10⟩

/-- The normal course of things. -/
def info : Level := ⟨20⟩

/-- Something unexpected. -/
def warning : Level := ⟨30⟩

/-- Something that failed. -/
def error : Level := ⟨40⟩

/-- The end of the program. -/
def critical : Level := ⟨50⟩

/-- The levels by name; two of them have a second name. -/
def named : List (Text × Level) :=
  [("CRITICAL", critical), ("FATAL", critical), ("ERROR", error), ("WARNING", warning),
    ("WARN", warning), ("INFO", info), ("DEBUG", debug), ("NOTSET", notSet)]

/-- **The name of a level.** A level without one is known by its number. -/
def name (level : Level) : Text :=
  match named.find? (·.2 = level) with
  | some (name, _) => name
  | none => "Level " ++ Text.ofInt level.number

/-- **The level of a name.** -/
def ofName? (name : Text) : Option Level := Fields.get? name.upper named

/-- **The choice of a level.** -/
inductive Choice where
  | number (n : Int)
  | name (t : Text)
  | environment
deriving DecidableEq, Repr

/-- The variable that holds the level of a service. -/
def variableOf (service : Text) : Text := service ++ "_LOG_LEVEL"

/-- The variables of this library start with these words. -/
def defaultService : Text := "CAYLEY_CLIENT"

/-- The level of a name, `INFO` if it is none. -/
def ofName (name : Text) : Level := (ofName? name).getD info

/-- **The level that the environment asks for**, `INFO` if it does not. -/
def fromEnvironment (environment : Fields Text) (service : Text) : Level :=
  ((Fields.get? (variableOf service) environment).map ofName).getD info

/-- **The level of a choice.** -/
def ofChoice (environment : Fields Text) : Choice → Level
  | .number n => ⟨n⟩
  | .name t => ofName t
  | .environment => fromEnvironment environment defaultService

end Level

end GraphPath
