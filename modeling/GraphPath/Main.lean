import GraphPath.Demo.Run
import GraphPath.Transport.Memory

/-!
# The command line

Runs the demo against a transport in memory: reads arguments, environment and settings
file, and prints what the command leaves.
-/

namespace GraphPath

namespace Main

/-- The names of the variables that the command looks at. -/
def observedNames : List String :=
  ["cayley_host", "CAYLEY_HOST", "cayley_port", "CAYLEY_PORT", "cayley_api_version",
    "CAYLEY_API_VERSION", "CAYLEY_CLIENT_LOG_LEVEL"]

/-- The variables that are set. -/
def readEnvironment : IO (Fields Text) := do
  let entries ← observedNames.mapM fun name => do
    return (← IO.getEnv name).map fun value => (Text.ofString name, Text.ofString value)
  return entries.filterMap id

/-- The settings file, if there is one that can be read. -/
def readFile : IO (Option Text) := do
  try return some (Text.ofString (← IO.FS.readFile ".env"))
  catch _ => return none

/-- Ids that differ from run to run: numbers that follow a random one, in hexadecimal
digits. -/
def makeIds : IO (Nat → Text) := do
  let bytes ← IO.getRandomBytes 16
  let seed := bytes.toList.foldl (fun n b => n * 256 + b.toNat) 0
  return fun n => Text.ofHex 32 ((seed + n) % twos 128)

/-- One notice on the console. -/
def printNotice (timestamp : Text) : Demo.Notice → IO Unit
  | .record r => IO.eprintln (r.line timestamp Logger.defaultService).toString
  | .text t => IO.eprint t.toString

/-- A fault of the settings on the console. -/
def printFault (fault : SettingsFault) : IO Unit :=
  IO.eprintln (fault.setting.name ++ ": " ++ fault.message).toString

end Main

end GraphPath

open GraphPath in
/-- Runs the demo. -/
def main (arguments : List String) : IO UInt32 := do
  let environment ← Main.readEnvironment
  let file ← Main.readFile
  let ids ← Main.makeIds
  match Demo.main (arguments.map Text.ofString) environment file Memory.empty ids with
  | .error faults => do
    faults.forM Main.printFault
    return 1
  | .ok report => do
    let timestamp := Text.ofNat (← IO.monoMsNow)
    report.notices.forM (Main.printNotice timestamp)
    IO.print report.output.toString
    return report.exitCode.toUInt32
