import GraphPath.Decimal.Digit
import GraphPath.Json.Value
import GraphPath.Text.Quoted

/-!
# Arguments of the demo

Options have long names that may be shortened as long as they stay unique, and values
behind an equals sign or in the next argument. A negative number and anything with a blank
in it is no option, and neither is what stands behind `--`; nothing but options is wanted.

* `Arguments` — what the options say;
* `Arguments.parse` — the options of a command line, or a `Stop`: a call for help, or a
  fault;
* `Arguments.usage`, `Arguments.help` — the texts for the reader.
-/

namespace GraphPath

namespace Demo

/-- **An option.** -/
inductive Flag where
  | help
  | host
  | port
  | dryRun
deriving DecidableEq, Repr

namespace Flag

/-- The spellings of the options, in the order in which they are listed. -/
def spellings : List (Text × Flag) :=
  [("-h", .help), ("--help", .help), ("--host", .host), ("--port", .port),
    ("--dry-run", .dryRun)]

/-- An option as messages name it: all of its spellings. -/
def title (flag : Flag) : Text :=
  Text.join "/" ((spellings.filter (·.2 = flag)).map (·.1))

end Flag

/-- **Why a command line is refused.** -/
inductive ArgumentFault where
  | ambiguous (given : Text) (candidates : List Text)
  | valueMissing (flag : Flag)
  | valueUnwanted (flag : Flag) (value : Text)
  | notAnInteger (flag : Flag) (value : Text)
  | unrecognized (arguments : List Text)
deriving DecidableEq, Repr

/-- The wording of a fault. -/
def ArgumentFault.message : ArgumentFault → Text
  | .ambiguous given candidates =>
    "ambiguous option: " ++ given ++ " could match " ++ Text.join ", " candidates
  | .valueMissing flag => "argument " ++ flag.title ++ ": expected one argument"
  | .valueUnwanted flag value =>
    "argument " ++ flag.title ++ ": ignored explicit argument " ++ value.quoted
  | .notAnInteger flag value =>
    "argument " ++ flag.title ++ ": invalid int value: " ++ value.quoted
  | .unrecognized arguments => "unrecognized arguments: " ++ Text.join " " arguments

/-- **Why a command line does not run**: it asks for help, or is refused. -/
inductive Stop where
  | help
  | refused (fault : ArgumentFault)
deriving DecidableEq, Repr

/-! ### Reading arguments one by one -/

/-- **What is attached to an option** within the same argument: nothing, a value behind an
equals sign, or letters behind the short spelling. -/
inductive Attached where
  | nothing
  | value (t : Text)
  | letters (t : Text)
deriving DecidableEq, Repr

/-- **What an argument is**: a word, an option with its spelling and what is attached to it,
or an option that is not known. -/
inductive Piece where
  | word (t : Text)
  | flag (flag : Flag) (spelling : Text) (attached : Attached)
  | unknown (t : Text)
deriving DecidableEq, Repr

/-- The option of an exact spelling. -/
def flag? (t : Text) : Option Flag := (Flag.spellings.find? (·.1 = t)).map (·.2)

/-- An argument before its first equals sign, and what is behind the sign. -/
def splitValue (t : Text) : Text × Attached :=
  match t.span (· != .char '=') with
  | (name, _ :: value) => (name, .value value)
  | (name, []) => (name, .nothing)

/-- The options that an argument may mean: a long one by the start of its name, or the
short one with something attached. -/
def candidates (t : Text) : List Piece :=
  match t with
  | .char '-' :: .char '-' :: _ =>
    let (name, attached) := splitValue t
    (Flag.spellings.filter fun entry => name.isPrefixOf entry.1).map fun (spelling, flag) =>
      .flag flag spelling attached
  | _ =>
    (Flag.spellings.filter (·.1 = t.take 2)).map fun (spelling, flag) =>
      .flag flag spelling (.letters (t.drop 2))

/-- Digits, at least one of them. -/
def isDigits (t : Text) : Bool := !t.isEmpty && t.all fun c => c.decimal?.isSome

/-- **A negative number**: digits behind a minus sign, perhaps with a point before the last
run of them. -/
def isNegativeNumber (t : Text) : Bool :=
  match t with
  | .char '-' :: rest =>
    isDigits rest ||
      match rest.dropWhile fun c => c.decimal?.isSome with
      | .char '.' :: digits => isDigits digits
      | _ => false
  | _ => false

/-- An argument that matches no option. -/
def pieceOfStranger (t : Text) : Piece :=
  if isNegativeNumber t ∨ t.contains (.char ' ') then .word t else .unknown t

/-- The piece for an argument with a minus sign in front that is no exact spelling. -/
def pieceOfCandidates (t : Text) : Except Stop Piece :=
  match candidates t with
  | [] => .ok (pieceOfStranger t)
  | [piece] => .ok piece
  | pieces => .error (.refused (.ambiguous t (pieces.filterMap fun
      | .flag _ spelling _ => some spelling
      | _ => none)))

/-- **The piece for an argument.** -/
def pieceOf (t : Text) : Except Stop Piece :=
  if t.head? ≠ some (.char '-') ∨ t.length = 1 then .ok (.word t)
  else match flag? t with
    -- an exact spelling is that option, even if others begin with it
    | some flag => .ok (.flag flag t .nothing)
    | none => match splitValue t with
      | (name, .value value) => match flag? name with
        | some flag => .ok (.flag flag name (.value value))
        | none => pieceOfCandidates t
      | _ => pieceOfCandidates t

/-- The separator behind which nothing is an option. -/
def separator : Text := "--"

/-- The pieces for all arguments. The separator counts as no option. -/
def piecesOf : List Text → Except Stop (List Piece)
  | [] => .ok []
  | t :: rest => do
    -- what stands behind the separator is taken as words
    if t = separator then .ok (.unknown t :: rest.map .word)
    else
      let piece ← pieceOf t
      .ok (piece :: (← piecesOf rest))

/-! ### Options in order -/

/-- **What the options say.** -/
structure Arguments where
  host : Option Text
  port : Option Int
  dryRun : Bool
deriving DecidableEq, Repr

namespace Arguments

/-- What is meant if nothing is said. -/
def default : Arguments := ⟨none, none, false⟩

/-- The option with a value. -/
def withValue (arguments : Arguments) (flag : Flag) (value : Text) : Except Stop Arguments :=
  match flag with
  | .host => .ok { arguments with host := some value }
  | .port =>
    match value.toInt? with
    | some n => .ok { arguments with port := some n }
    | none => .error (.refused (.notAnInteger .port value))
  | flag => .error (.refused (.valueUnwanted flag value))

/-- **Letters behind the short option for help.** Each `h` asks for help again, and any
other letter is passed over with what is behind it; a value, even an empty one, is
refused, and so is a minus sign. -/
def helpWith : Text → Stop
  | [] => .refused (.valueUnwanted .help [])
  | [.char 'h'] => .help
  | .char 'h' :: .char '=' :: value => .refused (.valueUnwanted .help value)
  | .char 'h' :: rest => helpWith rest
  | .char '-' :: rest => .refused (.valueUnwanted .help (.char '-' :: rest))
  | _ => .help

/-- **The options of pieces**, in order, and the pieces that are none. -/
def ofPieces (arguments : Arguments) (strangers : List Text) :
    List Piece → Except Stop Arguments
  | [] =>
    if strangers.isEmpty then .ok arguments
    else .error (.refused (.unrecognized strangers.reverse))
  | .word t :: rest | .unknown t :: rest => ofPieces arguments (t :: strangers) rest
  -- help ends the reading, whatever else is wrong behind it
  | .flag .help _ attached :: _ =>
    match attached with
    | .nothing => .error .help
    | .value value => .error (.refused (.valueUnwanted .help value))
    | .letters letters => .error (helpWith letters)
  | .flag .dryRun _ attached :: rest =>
    match attached with
    | .nothing => ofPieces { arguments with dryRun := true } strangers rest
    | .value value | .letters value => .error (.refused (.valueUnwanted .dryRun value))
  | .flag flag _ .nothing :: .word value :: rest => do
    ofPieces (← arguments.withValue flag value) strangers rest
  | .flag flag _ .nothing :: _ => .error (.refused (.valueMissing flag))
  | .flag flag _ (.value value) :: rest | .flag flag _ (.letters value) :: rest => do
    ofPieces (← arguments.withValue flag value) strangers rest

/-- **The options of a command line.** -/
def parse (line : List Text) : Except Stop Arguments := do
  ofPieces default [] (← piecesOf line)

/-- The settings that the options override: a host that is not empty, and a port that is not
zero. -/
def overrides (arguments : Arguments) : List (Text × Json) :=
  let host : List (Text × Json) := match arguments.host with
    | some (c :: rest) => [("cayley_host", .text (c :: rest))]
    | _ => []
  let port : List (Text × Json) := match arguments.port with
    -- zero counts as not given
    | some n => if n = 0 then [] else [("cayley_port", .int n)]
    | none => []
  host ++ port

/-! ### Texts -/

/-- The name of the command. -/
def program : Text := "demo_movie_queries.py"

/-- How to call the command. -/
def usage : Text :=
  "usage: " ++ program ++ " [-h] [--host HOST] [--port PORT] [--dry-run]\n"

/-- What the command does and what its options mean. -/
def help : Text :=
  usage ++ "\nRun example path queries against a Cayley server\n\noptions:\n"
    ++ "  -h, --help   show this help message and exit\n"
    ++ "  --host HOST  Cayley host (default: from settings)\n"
    ++ "  --port PORT  Cayley port (default: from settings)\n"
    ++ "  --dry-run    Only print the compiled Gremlin programs\n"

/-- The complaint about a command line. -/
def complaint (fault : ArgumentFault) : Text :=
  usage ++ program ++ ": error: " ++ fault.message ++ "\n"

end Arguments

end Demo

end GraphPath
