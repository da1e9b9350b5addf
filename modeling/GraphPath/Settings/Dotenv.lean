import GraphPath.Fields
import GraphPath.Text.Blank

/-!
# Settings files

A settings file has one binding per line, `NAME = value`, perhaps with `export` in front.
A value is bare, in single quotes or in double quotes; quoted values can run over several
lines and have escapes. A bare value ends where a blank and a `#` begin a remark, and
blanks around it do not count. What is none of this is passed over, from the place where
it stops being a binding to the end of that line. A reference `${NAME}` or
`${NAME:-default}` in a value stands for a variable.

* `Dotenv.bindings` — the bindings of a file, in order; a name alone has no value;
* `Dotenv.resolve` — references replaced by variables, bindings further up going before
  the environment;
* `Dotenv.read` — both: the variables of a file.
-/

namespace GraphPath

namespace Dotenv

/-! ### Lines -/

/-- A text with each end of a line written as a line feed. -/
def unifyLines : Text → Text
  | .char '\r' :: .char '\n' :: rest => .char '\n' :: unifyLines rest
  | .char '\r' :: rest => .char '\n' :: unifyLines rest
  | c :: rest => c :: unifyLines rest
  | [] => []

/-- A file without the byte order mark that may stand in front of it. -/
def withoutMark : Text → Text
  | .char '\uFEFF' :: rest => rest
  | t => t

/-- A text behind leading code points of a class. -/
def skip (isBlank : CodePoint → Bool) (t : Text) : Text := t.dropWhile isBlank

/-- The first line of a text, and what is left from its end on. -/
def line (t : Text) : Text × Text := t.span (· ≠ .char '\n')

/-- A text behind the rest of its first line. -/
def nextLine (t : Text) : Text := (line t).2.drop 1

/-! ### Bindings -/

/-- **The outcome of reading a part of a binding.** A failure tells the text from the place
on where it is no binding. -/
abbrev Outcome := Except Text

/-- A text behind the end of a line, with nothing but blanks and a remark before it. -/
def lineEnd (t : Text) : Outcome Text :=
  let behind := skip CodePoint.isLineSpacing t
  let behind := if behind.head? = some (.char '#') then (line behind).2 else behind
  match behind with
  | [] => .ok []
  | .char '\n' :: rest => .ok rest
  | _ => .error t

/-- What a letter behind a backslash stands for between double quotes. -/
def control? (c : CodePoint) : Option CodePoint :=
  if c = .char '\\' ∨ c = .char '\'' ∨ c = .char '"' then some c
  else if c = .char 'a' then some (.char '\x07')
  else if c = .char 'b' then some (.char '\x08')
  else if c = .char 'f' then some (.char '\x0c')
  else if c = .char 'n' then some (.char '\n')
  else if c = .char 'r' then some (.char '\r')
  else if c = .char 't' then some (.char '\t')
  else if c = .char 'v' then some (.char '\x0b')
  else none

/-- Between single quotes only the backslash and the single quote can be escaped. -/
def literal? (c : CodePoint) : Option CodePoint :=
  if c = .char '\\' ∨ c = .char '\'' then some c else none

/-- What a backslash and the code point behind it stand for: themselves, if they are no
escape. -/
def escape (escape? : CodePoint → Option CodePoint) (c : CodePoint) : Text :=
  match escape? c with
  | some d => [d]
  | none => [.char '\\', c]

/-- A quoted text from behind its opening quote, and the rest behind its closing one. The
code point behind a backslash does not close it. -/
def quoted? (mark : CodePoint) (escape? : CodePoint → Option CodePoint) :
    Text → Option (Text × Text)
  | [] => none
  | .char '\\' :: c :: rest => do
    let (value, rest) ← quoted? mark escape? rest
    some (escape escape? c ++ value, rest)
  | c :: rest =>
    if c = mark then some ([], rest)
    else do
      let (value, rest) ← quoted? mark escape? rest
      some (c :: value, rest)

/-- A line up to a remark, a run of blanks with a `#` behind it. Blanks at the end do not
count. -/
def withoutRemark (blanks : Text) : Text → Text
  | [] => []
  | c :: rest =>
    -- blanks are kept back until it is known what stands behind them
    if c.isSpacing then withoutRemark (blanks ++ [c]) rest
    else if c = .char '#' ∧ blanks ≠ [] then []
    else blanks ++ c :: withoutRemark [] rest

/-- A bare value, from behind the equals sign: blanks there are part of the line, so that a
remark can follow them, but not of the value. -/
def bare (t : Text) : Text × Text :=
  let (value, rest) := line t
  (skip CodePoint.isSpacing (withoutRemark [] value), rest)

/-- The value of a binding, from behind the equals sign, and the rest. -/
def value (t : Text) : Outcome (Text × Text) :=
  let closed (quoted : Option (Text × Text)) : Outcome (Text × Text) :=
    match quoted with
    | some taken => .ok taken
    | none => .error t
  match skip CodePoint.isLineSpacing t with
  | .char '\'' :: rest => closed (quoted? (.char '\'') literal? rest)
  | .char '"' :: rest => closed (quoted? (.char '"') control? rest)
  | _ => .ok (bare t)

/-- The name of a binding, in single quotes or up to a blank, a `#` or an equals sign, and
the rest. -/
def name (t : Text) : Outcome (Text × Text) :=
  let (name, rest) : Text × Text := match t with
    | .char '\'' :: rest =>
      let (name, rest) := rest.span (· ≠ .char '\'')
      if rest.isEmpty then ([], rest) else (name, rest.drop 1)
    | _ => t.span fun c => !c.isSpacing && c != .char '#' && c != .char '='
  if name.isEmpty then .error t else .ok (name, rest)

/-- A text behind the word `export` and the blanks that must follow it. -/
def skipExport (t : Text) : Text :=
  if (Text.ofString "export").isPrefixOf t then
    let rest := t.drop 6
    if (rest.head?.map CodePoint.isLineSpacing).getD false then
      skip CodePoint.isLineSpacing rest
    else t
  else t

/-- **A binding** at the front of a text, a name and a value if an equals sign follows; and
the rest. -/
def binding (t : Text) : Outcome ((Text × Option Text) × Text) := do
  let (name, rest) ← name (skipExport t)
  match skip CodePoint.isLineSpacing rest with
  | .char '=' :: rest =>
    let (value, rest) ← value rest
    .ok ((name, some value), ← lineEnd rest)
  | rest => .ok ((name, none), ← lineEnd rest)

/-- The bindings of a text, at most so many lines of it. -/
def bindingsOf : Nat → Text → List (Text × Option Text)
  | 0, _ => []
  | fuel + 1, t =>
    match skip CodePoint.isSpacing t with
    | [] => []
    | t =>
      match binding t with
      | .ok (binding, rest) => binding :: bindingsOf fuel rest
      -- the rest of the line is passed over, from where it went wrong
      | .error rest => bindingsOf fuel (nextLine rest)

/-- **The bindings of a file.** Every line takes a code point, so the length is enough. -/
def bindings (file : Text) : List (Text × Option Text) :=
  let t := unifyLines (withoutMark file)
  bindingsOf t.length t

/-! ### References -/

/-- A reference behind `${`: its name, its default, and the rest. -/
def reference? (t : Text) : Option (Text × Text × Text) :=
  let (name, rest) := t.span fun c => c != .char '\x7d' && c != .char ':'
  match rest with
  | .char '\x7d' :: rest => some (name, [], rest)
  | .char ':' :: .char '-' :: rest =>
    -- a default ends at the first closing brace
    let (default, rest) := rest.span (· != .char '\x7d')
    if rest.isEmpty then none else some (name, default, rest.drop 1)
  | _ => none

/-- A value with its references replaced, at most so many pieces of it. -/
def expand (lookup : Text → Option Text) : Nat → Text → Text
  | 0, t => t
  | _, [] => []
  | fuel + 1, .char '$' :: .char '\x7b' :: rest =>
    match reference? rest with
    | some (name, default, rest) => (lookup name).getD default ++ expand lookup fuel rest
    | none => .char '$' :: expand lookup fuel (.char '\x7b' :: rest)
  | fuel + 1, c :: rest => c :: expand lookup fuel rest

/-- **Resolving references.** Each value sees the bindings before it, and then the
environment; a name without a value counts as empty. -/
def resolve (environment : Fields Text) (known : Fields (Option Text)) :
    List (Text × Option Text) → Fields (Option Text)
  | [] => known
  | (name, value) :: rest =>
    let lookup (reference : Text) : Option Text :=
      match Fields.get? reference known with
      -- a name that is bound without a value hides the environment
      | some bound => some (bound.getD [])
      | none => Fields.get? reference environment
    let value := value.map fun t => expand lookup t.length t
    resolve environment (Fields.set name value known) rest

/-- **The variables of a file**, references replaced. A repeated name keeps its first place
and its last value, and a name alone is a variable without a value. -/
def read (environment : Fields Text) (file : Text) : Fields (Option Text) :=
  resolve environment [] (bindings file)

end Dotenv

end GraphPath
