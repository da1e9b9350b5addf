import GraphPath.Json.Value

/-!
# Reading JSON

A reader that names the first thing wrong with a text and the place where it is wrong.
It works on the text itself and hands back the rest behind what it has read; a place is
the number of code points from there to the end, which needs no counter on the way.

The grammar is the usual one, with `NaN`, `Infinity` and `-Infinity` as further numbers.
Blanks are the space, tab, line feed and carriage return. A number takes the longest
prefix that is one. Integers of more than `4300` digits are refused.

* `Json.ReadFault` — what is wrong, and where;
* `Json.readValue` — a value at the front of a text, and the rest;
* `Json.readRaw` — the value of a whole text, repeated names and all;
* `Json.read` — the same with one field per name;
* `Json.readUnmarked` — the same for a text that may not start with a byte order mark;
* `Json.ReadFault.message` — the fault with its line, column and position.
-/

namespace GraphPath

namespace Json

/-- **What is wrong with a text.** -/
inductive Malformation where
  | expectingValue
  | extraData
  | expectingName
  | expectingColon
  | expectingComma
  | unterminatedString
  | controlCharacter
  | invalidEscape
  | invalidUnicodeEscape
  | byteOrderMark
deriving DecidableEq, Repr

/-- The wording of a malformation. -/
def Malformation.message : Malformation → Text
  | .expectingValue => "Expecting value"
  | .extraData => "Extra data"
  | .expectingName => "Expecting property name enclosed in double quotes"
  | .expectingColon => "Expecting ':' delimiter"
  | .expectingComma => "Expecting ',' delimiter"
  | .unterminatedString => "Unterminated string starting at"
  | .controlCharacter => "Invalid control character at"
  | .invalidEscape => "Invalid \\escape"
  | .invalidUnicodeEscape => "Invalid \\uXXXX escape"
  | .byteOrderMark => "Unexpected UTF-8 BOM (decode using utf-8-sig)"

/-- **Why a text is not read**: it is malformed `left` code points before its end, or an
integer in it has too many digits. -/
inductive ReadFault where
  | malformed (what : Malformation) (left : Nat)
  | tooManyDigits (count : Nat)
deriving DecidableEq, Repr

/-- The outcome of reading something at the front of a text: it and the rest. -/
abbrev Reading (α : Type) := Except ReadFault (α × Text)

/-- The blanks of JSON. -/
def isBlank (c : CodePoint) : Bool :=
  c = .char ' ' || c = .char '\t' || c = .char '\n' || c = .char '\r'

/-- A text behind its leading blanks. -/
def skipBlanks (t : Text) : Text := t.dropWhile isBlank

/-! ### Strings -/

/-- The worth of a decimal digit. -/
def digit? : CodePoint → Option Nat
  | .char c => if '0' ≤ c ∧ c ≤ '9' then some (c.toNat - 48) else none
  | .surrogate _ => none

/-- Whether a code point is a decimal digit. -/
def isDigit (c : CodePoint) : Bool := (digit? c).isSome

/-- The worth of a hexadecimal digit of either case. -/
def hexDigit? : CodePoint → Option Nat
  | .char c =>
    if '0' ≤ c ∧ c ≤ '9' then some (c.toNat - 48)
    else if 'a' ≤ c ∧ c ≤ 'f' then some (c.toNat - 87)
    else if 'A' ≤ c ∧ c ≤ 'F' then some (c.toNat - 55)
    else none
  | .surrogate _ => none

/-- What a letter after a backslash stands for. -/
def escaped? (c : CodePoint) : Option CodePoint :=
  if c = .char '"' then some (.char '"')
  else if c = .char '\\' then some (.char '\\')
  else if c = .char '/' then some (.char '/')
  else if c = .char 'b' then some (.char '\x08')
  else if c = .char 'f' then some (.char '\x0c')
  else if c = .char 'n' then some (.char '\n')
  else if c = .char 'r' then some (.char '\r')
  else if c = .char 't' then some (.char '\t')
  else none

/-- **A piece of a string**: a code point, or the 16-bit unit of a numeric escape. -/
inductive Piece where
  | point (c : CodePoint)
  | unit (n : Nat)
deriving DecidableEq, Repr

/-- Pieces as a text: two units that are a surrogate pair become one code point, every
other unit stands for itself. -/
def joinPieces : List Piece → Text
  | [] => []
  | .point c :: rest => c :: joinPieces rest
  | [.unit n] => (CodePoint.ofNat? n).toList
  | .unit n :: .point c :: rest => (CodePoint.ofNat? n).toList ++ c :: joinPieces rest
  -- the second unit may itself begin a pair, so it goes back in front of the rest
  | .unit n :: .unit m :: rest =>
    match CodePoint.ofPair? n m with
    | some c => c :: joinPieces rest
    | none => (CodePoint.ofNat? n).toList ++ joinPieces (.unit m :: rest)

/-- Where a string reader stands: between pieces, behind a backslash, or inside a numeric
escape whose `u` stood `left` code points before the end, with `count` digits read. -/
inductive StringState where
  | between
  | behindBackslash
  | inEscape (left count value : Nat)

/-- Puts a piece before the pieces that are read next. -/
def Reading.cons {α : Type} (a : α) : Reading (List α) → Reading (List α)
  | .ok (as, rest) => .ok (a :: as, rest)
  | .error fault => .error fault

/-- The pieces of a string up to its closing quote; `opening` is the place of the opening
quote. A numeric escape at the very end of the text is itself broken. -/
def readPieces (opening : Nat) : StringState → Text → Reading (List Piece)
  | .between, [] | .behindBackslash, [] => .error (.malformed .unterminatedString opening)
  | .inEscape left _ _, [] => .error (.malformed .invalidUnicodeEscape left)
  | .between, c :: rest =>
    if c = .char '"' then .ok ([], rest)
    else if c = .char '\\' then readPieces opening .behindBackslash rest
    else if c.toNat < 0x20 then .error (.malformed .controlCharacter (rest.length + 1))
    else .cons (.point c) (readPieces opening .between rest)
  | .behindBackslash, c :: rest =>
    if c = .char 'u' then readPieces opening (.inEscape (rest.length + 1) 0 0) rest
    else match escaped? c with
      | some c => .cons (.point c) (readPieces opening .between rest)
      | none => .error (.malformed .invalidEscape (rest.length + 2))
  | .inEscape left count value, c :: rest =>
    match hexDigit? c with
    | none => .error (.malformed .invalidUnicodeEscape left)
    | some d =>
      if count < 3 then readPieces opening (.inEscape left (count + 1) (value * 16 + d)) rest
      -- the fourth digit must have something behind it, or the escape counts as cut off
      else if rest.isEmpty then .error (.malformed .invalidUnicodeEscape left)
      else .cons (.unit (value * 16 + d)) (readPieces opening .between rest)

/-- **A string**, from behind its opening quote. -/
def readString (t : Text) : Reading Text :=
  match readPieces (t.length + 1) .between t with
  | .ok (pieces, rest) => .ok (joinPieces pieces, rest)
  | .error fault => .error fault

/-! ### Numbers -/

/-- The number that digits stand for. -/
def ofDigits (digits : Text) : Nat :=
  digits.foldl (fun n c => n * 10 + (digit? c).getD 0) 0

/-- The digits of the integer part, a leading zero standing alone, and the rest. -/
def wholePart : Text → Text × Text
  | .char '0' :: rest => ([.char '0'], rest)
  | t => t.span isDigit

/-- The digits behind a point, if there is a point with a digit behind it, and the rest. -/
def fractionPart : Text → Text × Text
  | .char '.' :: rest =>
    match rest.span isDigit with
    -- a point without a digit behind it belongs to the rest
    | ([], _) => ([], .char '.' :: rest)
    | (digits, rest) => (digits, rest)
  | t => ([], t)

/-- A sign, if there is one: whether it is a minus, and the rest. -/
def signPart : Text → Bool × Text
  | .char '-' :: rest => (true, rest)
  | .char '+' :: rest => (false, rest)
  | t => (false, t)

/-- The exponent, if there is a letter for one with a digit behind it and its sign, and
the rest. -/
def exponentPart (t : Text) : Option Int × Text :=
  match t with
  | [] => (none, t)
  | c :: rest =>
    if c = .char 'e' ∨ c = .char 'E' then
      let (negative, digits) := signPart rest
      match digits.span isDigit with
      | ([], _) => (none, t)
      | (digits, rest) =>
        (some (if negative then -(ofDigits digits : Int) else ofDigits digits), rest)
    else (none, t)

/-- **A number** at the front of a text that starts with no other value: the longest
prefix that is one. Without fraction and exponent it is an integer. -/
def readNumber (t : Text) : Reading Json :=
  let (negative, unsigned) := match t with
    | .char '-' :: rest => (true, rest)
    | _ => (false, t)
  -- nothing is read of a sign alone, so the fault is in front of it
  match wholePart unsigned with
  | ([], _) => .error (.malformed .expectingValue t.length)
  | (whole, rest) =>
    let (fraction, rest) := fractionPart rest
    let (exponent, rest) := exponentPart rest
    -- only an integer is limited in its digits
    if fraction.isEmpty ∧ exponent.isNone then
      if digitLimit < whole.length then .error (.tooManyDigits whole.length)
      else .ok (.int (if negative then -(ofDigits whole : Int) else ofDigits whole), rest)
    else
      .ok (.float (Binary64.ofDecimal negative (ofDigits (whole ++ fraction))
        (exponent.getD 0 - fraction.length)), rest)

/-! ### Values -/

/-- The values that are written as a word. -/
def words : List (Text × Json) :=
  [("null", .null), ("true", .bool true), ("false", .bool false), ("NaN", .float .nan),
    ("Infinity", .float (.infinity false)), ("-Infinity", .float (.infinity true))]

/-- The first word that a text starts with, and the rest. -/
def readWord? (t : Text) : Option (Json × Text) :=
  -- no word starts with another one, so the first that fits is the only one
  (words.find? fun (word, _) => word.isPrefixOf t).map fun (word, value) =>
    (value, t.drop word.length)

mutual

/-- **A value** at the front of a text. The fuel bounds the calls that are open at a
time; twice the length of the text is enough, because every second of them has read a
code point. -/
def readValue : Nat → Text → Reading Json
  | 0, t => .error (.malformed .expectingValue t.length)
  | fuel + 1, t =>
    match t with
    | [] => .error (.malformed .expectingValue 0)
    | .char '"' :: rest =>
      match readString rest with
      | .ok (s, rest) => .ok (.text s, rest)
      | .error fault => .error fault
    | .char '[' :: rest =>
      match skipBlanks rest with
      | .char ']' :: rest => .ok (.array [], rest)
      | rest =>
        match readItems fuel rest with
        | .ok (items, rest) => .ok (.array items, rest)
        | .error fault => .error fault
    | .char '\x7b' :: rest =>
      match skipBlanks rest with
      | .char '\x7d' :: rest => .ok (.object [], rest)
      | rest =>
        match readFields fuel rest with
        | .ok (fields, rest) => .ok (.object fields, rest)
        | .error fault => .error fault
    | t =>
      match readWord? t with
      | some (value, rest) => .ok (value, rest)
      | none => readNumber t

/-- The items of an array up to its closing bracket, at least one. -/
def readItems : Nat → Text → Reading (List Json)
  | 0, t => .error (.malformed .expectingValue t.length)
  | fuel + 1, t =>
    match readValue fuel t with
    | .error fault => .error fault
    | .ok (item, rest) =>
      match skipBlanks rest with
      | .char ']' :: rest => .ok ([item], rest)
      | .char ',' :: rest => .cons item (readItems fuel (skipBlanks rest))
      | rest => .error (.malformed .expectingComma rest.length)

/-- The fields of an object up to its closing brace, at least one. -/
def readFields : Nat → Text → Reading (List (Text × Json))
  | 0, t => .error (.malformed .expectingValue t.length)
  | fuel + 1, t =>
    match t with
    | .char '"' :: rest =>
      match readString rest with
      | .error fault => .error fault
      | .ok (name, rest) =>
        -- behind the name a colon, behind the value a comma or the closing brace
        match skipBlanks rest with
        | .char ':' :: rest =>
          match readValue fuel (skipBlanks rest) with
          | .error fault => .error fault
          | .ok (value, rest) =>
            match skipBlanks rest with
            | .char '\x7d' :: rest => .ok ([(name, value)], rest)
            | .char ',' :: rest => .cons (name, value) (readFields fuel (skipBlanks rest))
            | rest => .error (.malformed .expectingComma rest.length)
        | rest => .error (.malformed .expectingColon rest.length)
    | t => .error (.malformed .expectingName t.length)

end

/-! ### Whole texts -/

/-- **The value of a whole text**, with repeated names as they stand. -/
def readRaw (t : Text) : Except ReadFault Json :=
  match readValue (2 * t.length + 2) (skipBlanks t) with
  | .error fault => .error fault
  | .ok (value, rest) =>
    -- blanks behind the value are part of the text, and nothing else is
    match skipBlanks rest with
    | [] => .ok value
    | rest => .error (.malformed .extraData rest.length)

/-- **The value of a whole text**, with one field per name. -/
def read (t : Text) : Except ReadFault Json :=
  match readRaw t with
  | .ok value => .ok value.merged
  | .error fault => .error fault

/-- **The value of a whole text that never was bytes.** It has no business starting with a
byte order mark; bytes lose theirs when they are decoded. -/
def readUnmarked (t : Text) : Except ReadFault Json :=
  match t with
  | .char '\uFEFF' :: _ => .error (.malformed .byteOrderMark t.length)
  | t => read t

/-- The line of a place and its column, both from one, behind `before`. -/
def lineAndColumn (before : Text) : Nat × Nat :=
  (before.count (.char '\n') + 1,
    (before.reverse.takeWhile (fun c => c != .char '\n')).length + 1)

/-- **The wording of a fault**, given the text it was found in. -/
def ReadFault.message (source : Text) : ReadFault → Text
  | .malformed what left =>
    let position := source.length - left
    let (line, column) := lineAndColumn (source.take position)
    what.message ++ ": line " ++ Text.ofNat line ++ " column " ++ Text.ofNat column
      ++ " (char " ++ Text.ofNat position ++ ")"
  | .tooManyDigits count =>
    "Exceeds the limit (4300 digits) for integer string conversion: value has "
      ++ Text.ofNat count
      ++ " digits; use sys.set_int_max_str_digits() to increase the limit"

end Json

end GraphPath
