import GraphPath.Decimal.Rounded
import GraphPath.Json.Printer
import GraphPath.Path.Shown
import GraphPath.Text.Blank

/-!
# Holes of message templates

A hole says how the value that fills it is written: its kind, the least width, the
precision, and some flags.

* `s`, `r` and `a` take any value: its text, its text as messages show it, and the same in
  ASCII. The precision is the greatest number of code points.
* `d`, `i` and `u` take a number without its fraction; `o`, `x` and `X` take an integer and
  write it to the base `8` or `16`. The precision is the least number of digits.
* `f`, `e` and `g` take a number and write it with so many places, with an exponent, or with
  so many digits; their capitals write letters as capitals.
* `c` takes a character or its number.

An integer with too many digits is not written to the base `10`, neither on its own nor inside of
another value.

Main definitions:

* `Template.Form` — a hole with its sizes known;
* `Template.Form.fill` — the text of a hole that is filled with a value;
* `Template.Fault` — why values do not fit a template.
-/

namespace GraphPath

namespace Template

/-- **Why arguments do not fit a template.** -/
inductive Fault where
  | tooFew
  | tooMany
  | notANumber (kind : CodePoint) (type : Text)
  | notAnInteger (kind : CodePoint) (type : Text)
  | notReal (type : Text)
  | notFinite (isNan : Bool)
  | notACharacter
  | notACodePoint
  | tooLarge
  | tooManyDigits
  | needsDictionary
  | unknownName (name : Text)
  | notASize
  | widthTooLarge
  | precisionTooLarge
  | widthTooBig
  | precisionTooBig
  | precisionOfInteger
  | unclosedName
  | incomplete
  | unsupported (kind : CodePoint) (index : Nat)
deriving DecidableEq, Repr

/-- The wording of a fault. -/
def Fault.message : Fault → Text
  | .tooFew => "not enough arguments for format string"
  | .tooMany => "not all arguments converted during string formatting"
  | .notANumber kind type =>
    "%" ++ [kind] ++ " format: a real number is required, not " ++ type
  | .notAnInteger kind type =>
    "%" ++ [kind] ++ " format: an integer is required, not " ++ type
  | .notReal type => "must be real number, not " ++ type
  | .notFinite true => "cannot convert float NaN to integer"
  | .notFinite false => "cannot convert float infinity to integer"
  | .notACharacter => "%c requires int or char"
  | .notACodePoint => "%c arg not in range(0x110000)"
  | .tooLarge => "int too large to convert to float"
  | .tooManyDigits => Json.Unwritable.tooManyDigits.message
  | .needsDictionary => "format requires a mapping"
  | .unknownName name => name.quoted
  | .notASize => "* wants int"
  | .widthTooLarge => "Python int too large to convert to C ssize_t"
  | .precisionTooLarge => "Python int too large to convert to C int"
  | .widthTooBig => "width too big"
  | .precisionTooBig => "precision too big"
  | .precisionOfInteger => "precision too large"
  | .unclosedName => "incomplete format key"
  | .incomplete => "incomplete format"
  | .unsupported kind index =>
    let mark := if 31 ≤ kind.toNat ∧ kind.toNat ≤ 126 then kind else .char '?'
    "unsupported format character '" ++ [mark] ++ "' (0x" ++ Text.ofHex 1 kind.toNat
      ++ ") at index " ++ Text.ofNat index

/-- **The flags of a hole**: padding behind instead of in front, a sign or a blank in front
of numbers that are not negative, the form with a base or a point, and zeros as padding. -/
structure Flags where
  left : Bool
  plus : Bool
  blank : Bool
  alternate : Bool
  zeros : Bool

/-- **A hole with its sizes known**; `index` is where in the template its kind stands. -/
structure Form where
  flags : Flags
  width : Nat
  precision : Option Nat
  kind : CodePoint
  index : Nat

namespace Form

/-- So many code points that fill a hole up. -/
def padding (form : Form) (fill : CodePoint) (size : Nat) : Text :=
  List.replicate (form.width - size) fill

/-- A text in a hole. -/
def padded (form : Form) (t : Text) : Text :=
  let blanks := form.padding (.char ' ') t.length
  if form.flags.left then t ++ blanks else blanks ++ t

/-- The sign in front of a number. -/
def sign (form : Form) (negative : Bool) : Text :=
  if negative then "-" else if form.flags.plus then "+" else if form.flags.blank then " " else ""

/-- A number in a hole: zeros that fill it up stand behind the sign and the base. -/
def number (form : Form) (negative : Bool) (base digits : Text) : Text :=
  let front := form.sign negative ++ base
  -- padding behind wins over zeros in front
  if form.flags.zeros && !form.flags.left then
    front ++ form.padding (.char '0') (front.length + digits.length) ++ digits
  else form.padded (front ++ digits)

/-! ### Texts -/

/-- A text in ASCII, all else being written by number. -/
def asciiText (t : Text) : Text :=
  t.flatMap fun c =>
    if c.toNat < 0x80 then [c]
    else if c.toNat < 0x100 then "\\x" ++ Text.ofHex 2 c.toNat
    else if c.toNat < 0x10000 then "\\u" ++ Text.ofHex 4 c.toNat
    else "\\U" ++ Text.ofHex 8 c.toNat

/-- A text cut to the precision. -/
def cut (form : Form) (t : Text) : Text :=
  match form.precision with
  | some size => t.take size
  | none => t

/-- The text of a value that can be shown. -/
def textOf (shown : Value → Text) (value : Value) : Except Fault Text :=
  if value.isOversized then .error .tooManyDigits else .ok (shown value)

/-! ### Integers -/

/-- The integer of a value without its fraction. -/
def wholeOf (kind : CodePoint) : Value → Except Fault Int
  | .int n => .ok n
  | .bool b => .ok (Json.ofBool b)
  | .float x =>
    match x.truncated? with
    | some n => .ok n
    | none => .error (.notFinite x.isNan)
  | value => .error (.notANumber kind value.typeName)

/-- The greatest precision that an integer may have. -/
def integerPrecisionLimit : Nat := 0x7FFFFFFC

/-- An integer, if the hole has no precision past the limit of integers. -/
def withinPrecision (form : Form) (n : Int) : Except Fault Int :=
  if integerPrecisionLimit < form.precision.getD 0 then .error .precisionOfInteger else .ok n

/-- An integer, if it has not too many digits. -/
def withinDigits (n : Int) : Except Fault Int :=
  if Json.isOversized n then .error .tooManyDigits else .ok n

/-- The integer without a fraction that fills a hole. -/
def decimalOf (form : Form) (value : Value) : Except Fault Int := do
  withinDigits (← form.withinPrecision (← wholeOf form.kind value))

/-- The integer of a value that is one. -/
def integerOf (kind : CodePoint) : Value → Except Fault Int
  | .int n => .ok n
  | .bool b => .ok (Json.ofBool b)
  | value => .error (.notAnInteger kind value.typeName)

/-- The integer that fills a hole for integers. -/
def basedOf (form : Form) (value : Value) : Except Fault Int := do
  form.withinPrecision (← integerOf form.kind value)

/-- An integer in a hole. -/
def integer (form : Form) (base : Nat) (mark : Text) (n : Int) : Text :=
  let digits := Nat.toDigits base n.natAbs
  -- the precision is the least number of digits
  let filled := List.replicate (form.precision.getD 0 - digits.length) '0' ++ digits
  form.number (n < 0) (if form.flags.alternate then mark else "") (filled.map .char)

/-! ### Numbers -/

/-- The number of a value. -/
def realOf : Value → Except Fault Binary64
  | .float x => .ok x
  | .bool b => .ok (Binary64.ofDecimal false (Json.ofBool b).natAbs 0)
  | .int n =>
    -- an integer that rounds to no finite float is refused
    let x := Binary64.ofDecimal (n < 0) n.natAbs 0
    if x.scaled?.isSome then .ok x else .error .tooLarge
  | value => .error (.notReal value.typeName)

/-- The places or digits of a number if the hole does not say how many. -/
def usualPrecision : Nat := 6

/-- A number in a hole, written in a way that takes the point, the precision and the
magnitude. -/
def real (form : Form) (write : Bool → Nat → Nat → Int → List Char) (x : Binary64) : Text :=
  match x.reading with
  -- what has no digits has no precision either, but a sign and padding
  | .notANumber => form.number false "" "nan"
  | .infinite negative => form.number negative "" "inf"
  | .finite negative m q _ =>
    let digits := write form.flags.alternate (form.precision.getD usualPrecision) m q
    form.number negative "" (digits.map .char)

/-! ### Characters -/

/-- The character of a value. -/
def characterOf : Value → Except Fault CodePoint
  | .text [c] => .ok c
  | .int n => match if n < 0 then none else CodePoint.ofNat? n.toNat with
    | some c => .ok c
    | none => .error .notACodePoint
  | .bool b => .ok (if b then .char '\x01' else .char '\x00')
  | _ => .error .notACharacter

/-- **The text of a hole** that is filled with a value. -/
def fill (form : Form) (value : Value) : Except Fault Text :=
  match form.kind with
  | .char 's' => (textOf Value.plainText value).map fun t => form.padded (form.cut t)
  | .char 'r' => (textOf Value.shown value).map fun t => form.padded (form.cut t)
  | .char 'a' => (textOf Value.shown value).map fun t => form.padded (form.cut (asciiText t))
  | .char 'd' | .char 'i' | .char 'u' => (form.decimalOf value).map (form.integer 10 "")
  | .char 'o' => (form.basedOf value).map (form.integer 8 "0o")
  | .char 'x' => (form.basedOf value).map (form.integer 16 "0x")
  | .char 'X' => (form.basedOf value).map fun n => (form.integer 16 "0x" n).upper
  | .char 'f' => (realOf value).map (form.real Binary64.fixed)
  | .char 'F' => (realOf value).map fun x => (form.real Binary64.fixed x).upper
  | .char 'e' => (realOf value).map (form.real Binary64.scientific)
  | .char 'E' => (realOf value).map fun x => (form.real Binary64.scientific x).upper
  | .char 'g' => (realOf value).map (form.real Binary64.general)
  | .char 'G' => (realOf value).map fun x => (form.real Binary64.general x).upper
  | .char 'c' => (characterOf value).map fun c => form.padded [c]
  | kind => .error (.unsupported kind form.index)

end Form

end Template

end GraphPath
