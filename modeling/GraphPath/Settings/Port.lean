import GraphPath.Json.Reader
import GraphPath.Text.Blank

/-!
# Port numbers

A port is a number from `1` to `65535`. It can be given as an integer, as a floating-point
number without fraction, as a boolean, or as text: blanks around it do not count, a plus
sign may stand in front, zeros may stand in front, a point and zeros may stand behind, and
single underscores may stand between digits.

* `Port` — the numbers that are ports;
* `PortFault` — why something is none;
* `Port.ofJson` — the port of a value.
-/

namespace GraphPath

/-- **A port.** -/
structure Port where
  number : Nat
  positive : 1 ≤ number
  bounded : number ≤ 65535
deriving DecidableEq

/-- **Why a value is no port.** -/
inductive PortFault where
  | notUnicode
  | notParsable
  | tooLong
  | fractional
  | notFinite
  | notANumber
  | tooSmall
  | tooLarge
deriving DecidableEq, Repr

namespace Port

/-- A text without the zeros in front of its first other digit or its minus sign,
underscores among them included; a text of zeros keeps its last code point, and one with a
point behind the zeros the last before the point. -/
def dropZeros (previous : CodePoint) : Text → Option Text
  | [] => some [previous]
  | c :: rest =>
    -- an underscore among the zeros goes with them
    if c = .char '0' ∨ c = .char '_' then dropZeros c rest
    else if c = .char '.' then some (previous :: c :: rest)
    else if Json.isDigit c ∨ c = .char '-' then some (c :: rest)
    else none

/-- A text without leading zeros. Only a text that starts with a digit or a minus sign has
such a form, and behind a minus sign zeros stay. -/
def withoutLeadingZeros : Text → Option Text
  | .char '0' :: rest => dropZeros (.char '0') rest
  | c :: rest => if Json.isDigit c ∨ c = .char '-' then some (c :: rest) else none
  | [] => none

/-- A text without its last part, if that is a point with zeros behind it. -/
def withoutZeroFraction (t : Text) : Text :=
  let (whole, rest) := t.span (· != .char '.')
  let zeros := rest.drop 1
  if !zeros.isEmpty && zeros.all (· == .char '0') then whole else t

/-- Whether two underscores stand side by side. -/
def hasDoubleUnderscore : Text → Bool
  | a :: b :: rest => (a == .char '_' && b == .char '_') || hasDoubleUnderscore (b :: rest)
  | _ => false

/-- A text without its underscores, which must be single and inside. -/
def withoutUnderscores (t : Text) : Option Text :=
  if t.head? = some (.char '_') ∨ t.getLast? = some (.char '_') ∨ hasDoubleUnderscore t
      ∨ (Text.ofString "-_").isPrefixOf t then
    none
  else some (t.filter (· ≠ .char '_'))

/-- The number that plain digits spell. -/
def plainMagnitude (t : Text) : Except PortFault Nat :=
  let (digits, rest) := t.span Json.isDigit
  if Json.digitLimit < digits.length then .error .tooLong
  else if digits.isEmpty || !rest.isEmpty then .error .notParsable
  else .ok (Json.ofDigits digits)

/-- The integer that plain digits spell, perhaps with a minus sign in front. -/
def plainInteger : Text → Except PortFault Int
  | .char '-' :: digits => do .ok (-(Int.ofNat (← plainMagnitude digits)))
  | digits => do .ok (Int.ofNat (← plainMagnitude digits))

/-- The digits of a text behind blanks, plus sign, zeros and underscores. -/
def cleaned (t : Text) : Option Text := do
  let t := Text.strip CodePoint.isWhiteSpace t
  let t ← match t with
    | .char '+' :: .char '-' :: _ => none
    | .char '+' :: rest => some rest
    | _ => some t
  withoutUnderscores (withoutZeroFraction (← withoutLeadingZeros t))

/-- **The integer of a text.** -/
def integerOfText (t : Text) : Except PortFault Int :=
  if t.any CodePoint.isSurrogate then .error .notUnicode
  else match cleaned t with
    | some digits => plainInteger digits
    | none => .error .notParsable

/-- Integers of floating-point numbers are accepted between this bound and its negative. -/
def floatBound : Int := 0x8000000000000000

/-- **The integer of a floating-point number.** -/
def integerOfFloat (x : Binary64) : Except PortFault Int :=
  match x.scaled?, x.toInt? with
  -- neither an infinity nor what is no number
  | none, _ => .error .notFinite
  | some _, none => .error .fractional
  | some _, some n => if -floatBound < n ∧ n < floatBound then .ok n else .error .tooLong

/-- **The integer of a value.** -/
def integerOf : Json → Except PortFault Int
  | .int n => .ok n
  | .bool b => .ok (Json.ofBool b)
  | .text t => integerOfText t
  | .float x => integerOfFloat x
  | _ => .error .notANumber

/-- The port of an integer. -/
def ofInt (n : Int) : Except PortFault Port :=
  if low : 1 ≤ n then
    if high : n ≤ 65535 then .ok ⟨n.toNat, by omega, by omega⟩ else .error .tooLarge
  else .error .tooSmall

/-- **The port of a value.** -/
def ofJson (v : Json) : Except PortFault Port := do ofInt (← integerOf v)

end Port

end GraphPath
