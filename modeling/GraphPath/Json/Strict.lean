import GraphPath.Json.Reader

/-!
# Reading JSON strictly

The answers of a server are read by a second reader, which takes the same texts for the same
values but refuses some of them: texts with surrogates, values that are too deeply nested, and
numbers whose whole part is too long. The sign belongs to the whole part, and a number with a
fraction or an exponent has one as well.

Whether a number is too long is seen in the text alone, by one scan over its code points.

* `Json.Scan`, `Json.Scan.next` — where a scan stands, and where behind one more code point;
* `Json.hasLongWhole` — whether some whole part is too long;
* `Json.readStrict?` — the value of a text that is taken.
-/

namespace GraphPath

namespace Json

/-- **Where a scan stands**: between strings and numbers, in a string, behind a backslash in a
string, behind so many code points of the whole part of a number, or in what follows the whole
part. -/
inductive Scan where
  | between
  | inString
  | behindBackslash
  | inWhole (length : Nat)
  | behindWhole
deriving DecidableEq, Repr

namespace Scan

/-- Whether a code point opens the whole part of a number. -/
def opensWhole (c : CodePoint) : Bool := c = .char '-' || isDigit c

/-- Whether a code point ends the whole part of a number but not the number. -/
def endsWhole (c : CodePoint) : Bool := c = .char '.' || c = .char 'e' || c = .char 'E'

/-- **Where a scan stands behind one more code point** of a text that has a value. -/
def next (scan : Scan) (c : CodePoint) : Scan :=
  match scan with
  | .between =>
    -- between values only a quote and the front of a number matter
    if c = .char '"' then .inString else if opensWhole c then .inWhole 1 else .between
  | .inString =>
    if c = .char '"' then .between else if c = .char '\\' then .behindBackslash else .inString
  | .behindBackslash => .inString
  | .inWhole length =>
    if isDigit c then .inWhole (length + 1) else if endsWhole c then .behindWhole else .between
  | .behindWhole =>
    -- fraction and exponent may be as long as they like
    if isDigit c || endsWhole c || c = .char '+' || c = .char '-' then .behindWhole else .between

/-- Whether a scan stands in a whole part that is too long already. -/
def isTooLong : Scan → Bool
  | .inWhole length => digitLimit < length
  | _ => false

end Scan

/-- **Whether the whole part of some number is too long** in the rest of a text. -/
def hasLongWhole (scan : Scan) : Text → Bool
  | [] => false
  | c :: rest => (scan.next c).isTooLong || hasLongWhole (scan.next c) rest

/-- The deepest nesting that the strict reader takes. -/
def nestingLimit : Nat := 200

/-- **The value of a text**, with one field per name, if the strict reader takes it. -/
def readStrict? (t : Text) : Option Json :=
  match readRaw t with
  | .error _ => none
  | .ok v =>
    -- a surrogate counts, whether it stands in the text or is written as an escape
    if t.any (·.isSurrogate) || v.hasSurrogate || nestingLimit < v.nesting
        || hasLongWhole .between t then none
    else some v.merged

end Json

end GraphPath
