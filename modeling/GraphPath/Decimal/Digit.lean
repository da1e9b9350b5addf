import GraphPath.Text.Blank

/-!
# Integers in running text

Reading an integer that a person wrote: blanks around it do not count, a sign may stand in
front, single underscores may stand between digits, and the decimal digits of every script
of Unicode 14 are digits.

* `CodePoint.decimal?` — the value of a decimal digit;
* `Text.toInt?` — the integer that a text spells.
-/

namespace GraphPath

/-- The zeros of the scripts; the nine other digits of each follow its zero. -/
def zeros : List Nat := [
  0x00030, 0x00660, 0x006F0, 0x007C0, 0x00966, 0x009E6, 0x00A66, 0x00AE6, 0x00B66, 0x00BE6,
  0x00C66, 0x00CE6, 0x00D66, 0x00DE6, 0x00E50, 0x00ED0, 0x00F20, 0x01040, 0x01090, 0x017E0,
  0x01810, 0x01946, 0x019D0, 0x01A80, 0x01A90, 0x01B50, 0x01BB0, 0x01C40, 0x01C50, 0x0A620,
  0x0A8D0, 0x0A900, 0x0A9D0, 0x0A9F0, 0x0AA50, 0x0ABF0, 0x0FF10, 0x104A0, 0x10D30, 0x11066,
  0x110F0, 0x11136, 0x111D0, 0x112F0, 0x11450, 0x114D0, 0x11650, 0x116C0, 0x11730, 0x118E0,
  0x11950, 0x11C50, 0x11D50, 0x11DA0, 0x16A60, 0x16AC0, 0x16B50, 0x1D7CE, 0x1D7D8, 0x1D7E2,
  0x1D7EC, 0x1D7F6, 0x1E140, 0x1E2F0, 0x1E950, 0x1FBF0]

/-- **The value of a decimal digit** of any script. -/
def CodePoint.decimal? (c : CodePoint) : Option Nat :=
  (zeros.find? fun first => first ≤ c.toNat && c.toNat < first + 10).map (c.toNat - ·)

namespace Text

/-- The most digits that an integer may have. -/
def digitLimit : Nat := 4300

/-- The values of digits between which single underscores may stand. -/
def digitValues? : Text → Option (List Nat)
  | [] => none
  | [c] => c.decimal?.map ([·])
  -- an underscore needs a digit on both sides
  | c :: .char '_' :: rest => do return (← c.decimal?) :: (← digitValues? rest)
  | c :: rest => do return (← c.decimal?) :: (← digitValues? rest)

/-- The number that digits spell, if there are not too many. -/
def magnitude? (t : Text) : Option Nat := do
  let digits ← digitValues? t
  if digitLimit < digits.length then none
  else some (digits.foldl (fun n digit => 10 * n + digit) 0)

/-- **The integer that a text spells.** -/
def toInt? (t : Text) : Option Int :=
  match t.strip CodePoint.isSpacing with
  | .char '-' :: rest => (magnitude? rest).map fun n => -(n : Int)
  | .char '+' :: rest => (magnitude? rest).map Int.ofNat
  | rest => (magnitude? rest).map Int.ofNat

end Text

end GraphPath
