import GraphPath.Decimal.Binary64
import GraphPath.Text.CodePoint

/-!
# Shortest decimals

The decimal that a binary64 number is written as: the one with the fewest digits that
reads back to the number, and of those the nearest to it.

* `Decimal` — `digits · 10 ^ exponent`;
* `Binary64.readsBack` — the decimal lies among the reals that round to the number;
* `Binary64.shortest` — the decimal of a finite magnitude;
* `Binary64.written` — its text: positional for decimal exponents from `-4` to `15`,
  otherwise in exponent form with a sign and at least two exponent digits.
-/

namespace GraphPath

/-- The decimal `digits · 10 ^ exponent`. -/
structure Decimal where
  digits : Nat
  exponent : Int
deriving DecidableEq, Repr

namespace Decimal

/-- The order of `a · 10 ^ i` and `n · 2 ^ j`, decided over the naturals. -/
def compareScaled (a : Nat) (i : Int) (n : Nat) (j : Int) : Ordering :=
  compare (a * tens i * twos (-j)) (n * twos j * tens (-i))

/-- The same decimal without trailing zeros, as far as `fuel` divisions go. -/
def stripZeros : Nat → Decimal → Decimal
  | 0, d => d
  | fuel + 1, d =>
    if d.digits ≠ 0 ∧ d.digits % 10 = 0 then stripZeros fuel ⟨d.digits / 10, d.exponent + 1⟩
    else d

end Decimal

namespace Binary64

/-- **Reading back.** The decimal lies in the interval of reals that round to
`m · 2 ^ q`: from halfway to the number below to halfway to the number above, the ends
included exactly when `m` is even. -/
def readsBack (m : Nat) (q : Int) (narrowBelow : Bool) (d : Decimal) : Bool :=
  let low := Decimal.compareScaled d.digits d.exponent
    (if narrowBelow then 4 * m - 1 else 4 * m - 2) (q - 2)
  let high := Decimal.compareScaled d.digits d.exponent (4 * m + 2) (q - 2)
  let ends := m % 2 == 0
  (low == .gt || (ends && low == .eq)) && (high == .lt || (ends && high == .eq))

/-- The least `k` with `m · 2 ^ q < 10 ^ k`, for a positive `m`: a guess from the binary
logarithm, moved by at most two. -/
def decimalScale (m : Nat) (q : Int) : Int :=
  let guess : Int := ((m.log2 : Int) + q) * 30103 / 100000
  let below (k : Int) : Bool := Decimal.compareScaled 1 k m q == .gt
  if below (guess - 1) then guess - 1
  else if below guess then guess
  else if below (guess + 1) then guess + 1
  else guess + 2

/-- The nearest decimal with exponent `e` that reads back, if one does: one of the two
neighbours of the number on that grid. -/
def onGrid? (m : Nat) (q : Int) (narrowBelow : Bool) (e : Int) : Option Decimal :=
  let num := m * twos q * tens (-e)
  let den := twos (-q) * tens e
  let floor : Decimal := ⟨num / den, e⟩
  let ceiling : Decimal := ⟨num / den + 1, e⟩
  -- of two neighbours that read back the nearer one counts
  match readsBack m q narrowBelow floor, readsBack m q narrowBelow ceiling with
  | true, false => some floor
  | false, true => some ceiling
  | false, false => none
  | true, true => some ⟨divNearest num den, e⟩

/-- The first grid with a hit, coarse to fine. -/
def firstHit (m : Nat) (q : Int) (narrowBelow : Bool) : Nat → Int → Option Decimal
  | 0, _ => none
  | fuel + 1, e =>
    match onGrid? m q narrowBelow e with
    | some d => some d
    | none => firstHit m q narrowBelow fuel (e - 1)

/-- **The shortest decimal** of a positive magnitude. Seventeen digits always suffice; the
exact value stands in should they not. -/
def shortest (m : Nat) (q : Int) (narrowBelow : Bool) : Decimal :=
  match firstHit m q narrowBelow 17 (decimalScale m q - 1) with
  | some d => d.stripZeros 20
  | none => if 0 ≤ q then ⟨m * twos q, 0⟩ else ⟨m * Nat.pow 5 (-q).toNat, q⟩

/-! ### Layout -/

/-- The texts of the numbers that have no digits. -/
structure Specials where
  infinity : Text
  minusInfinity : Text
  nan : Text

/-- Positional text: digits with a point `point` places after the first one's left side,
and at least one digit on both sides of it. -/
def positional (digits : List Char) (point : Int) : List Char :=
  if point ≤ 0 then '0' :: '.' :: (List.replicate (-point).toNat '0' ++ digits)
  else
    let whole := digits.take point.toNat
    let padded := whole ++ List.replicate (point.toNat - whole.length) '0'
    let fraction := digits.drop point.toNat
    padded ++ '.' :: (if fraction.isEmpty then ['0'] else fraction)

/-- A decimal exponent behind its letter: a sign and at least two digits. -/
def exponentPart (exponent : Int) : List Char :=
  let power := Nat.toDigits 10 exponent.natAbs
  'e' :: (if exponent < 0 then '-' else '+')
    :: (List.replicate (2 - power.length) '0' ++ power)

/-- Exponent text: one digit, the others after a point, and the exponent. -/
def exponential (digits : List Char) (exponent : Int) : List Char :=
  let mantissa := match digits with
    | [] => []
    | [d] => [d]
    | d :: rest => d :: '.' :: rest
  mantissa ++ exponentPart exponent

/-- The text of a positive decimal, or of zero. -/
def layout (d : Decimal) : List Char :=
  let digits := Nat.toDigits 10 d.digits
  let point : Int := digits.length + d.exponent
  -- zero has no first digit
  if d.digits = 0 then ['0', '.', '0']
  else if -4 < point ∧ point ≤ 16 then positional digits point
  else exponential digits (point - 1)

/-- **The text of a number.** -/
def written (specials : Specials) (x : Binary64) : Text :=
  match x.reading with
  | .notANumber => specials.nan
  | .infinite negative => if negative then specials.minusInfinity else specials.infinity
  | .finite negative m q narrowBelow =>
    let digits := layout (if m = 0 then ⟨0, 0⟩ else shortest m q narrowBelow)
    ((if negative then ['-'] else []) ++ digits).map .char

end Binary64

end GraphPath
