import GraphPath.Decimal.Shortest

/-!
# Rounded decimals

A magnitude `m · 2 ^ q` written with so many places behind the point, or with so many
digits in all. The digits are those of the nearest decimal of that form, a tie going to the
even neighbour; the arithmetic is exact. A point with nothing behind it is left out, unless
it is asked for.

* `Binary64.fixed` — so many places behind the point;
* `Binary64.scientific` — one digit before the point, so many behind it, and an exponent;
* `Binary64.general` — so many digits in all, with an exponent only if the point would be
  far away, and without zeros at the end.
-/

namespace GraphPath

namespace Binary64

/-- The multiple of `10 ^ e` that is nearest to `m · 2 ^ q`, divided by `10 ^ e`. -/
def roundedAt (m : Nat) (q e : Int) : Nat :=
  divNearest (m * twos q * tens (-e)) (twos (-q) * tens e)

/-- The first digits of a magnitude as a number, and the exponent of the first of them. If
rounding carries into one more digit, the last one is a zero and falls away. -/
def leading (m : Nat) (q : Int) (count : Nat) : Nat × Int :=
  if m = 0 then (0, 0)
  else
    let exponent := decimalScale m q - 1
    let digits := roundedAt m q (exponent - count + 1)
    -- rounding up may give one digit more
    if tens count ≤ digits then (digits / 10, exponent + 1) else (digits, exponent)

/-- The digits of a number, with zeros in front up to a count. -/
def paddedDigits (count n : Nat) : List Char :=
  let digits := Nat.toDigits 10 n
  List.replicate (count - digits.length) '0' ++ digits

/-- Digits with a point between them, if there are any behind it. -/
def pointed (keepsPoint : Bool) (whole fraction : List Char) : List Char :=
  if fraction.isEmpty && !keepsPoint then whole else whole ++ '.' :: fraction

/-- Digits without the zeros at the end. -/
def withoutLastZeros (digits : List Char) : List Char :=
  (digits.reverse.dropWhile (· == '0')).reverse

/-- **So many places behind the point.** -/
def fixed (keepsPoint : Bool) (places m : Nat) (q : Int) : List Char :=
  let digits := paddedDigits (places + 1) (roundedAt m q (-places))
  let whole := digits.length - places
  pointed keepsPoint (digits.take whole) (digits.drop whole)

/-- **So many places behind the first digit**, and an exponent. -/
def scientific (keepsPoint : Bool) (places m : Nat) (q : Int) : List Char :=
  let (n, exponent) := leading m q (places + 1)
  let digits := paddedDigits (places + 1) n
  pointed keepsPoint (digits.take 1) (digits.drop 1) ++ exponentPart exponent

/-- **So many digits**, at least one. The exponent is written if the first digit is more
than four places behind the point, or not in reach of the digits before it. Zeros at the end
stay where the point is asked for. -/
def general (keepsPoint : Bool) (count m : Nat) (q : Int) : List Char :=
  let count := max 1 count
  let (n, exponent) := leading m q count
  let digits := paddedDigits count n
  let ended (fraction : List Char) := if keepsPoint then fraction else withoutLastZeros fraction
  if exponent < -4 ∨ count ≤ exponent then
    pointed keepsPoint (digits.take 1) (ended (digits.drop 1)) ++ exponentPart exponent
  else if exponent < 0 then
    pointed keepsPoint ['0']
      (ended (List.replicate (-exponent - 1).toNat '0' ++ digits))
  else
    let whole := exponent.toNat + 1
    pointed keepsPoint (digits.take whole) (ended (digits.drop whole))

end Binary64

end GraphPath
