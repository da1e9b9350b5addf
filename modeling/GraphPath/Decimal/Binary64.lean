/-!
# Binary64 numbers

The floating-point numbers of 64 bits, as data: the bits, what they stand for, and the
rounding of a decimal to the nearest of them. All arithmetic is exact and over the
integers, so every function here can be evaluated inside a proof.

* `Binary64` — the bits;
* `Binary64.Reading` — what the bits stand for: a sign with `m · 2 ^ q`, an infinity,
  or not a number;
* `Binary64.ofDecimal` — the number nearest to `digits · 10 ^ exponent`, a tie going to
  the even neighbour;
* `Binary64.same`, `Binary64.sameInt` — numerical equality, in which the two zeros are
  equal and not-a-number is equal to nothing.
-/

namespace GraphPath

/-- `2 ^ q`, or `1` for a negative `q`. -/
def twos (q : Int) : Nat := Nat.pow 2 q.toNat

/-- `10 ^ e`, or `1` for a negative `e`. -/
def tens (e : Int) : Nat := Nat.pow 10 e.toNat

/-- **A floating-point number of 64 bits.** -/
structure Binary64 where
  bits : UInt64
deriving DecidableEq, Repr

namespace Binary64

/-- What the bits stand for. A finite number is `± significand · 2 ^ exponent`;
`narrowBelow` says that the gap to the next smaller magnitude is half the gap to the
next larger one. -/
inductive Reading where
  | finite (negative : Bool) (significand : Nat) (exponent : Int) (narrowBelow : Bool)
  | infinite (negative : Bool)
  | notANumber
deriving DecidableEq, Repr

/-- **Reading the bits**: one for the sign, eleven for the exponent, fifty-two for the
fraction. -/
def reading (x : Binary64) : Reading :=
  let word := x.bits.toNat
  let negative := twos 63 ≤ word
  let exponent : Nat := word / twos 52 % twos 11
  let fraction : Nat := word % twos 52
  if exponent = 2047 then
    if fraction = 0 then .infinite negative else .notANumber
  else if exponent = 0 then .finite negative fraction (-1074) false
  else
    .finite negative (twos 52 + fraction) ((exponent : Int) - 1075) (fraction = 0 && 1 < exponent)

/-- The number with a sign and the remaining sixty-three bits. -/
def ofMagnitude (negative : Bool) (magnitude : Nat) : Binary64 :=
  ⟨.ofNat ((if negative then twos 63 else 0) + magnitude)⟩

/-- The sixty-three bits of infinity. -/
def infiniteMagnitude : Nat := 2047 * twos 52

/-- Infinity of either sign. -/
def infinity (negative : Bool) : Binary64 := ofMagnitude negative infiniteMagnitude

/-- A number that is none. -/
def nan : Binary64 := ofMagnitude false (infiniteMagnitude + twos 51)

/-! ### Rounding -/

/-- The quotient rounded to the nearest integer, a tie going to the even one. -/
def divNearest (num den : Nat) : Nat :=
  let quotient := num / den
  -- twice the remainder tells which side of the half it lies on
  let twice := 2 * (num % den)
  if twice < den ∨ (twice = den ∧ quotient % 2 = 0) then quotient else quotient + 1

/-- The binary exponent at which a positive quotient has a significand of fifty-three
bits, bounded below by the exponent of the least numbers. -/
def unitExponent (num den : Nat) : Int :=
  let guess : Int := (num.log2 : Int) - den.log2 - 52
  let quotient := num * twos (-guess) / (den * twos guess)
  max (-1074) (if twos 53 ≤ quotient then guess + 1
    else if quotient < twos 52 then guess - 1 else guess)

/-- The sixty-three bits of the number nearest to a positive quotient. A significand that
rounds up to the next power of two carries into the exponent by itself. -/
def magnitudeOfQuotient (num den : Nat) : Nat :=
  let unit := unitExponent num den
  let significand := divNearest (num * twos (-unit)) (den * twos unit)
  min infiniteMagnitude ((unit + 1074).toNat * twos 52 + significand)

/-- **Reading a decimal.** The number nearest to `± digits · 10 ^ exponent`. Decimals past
`10 ^ 310` are infinite and those below `10 ^ -330` are zero, whatever their digits, so
that no huge power is ever computed. -/
def ofDecimal (negative : Bool) (digits : Nat) (exponent : Int) : Binary64 :=
  if digits = 0 then ofMagnitude negative 0
  else
    -- the place of the first digit, before anything is computed
    let size : Int := (Nat.toDigits 10 digits).length + exponent
    if 310 < size then infinity negative
    else if size < -330 then ofMagnitude negative 0
    else ofMagnitude negative
      (magnitudeOfQuotient (digits * tens exponent) (tens (-exponent)))

/-! ### Numerical equality -/

/-- How many of the least positive numbers make up one. -/
def leastPerOne : Int := twos 1074

/-- The integer that a finite number is a multiple of `2 ^ -1074` by. -/
def scaled? (x : Binary64) : Option Int :=
  match x.reading with
  | .finite negative significand exponent _ =>
    let magnitude : Int := (significand * twos (exponent + 1074) : Nat)
    some (if negative then -magnitude else magnitude)
  | _ => none

/-- **Numerical equality.** -/
def same (x y : Binary64) : Bool :=
  match x.reading, y.reading with
  | .infinite s, .infinite t => s == t
  | .finite .., .finite .. => x.scaled? == y.scaled?
  | _, _ => false

/-- **Numerical equality with an integer.** -/
def sameInt (x : Binary64) (n : Int) : Bool := x.scaled? == some (n * leastPerOne)

/-- The integer that a number is, if it is one. -/
def toInt? (x : Binary64) : Option Int :=
  match x.scaled? with
  | some n => if n % leastPerOne = 0 then some (n / leastPerOne) else none
  | none => none

/-- A finite number without its fraction. -/
def truncated? (x : Binary64) : Option Int := x.scaled?.map (·.tdiv leastPerOne)

/-- Whether a number is none. -/
def isNan (x : Binary64) : Bool := x.reading == .notANumber

end Binary64

end GraphPath
