import GraphPath.Text.CodePoint

/-!
# Labels in ASCII

A label with characters outside ASCII is written in ASCII by putting its ASCII characters
first, then a hyphen, and then where the others stand. These are taken in the order of
their numbers; each is given by its distance from the one before, counted in pairs of a
number and a place in the text so far. A distance is written with letters and digits, the
lowest place first. A **threshold** for each place tells the last digit from the others, and
depends on a **bias** that follows the distances written so far.

* `Punycode.encode` — the ASCII form of a label;
* `Punycode.decode?` — the label of an ASCII form.
-/

namespace GraphPath

namespace Punycode

/-! ### Digits and thresholds -/

/-- A digit of base `36`: letters, then digits. -/
def digit (n : Nat) : CodePoint :=
  .char (if n < 26 then Char.ofNat (97 + n) else Char.ofNat (22 + n))

/-- The value of a digit of base `36`. -/
def digitValue? (c : CodePoint) : Option Nat :=
  let n := c.toNat
  if 97 ≤ n ∧ n ≤ 122 then some (n - 97)
  else if 48 ≤ n ∧ n ≤ 57 then some (n - 22)
  else none

/-- How far the digit at a place reaches before the next place is needed. Places are
counted by `36`. -/
def threshold (place bias : Nat) : Nat := min 26 (max 1 (place - bias))

/-- The first place. -/
def firstPlace : Nat := 36

/-- The bias before anything is written. -/
def firstBias : Nat := 72

/-- How often a number is divided by `35` until it is at most `455`, and what is left. -/
def dampen : Nat → Nat → Nat × Nat
  | 0, n => (0, n)
  | fuel + 1, n =>
    if n ≤ 455 then (0, n)
    else
      let (divisions, rest) := dampen fuel (n / 35)
      (divisions + 1, rest)

/-- The bias after a distance, the first one being damped more; `count` is the number of
code points so far. -/
def adapt (distance count : Nat) (isFirst : Bool) : Nat :=
  let damped := distance / (if isFirst then 700 else 2)
  let spread := damped + damped / count
  let (divisions, rest) := dampen spread spread
  36 * divisions + 36 * rest / (rest + 38)

/-! ### Writing -/

/-- The digits of a distance from a place on. Each place divides the number, so that its
size bounds the places. -/
def digits (bias : Nat) : Nat → Nat → Nat → Text
  | 0, _, n => [digit n]
  | fuel + 1, place, n =>
    let t := threshold place bias
    if n < t then [digit n]
    else digit (t + (n - t) % (36 - t)) :: digits bias fuel (place + 36) ((n - t) / (36 - t))

/-- What is kept while a label is written: the text, the distance since the last code
point, the bias, and how many code points are written. -/
structure Writing where
  text : Text
  distance : Nat
  bias : Nat
  count : Nat

/-- One code point of the label while those of number `n` are written. -/
def Writing.step (basic n : Nat) (w : Writing) (c : CodePoint) : Writing :=
  if c.toNat < n then { w with distance := w.distance + 1 }
  else if c.toNat = n then
    ⟨w.text ++ digits w.bias w.distance firstPlace w.distance, 0,
      adapt w.distance (w.count + 1) (w.count == basic), w.count + 1⟩
  else w

/-- Whether a code point is in ASCII. -/
def isBasic (c : CodePoint) : Bool := c.toNat < 128

/-- The numbers of the code points of a label outside ASCII, in order. -/
def otherNumbers (label : Text) : List Nat :=
  ((label.filter (!isBasic ·)).map CodePoint.toNat).mergeSort.eraseDups

/-- **The ASCII form of a label.** -/
def encode (label : Text) : Text :=
  let basic := label.filter isBasic
  let start : Writing :=
    ⟨if basic.isEmpty then [] else basic ++ "-", 0, firstBias, basic.length⟩
  let finish := (otherNumbers label).foldl
    (fun (w, least) n =>
      let w : Writing := { w with distance := w.distance + (n - least) * (w.count + 1) }
      let w := label.foldl (Writing.step basic.length n) w
      ({ w with distance := w.distance + 1 }, n + 1))
    (start, 128)
  finish.1.text

/-! ### Reading -/

/-- What is kept while a label is read: the label so far, the number of its last code point
and the place behind it, the bias, and whether a distance was read; then the distance
being read, its place, and what a digit there counts. -/
structure Reading where
  label : Text
  number : Nat
  position : Nat
  bias : Nat
  isFirst : Bool
  distance : Nat
  place : Nat
  weight : Nat

/-- The reading with a distance that is complete. -/
def Reading.insert? (r : Reading) (distance : Nat) : Option Reading := do
  let count := r.label.length + 1
  let number := r.number + (r.position + distance) / count
  let position := (r.position + distance) % count
  let c ← CodePoint.ofNat? number
  some ⟨r.label.insertIdx position c, number, position + 1, adapt distance count r.isFirst, false,
    0, firstPlace, 1⟩

/-- The reading behind one more digit. -/
def Reading.step? (r : Reading) (c : CodePoint) : Option Reading := do
  let value ← digitValue? c
  let t := threshold r.place r.bias
  let distance := r.distance + value * r.weight
  if value < t then r.insert? distance
  else some { r with
    distance := distance
    place := r.place + 36
    weight := r.weight * (36 - t) }

/-- An ASCII form at its last hyphen: the ASCII characters, and where the others stand. -/
def split (t : Text) : Text × Text :=
  let others := (t.reverse.takeWhile (· ≠ .char '-')).reverse
  ((t.take (t.length - others.length)).dropLast, others)

/-- **The label of an ASCII form**, if it is one. -/
def decode? (t : Text) : Option Text := do
  let (basic, others) := split t
  let finish ← others.foldlM Reading.step?
    ⟨basic, 128, 0, firstBias, true, 0, firstPlace, 1⟩
  if finish.place = firstPlace then some finish.label else none

end Punycode

end GraphPath
