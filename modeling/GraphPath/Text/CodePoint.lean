/-!
# Code points and texts

A text is a list of Unicode code points. The type keeps the surrogates
`U+D800 … U+DFFF`, which a `String` cannot hold, because the escapes of JSON can
name one on its own; whether a text has a UTF-8 form is then a question with an
answer (`Utf8.encode`) and not a precondition.

* `CodePoint` — a scalar value, or a surrogate by its offset from `U+D800`;
* `Text` — a list of code points, so that every lemma on lists applies;
* `Text.ofString` — the texts without surrogates, and the coercion that lets a
  string literal stand for a text.
-/

namespace GraphPath

/-- **A code point.** Either a Unicode scalar value or one of the `2048` surrogates,
given by its distance from `U+D800`. -/
inductive CodePoint where
  | char (c : Char)
  | surrogate (offset : Fin 2048)
deriving DecidableEq, Repr

/-- **A text.** A sequence of code points; its length is its number of code points. -/
abbrev Text := List CodePoint

namespace CodePoint

/-- The number of a code point, below `0x110000`. -/
def toNat : CodePoint → Nat
  | .char c => c.toNat
  | .surrogate offset => 0xD800 + offset.val

/-- The code point of a number; a number past `U+10FFFF` has none. -/
def ofNat? (n : Nat) : Option CodePoint :=
  if h : n.isValidChar then some (.char (Char.ofNatAux n h))
  else if 0xD800 ≤ n ∧ n < 0xE000 then some (.surrogate (Fin.ofNat 2048 (n - 0xD800)))
  else none

/-- A surrogate has no UTF-8 form; every other code point has one. -/
def isSurrogate : CodePoint → Bool
  | .char _ => false
  | .surrogate _ => true

/-- The two halves of a surrogate pair name one scalar value together. -/
def ofPair? (high low : Nat) : Option CodePoint :=
  if 0xD800 ≤ high ∧ high < 0xDC00 ∧ 0xDC00 ≤ low ∧ low < 0xE000 then
    ofNat? (0x10000 + (high - 0xD800) * 0x400 + (low - 0xDC00))
  else none

@[simp] theorem toNat_char (c : Char) : (CodePoint.char c).toNat = c.toNat := rfl

@[simp] theorem toNat_surrogate (offset : Fin 2048) :
    (CodePoint.surrogate offset).toNat = 0xD800 + offset.val := rfl

end CodePoint

namespace Text

/-- **The text of a string.** Its characters, one code point each. -/
def ofString (s : String) : Text := s.toList.map .char

instance : Coe String Text := ⟨ofString⟩

/-- The string of a text, with the replacement character in place of a surrogate. -/
def toString (t : Text) : String :=
  String.ofList (t.map fun
    | .char c => c
    | .surrogate _ => '\uFFFD')

/-- The decimal digits of a natural number. -/
def ofNat (n : Nat) : Text := (Nat.toDigits 10 n).map .char

/-- The decimal digits of an integer, a minus sign in front of a negative one. -/
def ofInt : Int → Text
  | .ofNat n => ofNat n
  | .negSucc n => .char '-' :: ofNat (n + 1)

/-- The lower-case hexadecimal digits of a number, at least `width` of them. -/
def ofHex (width n : Nat) : Text :=
  let digits := Nat.toDigits 16 n
  (List.replicate (width - digits.length) '0' ++ digits).map .char

/-- The pieces with a separator between two neighbours. -/
def join (separator : Text) : List Text → Text
  | [] => []
  | [piece] => piece
  | piece :: pieces => piece ++ separator ++ join separator pieces

/-- The first piece up to a separator, and the pieces after it. -/
def splitOn (separator : CodePoint) : Text → List Text
  | [] => [[]]
  | c :: rest =>
    if c = separator then [] :: splitOn separator rest
    else match splitOn separator rest with
      | [] => [[c]]
      | piece :: pieces => (c :: piece) :: pieces

/-- A text without its first and last code points of a class. -/
def strip (isBlank : CodePoint → Bool) (t : Text) : Text :=
  ((t.dropWhile isBlank).reverse.dropWhile isBlank).reverse

end Text

end GraphPath
