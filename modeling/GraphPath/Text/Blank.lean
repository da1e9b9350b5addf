import GraphPath.Text.CodePoint

/-!
# Blanks and cases

Three classes of blanks and the two case maps that the library needs.

* `CodePoint.isWhiteSpace` — the code points with the Unicode property White_Space;
* `CodePoint.isSpacing` — these and the four information separators;
* `CodePoint.isLineSpacing` — spacing other than line feed and carriage return;
* `Text.lower` — capital ASCII letters made small;
* `Text.upper` — small letters made capital, where the capital is an ASCII letter.
-/

namespace GraphPath

namespace CodePoint

/-- **White space**, by the Unicode property. -/
def isWhiteSpace (c : CodePoint) : Bool :=
  let n := c.toNat
  (0x09 ≤ n && n ≤ 0x0D) || n == 0x20 || n == 0x85 || n == 0xA0 || n == 0x1680
    || (0x2000 ≤ n && n ≤ 0x200A) || n == 0x2028 || n == 0x2029 || n == 0x202F
    || n == 0x205F || n == 0x3000

/-- **Spacing**: white space and the information separators `U+001C` to `U+001F`. -/
def isSpacing (c : CodePoint) : Bool :=
  c.isWhiteSpace || (0x1C ≤ c.toNat && c.toNat ≤ 0x1F)

/-- The ends of lines. -/
def isLineEnd (c : CodePoint) : Bool := c = .char '\n' || c = .char '\r'

/-- **Spacing within a line.** -/
def isLineSpacing (c : CodePoint) : Bool := c.isSpacing && !c.isLineEnd

/-- A capital ASCII letter made small. -/
def lower : CodePoint → CodePoint
  | .char c => .char c.toLower
  | .surrogate u => .surrogate u

/-- A small letter made capital. Besides the small ASCII letters, the dotless `ı` and the
long `ſ` have ASCII capitals. -/
def upper : CodePoint → CodePoint
  | .char c =>
    if c = 'ı' then .char 'I' else if c = 'ſ' then .char 'S' else .char c.toUpper
  | .surrogate u => .surrogate u

end CodePoint

namespace Text

/-- A text with its capital ASCII letters made small. -/
def lower (t : Text) : Text := t.map CodePoint.lower

/-- A text with its small letters made capital, where the capital is an ASCII letter. -/
def upper (t : Text) : Text := t.map CodePoint.upper

end Text

end GraphPath
