import GraphPath.Text.Printable

/-!
# Quoted texts

How a text is shown inside a message: in quotes, with everything that cannot stand
for itself escaped. Single quotes are used unless the text holds a single quote and
no double quote.

* `Text.quoteMark` — the quote in use;
* `Text.quotedPoint` — the form of one code point;
* `Text.quoted` — the quoted form of a text.
-/

namespace GraphPath

namespace Text

/-- Double quotes only where they save an escape: the text holds a single quote and
no double quote. -/
def quoteMark (t : Text) : CodePoint :=
  if CodePoint.char '\'' ∈ t ∧ CodePoint.char '"' ∉ t then .char '"' else .char '\''

/-- **One code point in quotes.** The quote in use and the backslash take a backslash,
the three common controls have letters, printable code points stand for themselves,
and the rest are numbers of two, four or eight hexadecimal digits. -/
def quotedPoint (mark c : CodePoint) : Text :=
  if c = mark ∨ c = .char '\\' then [.char '\\', c]
  else if c = .char '\t' then "\\t"
  else if c = .char '\n' then "\\n"
  else if c = .char '\r' then "\\r"
  else if c.isPrintable then [c]
  else if c.toNat < 0x100 then "\\x" ++ ofHex 2 c.toNat
  else if c.toNat < 0x10000 then "\\u" ++ ofHex 4 c.toNat
  else "\\U" ++ ofHex 8 c.toNat

/-- **The quoted form of a text.** -/
def quoted (t : Text) : Text :=
  let mark := quoteMark t
  mark :: t.flatMap (quotedPoint mark) ++ [mark]

end Text

end GraphPath
