import GraphPath.Decimal.Shortest
import GraphPath.Json.Value

/-!
# Writing JSON

The one printer behind wire queries, string literals, result fields and log lines. The
layouts differ in separators and in whether code points past ASCII are escaped;
everything else is common.

* `Json.Layout` — `compact`, `spaced` and `spacedAscii`;
* `Json.escapedPoint` — one code point inside a string;
* `Json.quoted` — a string with its quotes;
* `Json.print` — the text that a layout gives a value;
* `Json.write` — the same as programs get it: integers with too many digits are not written.
-/

namespace GraphPath

namespace Json

/-- **What layouts differ in**: the texts between items and after names, and whether
only ASCII may be written. -/
structure Layout where
  itemSeparator : Text
  nameSeparator : Text
  asciiOnly : Bool

/-- No blanks, every code point as itself. -/
def Layout.compact : Layout := ⟨",", ":", false⟩

/-- A blank after commas and colons, every code point as itself. -/
def Layout.spaced : Layout := ⟨", ", ": ", false⟩

/-- A blank after commas and colons, escapes for everything past ASCII. -/
def Layout.spacedAscii : Layout := ⟨", ", ": ", true⟩

/-- No blanks, escapes for everything past ASCII. -/
def Layout.compactAscii : Layout := ⟨",", ":", true⟩

/-- The escape of a 16-bit unit. -/
def unicodeEscape (n : Nat) : Text := .char '\\' :: .char 'u' :: Text.ofHex 4 n

/-- **One code point of a string.** Quote and backslash take a backslash, five controls
have letters, the other controls are numbers; past ASCII the layout decides, and a
code point past `U+FFFF` is then escaped as a surrogate pair. -/
def escapedPoint (asciiOnly : Bool) (c : CodePoint) : Text :=
  if c = .char '"' then [.char '\\', .char '"']
  else if c = .char '\\' then [.char '\\', .char '\\']
  else if c = .char '\n' then [.char '\\', .char 'n']
  else if c = .char '\r' then [.char '\\', .char 'r']
  else if c = .char '\t' then [.char '\\', .char 't']
  else if c = .char '\x08' then [.char '\\', .char 'b']
  else if c = .char '\x0c' then [.char '\\', .char 'f']
  else if c.toNat < 0x20 then unicodeEscape c.toNat
  else if asciiOnly && 0x7E < c.toNat then
    -- past the first plane two units, each with its own escape
    if c.toNat < 0x10000 then unicodeEscape c.toNat
    else unicodeEscape (0xD800 + (c.toNat - 0x10000) / 0x400)
      ++ unicodeEscape (0xDC00 + (c.toNat - 0x10000) % 0x400)
  else [c]

/-- **A string with its quotes.** -/
def quoted (asciiOnly : Bool) (t : Text) : Text :=
  .char '"' :: t.flatMap (escapedPoint asciiOnly) ++ [.char '"']

/-- Numbers without digits are written by name. -/
def specials : Binary64.Specials := ⟨"Infinity", "-Infinity", "NaN"⟩

mutual

/-- **The text of a value** in a layout, however many digits its integers have. -/
def print (layout : Layout) : Json → Text
  | .null => "null"
  | .bool b => if b then "true" else "false"
  | .int n => Text.ofInt n
  | .float x => x.written specials
  | .text t => quoted layout.asciiOnly t
  | .array items => .char '[' :: printItems layout items ++ [.char ']']
  | .object fields => .char '\x7b' :: printFields layout fields ++ [.char '\x7d']

/-- The items, a separator before each but the first. -/
def printItems (layout : Layout) : List Json → Text
  | [] => []
  | item :: items => print layout item ++ printMoreItems layout items

/-- The items after the first, each with a separator in front. -/
def printMoreItems (layout : Layout) : List Json → Text
  | [] => []
  | item :: items => layout.itemSeparator ++ print layout item ++ printMoreItems layout items

/-- The fields, a separator before each but the first. -/
def printFields (layout : Layout) : List (Text × Json) → Text
  | [] => []
  | (name, value) :: fields =>
    quoted layout.asciiOnly name ++ layout.nameSeparator ++ print layout value
      ++ printMoreFields layout fields

/-- The fields after the first, each with a separator in front. -/
def printMoreFields (layout : Layout) : List (Text × Json) → Text
  | [] => []
  | (name, value) :: fields =>
    layout.itemSeparator ++ quoted layout.asciiOnly name ++ layout.nameSeparator
      ++ print layout value ++ printMoreFields layout fields

end

/-! ### Writing -/

/-- **Why a value is not written**: an integer in it has too many digits. -/
inductive Unwritable where
  | tooManyDigits
deriving DecidableEq, Repr

/-- The wording of the fault. -/
def Unwritable.message : Unwritable → Text
  | .tooManyDigits =>
    "Exceeds the limit (4300 digits) for integer string conversion; "
      ++ "use sys.set_int_max_str_digits() to increase the limit"

/-- **Writing a value** in a layout. -/
def write (layout : Layout) (v : Json) : Except Unwritable Text :=
  if v.hasOversized then .error .tooManyDigits else .ok (v.print layout)

end Json

end GraphPath
