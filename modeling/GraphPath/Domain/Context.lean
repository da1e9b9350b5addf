import GraphPath.Domain.Joining

/-!
# Code points that depend on their neighbours

Some code points can stand in a label only where others stand around them: the two joiners
of cursive scripts, the middle dot of Catalan, the numeral sign of Greek, the two
punctuation marks of Hebrew, the middle dot of Japanese, and the Arabic digits, of which a
label has one kind only.

* `Context` — a code point with what stands around it;
* `Context.isAllowed` — whether it can stand there.
-/

namespace GraphPath

namespace CodePoint

/-- The letters of Greek that can stand in a label. -/
def isGreek (c : CodePoint) : Bool :=
  inRanges [(0x0371, 0x03E1), (0x03F3, 0x03FC), (0x1D26, 0x1D2A), (0x1F00, 0x1FF6),
    (0xAB65, 0xAB65)] c.toNat

/-- The letters and marks of Hebrew that can stand in a label. -/
def isHebrew (c : CodePoint) : Bool :=
  inRanges [(0x0591, 0x05F4), (0xFB1E, 0xFB1E)] c.toNat

/-- The letters of Japanese that can stand in a label: Han, Hiragana and Katakana. -/
def isJapanese (c : CodePoint) : Bool :=
  inRanges [(0x3005, 0x3005), (0x3007, 0x3007), (0x3041, 0x3096), (0x309D, 0x30FA),
    (0x30FD, 0x30FE), (0x31F0, 0x9FFF), (0xFA0E, 0xFA29), (0x16FE3, 0x16FE3),
    (0x16FF0, 0x16FF1), (0x1AFF0, 0x1B167), (0x20000, 0x3134A)] c.toNat

/-- The Arabic digits. -/
def isArabicDigit (c : CodePoint) : Bool := 0x0660 ≤ c.toNat && c.toNat ≤ 0x0669

/-- The Arabic digits of Persian and Urdu. -/
def isExtendedArabicDigit (c : CodePoint) : Bool := 0x06F0 ≤ c.toNat && c.toNat ≤ 0x06F9

end CodePoint

/-- **A code point in a label**: what stands before it, the nearest first, and what stands
behind it. -/
structure Context where
  before : Text
  point : CodePoint
  behind : Text

namespace Context

/-- The whole label. -/
def label (context : Context) : Text :=
  context.before.reverse ++ context.point :: context.behind

/-- Whether the nearest code point of a side is of a class. -/
def isNear (isOfClass : CodePoint → Bool) (side : Text) : Bool :=
  (side.head?.map isOfClass).getD false

/-- Whether the letter before silences its vowel. -/
def followsVirama (context : Context) : Bool :=
  isNear (·.combiningClass == CodePoint.viramaClass) context.before

/-- Whether the letters on both sides, marks aside, would be joined here. -/
def isBetweenJoined (context : Context) : Bool :=
  isNear CodePoint.joinsBehind (context.before.dropWhile (·.isTransparent))
    && isNear CodePoint.joinsBefore (context.behind.dropWhile (·.isTransparent))

/-- **Whether a code point that depends on its neighbours can stand where it stands.** -/
def isAllowed (context : Context) : Bool :=
  let c := context.point
  if c = .char '\u200C' then context.followsVirama || context.isBetweenJoined
  else if c = .char '\u200D' then context.followsVirama
  else if c = .char '\u00B7' then
    isNear (· == .char 'l') context.before && isNear (· == .char 'l') context.behind
  else if c = .char '\u0375' then isNear CodePoint.isGreek context.behind
  else if c = .char '\u05F3' || c = .char '\u05F4' then isNear CodePoint.isHebrew context.before
  else if c = .char '\u30FB' then context.label.any CodePoint.isJapanese
  else if c.isArabicDigit then !context.label.any CodePoint.isExtendedArabicDigit
  else if c.isExtendedArabicDigit then !context.label.any CodePoint.isArabicDigit
  else false

end Context

end GraphPath
