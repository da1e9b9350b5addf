import GraphPath.Domain.Composed
import GraphPath.Domain.Context
import GraphPath.Domain.Direction
import GraphPath.Domain.Point
import GraphPath.Domain.Punycode

/-!
# Labels

A label is a part of a domain name between dots. A label of ASCII characters stands for
itself; one that starts with `xn--` is the ASCII form of another, which has to be a label
too. Any other label has its ASCII form in its place.

* `Label.isValid` — the rules for labels;
* `Label.toAscii?` — the ASCII form of a label.
-/

namespace GraphPath

namespace Label

/-- The longest label before it is written in ASCII. -/
def lengthLimit : Nat := 254

/-- The longest label in ASCII. -/
def asciiLimit : Nat := 63

/-- What the ASCII form of a label starts with. -/
def mark : Text := "xn--"

/-- Whether a label has no hyphen at an end or at its third and fourth place. -/
def hasPlainHyphens (label : Text) : Bool :=
  label.head? != some (.char '-') && label.getLast? != some (.char '-')
    && (label.drop 2).take 2 != "--"

/-- Whether the rest of a label has only code points that can stand where they stand;
`before` is what stands before it, the nearest first. -/
def hasPoints (before : Text) : Text → Bool
  | [] => true
  | c :: rest =>
    (c.isLabelPoint || (Context.mk before c rest).isAllowed) && hasPoints (c :: before) rest

/-- **A label**: code points that can stand where they stand, in composed form, not
starting with a mark, with no hyphens at the wrong places, of consistent directions. -/
def isValid (label : Text) : Bool :=
  !label.isEmpty && label.length ≤ lengthLimit && hasPoints [] label
    && hasPlainHyphens label && !(label.head?.map CodePoint.isMark).getD false
    && label.isComposed && Direction.isConsistent (label.map CodePoint.direction)

/-- Whether a label of ASCII characters is valid, or is the ASCII form of one that is. -/
def isValidAscii (label : Text) : Bool :=
  if mark.isPrefixOf label then
    let form := label.drop mark.length
    form.getLast?.isSome && form.getLast? != some (.char '-')
      && ((Punycode.decode? form).map isValid).getD false
  else isValid label

/-- **The ASCII form of a label**, if it has one. -/
def toAscii? (label : Text) : Option Text :=
  let isAscii := label.all Punycode.isBasic
  let form := if isAscii then label else mark ++ Punycode.encode label
  if (if isAscii then isValidAscii label else isValid label) && form.length ≤ asciiLimit then
    some form
  else none

end Label

end GraphPath
