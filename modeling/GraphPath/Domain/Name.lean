import GraphPath.Domain.Label

/-!
# Domain names

A domain name is a sequence of labels with dots between them; a dot may end it. Besides the
full stop there are three dots of East Asian scripts.

* `DomainName.labels` — the labels of a name;
* `DomainName.toAscii?` — the ASCII form of a name.
-/

namespace GraphPath

namespace DomainName

/-- The dots between labels. -/
def isDot (c : CodePoint) : Bool :=
  c = .char '.' || c = .char '。' || c = .char '．' || c = .char '｡'

/-- **The labels of a name**, between its dots. -/
def labels : Text → List Text
  | [] => [[]]
  | c :: rest =>
    if isDot c then [] :: labels rest
    else match labels rest with
      | [] => [[c]]
      | label :: labels => (c :: label) :: labels

/-- The longest name, a dot at its end not counted. -/
def lengthLimit : Nat := 253

/-- The ASCII form of labels with full stops between them, if it is not too long. -/
def joinAscii? (labels : List Text) : Option Text := do
  let name := Text.join "." (← labels.mapM Label.toAscii?)
  if name.length ≤ lengthLimit then some name else none

/-- **The ASCII form of a name**, if all of its labels have one. A dot at the end stays. -/
def toAscii? (name : Text) : Option Text :=
  if name.isEmpty || lengthLimit + 1 < name.length then none
  else
    let pieces := labels name
    if pieces.getLast? = some [] then (joinAscii? pieces.dropLast).map (· ++ ".")
    else joinAscii? pieces

end DomainName

end GraphPath
