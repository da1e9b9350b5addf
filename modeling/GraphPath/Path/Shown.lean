import GraphPath.Decimal.Shortest
import GraphPath.Json.Value
import GraphPath.Path.Expression
import GraphPath.Text.Quoted

/-!
# How values are shown

The text of a value inside a message. Plain data look like literals, selectors and
expressions like the call that makes them, and a step like its kind applied to its
operands.

* `Value.shown` — the text of any value;
* `Value.isOversized` — whether there is none, for an integer in the value is too long;
* `Value.plainText` — the same, except that a text stands for itself;
* `Value.ofJson` — JSON data as a value.
-/

namespace GraphPath

namespace Value

mutual

/-- **JSON data as a value**: an array is a list and an object a dictionary. -/
def ofJson : Json → Value
  | .null => .null
  | .bool b => .bool b
  | .int n => .int n
  | .float x => .float x
  | .text t => .text t
  | .array items => .list (ofJsonItems items)
  | .object fields => .object (ofJsonFields fields)

/-- The items of an array as values. -/
def ofJsonItems : List Json → List Value
  | [] => []
  | item :: items => ofJson item :: ofJsonItems items

/-- The fields of an object as values. -/
def ofJsonFields : List (Text × Json) → List (Text × Value)
  | [] => []
  | (name, value) :: fields => (name, ofJson value) :: ofJsonFields fields

end

/-- Numbers without digits are shown by a lower-case word. -/
def specials : Binary64.Specials := ⟨"inf", "-inf", "nan"⟩

/-- A sequence in parentheses: a single item keeps a comma behind it. -/
def shownTuple : List Text → Text
  | [] => "()"
  | [item] => "(" ++ item ++ ",)"
  | items => "(" ++ Text.join ", " items ++ ")"

/-- A sequence of names in parentheses. -/
def shownNames (names : Names) : Text := shownTuple (names.texts.map Text.quoted)

/-- A node selector as it is shown. -/
def shownNodes : NodeSelector → Text
  | .any => "AnyNode"
  | .one id => "Node(id=" ++ id.text.quoted ++ ")"
  | .many ids => "NodeSet(ids=" ++ shownNames ids ++ ")"

/-- A selector as it is shown. -/
def shownSelector : Selector → Text
  | .nodes nodes => shownNodes nodes
  | .predicate name => "Predicate(name=" ++ name.text.quoted ++ ")"
  | .predicates names => "PredicateSet(names=" ++ shownNames names ++ ")"
  | .tags (.one tag) => "Tag(name=" ++ tag.text.quoted ++ ")"
  | .tags (.many tags) => "TagSet(names=" ++ shownNames tags ++ ")"

/-- The name of a morphism as it is shown. -/
def shownName : Option Name → Text
  | none => "None"
  | some name => name.text.quoted

mutual

/-- **The text of a value** inside a message. -/
def shown : Value → Text
  | .null => "None"
  | .bool b => if b then "True" else "False"
  | .int n => Text.ofInt n
  | .float x => x.written specials
  | .text t => t.quoted
  | .list items => "[" ++ Text.join ", " (shownItems items) ++ "]"
  | .tuple items => shownTuple (shownItems items)
  | .object fields => "\x7b" ++ Text.join ", " (shownFields fields) ++ "\x7d"
  | .selector s => shownSelector s
  | .kind k => "<StepKind." ++ k.constant ++ ": " ++ k.name.quoted ++ ">"
  | .step s => shownStep s
  | .morphismRef r => shownRef r
  | .path ⟨steps⟩ => "Path(steps=" ++ shownTuple (shownSteps steps) ++ ")"
  | .morphism ⟨name, steps⟩ =>
    "Morphism(name=" ++ shownName name ++ ", steps=" ++ shownTuple (shownSteps steps) ++ ")"
  | .vertex v => shownVertex v
  | .query ⟨v, f⟩ => "Query(vertex=" ++ shownVertex v ++ ", final=" ++ shownFinal f ++ ")"
  | .final f => shownFinal f

/-- The texts of the items of a sequence. -/
def shownItems : List Value → List Text
  | [] => []
  | item :: items => shown item :: shownItems items

/-- The texts of the entries of a dictionary. -/
def shownFields : List (Text × Value) → List Text
  | [] => []
  | (name, value) :: fields => (name.quoted ++ ": " ++ shown value) :: shownFields fields

/-- A step: its kind applied to its operands. -/
def shownStep : Step → Text
  | ⟨k, operands⟩ => k.name ++ "(" ++ Text.join ", " (shownItems operands) ++ ")"

/-- The texts of steps. -/
def shownSteps : List Step → List Text
  | [] => []
  | s :: steps => shownStep s :: shownSteps steps

/-- A reference to a morphism. -/
def shownRef : MorphismRef → Text
  | ⟨name, none⟩ => "MorphismRef(name=" ++ shown name ++ ", expected=None)"
  | ⟨name, some steps⟩ =>
    "MorphismRef(name=" ++ shown name ++ ", expected=" ++ shownTuple (shownItems steps) ++ ")"

/-- A vertex. -/
def shownVertex : Vertex → Text
  | ⟨start, steps⟩ =>
    "Vertex(start=" ++ shownNodes start ++ ", steps=" ++ shownTuple (shownSteps steps) ++ ")"

/-- A finalizer. -/
def shownFinal : Final → Text
  | .all => "All()"
  | .getLimit limit => "GetLimit(limit=" ++ shown limit ++ ")"

end

/-! ### Values that cannot be shown -/

mutual

/-- **Whether a value cannot be shown**: an integer in it has too many digits. -/
def isOversized : Value → Bool
  | .int n => Json.isOversized n
  | .list items | .tuple items => isOversizedItems items
  | .object fields => isOversizedFields fields
  | .step s => isOversizedStep s
  | .morphismRef ⟨name, none⟩ => isOversized name
  | .morphismRef ⟨name, some steps⟩ => isOversized name || isOversizedItems steps
  | .path ⟨steps⟩ | .morphism ⟨_, steps⟩ | .vertex ⟨_, steps⟩ => isOversizedSteps steps
  | .query ⟨⟨_, steps⟩, f⟩ => isOversizedSteps steps || isOversizedFinal f
  | .final f => isOversizedFinal f
  -- a float has few digits, and the others have no integers in them
  | .null | .bool _ | .float _ | .text _ | .selector _ | .kind _ => false

/-- Whether some item of a sequence cannot be shown. -/
def isOversizedItems : List Value → Bool
  | [] => false
  | item :: items => isOversized item || isOversizedItems items

/-- Whether some value of a dictionary cannot be shown. -/
def isOversizedFields : List (Text × Value) → Bool
  | [] => false
  | (_, value) :: fields => isOversized value || isOversizedFields fields

/-- Whether some operand of a step cannot be shown. -/
def isOversizedStep : Step → Bool
  | ⟨_, operands⟩ => isOversizedItems operands

/-- Whether some step cannot be shown. -/
def isOversizedSteps : List Step → Bool
  | [] => false
  | s :: steps => isOversizedStep s || isOversizedSteps steps

/-- Whether a finalizer cannot be shown. -/
def isOversizedFinal : Final → Bool
  | .all => false
  | .getLimit limit => isOversized limit

end

/-! ### Running text -/

/-- **The text of a value in running text**: a text stands for itself. -/
def plainText : Value → Text
  | .text t => t
  -- a kind in running text has no angle brackets and no name
  | .kind k => "StepKind." ++ k.constant
  | value => value.shown

end Value

end GraphPath
