import GraphPath.Json.Reader
import GraphPath.Log.Hole

/-!
# Message templates

A message can be written with holes that are filled from a list of arguments. A hole starts
with a percent sign and ends with the letter of its kind; in between may stand a name in
parentheses, flags, a width, and a point with a precision. A star in place of a size takes
the size from the arguments, before the value itself. Two percent signs are one of the
message.

If the only argument is a dictionary that is not empty, holes with names take its values, a
hole without a name takes the dictionary, and it need not be used. Any other argument must
be used, and once. Without arguments a template is the message itself, percent signs and
all.

* `Template.pieces` — the characters and holes of a template;
* `Template.fill` — the message, or why the arguments do not fit.
-/

namespace GraphPath

namespace Template

/-! ### Reading templates -/

/-- **The name in a hole**: none, one in parentheses, or one whose parentheses do not
close. -/
inductive HoleName where
  | absent
  | named (name : Text)
  | unclosed

/-- **A size in a hole**: given, or taken from the arguments. -/
inductive Size where
  | given (n : Nat)
  | taken

/-- **A hole** as it is written. If it breaks off, `ending` has the fault that stands there
instead of the kind and its place. -/
structure Hole where
  name : HoleName
  flags : Flags
  width : Option Size
  precision : Option Size
  ending : Except Fault (CodePoint × Nat)

/-- **A piece of a template.** -/
inductive Piece where
  | plain (c : CodePoint)
  | hole (h : Hole)

/-- A name up to the parenthesis that closes it, `depth` others being open. -/
def closed? (depth : Nat) : Text → Option (Text × Text)
  | [] => none
  | c :: rest =>
    if c = .char ')' then
      match depth with
      | 0 => some ([], rest)
      | depth + 1 => (closed? depth rest).map fun (name, rest) => (c :: name, rest)
    else
      (closed? (if c = .char '(' then depth + 1 else depth) rest).map
        fun (name, rest) => (c :: name, rest)

/-- The name at the front of a hole, and the rest. -/
def readName (t : Text) : HoleName × Text :=
  match t with
  | .char '(' :: rest =>
    match closed? 0 rest with
    | some (name, rest) => (.named name, rest)
    | none => (.unclosed, [])
  | _ => (.absent, t)

/-- The flags of a hole. -/
def flagMarks : Text := "-+ #0"

/-- The flags at the front of a text, in any order and number, and the rest. -/
def readFlags (t : Text) : Flags × Text :=
  let (marks, rest) := t.span fun c => flagMarks.contains c
  ({ left := marks.contains (.char '-')
     plus := marks.contains (.char '+')
     blank := marks.contains (.char ' ')
     alternate := marks.contains (.char '#')
     zeros := marks.contains (.char '0') }, rest)

/-- The size at the front of a text, and the rest. -/
def readSize (t : Text) : Option Size × Text :=
  match t with
  | .char '*' :: rest => (some .taken, rest)
  | _ =>
    let (digits, rest) := t.span Json.isDigit
    (if digits.isEmpty then none else some (.given (Json.ofDigits digits)), rest)

/-- The precision at the front of a text, and the rest. A point alone is the precision
zero. -/
def readPrecision (t : Text) : Option Size × Text :=
  match t with
  | .char '.' :: rest =>
    let (size, rest) := readSize rest
    (some (size.getD (.given 0)), rest)
  | _ => (none, t)

/-- A text behind a letter for the length of a number, which says nothing here. -/
def skipLength (t : Text) : Text :=
  match t with
  | .char 'h' :: rest | .char 'l' :: rest | .char 'L' :: rest => rest
  | _ => t

/-- The greatest width. -/
def widthLimit : Nat := 0x7FFFFFFFFFFFFFFF

/-- The greatest precision. -/
def precisionLimit : Nat := 0x7FFFFFFF

/-- Whether a size is given and past a limit. -/
def isPast (limit : Nat) : Option Size → Bool
  | some (.given n) => limit < n
  | _ => false

/-- A hole from behind its percent sign, and the rest of a template with `length` code
points. -/
def readHole (length : Nat) (t : Text) : Hole × Text :=
  let (name, t) := readName t
  let (flags, t) := readFlags t
  let (width, t) := readSize t
  let (precision, t) := readPrecision t
  -- the first thing wrong decides, and ends the template
  if name matches .unclosed then (⟨name, flags, none, none, .error .unclosedName⟩, [])
  else if isPast widthLimit width then (⟨name, flags, none, none, .error .widthTooBig⟩, [])
  else if isPast precisionLimit precision then
    (⟨name, flags, width, none, .error .precisionTooBig⟩, [])
  else match skipLength t with
    | [] => (⟨name, flags, width, precision, .error .incomplete⟩, [])
    | kind :: rest => (⟨name, flags, width, precision, .ok (kind, length - rest.length - 1)⟩, rest)

/-- The pieces of the rest of a template with `length` code points, at most so many. -/
def piecesFrom (length : Nat) : Nat → Text → List Piece
  | 0, _ | _, [] => []
  | fuel + 1, .char '%' :: .char '%' :: rest =>
    .plain (.char '%') :: piecesFrom length fuel rest
  | fuel + 1, .char '%' :: rest =>
    let (hole, rest) := readHole length rest
    .hole hole :: piecesFrom length fuel rest
  | fuel + 1, c :: rest => .plain c :: piecesFrom length fuel rest

/-- **The pieces of a template.** Each takes a code point, so the length is enough. -/
def pieces (template : Text) : List Piece := piecesFrom template.length template.length template

/-! ### Filling templates -/

/-- **What holes are filled from**: the values that are left, and the dictionary, if the
arguments are one. -/
structure Supply where
  left : List Value
  dictionary : Option (Fields Value)

namespace Supply

/-- The supply of a list of arguments. -/
def ofArguments (arguments : List Value) : Supply :=
  match arguments with
  -- the dictionary is also the one value, for a hole without a name
  | [.object (field :: fields)] => ⟨arguments, some (field :: fields)⟩
  | _ => ⟨arguments, none⟩

/-- The next value. -/
def next (supply : Supply) : Except Fault (Value × Supply) :=
  match supply.left with
  | [] => .error .tooFew
  | value :: left => .ok (value, { supply with left := left })

/-- The supply with the value under a name as the next and only one. -/
def select (supply : Supply) : HoleName → Except Fault Supply
  | .absent => .ok supply
  -- without a dictionary a name is refused before its parentheses are looked at
  | .unclosed => if supply.dictionary.isSome then .ok supply else .error .needsDictionary
  | .named name =>
    match supply.dictionary with
    | none => .error .needsDictionary
    | some fields =>
      match Fields.get? name fields with
      | some value => .ok { supply with left := [value] }
      | none => .error (.unknownName name)

/-- A size from a hole or from the arguments, which must lie within a limit. -/
def size (supply : Supply) (limit : Nat) (past : Fault) :
    Option Size → Except Fault (Option Int × Supply)
  | none => .ok (none, supply)
  | some (.given n) => .ok (some n, supply)
  | some .taken => do
    let (value, supply) ← supply.next
    let n ← match value with
      | .int n => .ok n
      | .bool b => .ok (Json.ofBool b)
      | _ => .error .notASize
    -- sizes are machine integers, which have one more below zero
    if limit < n ∨ n < -limit - 1 then .error past else .ok (some n, supply)

/-- Whether values are left that should have been used. -/
def isLeftOver (supply : Supply) : Bool := !supply.left.isEmpty && supply.dictionary.isNone

end Supply

/-- **Filling a hole.** A negative width means padding behind, and a negative precision
zero. -/
def Hole.fill (hole : Hole) (supply : Supply) : Except Fault (Text × Supply) := do
  -- the name, the width, the precision, the kind and the value are taken in this order
  let supply ← supply.select hole.name
  let (width, supply) ← supply.size widthLimit .widthTooLarge hole.width
  let (precision, supply) ← supply.size precisionLimit .precisionTooLarge hole.precision
  let (kind, index) ← hole.ending
  let (value, supply) ← supply.next
  let width := width.getD 0
  let form : Form := {
    flags := { hole.flags with left := hole.flags.left || width < 0 }
    width := width.natAbs
    precision := precision.map Int.toNat
    kind := kind
    index := index }
  .ok (← form.fill value, supply)

/-- Pieces one after another. -/
def fillPieces (supply : Supply) : List Piece → Except Fault Text
  | [] => if supply.isLeftOver then .error .tooMany else .ok []
  | .plain c :: pieces => do .ok (c :: (← fillPieces supply pieces))
  | .hole hole :: pieces => do
    let (text, supply) ← hole.fill supply
    .ok (text ++ (← fillPieces supply pieces))

/-- **Filling a template** with arguments. -/
def fill (template : Text) (arguments : List Value) : Except Fault Text :=
  if arguments.isEmpty then .ok template
  else fillPieces (Supply.ofArguments arguments) (pieces template)

end Template

end GraphPath
