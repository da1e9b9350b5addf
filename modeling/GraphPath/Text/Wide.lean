import GraphPath.Text.Utf8

/-!
# UTF-16 and UTF-32

The two wide encodings, in either byte order. Unpaired surrogates read as
themselves, so the only faults are a sequence that ends inside a unit and, in
UTF-32, a number past `U+10FFFF`.

* `ByteOrder` — most or least significant byte first;
* `Utf16.decode`, `Utf32.decode` — the text of the bytes, or the first fault; the
  positions in faults count from the start of the sequence that the mark, if any,
  was taken from.
-/

namespace GraphPath

/-- Which byte of a unit comes first. -/
inductive ByteOrder where
  | big
  | little
deriving DecidableEq, Repr

namespace ByteOrder

/-- The ending of the name of an encoding in this byte order. -/
def ending : ByteOrder → Text
  | .big => "be"
  | .little => "le"

/-- The number that a unit of bytes stands for. -/
def number (order : ByteOrder) (unit : Bytes) : Nat :=
  let digits := match order with
    | .big => unit
    | .little => unit.reverse
  digits.foldl (fun n b => n * 0x100 + b.toNat) 0

end ByteOrder

namespace Utf16

/-- The 16-bit units of a byte sequence. -/
def units (order : ByteOrder) (position : Nat) : Bytes → Except DecodeFault (List Nat)
  | [] => .ok []
  | [b] => .error ⟨"utf-16-" ++ order.ending, b, position, position + 1, .truncated⟩
  | b₀ :: b₁ :: rest => do .ok (order.number [b₀, b₁] :: (← units order (position + 2) rest))

/-- The code points of 16-bit units: a high and a low surrogate in a row are one code
point, and any other surrogate stands for itself. -/
def points : List Nat → Text
  | [] => []
  | [n] => (CodePoint.ofNat? n).toList
  | n :: m :: rest =>
    match CodePoint.ofPair? n m with
    | some c => c :: points rest
    | none => (CodePoint.ofNat? n).toList ++ points (m :: rest)

/-- **Decoding.** The text of a byte sequence that starts at a position. -/
def decode (order : ByteOrder) (position : Nat) (bytes : Bytes) : Except DecodeFault Text := do
  .ok (points (← units order position bytes))

end Utf16

namespace Utf32

/-- **Decoding.** The text of a byte sequence that starts at a position. -/
def decode (order : ByteOrder) (position : Nat) : Bytes → Except DecodeFault Text
  | [] => .ok []
  | b₀ :: b₁ :: b₂ :: b₃ :: rest =>
    match CodePoint.ofNat? (order.number [b₀, b₁, b₂, b₃]) with
    | none => .error ⟨"utf-32-" ++ order.ending, b₀, position, position + 4, .outOfRange⟩
    | some c => do .ok (c :: (← decode order (position + 4) rest))
  | b :: rest =>
    .error ⟨"utf-32-" ++ order.ending, b, position, position + (b :: rest).length, .truncated⟩

end Utf32

end GraphPath
