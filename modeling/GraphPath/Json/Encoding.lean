import GraphPath.Json.Reader
import GraphPath.Text.Wide

/-!
# JSON as bytes

A JSON text can arrive in any of the Unicode encodings. A byte order mark decides; without
one the places of the zero bytes among the first four decide, because the first two
characters of a JSON text are ASCII.

* `Json.Encoding.detect` — the encoding of a byte sequence;
* `Json.ofBytes` — its text. Surrogates are let through in every encoding.
-/

namespace GraphPath

namespace Json

/-- **The encoding of a JSON text**, and how many bytes of mark stand in front of it. -/
inductive Encoding where
  | utf8 (mark : Nat)
  | utf16 (order : ByteOrder) (mark : Nat)
  | utf32 (order : ByteOrder) (mark : Nat)
deriving DecidableEq, Repr

/-- **Detection.** By the mark, then by the zero bytes, else UTF-8. -/
def Encoding.detect : Bytes → Encoding
  | 0xFF :: 0xFE :: 0x00 :: 0x00 :: _ => .utf32 .little 4
  | 0x00 :: 0x00 :: 0xFE :: 0xFF :: _ => .utf32 .big 4
  | 0xFF :: 0xFE :: _ => .utf16 .little 2
  | 0xFE :: 0xFF :: _ => .utf16 .big 2
  | 0xEF :: 0xBB :: 0xBF :: _ => .utf8 3
  | b₀ :: b₁ :: b₂ :: b₃ :: _ =>
    if b₀ = 0 then if b₁ = 0 then .utf32 .big 0 else .utf16 .big 0
    else if b₁ = 0 then
      if b₂ = 0 ∧ b₃ = 0 then .utf32 .little 0 else .utf16 .little 0
    else .utf8 0
  | [b₀, b₁] =>
    if b₀ = 0 then .utf16 .big 0
    else if b₁ = 0 then .utf16 .little 0
    else .utf8 0
  | _ => .utf8 0

/-- **The text of a byte sequence.** Places in faults count from behind the mark in UTF-8
and from the very start in the wide encodings. -/
def ofBytes (bytes : Bytes) : Except DecodeFault Text :=
  match Encoding.detect bytes with
  | .utf8 mark => Utf8.decode true (bytes.drop mark)
  | .utf16 order mark => Utf16.decode order mark (bytes.drop mark)
  | .utf32 order mark => Utf32.decode order mark (bytes.drop mark)

end Json

end GraphPath
