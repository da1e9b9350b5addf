import GraphPath.Text.CodePoint

/-!
# UTF-8

Texts as bytes and back. A surrogate has no UTF-8 form, so writing can fail; bytes
can be ill-formed, so reading can fail too.

* `Utf8.encode` — the bytes of a text, or the first run of surrogates in it;
* `Utf8.decode` — the text of the bytes, or the first place where they are
  ill-formed; three-byte forms of surrogates are refused or let through as asked;
* `Utf8.decodeLossy` — every maximal ill-formed run read as `U+FFFD`;
* `Utf8.encode_isOk_iff` — a text has a UTF-8 form exactly when it holds no
  surrogate.
-/

namespace GraphPath

/-- A sequence of bytes. -/
abbrev Bytes := List UInt8

/-- **Why bytes are no text.** The ways in which a byte sequence can break the rules
of its encoding. -/
inductive DecodeReason where
  | invalidStart
  | invalidContinuation
  | unexpectedEnd
  | truncated
  | outOfRange
deriving DecidableEq, Repr

/-- **A place where bytes are no text**: the name of the encoding, the offending byte
range `start … stop - 1`, the first byte of it, and the reason. -/
structure DecodeFault where
  encoding : Text
  first : UInt8
  start : Nat
  stop : Nat
  reason : DecodeReason
deriving DecidableEq, Repr

namespace DecodeReason

/-- The wording of a reason. -/
def message : DecodeReason → Text
  | .invalidStart => "invalid start byte"
  | .invalidContinuation => "invalid continuation byte"
  | .unexpectedEnd => "unexpected end of data"
  | .truncated => "truncated data"
  | .outOfRange => "code point not in range(0x110000)"

end DecodeReason

/-- A single bad byte is shown; a longer bad range is given by its first and last
positions. -/
def DecodeFault.message (fault : DecodeFault) : Text :=
  let place : Text :=
    if fault.stop = fault.start + 1 then
      "byte 0x" ++ Text.ofHex 2 fault.first.toNat ++ " in position " ++ Text.ofNat fault.start
    else
      "bytes in position " ++ Text.ofNat fault.start ++ "-" ++ Text.ofNat (fault.stop - 1)
  "'" ++ fault.encoding ++ "' codec can't decode " ++ place ++ ": " ++ fault.reason.message

namespace Utf8

/-! ### Writing -/

/-- The bytes of a scalar value, by its number. -/
def encodeScalar (n : Nat) : Bytes :=
  if n < 0x80 then [.ofNat n]
  else if n < 0x800 then [.ofNat (0xC0 + n / 0x40), .ofNat (0x80 + n % 0x40)]
  else if n < 0x10000 then
    [.ofNat (0xE0 + n / 0x1000), .ofNat (0x80 + n / 0x40 % 0x40), .ofNat (0x80 + n % 0x40)]
  else
    [.ofNat (0xF0 + n / 0x40000), .ofNat (0x80 + n / 0x1000 % 0x40),
      .ofNat (0x80 + n / 0x40 % 0x40), .ofNat (0x80 + n % 0x40)]

/-- **A run of surrogates**, which has no UTF-8 form: its first offset, its position
and its length. -/
structure EncodeFault where
  first : Fin 2048
  start : Nat
  count : Nat
deriving DecidableEq, Repr

/-- A single surrogate is shown by its number; a longer run by its positions. -/
def EncodeFault.message (fault : EncodeFault) : Text :=
  let place : Text :=
    if fault.count = 1 then
      "character '\\u" ++ Text.ofHex 4 (0xD800 + fault.first.val) ++ "' in position "
        ++ Text.ofNat fault.start
    else
      "characters in position " ++ Text.ofNat fault.start ++ "-"
        ++ Text.ofNat (fault.start + fault.count - 1)
  "'utf-8' codec can't encode " ++ place ++ ": surrogates not allowed"

/-- The bytes of a text that starts at a position. -/
def encodeFrom (position : Nat) : Text → Except EncodeFault Bytes
  | [] => .ok []
  -- the whole run of surrogates is reported, not its first one alone
  | .surrogate u :: rest => .error ⟨u, position, 1 + (rest.takeWhile (·.isSurrogate)).length⟩
  | .char c :: rest => do .ok (encodeScalar c.toNat ++ (← encodeFrom (position + 1) rest))

/-- **Encoding.** The UTF-8 form of a text, or its first run of surrogates. -/
def encode (t : Text) : Except EncodeFault Bytes := encodeFrom 0 t

theorem encodeFrom_isOk_iff (position : Nat) (t : Text) :
    (∃ bytes, encodeFrom position t = .ok bytes) ↔ ∀ c ∈ t, c.isSurrogate = false := by
  induction t generalizing position with
  | nil => simp [encodeFrom]
  | cons c rest ih =>
    cases c with
    | surrogate u => simp [encodeFrom, CodePoint.isSurrogate]
    | char c =>
      have ih := ih (position + 1)
      cases h : encodeFrom (position + 1) rest with
      | error fault =>
        simp [encodeFrom, h, bind, Except.bind, CodePoint.isSurrogate] at ih ⊢
        simpa using ih
      | ok bytes =>
        simp [encodeFrom, h, bind, Except.bind, CodePoint.isSurrogate] at ih ⊢
        simpa using ih

/-- A text has a UTF-8 form exactly when it holds no surrogate. -/
theorem encode_isOk_iff (t : Text) :
    (∃ bytes, encode t = .ok bytes) ↔ ∀ c ∈ t, c.isSurrogate = false :=
  encodeFrom_isOk_iff 0 t

/-! ### Reading -/

/-- What stands at the front of a byte sequence: the number of a code point, or a
fault, each with the number of bytes that it takes. -/
inductive Front where
  | point (n : Nat) (length : Nat)
  | bad (reason : DecodeReason) (length : Nat)
deriving DecidableEq, Repr

/-- Continuation bytes run from `0x80` to `0xBF`. -/
def isContinuation (b : UInt8) : Bool := 0x80 ≤ b && b ≤ 0xBF

/-- The six bits that a continuation byte carries. -/
def payload (b : UInt8) : Nat := b.toNat % 0x40

/-- The front of a sequence whose first byte announces three. The second byte of the
form of a surrogate is from `0xA0` on after `0xED`. -/
def frontOfThree (surrogates : Bool) (lead : Nat) : Bytes → Front
  | [] => .bad .unexpectedEnd 1
  | [b₁] =>
    if isContinuation b₁ && !(lead == 0xE0 && b₁ < 0xA0) && !(lead == 0xED && 0xA0 ≤ b₁) then
      .bad .unexpectedEnd 2
    else .bad .invalidContinuation 1
  | b₁ :: b₂ :: _ =>
    let n := (lead - 0xE0) * 0x1000 + payload b₁ * 0x40 + payload b₂
    if !isContinuation b₁ || (lead == 0xE0 && b₁ < 0xA0) then .bad .invalidContinuation 1
    else if lead == 0xED && 0xA0 ≤ b₁ then
      -- the form of a surrogate is taken as one code point or breaks at its second byte
      if surrogates && isContinuation b₂ then .point n 3 else .bad .invalidContinuation 1
    else if isContinuation b₂ then .point n 3
    else .bad .invalidContinuation 2

/-- The front of a sequence whose first byte announces four. -/
def frontOfFour (lead : Nat) : Bytes → Front
  | [] => .bad .unexpectedEnd 1
  | b₁ :: rest =>
    -- forms that are too long, and numbers past the last code point, break at the second byte
    if !isContinuation b₁ || (lead == 0xF0 && b₁ < 0x90) || (lead == 0xF4 && 0x90 ≤ b₁) then
      .bad .invalidContinuation 1
    else match rest with
      | [] => .bad .unexpectedEnd 2
      | b₂ :: rest =>
        if !isContinuation b₂ then .bad .invalidContinuation 2
        else match rest with
          | [] => .bad .unexpectedEnd 3
          | b₃ :: _ =>
            if isContinuation b₃ then
              .point ((lead - 0xF0) * 0x40000 + payload b₁ * 0x1000 + payload b₂ * 0x40
                + payload b₃) 4
            else .bad .invalidContinuation 3

/-- The front of a sequence with first byte `b`. -/
def front (surrogates : Bool) (b : UInt8) (rest : Bytes) : Front :=
  let lead := b.toNat
  if lead < 0x80 then .point lead 1
  -- a continuation byte, or the first byte of a form that is too long
  else if lead < 0xC2 then .bad .invalidStart 1
  else if lead < 0xE0 then
    match rest with
    | [] => .bad .unexpectedEnd 1
    | b₁ :: _ =>
      if isContinuation b₁ then .point ((lead - 0xC0) * 0x40 + payload b₁) 2
      else .bad .invalidContinuation 1
  else if lead < 0xF0 then frontOfThree surrogates lead rest
  else if lead < 0xF5 then frontOfFour lead rest
  else .bad .invalidStart 1

/-- Decoding from a position, with `skip` bytes of the code point before still to pass. -/
def decodeFrom (surrogates : Bool) (position : Nat) (skip : Nat) :
    Bytes → Except DecodeFault Text
  | [] => .ok []
  | b :: rest =>
    match skip with
    | skip + 1 => decodeFrom surrogates (position + 1) skip rest
    | 0 =>
      match front surrogates b rest with
      | .bad reason length => .error ⟨"utf-8", b, position, position + length, reason⟩
      | .point n length =>
        -- the front has checked the range, so this refuses nothing
        match CodePoint.ofNat? n with
        | none => .error ⟨"utf-8", b, position, position + length, .outOfRange⟩
        | some c => do .ok (c :: (← decodeFrom surrogates (position + 1) (length - 1) rest))

/-- **Decoding.** The text of a byte sequence; `surrogates` lets the three-byte forms
of surrogates through. -/
def decode (surrogates : Bool) (bytes : Bytes) : Except DecodeFault Text :=
  decodeFrom surrogates 0 0 bytes

/-- Lossy decoding with `skip` bytes still to pass. -/
def decodeLossyFrom (skip : Nat) : Bytes → Text
  | [] => []
  | b :: rest =>
    match skip with
    | skip + 1 => decodeLossyFrom skip rest
    | 0 =>
      match front false b rest with
      | .bad _ length => .char '\uFFFD' :: decodeLossyFrom (length - 1) rest
      | .point n length =>
        ((CodePoint.ofNat? n).getD (.char '\uFFFD')) :: decodeLossyFrom (length - 1) rest

/-- **Lossy decoding.** Every maximal ill-formed run reads as one `U+FFFD`. -/
def decodeLossy (bytes : Bytes) : Text := decodeLossyFrom 0 bytes

end Utf8

end GraphPath
