import GraphPath.Text.Utf8
import Mathlib.Tactic.SplitIfs

/-!
# Texts come back from their bytes

A text that has a UTF-8 form is read back from it, by the strict reader, by the one that lets
surrogates through, and by the one that never fails. The form of a scalar value is its own front,
whatever stands behind it.

* `Utf8.front_encodeScalar` — the form of one scalar value at the front of bytes;
* `Utf8.decode_encode`, `Utf8.decodeLossy_encode` — whole texts.
-/

namespace GraphPath

theorem CodePoint.ofNat?_char (c : Char) : ofNat? c.toNat = some (.char c) := by
  have hvalid : Nat.isValidChar c.toNat := c.valid
  rw [ofNat?, dif_pos hvalid]
  rfl

namespace Utf8

/-! ### Bytes -/

theorem toNat_ofNat_of_lt {n : Nat} (h : n < 0x100) : (UInt8.ofNat n).toNat = n := by
  rw [UInt8.toNat_ofNat']
  exact Nat.mod_eq_of_lt h

theorem toNat_continuation (x : Nat) : (UInt8.ofNat (0x80 + x % 0x40)).toNat = 0x80 + x % 0x40 :=
  toNat_ofNat_of_lt (by omega)

/-- A continuation byte is one. -/
theorem isContinuation_continuation (x : Nat) :
    isContinuation (UInt8.ofNat (0x80 + x % 0x40)) = true := by
  simp only [isContinuation, Bool.and_eq_true, decide_eq_true_eq, UInt8.le_iff_toNat_le,
    toNat_continuation x]
  exact ⟨Nat.le_add_right _ _, by change _ ≤ 191; omega⟩

/-- A continuation byte carries six bits. -/
theorem payload_continuation (x : Nat) : payload (UInt8.ofNat (0x80 + x % 0x40)) = x % 0x40 := by
  rw [payload, toNat_continuation]
  omega

/-! ### The front of an encoded scalar value -/

variable {n : Nat} (surrogates : Bool) (rest : Bytes)

theorem front_two (hlow : 0x80 ≤ n) (hhigh : n < 0x800) :
    front surrogates (.ofNat (0xC0 + n / 0x40)) (.ofNat (0x80 + n % 0x40) :: rest)
      = .point n 2 := by
  have hlead : (UInt8.ofNat (0xC0 + n / 0x40)).toNat = 0xC0 + n / 0x40 :=
    toNat_ofNat_of_lt (by omega)
  simp only [front, hlead, isContinuation_continuation, payload_continuation, if_true]
  -- the first byte is no ASCII, no continuation and the lead of two bytes
  rw [if_neg (by omega), if_neg (by omega), if_pos (by omega)]
  congr 1
  omega

/-- The second byte of three is not one that would make a shorter form or a surrogate. -/
theorem front_three (hlow : 0x800 ≤ n) (hhigh : n < 0x10000) (hscalar : n < 0xD800 ∨ 0xDFFF < n) :
    front surrogates (.ofNat (0xE0 + n / 0x1000))
      (.ofNat (0x80 + n / 0x40 % 0x40) :: .ofNat (0x80 + n % 0x40) :: rest) = .point n 3 := by
  have hlead : (UInt8.ofNat (0xE0 + n / 0x1000)).toNat = 0xE0 + n / 0x1000 :=
    toNat_ofNat_of_lt (by omega)
  simp only [front, hlead]
  rw [if_neg (by omega), if_neg (by omega), if_neg (by omega), if_pos (by omega), frontOfThree]
  simp only [isContinuation_continuation, payload_continuation, UInt8.lt_iff_toNat_lt,
    UInt8.le_iff_toNat_le, toNat_continuation (n / 0x40)]
  -- neither a shorter form nor a surrogate, and three bytes in all
  rw [if_neg, if_neg, if_pos trivial]
  · congr 1
    omega
  · simp only [Bool.and_eq_true, beq_iff_eq, decide_eq_true_eq]
    change ¬(_ ∧ 160 ≤ _)
    omega
  · simp only [Bool.not_true, Bool.false_or, Bool.and_eq_true, beq_iff_eq, decide_eq_true_eq]
    change ¬(_ ∧ _ < 160)
    omega

theorem front_four (hlow : 0x10000 ≤ n) (hhigh : n < 0x110000) :
    front surrogates (.ofNat (0xF0 + n / 0x40000))
      (.ofNat (0x80 + n / 0x1000 % 0x40) :: .ofNat (0x80 + n / 0x40 % 0x40)
        :: .ofNat (0x80 + n % 0x40) :: rest) = .point n 4 := by
  have hlead : (UInt8.ofNat (0xF0 + n / 0x40000)).toNat = 0xF0 + n / 0x40000 :=
    toNat_ofNat_of_lt (by omega)
  simp only [front, hlead]
  rw [if_neg (by omega), if_neg (by omega), if_neg (by omega), if_neg (by omega),
    if_pos (by omega), frontOfFour]
  simp only [isContinuation_continuation, payload_continuation, UInt8.lt_iff_toNat_lt,
    UInt8.le_iff_toNat_le, toNat_continuation (n / 0x1000)]
  -- neither a shorter form nor beyond the last code point
  rw [if_neg]
  · simp only [Bool.not_true, Bool.false_eq_true, if_false, if_true]
    congr 1
    omega
  · simp only [Bool.not_true, Bool.false_or, Bool.or_eq_true, Bool.and_eq_true, beq_iff_eq,
      decide_eq_true_eq]
    change ¬(_ ∧ _ < 144 ∨ _ ∧ 144 ≤ _)
    omega

/-- **The form of a scalar value** is its own front. -/
theorem front_encodeScalar (c : Char) :
    ∃ b tail, encodeScalar c.toNat = b :: tail ∧
      front surrogates b (tail ++ rest) = .point c.toNat (tail.length + 1) := by
  have hvalid : c.toNat < 0xD800 ∨ 0xDFFF < c.toNat ∧ c.toNat < 0x110000 := c.valid
  rw [encodeScalar]
  split_ifs with hone htwo hthree
  · refine ⟨_, [], rfl, ?_⟩
    simp only [front, toNat_ofNat_of_lt (Nat.lt_trans hone (by decide)), if_pos hone]
    rfl
  · exact ⟨_, [_], rfl, front_two surrogates rest (by omega) htwo⟩
  · exact ⟨_, [_, _], rfl, front_three surrogates rest (by omega) hthree (by omega)⟩
  · exact ⟨_, [_, _, _], rfl, front_four surrogates rest (by omega) (by omega)⟩

/-! ### Whole texts -/

theorem decodeFrom_skip (position : Nat) (tail : Bytes) :
    decodeFrom surrogates position tail.length (tail ++ rest)
      = decodeFrom surrogates (position + tail.length) 0 rest := by
  -- on the bytes that belong to the code point in front of them
  induction tail generalizing position with
  | nil => rfl
  | cons b tail ih =>
    rw [List.length_cons, List.cons_append, decodeFrom, ih, Nat.add_assoc, Nat.add_comm 1]

theorem decodeFrom_encodeScalar (position : Nat) (c : Char) : ∃ next,
    decodeFrom surrogates position 0 (encodeScalar c.toNat ++ rest)
      = (decodeFrom surrogates next 0 rest).map (.char c :: ·) := by
  obtain ⟨b, tail, hbytes, hfront⟩ := front_encodeScalar surrogates rest c
  refine ⟨position + 1 + tail.length, ?_⟩
  rw [hbytes, List.cons_append, decodeFrom]
  simp only [hfront, CodePoint.ofNat?_char, Nat.add_sub_cancel, decodeFrom_skip]
  cases decodeFrom surrogates (position + 1 + tail.length) 0 rest <;> rfl

theorem decodeLossyFrom_skip (tail : Bytes) :
    decodeLossyFrom tail.length (tail ++ rest) = decodeLossyFrom 0 rest := by
  induction tail with
  | nil => rfl
  | cons b tail ih => rw [List.length_cons, List.cons_append, decodeLossyFrom, ih]

theorem decodeLossyFrom_encodeScalar (c : Char) :
    decodeLossyFrom 0 (encodeScalar c.toNat ++ rest) = .char c :: decodeLossyFrom 0 rest := by
  obtain ⟨b, tail, hbytes, hfront⟩ := front_encodeScalar false rest c
  rw [hbytes, List.cons_append, decodeLossyFrom]
  simp only [hfront, CodePoint.ofNat?_char, Nat.add_sub_cancel, decodeLossyFrom_skip,
    Option.getD_some]

/-- The bytes of a text come one scalar value after the other. -/
theorem encodeFrom_cons {c : CodePoint} {t : Text} {bytes : Bytes} {position : Nat}
    (h : encodeFrom position (c :: t) = .ok bytes) :
    ∃ scalar more, c = .char scalar ∧ encodeFrom (position + 1) t = .ok more ∧
      bytes = encodeScalar scalar.toNat ++ more := by
  -- a surrogate has no form, so there is a scalar value in front
  cases c with
  | surrogate u => cases h
  | char scalar =>
    cases hmore : encodeFrom (position + 1) t with
    | error fault =>
      rw [encodeFrom, hmore] at h
      cases h
    | ok more =>
      rw [encodeFrom, hmore] at h
      cases h
      exact ⟨scalar, more, rfl, rfl, rfl⟩

variable {surrogates} {t : Text} {bytes : Bytes}

theorem decodeFrom_encodeFrom {start position : Nat} (h : encodeFrom start t = .ok bytes) :
    decodeFrom surrogates position 0 bytes = .ok t := by
  -- on the text: its first scalar value is the front of the bytes
  induction t generalizing bytes start position with
  | nil =>
    cases h
    rfl
  | cons c t ih =>
    obtain ⟨scalar, more, rfl, hmore, rfl⟩ := encodeFrom_cons h
    obtain ⟨next, hnext⟩ := decodeFrom_encodeScalar surrogates more position scalar
    rw [hnext, ih hmore]
    rfl

/-- **Reading back a text** from its bytes. -/
theorem decode_encode (h : encode t = .ok bytes) : decode surrogates bytes = .ok t :=
  decodeFrom_encodeFrom h

theorem decodeLossyFrom_encodeFrom {start : Nat} (h : encodeFrom start t = .ok bytes) :
    decodeLossyFrom 0 bytes = t := by
  induction t generalizing bytes start with
  | nil =>
    cases h
    rfl
  | cons c t ih =>
    obtain ⟨scalar, more, rfl, hmore, rfl⟩ := encodeFrom_cons h
    rw [decodeLossyFrom_encodeScalar, ih hmore]

/-- Nothing is lost of the bytes of a text. -/
theorem decodeLossy_encode (h : encode t = .ok bytes) : decodeLossy bytes = t :=
  decodeLossyFrom_encodeFrom h

end Utf8

end GraphPath
