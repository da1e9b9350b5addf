import GraphPath.Gremlin
import GraphPath.Proofs.Json.Printing

/-!
# String literals of scripts

The server takes a program for a script. A script is a sequence of 16-bit units, and its string
literals are close to those of JSON but not the same: a script has more escapes, and a literal ends
at four code points that end a line, of which JSON allows two as they are. Hence a name that is
written as JSON denotes itself in a script just if it holds neither the line separator nor the
paragraph separator.

* `CodePoint.units`, `Text.units` — code points as 16-bit units;
* `CodePoint.isSeparator`, `CodePoint.isLineTerminator` — code points that end a line;
* `Script.Denotes` — what stands between the double quotes of a literal, by the productions of
  ECMAScript 5.1 (section 7.8.4);
* `Script.Literal` — literals in double quotes;
* `Script.literal_iff` — what the literal of a name denotes.
-/

namespace GraphPath

namespace CodePoint

/-- **The 16-bit units of a code point**: itself, or the two surrogates of one past `U+FFFF`. -/
def units (c : CodePoint) : List Nat :=
  if c.toNat < 0x10000 then [c.toNat]
  else [0xD800 + (c.toNat - 0x10000) / 0x400, 0xDC00 + (c.toNat - 0x10000) % 0x400]

/-- **The separators** of lines and of paragraphs. -/
def isSeparator (c : CodePoint) : Bool := c.toNat == 0x2028 || c.toNat == 0x2029

/-- **Code points that end a line** of a script. -/
def isLineTerminator (c : CodePoint) : Bool :=
  c == .char '\n' || c == .char '\r' || c.isSeparator

variable {c : CodePoint}

theorem units_of_lt (h : c.toNat < 0x10000) : c.units = [c.toNat] := if_pos h

theorem isSeparator_of_lt (h : c.toNat < 0x2028) : c.isSeparator = false := by
  have hline : c.toNat ≠ 0x2028 := Nat.ne_of_lt h
  have hparagraph : c.toNat ≠ 0x2029 := Nat.ne_of_lt (Nat.lt_succ_of_lt h)
  simp [isSeparator, hline, hparagraph]

/-- Past the controls only the separators end a line. -/
theorem isLineTerminator_of_le (h : 0x20 ≤ c.toNat) : c.isLineTerminator = c.isSeparator := by
  have hfeed : c ≠ .char '\n' := by
    rintro rfl
    exact absurd h (by decide)
  have hreturn : c ≠ .char '\r' := by
    rintro rfl
    exact absurd h (by decide)
  simp [isLineTerminator, hfeed, hreturn]

end CodePoint

/-- **The 16-bit units of a text.** -/
def Text.units (t : Text) : List Nat := t.flatMap CodePoint.units

namespace Script

/-! ### The grammar -/

/-- The unit that a letter or mark behind a backslash stands for (*SingleEscapeCharacter*). -/
def single? : CodePoint → Option Nat
  | .char '\'' => some 0x27
  | .char '"' => some 0x22
  | .char '\\' => some 0x5C
  | .char 'b' => some 0x08
  | .char 't' => some 0x09
  | .char 'n' => some 0x0A
  | .char 'v' => some 0x0B
  | .char 'f' => some 0x0C
  | .char 'r' => some 0x0D
  | _ => none

/-- Code points that stand for themselves behind a backslash (*NonEscapeCharacter*). -/
def isPlain (c : CodePoint) : Bool :=
  (single? c).isNone && !Json.isDigit c && c != .char 'x' && c != .char 'u'
    && !c.isLineTerminator

/-- **What stands between double quotes**, and the units that it denotes
(*DoubleStringCharacters*). -/
inductive Denotes : Text → List Nat → Prop
  | nil : Denotes [] []
  | point {c : CodePoint} {t : Text} {u : List Nat} (hquote : c ≠ .char '"')
      (hbackslash : c ≠ .char '\\') (hline : c.isLineTerminator = false) (h : Denotes t u) :
      Denotes (c :: t) (c.units ++ u)
  | single {c : CodePoint} {t : Text} {u : List Nat} {n : Nat} (hsingle : single? c = some n)
      (h : Denotes t u) : Denotes (.char '\\' :: c :: t) (n :: u)
  | plain {c : CodePoint} {t : Text} {u : List Nat} (hplain : isPlain c = true)
      (h : Denotes t u) : Denotes (.char '\\' :: c :: t) (c.units ++ u)
  -- a zero that no digit follows
  | zero {t : Text} {u : List Nat} (hnext : ∀ c rest, t = c :: rest → Json.isDigit c = false)
      (h : Denotes t u) : Denotes (.char '\\' :: .char '0' :: t) (0 :: u)
  | hex {a b : CodePoint} {t : Text} {u : List Nat} {m n : Nat} (ha : Json.hexDigit? a = some m)
      (hb : Json.hexDigit? b = some n) (h : Denotes t u) :
      Denotes (.char '\\' :: .char 'x' :: a :: b :: t) ((m * 16 + n) :: u)
  | unit {digits t : Text} {u : List Nat} {n : Nat} (hdigits : Json.SpellsUnit digits n)
      (h : Denotes t u) : Denotes (.char '\\' :: .char 'u' :: (digits ++ t)) (n :: u)
  -- a line that goes on in the next one (*LineContinuation*)
  | continued {c : CodePoint} {t : Text} {u : List Nat} (hline : c.isLineTerminator = true)
      (hbreak : c = .char '\r' → t.head? ≠ some (.char '\n')) (h : Denotes t u) :
      Denotes (.char '\\' :: c :: t) u
  | continuedBreak {t : Text} {u : List Nat} (h : Denotes t u) :
      Denotes (.char '\\' :: .char '\r' :: .char '\n' :: t) u

/-- **A literal in double quotes**, and the units that it denotes. -/
def Literal (t : Text) (u : List Nat) : Prop :=
  ∃ inside, t = .char '"' :: (inside ++ [.char '"']) ∧ Denotes inside u

/-! ### One piece of a literal -/

variable {t : Text} {u : List Nat}

theorem Denotes.of_nil (h : Denotes [] u) : u = [] := by
  cases h
  rfl

/-- A code point that is neither a quote nor a backslash is read as it is, or not at all. -/
theorem Denotes.of_point {c : CodePoint} (hquote : c ≠ .char '"') (hbackslash : c ≠ .char '\\')
    (h : Denotes (c :: t) u) :
    c.isLineTerminator = false ∧ ∃ v, u = c.units ++ v ∧ Denotes t v := by
  -- every other production begins with a backslash
  cases h with
  | point _ _ hline h => exact ⟨hline, _, rfl, h⟩
  | _ => exact absurd rfl hbackslash

theorem isLineTerminator_of_single {c : CodePoint} {n : Nat} (h : single? c = some n) :
    c.isLineTerminator = false := by
  unfold single? at h
  split at h
  · rfl
  · rfl
  · rfl
  · rfl
  · rfl
  · rfl
  · rfl
  · rfl
  · rfl
  · cases h

/-- A letter behind a backslash is read in no other way. -/
theorem Denotes.of_single {c : CodePoint} {n : Nat} (hsingle : single? c = some n)
    (h : Denotes (.char '\\' :: c :: t) u) : ∃ v, u = n :: v ∧ Denotes t v := by
  cases h with
  | point _ hbackslash => exact absurd rfl hbackslash
  | single hother h =>
    rw [hsingle] at hother
    obtain rfl := Option.some.inj hother
    exact ⟨_, rfl, h⟩
  | plain hplain => simp [isPlain, hsingle] at hplain
  | zero | hex | unit | continuedBreak => cases hsingle
  | continued hline =>
    rw [isLineTerminator_of_single hsingle] at hline
    cases hline

theorem length_of_spellsUnit {digits : Text} {n : Nat} (h : Json.SpellsUnit digits n) :
    digits.length = 4 := by
  cases h
  rfl

theorem spellsUnit_unique {digits : Text} {m n : Nat} (hm : Json.SpellsUnit digits m)
    (hn : Json.SpellsUnit digits n) : m = n := by
  cases hm with
  | mk ha hb hc hd =>
    cases hn with
    | mk ha' hb' hc' hd' =>
      rw [ha] at ha'
      rw [hb] at hb'
      rw [hc] at hc'
      rw [hd] at hd'
      obtain rfl := Option.some.inj ha'
      obtain rfl := Option.some.inj hb'
      obtain rfl := Option.some.inj hc'
      obtain rfl := Option.some.inj hd'
      rfl

/-- Four digits behind `\\u` are read in no other way. -/
theorem Denotes.of_unit {digits : Text} {n : Nat} (hdigits : Json.SpellsUnit digits n)
    (h : Denotes (.char '\\' :: .char 'u' :: (digits ++ t)) u) : ∃ v, u = n :: v ∧ Denotes t v := by
  generalize htext : CodePoint.char '\\' :: .char 'u' :: (digits ++ t) = text at h
  -- a backslash and a letter that is no escape of one letter, no zero, no end of a line
  cases h with
  | nil => cases htext
  | point _ hbackslash => exact absurd (List.cons.inj htext).1.symm hbackslash
  | single hsingle =>
    obtain ⟨rfl, -⟩ := List.cons.inj (List.cons.inj htext).2
    cases hsingle
  | plain hplain =>
    obtain ⟨rfl, -⟩ := List.cons.inj (List.cons.inj htext).2
    cases hplain
  | zero | hex | continuedBreak => cases (List.cons.inj (List.cons.inj htext).2).1
  | unit hother h =>
    -- both take four code points
    obtain ⟨rfl, rfl⟩ := List.append_inj (List.cons.inj (List.cons.inj htext).2).2
      ((length_of_spellsUnit hdigits).trans (length_of_spellsUnit hother).symm)
    obtain rfl := spellsUnit_unique hdigits hother
    exact ⟨_, rfl, h⟩
  | continued hline =>
    obtain ⟨rfl, -⟩ := List.cons.inj (List.cons.inj htext).2
    cases hline

/-! ### The literal of a name -/

/-- Letters that JSON writes denote in a script what they stand for in JSON. -/
theorem single?_of_escaped {e c : CodePoint} (h : Json.escaped? e = some c)
    (hslash : e ≠ .char '/') : single? e = some c.toNat ∧ c.toNat < 0x80 := by
  unfold Json.escaped? at h
  split_ifs at h <;>
  · subst e
    cases h
    exact ⟨rfl, by decide⟩

/-- **One code point of a name** denotes itself, unless it is a separator. -/
theorem denotes_escapedPoint (c : CodePoint) : Denotes (Json.escapedPoint false c ++ t) u ↔
    c.isSeparator = false ∧ ∃ v, u = c.units ++ v ∧ Denotes t v := by
  have hwritten := Json.writtenAs_escapedPoint c
  generalize Json.escapedPoint false c = text at hwritten ⊢
  -- by the way that JSON writes the code point; the separators are written as they are
  cases hwritten with
  | letter hletter hslash =>
    obtain ⟨hsingle, hascii⟩ := single?_of_escaped hletter hslash
    rw [CodePoint.isSeparator_of_lt (by omega), CodePoint.units_of_lt (by omega)]
    refine ⟨fun h => ⟨rfl, h.of_single hsingle⟩, ?_⟩
    rintro ⟨-, v, rfl, h⟩
    exact .single hsingle h
  | number hcontrol =>
    have hdigits := Json.spellsUnit_ofHex hcontrol
    rw [CodePoint.isSeparator_of_lt (by omega), CodePoint.units_of_lt (by omega)]
    refine ⟨fun h => ⟨rfl, h.of_unit hdigits⟩, ?_⟩
    rintro ⟨-, v, rfl, h⟩
    exact .unit hdigits h
  | point hquote hbackslash hcontrol =>
    rw [← CodePoint.isLineTerminator_of_le hcontrol]
    refine ⟨fun h => h.of_point hquote hbackslash, ?_⟩
    rintro ⟨hline, v, rfl, h⟩
    exact .point hquote hbackslash hline h

theorem denotes_escaped (s : Text) : Denotes (s.flatMap (Json.escapedPoint false)) u ↔
    (∀ c ∈ s, c.isSeparator = false) ∧ u = s.units := by
  -- on the name: the first code point takes its units off the front
  induction s generalizing u with
  | nil =>
    refine ⟨fun h => ⟨nofun, h.of_nil⟩, ?_⟩
    rintro ⟨-, rfl⟩
    exact .nil
  | cons c s ih =>
    rw [List.flatMap_cons, denotes_escapedPoint, List.forall_mem_cons, Text.units,
      List.flatMap_cons]
    constructor
    · rintro ⟨hc, v, rfl, h⟩
      obtain ⟨hs, rfl⟩ := ih.1 h
      exact ⟨⟨hc, hs⟩, rfl⟩
    · rintro ⟨⟨hc, hs⟩, rfl⟩
      exact ⟨hc, Text.units s, rfl, ih.2 ⟨hs, rfl⟩⟩

/-- **The literal of a name** is a literal of a script just if the name holds no separator, and then
it denotes the name and nothing else. -/
theorem literal_iff (s : Text) :
    Literal (Gremlin.literal s) u ↔ (∀ c ∈ s, c.isSeparator = false) ∧ u = s.units := by
  have hliteral : Gremlin.literal s
      = .char '"' :: (s.flatMap (Json.escapedPoint false) ++ [.char '"']) := rfl
  rw [hliteral, ← denotes_escaped]
  constructor
  · rintro ⟨inside, htext, h⟩
    rwa [List.append_cancel_right (List.cons.inj htext).2]
  · exact fun h => ⟨_, rfl, h⟩

end Script

end GraphPath
