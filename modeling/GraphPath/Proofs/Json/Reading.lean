import GraphPath.Proofs.Json.Digits
import GraphPath.Proofs.Json.Spelling
import GraphPath.Proofs.Text.Joined
import Mathlib.Data.List.TakeDrop
import Mathlib.Data.List.TakeWhile

/-!
# The reader reads the grammar

Every text of a proper value is read as that value, whatever blanks and escapes are in it, and what
stands behind it is left as it is.

* `Json.readString_spelled` — strings with any of their escapes;
* `Json.readNumber_digits`, `Json.readNumber_negative` — integers up to where they end;
* `Json.Spells.readsBack` — values, items and fields, each with the fuel that its text needs;
* `Json.TextOf.readRaw_eq`, `Json.TextOf.read_eq` — whole texts.
-/

namespace GraphPath.Json

/-! ### Strings -/

theorem readPieces_unit (opening : Nat) {digits rest : Text} {n : Nat} (h : SpellsUnit digits n)
    (hrest : rest ≠ []) :
    readPieces opening .between (.char '\\' :: .char 'u' :: (digits ++ rest))
      = .cons (.unit n) (readPieces opening .between rest) := by
  cases h with
  | mk ha hb hc hd =>
    simp [readPieces, ha, hb, hc, hd, hrest]

/-- A number of a scalar value is no half of a pair. -/
theorem ofPair?_eq_none {n : Nat} {c : Char} (h : CodePoint.ofNat? n = some (.char c)) (m : Nat) :
    CodePoint.ofPair? n m = none := by
  by_cases hvalid : n.isValidChar
  · have hrange : n < 0xD800 ∨ 0xDFFF < n ∧ n < 0x110000 := hvalid
    rw [CodePoint.ofPair?, if_neg]
    omega
  · -- what is no scalar value is a surrogate, or no code point at all
    rw [CodePoint.ofNat?, dif_neg hvalid] at h
    split at h <;> cases h

theorem joinPieces_scalar {n : Nat} {c : Char} (h : CodePoint.ofNat? n = some (.char c))
    (pieces : List Piece) : joinPieces (.unit n :: pieces) = .char c :: joinPieces pieces := by
  -- whatever piece comes next, it is not the other half
  rcases pieces with _ | ⟨d | m, pieces⟩ <;> simp [joinPieces, h, ofPair?_eq_none h]

/-- The pieces of a string make what it spells. -/
theorem SpellsString.pieces {t s : Text} (h : SpellsString t s) :
    ∃ pieces, joinPieces pieces = s ∧ ∀ opening rest,
      readPieces opening .between (t ++ .char '"' :: rest) = .ok (pieces, rest) := by
  -- on the spelling: each rule puts its own pieces before those of the rest
  induction h with
  | nil => exact ⟨[], rfl, fun opening rest => rfl⟩
  | @point c t s hquote hbackslash hcontrol h ih =>
    obtain ⟨pieces, rfl, hread⟩ := ih
    refine ⟨.point c :: pieces, by rw [joinPieces], fun opening rest => ?_⟩
    rw [List.cons_append, readPieces, if_neg hquote, if_neg hbackslash, if_neg (by omega), hread]
    rfl
  | @letter c d t s hletter h ih =>
    obtain ⟨pieces, rfl, hread⟩ := ih
    refine ⟨.point d :: pieces, by rw [joinPieces], fun opening rest => ?_⟩
    have hu : c ≠ .char 'u' := by
      rintro rfl
      cases hletter
    rw [List.cons_append, List.cons_append, readPieces, if_neg nofun, if_pos rfl, readPieces,
      if_neg hu, hletter]
    simp only [hread]
    rfl
  | @unit digits t s n c hdigits hpoint h ih =>
    obtain ⟨pieces, rfl, hread⟩ := ih
    refine ⟨.unit n :: pieces, joinPieces_scalar hpoint pieces, fun opening rest => ?_⟩
    rw [List.cons_append, List.cons_append, List.append_assoc,
      readPieces_unit opening hdigits (by simp), hread]
    rfl
  | @pair high low t s m n c hhigh hlow hpoint h ih =>
    obtain ⟨pieces, rfl, hread⟩ := ih
    -- the halves are read as two pieces, which become one code point only when they are joined
    refine ⟨.unit m :: .unit n :: pieces, by rw [joinPieces, hpoint], fun opening rest => ?_⟩
    simp only [List.cons_append, List.append_assoc]
    rw [readPieces_unit opening hhigh (by simp), readPieces_unit opening hlow (by simp), hread]
    rfl

/-- **Reading a string**, and what stands behind its closing quote. -/
theorem readString_spelled {t s : Text} (h : SpellsString t s) (rest : Text) :
    readString (t ++ .char '"' :: rest) = .ok (s, rest) := by
  obtain ⟨pieces, rfl, hread⟩ := h.pieces
  rw [readString, hread]

/-! ### What may stand behind a value -/

/-- Nothing, a blank, a comma or a closing bracket. -/
def Ended (rest : Text) : Prop :=
  ∀ c others, rest = c :: others →
    isBlank c = true ∨ c = .char ',' ∨ c = .char ']' ∨ c = .char '\x7d'

theorem ended_cons {c : CodePoint} {others : Text}
    (h : isBlank c = true ∨ c = .char ',' ∨ c = .char ']' ∨ c = .char '\x7d') :
    Ended (c :: others) := by
  rintro _ _ ⟨rfl, rfl⟩
  exact h

/-- Blanks may stand behind a value, and behind them what may stand behind a value. -/
theorem Blank.ended_append {b rest : Text} (hb : Blank b) (hrest : Ended rest) :
    Ended (b ++ rest) := by
  cases b with
  | nil => exact hrest
  | cons c b => exact ended_cons (.inl (hb c List.mem_cons_self))

/-- No number goes on there. -/
theorem Ended.no_number {c : CodePoint} {others : Text} (h : Ended (c :: others)) :
    Json.isDigit c = false ∧ c ≠ .char '.' ∧ c ≠ .char 'e' ∧ c ≠ .char 'E' := by
  have hc := h c others rfl
  simp only [isBlank, Bool.or_eq_true, decide_eq_true_eq] at hc
  rcases hc with (((rfl | rfl) | rfl) | rfl) | rfl | rfl | rfl <;> decide

/-! ### Integers -/

/-- **Numbers that can be read are not too long**: without a leading zero, every digit counts. -/
theorem Whole.length_le {digits : Text} (h : Whole digits) {limit : Nat} (hlimit : 0 < limit)
    (hsmall : ofDigits digits < 10 ^ limit) : digits.length ≤ limit := by
  cases digits with
  | nil => exact Nat.zero_le _
  | cons c rest =>
    by_cases hzero : c = .char '0'
    · subst hzero
      rw [h.leading rest rfl]
      exact hlimit
    · -- the first digit alone is worth a power of ten, so the others are fewer than the limit
      have hvalue :
          ofDigits (c :: rest) = (digit? c).getD 0 * 10 ^ rest.length + ofDigits rest := by
        simpa [ofDigits] using ofDigits_append [c] rest
      have hfirst := digit?_pos (h.all_digits c List.mem_cons_self) hzero
      have hlarge : 10 ^ rest.length ≤ ofDigits (c :: rest) := by
        rw [hvalue]
        exact Nat.le_add_right_of_le (Nat.le_mul_of_pos_left _ hfirst)
      have hlength : rest.length < limit :=
        (Nat.pow_lt_pow_iff_right (by decide)).1 (Nat.lt_of_le_of_lt hlarge hsmall)
      exact hlength

/-- The digits of a number end where the number does. -/
theorem Whole.wholePart_append {digits rest : Text} (h : Whole digits) (hrest : Ended rest) :
    wholePart (digits ++ rest) = (digits, rest) := by
  -- behind a leading zero the reader takes no further digit, and there is none
  by_cases hzero : digits.head? = some (.char '0')
  · obtain ⟨others, rfl⟩ := List.head?_eq_some_iff.1 hzero
    rw [h.leading others rfl]
    rfl
  · have hspan : wholePart (digits ++ rest) = (digits ++ rest).span isDigit := by
      cases digits with
      | nil => exact absurd rfl h.ne_nil
      | cons c others =>
        rw [List.cons_append, wholePart]
        rintro t ⟨rfl, -⟩
        exact hzero rfl
    refine hspan.trans (Text.span_stop h.all_digits fun c hc => ?_)
    obtain ⟨others, rfl⟩ := List.head?_eq_some_iff.1 hc
    exact hrest.no_number.1

theorem fractionPart_eq {rest : Text} (h : Ended rest) : fractionPart rest = ([], rest) := by
  cases rest with
  | nil => rfl
  | cons c others =>
    rw [fractionPart]
    rintro t ⟨rfl, -⟩
    exact h.no_number.2.1 rfl

theorem exponentPart_eq {rest : Text} (h : Ended rest) : exponentPart rest = (none, rest) := by
  cases rest with
  | nil => rfl
  | cons c others =>
    obtain ⟨-, -, he, hE⟩ := h.no_number
    simp [exponentPart, he, hE]

theorem Whole.eq_cons {digits : Text} (h : Whole digits) :
    ∃ c others, digits = c :: others ∧ isDigit c = true := by
  cases digits with
  | nil => exact absurd rfl h.ne_nil
  | cons c others => exact ⟨c, others, rfl, h.all_digits c List.mem_cons_self⟩

/-- **Digits are a number** up to where they end, unless they are too many. -/
theorem readNumber_digits {digits rest : Text} (h : Whole digits) (hrest : Ended rest) :
    readNumber (digits ++ rest) =
      if digitLimit < digits.length then .error (.tooManyDigits digits.length)
      else .ok (.int (ofDigits digits), rest) := by
  obtain ⟨c, others, rfl, hc⟩ := h.eq_cons
  rw [readNumber]
  · simp only [h.wholePart_append hrest, fractionPart_eq hrest, exponentPart_eq hrest]
    rw [if_pos ⟨rfl, rfl⟩, if_neg Bool.false_ne_true]
  · -- a digit is no sign
    rintro t ⟨rfl, -⟩
    cases hc

theorem readNumber_natural {digits rest : Text} (h : Whole digits)
    (hlimit : digits.length ≤ digitLimit) (hrest : Ended rest) :
    readNumber (digits ++ rest) = .ok (.int (ofDigits digits), rest) :=
  (readNumber_digits h hrest).trans (if_neg (Nat.not_lt.2 hlimit))

theorem readNumber_tooLong {digits rest : Text} (h : Whole digits)
    (hlimit : digitLimit < digits.length) (hrest : Ended rest) :
    readNumber (digits ++ rest) = .error (.tooManyDigits digits.length) :=
  (readNumber_digits h hrest).trans (if_pos hlimit)

/-- Digits behind a minus are the opposite number. -/
theorem readNumber_negative {digits rest : Text} (h : Whole digits)
    (hlimit : digits.length ≤ digitLimit) (hrest : Ended rest) :
    readNumber (.char '-' :: (digits ++ rest)) = .ok (.int (-(ofDigits digits : Int)), rest) := by
  obtain ⟨c, others, rfl, hc⟩ := h.eq_cons
  simp only [readNumber, h.wholePart_append hrest, fractionPart_eq hrest, exponentPart_eq hrest]
  rw [if_pos ⟨rfl, rfl⟩, if_neg (Nat.not_lt.2 hlimit), if_pos trivial]

/-! ### Equations of the reader -/

variable {fuel : Nat} {t rest : Text}

theorem skipBlanks_append {b : Text} (hb : Blank b) {c : CodePoint} (hc : isBlank c = false)
    (others : Text) : skipBlanks (b ++ c :: others) = c :: others := by
  rw [skipBlanks, List.dropWhile_append_of_pos hb, List.dropWhile_cons_of_neg (by simp [hc])]

theorem Starts.skipBlanks_append {b : Text} (ht : Starts t) (hb : Blank b) :
    skipBlanks (b ++ t) = t := by
  obtain ⟨c, others, rfl, hc, -⟩ := ht
  exact Json.skipBlanks_append hb hc others

theorem Blank.skipBlanks_eq {b : Text} (hb : Blank b) : skipBlanks b = [] :=
  List.dropWhile_eq_nil_iff.2 hb

/-- No word is spelled like a number. -/
theorem readWord?_digit {c : CodePoint} (hc : isDigit c = true) (others : Text) :
    readWord? (c :: others) = none := by
  -- the words begin with these five letters, or with a minus
  have hne (d : Char) (hd : isDigit (.char d) = false) : CodePoint.char d ≠ c := by
    rintro rfl
    rw [hd] at hc
    cases hc
  simp [readWord?, words, Text.ofString, hne 'n' rfl, hne 't' rfl, hne 'f' rfl, hne 'N' rfl,
    hne 'I' rfl, hne '-' rfl]

theorem readWord?_minus {c : CodePoint} (hc : isDigit c = true) (others : Text) :
    readWord? (.char '-' :: c :: others) = none := by
  have hne : CodePoint.char 'I' ≠ c := by
    rintro rfl
    cases hc
  simp [readWord?, words, Text.ofString, hne]

/-- What starts with a digit is read as a number. -/
theorem readValue_digits {digits : Text} (h : Whole digits) (rest : Text) :
    readValue (fuel + 1) (digits ++ rest) = readNumber (digits ++ rest) := by
  obtain ⟨c, others, rfl, hc⟩ := h.eq_cons
  rw [List.cons_append, readValue, readWord?_digit hc]
  · exact nofun
  all_goals
    rintro t ⟨rfl, -⟩
    cases hc

theorem readValue_negative {digits : Text} (h : Whole digits)
    (hlimit : digits.length ≤ digitLimit) (hrest : Ended rest) :
    readValue (fuel + 1) (.char '-' :: (digits ++ rest))
      = .ok (.int (-(ofDigits digits : Int)), rest) := by
  have hnumber := readNumber_negative h hlimit hrest
  obtain ⟨c, others, rfl, hc⟩ := h.eq_cons
  rw [readValue]
  · -- one word begins with a minus, but a letter stands behind it
    rw [List.cons_append, readWord?_minus hc, ← List.cons_append]
    exact hnumber
  all_goals exact nofun

theorem readValue_text {s : Text} (h : readString t = .ok (s, rest)) :
    readValue (fuel + 1) (.char '"' :: t) = .ok (.text s, rest) := by
  rw [readValue, h]

/-- An array that is not empty is its items. -/
theorem readValue_array (hstart : Starts (skipBlanks t)) :
    readValue (fuel + 1) (.char '[' :: t)
      = (readItems fuel (skipBlanks t)).map fun (items, rest) => (.array items, rest) := by
  obtain ⟨c, others, heq, -, hclose, -⟩ := hstart
  rw [readValue]
  split
  · next others' heq' =>
    rw [heq] at heq'
    exact absurd (List.cons.inj heq').1 hclose
  · cases readItems fuel (skipBlanks t) <;> rfl

/-- An object that is not empty is its fields. -/
theorem readValue_object (hstart : Starts (skipBlanks t)) :
    readValue (fuel + 1) (.char '\x7b' :: t)
      = (readFields fuel (skipBlanks t)).map fun (fields, rest) => (.object fields, rest) := by
  obtain ⟨c, others, heq, -, -, hclose⟩ := hstart
  rw [readValue]
  split
  · next others' heq' =>
    rw [heq] at heq'
    exact absurd (List.cons.inj heq').1 hclose
  · cases readFields fuel (skipBlanks t) <;> rfl

/-- The last item. -/
theorem readItems_last {v : Json} {u : Text} (hvalue : readValue fuel t = .ok (v, u))
    (hclose : skipBlanks u = .char ']' :: rest) : readItems (fuel + 1) t = .ok ([v], rest) := by
  rw [readItems, hvalue]
  simp only [hclose]

/-- An item before others. -/
theorem readItems_more {v : Json} {items : List Json} {u w : Text}
    (hvalue : readValue fuel t = .ok (v, u)) (hcomma : skipBlanks u = .char ',' :: w)
    (hitems : readItems fuel (skipBlanks w) = .ok (items, rest)) :
    readItems (fuel + 1) t = .ok (v :: items, rest) := by
  rw [readItems, hvalue]
  simp only [hcomma, hitems]
  rfl

/-- The fields from one on whose value was read. -/
def fieldsFrom (fuel : Nat) (name : Text) : Reading Json → Reading (Fields Json)
  | .error fault => .error fault
  | .ok (v, u) =>
    match skipBlanks u with
    | .char '\x7d' :: rest => .ok ([(name, v)], rest)
    | .char ',' :: rest => .cons (name, v) (readFields fuel (skipBlanks rest))
    | rest => .error (.malformed .expectingComma rest.length)

/-- A field is its value, and what comes behind it. -/
theorem readFields_eq {n name : Text} (hname : SpellsName n name) (ht : Starts t) :
    readFields (fuel + 1) (n ++ t) = fieldsFrom fuel name (readValue fuel t) := by
  cases hname with
  | mk h hb hb' =>
    simp only [List.cons_append, List.append_assoc]
    rw [readFields, readString_spelled h]
    simp only [skipBlanks_append hb (c := .char ':') rfl, ht.skipBlanks_append hb']
    rfl

/-- The last field. -/
theorem fieldsFrom_last {name u : Text} {v : Json} (hclose : skipBlanks u = .char '\x7d' :: rest) :
    fieldsFrom fuel name (.ok (v, u)) = .ok ([(name, v)], rest) := by
  simp only [fieldsFrom, hclose]

/-- A field before others. -/
theorem fieldsFrom_more {name u w : Text} {v : Json} {fields : Fields Json}
    (hcomma : skipBlanks u = .char ',' :: w)
    (hfields : readFields fuel (skipBlanks w) = .ok (fields, rest)) :
    fieldsFrom fuel name (.ok (v, u)) = .ok ((name, v) :: fields, rest) := by
  simp only [fieldsFrom, hcomma, hfields]
  rfl

/-! ### Values, items and fields -/

/-- What is spelled is proper. -/
def Phrase.Proper : Phrase → Prop
  | .value v => v.Proper
  | .items vs => ∀ v ∈ vs, v.Proper
  | .fields fs => ∀ field ∈ fs, field.2.Proper

/-- **A text is read** as what it spells, with fuel enough for its length; behind a value that has
no bracket to end it must stand something that does. -/
def Phrase.ReadsBack (t : Text) : Phrase → Prop
  | .value v => ∀ fuel rest, 2 * t.length ≤ fuel → Ended rest →
    readValue fuel (t ++ rest) = .ok (v, rest)
  | .items vs => ∀ fuel rest, 2 * t.length + 1 ≤ fuel → readItems fuel (t ++ rest) = .ok (vs, rest)
  | .fields fs => ∀ fuel rest, 2 * t.length + 1 ≤ fuel →
    readFields fuel (t ++ rest) = .ok (fs, rest)

namespace Phrase.ReadsBack

variable {b b' n u : Text} {name : Text} {v : Json} {items : List Json} {fields : Fields Json}

/-- It is enough that a value is read when there is fuel at all. -/
theorem of_value (ht : Starts t) (h : ∀ fuel rest, 2 * t.length ≤ fuel + 1 → Ended rest →
    readValue (fuel + 1) (t ++ rest) = .ok (v, rest)) : (Phrase.value v).ReadsBack t := by
  -- a text that starts with something has fuel
  rintro (_ | fuel) rest hfuel hrest
  · obtain ⟨c, others, rfl, -⟩ := ht
    simp at hfuel
  · exact h fuel rest hfuel hrest

theorem array (hb : Blank b) (ht : Starts t) (h : (Phrase.items items).ReadsBack t) :
    (Phrase.value (.array items)).ReadsBack (.char '[' :: (b ++ t)) := by
  refine of_value ⟨.char '[', _, rfl, rfl, nofun, nofun⟩ fun fuel rest hfuel _ => ?_
  -- the reader skips the blanks, and no bracket stands behind them
  have hskip : skipBlanks (b ++ (t ++ rest)) = t ++ rest := (ht.append rest).skipBlanks_append hb
  simp only [List.length_cons, List.length_append] at hfuel
  rw [List.cons_append, List.append_assoc, readValue_array (hskip.symm ▸ ht.append rest), hskip,
    h fuel rest (by omega)]
  rfl

theorem object (hb : Blank b) (ht : Starts t) (h : (Phrase.fields fields).ReadsBack t) :
    (Phrase.value (.object fields)).ReadsBack (.char '\x7b' :: (b ++ t)) := by
  refine of_value ⟨.char '\x7b', _, rfl, rfl, nofun, nofun⟩ fun fuel rest hfuel _ => ?_
  have hskip : skipBlanks (b ++ (t ++ rest)) = t ++ rest := (ht.append rest).skipBlanks_append hb
  simp only [List.length_cons, List.length_append] at hfuel
  rw [List.cons_append, List.append_assoc, readValue_object (hskip.symm ▸ ht.append rest), hskip,
    h fuel rest (by omega)]
  rfl

/-- Behind a value that others follow stand blanks and a mark. -/
theorem value_append (h : (Phrase.value v).ReadsBack t) (hb : Blank b) {c : CodePoint}
    (hc : c = .char ',' ∨ c = .char ']' ∨ c = .char '\x7d') (fuel : Nat)
    (hfuel : 2 * t.length ≤ fuel) (rest : Text) :
    readValue fuel (t ++ (b ++ c :: rest)) = .ok (v, b ++ c :: rest) :=
  h fuel _ hfuel (hb.ended_append (ended_cons (.inr hc)))

theorem lastItem (h : (Phrase.value v).ReadsBack t) (hb : Blank b) :
    (Phrase.items [v]).ReadsBack (t ++ (b ++ [.char ']'])) := by
  -- the call for the items is paid by the bracket
  rintro (_ | fuel) rest hfuel
  · cases hfuel
  · simp only [List.length_append] at hfuel
    have hvalue := h.value_append hb (.inr (.inl rfl)) fuel (by omega) rest
    simp only [List.append_assoc, List.singleton_append]
    exact readItems_last hvalue (skipBlanks_append hb rfl rest)

theorem item (h : (Phrase.value v).ReadsBack t) (hb : Blank b) (hb' : Blank b') (hu : Starts u)
    (hitems : (Phrase.items items).ReadsBack u) :
    (Phrase.items (v :: items)).ReadsBack (t ++ (b ++ .char ',' :: (b' ++ u))) := by
  -- the call for the items is paid by the comma, and those behind it have their own text
  rintro (_ | fuel) rest hfuel
  · cases hfuel
  · simp only [List.length_append, List.length_cons] at hfuel
    have hvalue := h.value_append hb (.inl rfl) fuel (by omega) (b' ++ (u ++ rest))
    simp only [List.append_assoc, List.cons_append]
    refine readItems_more hvalue (skipBlanks_append hb rfl _) ?_
    rw [(hu.append rest).skipBlanks_append hb']
    exact hitems fuel rest (by omega)

theorem lastField (hname : SpellsName n name) (ht : Starts t) (h : (Phrase.value v).ReadsBack t)
    (hb : Blank b) : (Phrase.fields [(name, v)]).ReadsBack (n ++ (t ++ (b ++ [.char '\x7d']))) := by
  rintro (_ | fuel) rest hfuel
  · cases hfuel
  · simp only [List.length_append] at hfuel
    have hvalue := h.value_append hb (.inr (.inr rfl)) fuel (by omega) rest
    simp only [List.append_assoc, List.singleton_append]
    rw [readFields_eq hname (ht.append _), hvalue]
    exact fieldsFrom_last (skipBlanks_append hb rfl rest)

theorem field (hname : SpellsName n name) (ht : Starts t) (h : (Phrase.value v).ReadsBack t)
    (hb : Blank b) (hb' : Blank b') (hu : Starts u) (hfields : (Phrase.fields fields).ReadsBack u) :
    (Phrase.fields ((name, v) :: fields)).ReadsBack
      (n ++ (t ++ (b ++ .char ',' :: (b' ++ u)))) := by
  -- as for an item; the name is read off first
  rintro (_ | fuel) rest hfuel
  · cases hfuel
  · simp only [List.length_append, List.length_cons] at hfuel
    have hvalue := h.value_append hb (.inl rfl) fuel (by omega) (b' ++ (u ++ rest))
    simp only [List.append_assoc, List.cons_append]
    rw [readFields_eq hname (ht.append _), hvalue]
    refine fieldsFrom_more (skipBlanks_append hb rfl _) ?_
    rw [(hu.append rest).skipBlanks_append hb']
    exact hfields fuel rest (by omega)

end Phrase.ReadsBack

/-- **Every text is read as what it spells.** -/
theorem Spells.readsBack {t : Text} {p : Phrase} (h : Spells t p) (hp : p.Proper) :
    p.ReadsBack t := by
  -- on the spelling; only numbers need that the value is proper
  induction h with
  | null => exact .of_value Spells.null.starts fun fuel rest _ _ => rfl
  | bool b => exact .of_value (Spells.bool b).starts fun fuel rest _ _ => by cases b <;> rfl
  | @natural digits h =>
    cases hp with
    | int hsmall =>
      have hlimit : digits.length ≤ digitLimit := h.length_le (by decide) (by simpa using hsmall)
      exact .of_value h.starts fun fuel rest _ hrest =>
        (readValue_digits h rest).trans (readNumber_natural h hlimit hrest)
  | @negative digits h =>
    cases hp with
    | int hsmall =>
      have hlimit : digits.length ≤ digitLimit := h.length_le (by decide) (by simpa using hsmall)
      exact .of_value (Spells.negative h).starts fun fuel rest _ hrest =>
        readValue_negative h hlimit hrest
  | text h =>
    refine .of_value (Spells.text h).starts fun fuel rest _ _ => ?_
    rw [List.cons_append, List.append_assoc]
    exact readValue_text (readString_spelled h rest)
  | noItems hb =>
    refine .of_value (Spells.noItems hb).starts fun fuel rest _ _ => ?_
    rw [List.cons_append, List.append_assoc, List.singleton_append, readValue,
      skipBlanks_append hb rfl]
    rfl
  | noFields hb =>
    refine .of_value (Spells.noFields hb).starts fun fuel rest _ _ => ?_
    rw [List.cons_append, List.append_assoc, List.singleton_append, readValue,
      skipBlanks_append hb rfl]
    rfl
  | array hb h ih =>
    cases hp with
    | array hitems => exact .array hb h.starts (ih hitems)
  | object hb h ih =>
    cases hp with
    | object hnames hfields => exact .object hb h.starts (ih hfields)
  | lastItem h hb ih => exact .lastItem (ih (hp _ List.mem_cons_self)) hb
  | item h hb hb' hitems ih ihItems =>
    obtain ⟨hv, hrest⟩ := List.forall_mem_cons.1 hp
    exact .item (ih hv) hb hb' hitems.starts (ihItems hrest)
  | lastField hname h hb ih => exact .lastField hname h.starts (ih (hp _ List.mem_cons_self)) hb
  | field hname h hb hb' hfields ih ihFields =>
    obtain ⟨hv, hrest⟩ := List.forall_mem_cons.1 hp
    exact .field hname h.starts (ih hv) hb hb' hfields.starts (ihFields hrest)

/-! ### Whole texts -/

/-- **A text of a proper value is read as that value.** -/
theorem TextOf.readRaw_eq {v : Json} {t : Text} (h : TextOf v t) (hv : v.Proper) :
    readRaw t = .ok v := by
  cases h with
  | @mk b t b' hb h hb' =>
    -- twice the length of the whole text is more fuel than the value needs
    have hread := h.readsBack (p := .value v) hv (2 * (b ++ (t ++ b')).length + 2) b'
      (by simp only [List.length_append]; omega)
      (by simpa using hb'.ended_append (nofun : Ended []))
    rw [readRaw, (h.starts.append b').skipBlanks_append hb, hread]
    simp only [hb'.skipBlanks_eq]

/-- Merging names changes nothing in it. -/
theorem TextOf.read_eq {v : Json} {t : Text} (h : TextOf v t) (hv : v.Proper) :
    read t = .ok v := by
  rw [read, h.readRaw_eq hv]
  simp only [hv.merged_eq]

end GraphPath.Json
