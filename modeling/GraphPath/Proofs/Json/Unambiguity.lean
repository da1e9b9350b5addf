import GraphPath.Proofs.Json.Printing
import GraphPath.Proofs.Json.Reading

/-!
# JSON texts are unambiguous

A text is the text of one value. The first code point tells the kind of a value, strings and digits
end where they do, and behind an item or a field stands the comma or the bracket that says how to go
on; so two ways to take a text apart agree piece by piece. This is about the grammar alone: numbers
may be too long for any reader.

* `Json.kindOf`, `Json.Spells.kind` — the kind of value that a code point begins;
* `Json.Phrase.Determined` — what is said of values, and of items and fields between brackets;
* `Json.Spells.determined` — every text determines what it spells;
* `Json.TextOf.unique` — the value of a whole text;
* `Json.quoted_append_inj` — literals in front of texts are equal only with equal rests.
-/

namespace GraphPath.Json

variable {t u r r' : Text}

/-! ### Blanks -/

/-- What stands behind blanks does not depend on them. -/
theorem eq_of_blanks {b b' : Text} (hb : Blank b) (hb' : Blank b') {c c' : CodePoint}
    (hc : isBlank c = false) (hc' : isBlank c' = false) (h : b ++ c :: r = b' ++ c' :: r') :
    c = c' ∧ r = r' := by
  have hskip := congrArg skipBlanks h
  rw [skipBlanks_append hb hc, skipBlanks_append hb' hc'] at hskip
  exact List.cons.inj hskip

theorem Starts.eq_of_blanks {b b' : Text} (ht : Starts t) (hu : Starts u) (hb : Blank b)
    (hb' : Blank b') (h : b ++ t = b' ++ u) : t = u := by
  rw [← ht.skipBlanks_append hb, h, hu.skipBlanks_append hb']

/-- Items and fields do not begin with a closing bracket. -/
theorem Starts.ne_close {b b' : Text} (ht : Starts t) (hb : Blank b) (hb' : Blank b')
    {c : CodePoint} (hc : c = .char ']' ∨ c = .char '\x7d') : b ++ t ≠ b' ++ c :: r := by
  intro heq
  obtain ⟨d, rest, rfl, hd, hitem, hfield⟩ := ht
  have hblank : isBlank c = false := by rcases hc with rfl | rfl <;> rfl
  -- behind the blanks one text has the bracket and the other one what it starts with
  obtain ⟨rfl, -⟩ := Json.eq_of_blanks hb hb' hd hblank heq
  exact hc.elim hitem hfield

/-! ### Kinds of values -/

/-- The kind of value that a code point begins. -/
def kindOf (c : CodePoint) : Text :=
  if c = .char '"' then "str"
  else if c = .char '[' then "list"
  else if c = .char '\x7b' then "dict"
  else if c = .char 'n' then "NoneType"
  else if c = .char 't' ∨ c = .char 'f' then "bool"
  else "int"

theorem kindOf_digit {c : CodePoint} (hc : isDigit c = true) : kindOf c = "int" := by
  have hne (d : Char) (hd : isDigit (.char d) = false) : c ≠ .char d := by
    rintro rfl
    rw [hd] at hc
    cases hc
  simp [kindOf, hne '"' rfl, hne '[' rfl, hne '\x7b' rfl, hne 'n' rfl, hne 't' rfl, hne 'f' rfl]

/-- **The first code point tells the kind.** -/
theorem Spells.kind {v : Json} (h : Spells t (.value v)) :
    ∃ c rest, t = c :: rest ∧ kindOf c = v.typeName := by
  cases h with
  | null => exact ⟨.char 'n', _, rfl, rfl⟩
  | bool b =>
    cases b with
    | false => exact ⟨.char 'f', _, rfl, rfl⟩
    | true => exact ⟨.char 't', _, rfl, rfl⟩
  | natural h =>
    obtain ⟨c, rest, rfl, hc⟩ := h.eq_cons
    exact ⟨c, rest, rfl, kindOf_digit hc⟩
  | negative h => exact ⟨.char '-', _, rfl, rfl⟩
  | text h => exact ⟨.char '"', _, rfl, rfl⟩
  | noItems hb => exact ⟨.char '[', _, rfl, rfl⟩
  | array hb h => exact ⟨.char '[', _, rfl, rfl⟩
  | noFields hb => exact ⟨.char '\x7b', _, rfl, rfl⟩
  | object hb h => exact ⟨.char '\x7b', _, rfl, rfl⟩

theorem Spells.typeName_eq {v w : Json} (h : Spells t (.value v)) (hu : Spells u (.value w))
    (heq : t ++ r = u ++ r') : v.typeName = w.typeName := by
  obtain ⟨c, rest, rfl, hc⟩ := h.kind
  obtain ⟨d, rest', rfl, hd⟩ := hu.kind
  obtain ⟨rfl, -⟩ := List.cons.inj heq
  rw [← hc, hd]

/-! ### Strings, names and numbers -/

/-- A string ends at its closing quote. -/
theorem SpellsString.unique {s s' : Text} (h : SpellsString t s) (h' : SpellsString u s')
    (heq : t ++ .char '"' :: r = u ++ .char '"' :: r') : s = s' ∧ r = r' := by
  -- the reader is a function, so it gets both pairs back from the one text
  have hread := congrArg readString heq
  rw [readString_spelled h, readString_spelled h'] at hread
  exact Prod.mk.inj (Except.ok.inj hread)

/-- A name ends at its colon, and the value starts behind the blanks. -/
theorem SpellsName.unique {n n' name name' : Text} (h : SpellsName n name)
    (h' : SpellsName n' name') (ht : Starts t) (hu : Starts u) (heq : n ++ t = n' ++ u) :
    name = name' ∧ t = u := by
  cases h with
  | @mk s _ b₁ b₂ h hb₁ hb₂ =>
    cases h' with
    | @mk s' _ b₁' b₂' h' hb₁' hb₂' =>
      -- the string, the blanks up to the colon, and those behind it
      simp only [List.cons_append, List.append_assoc, List.cons.injEq, true_and] at heq
      obtain ⟨hname, hrest⟩ := h.unique h' heq
      have hcolon : isBlank (.char ':') = false := rfl
      obtain ⟨-, hvalue⟩ := eq_of_blanks hb₁ hb₁' hcolon hcolon hrest
      exact ⟨hname, ht.eq_of_blanks hu hb₂ hb₂' hvalue⟩

/-- Digits end where they do. -/
theorem Whole.unique {digits digits' : Text} (h : Whole digits) (h' : Whole digits')
    (hr : Ended r) (hr' : Ended r') (heq : digits ++ r = digits' ++ r') :
    digits = digits' ∧ r = r' := by
  have hpart := congrArg wholePart heq
  rw [h.wholePart_append hr, h'.wholePart_append hr'] at hpart
  exact Prod.mk.inj hpart

/-! ### Values, items and fields -/

/-- **A text determines** what it spells: no other text in front of anything spells anything else.
Behind a value that has no bracket to end it must stand something that does. -/
def Phrase.Determined (t : Text) : Phrase → Prop
  | .value v => ∀ u w r r', Spells u (.value w) → Ended r → Ended r' → t ++ r = u ++ r' →
    v = w ∧ r = r'
  | .items vs => ∀ u ws r r', Spells u (.items ws) → t ++ r = u ++ r' → vs = ws ∧ r = r'
  | .fields fs => ∀ u gs r r', Spells u (.fields gs) → t ++ r = u ++ r' → fs = gs ∧ r = r'

namespace Phrase.Determined

variable {b b' n name digits : Text} {v : Json} {items : List Json} {fields : Fields Json}

theorem null : (Phrase.value .null).Determined "null" := by
  intro u w r r' hu hr hr' heq
  -- the other text begins alike, so its value is of the same kind
  have hkind := Spells.null.typeName_eq hu heq
  cases w with
  | null =>
    cases hu
    exact ⟨rfl, List.append_cancel_left heq⟩
  | _ => simp [typeName, Text.ofString] at hkind

theorem bool (value : Bool) :
    (Phrase.value (.bool value)).Determined (if value then "true" else "false") := by
  intro u w r r' hu hr hr' heq
  have hkind := (Spells.bool value).typeName_eq hu heq
  cases w with
  | bool other =>
    cases hu
    cases value <;> cases other <;> simp_all [Text.ofString]
  | _ => simp [typeName, Text.ofString] at hkind

/-- A number without a sign is not one with a sign. -/
theorem ne_negative (h : Whole digits) (t : Text) : digits ++ r ≠ .char '-' :: t := by
  intro heq
  obtain ⟨c, others, rfl, hc⟩ := h.eq_cons
  obtain ⟨rfl, -⟩ := List.cons.inj heq
  cases hc

theorem natural (h : Whole digits) :
    (Phrase.value (.int (ofDigits digits))).Determined digits := by
  intro u w r r' hu hr hr' heq
  -- the other number has no sign either, and its digits end at the same place
  have hkind := (Spells.natural h).typeName_eq hu heq
  cases w with
  | int m =>
    cases hu with
    | natural h' =>
      obtain ⟨rfl, hrest⟩ := h.unique h' hr hr' heq
      exact ⟨rfl, hrest⟩
    | negative h' => exact absurd heq (ne_negative h _)
  | _ => simp [typeName, Text.ofString] at hkind

theorem negative (h : Whole digits) :
    (Phrase.value (.int (-(ofDigits digits : Int)))).Determined (.char '-' :: digits) := by
  intro u w r r' hu hr hr' heq
  have hkind := (Spells.negative h).typeName_eq hu heq
  cases w with
  | int m =>
    cases hu with
    | natural h' => exact absurd heq.symm (ne_negative h' _)
    | negative h' =>
      obtain ⟨rfl, hrest⟩ := h.unique h' hr hr' (List.cons.inj heq).2
      exact ⟨rfl, hrest⟩
  | _ => simp [typeName, Text.ofString] at hkind

theorem text {s : Text} (h : SpellsString t s) :
    (Phrase.value (.text s)).Determined (.char '"' :: (t ++ [.char '"'])) := by
  intro u w r r' hu hr hr' heq
  -- the other text is a string, too, and the reader tells what both spell
  have hkind := (Spells.text h).typeName_eq hu heq
  cases w with
  | text s' =>
    cases hu with
    | text h' =>
      simp only [List.cons_append, List.append_assoc, List.nil_append, List.cons.injEq,
        true_and] at heq
      obtain ⟨rfl, hrest⟩ := h.unique h' heq
      exact ⟨rfl, hrest⟩
  | _ => simp [typeName, Text.ofString] at hkind

theorem noItems (hb : Blank b) :
    (Phrase.value (.array [])).Determined (.char '[' :: (b ++ [.char ']'])) := by
  intro u w r r' hu hr hr' heq
  have hkind := (Spells.noItems hb).typeName_eq hu heq
  cases w with
  | array ws =>
    cases hu with
    | noItems hb' =>
      simp only [List.cons_append, List.append_assoc, List.nil_append, List.cons.injEq,
        true_and] at heq
      exact ⟨rfl, (eq_of_blanks hb hb' rfl rfl heq).2⟩
    | array hb' hinner =>
      simp only [List.cons_append, List.append_assoc, List.nil_append, List.cons.injEq,
        true_and] at heq
      -- the other text goes on with an item where this one has the bracket
      exact absurd heq.symm ((hinner.starts.append r').ne_close hb' hb (.inl rfl))
  | _ => simp [typeName, Text.ofString] at hkind

theorem array (hb : Blank b) (hinner : Spells t (.items items))
    (h : (Phrase.items items).Determined t) :
    (Phrase.value (.array items)).Determined (.char '[' :: (b ++ t)) := by
  intro u w r r' hu hr hr' heq
  -- the other text is an array, and not the empty one: behind the blanks an item starts
  have hkind := (Spells.array hb hinner).typeName_eq hu heq
  cases w with
  | array ws =>
    cases hu with
    | noItems hb' =>
      simp only [List.cons_append, List.append_assoc, List.nil_append, List.cons.injEq,
        true_and] at heq
      exact absurd heq ((hinner.starts.append r).ne_close hb hb' (.inl rfl))
    | array hb' hinner' =>
      simp only [List.cons_append, List.append_assoc, List.cons.injEq, true_and] at heq
      have hrest := (hinner.starts.append r).eq_of_blanks (hinner'.starts.append r') hb hb' heq
      obtain ⟨rfl, hrest⟩ := h _ _ _ _ hinner' hrest
      exact ⟨rfl, hrest⟩
  | _ => simp [typeName, Text.ofString] at hkind

theorem noFields (hb : Blank b) :
    (Phrase.value (.object [])).Determined (.char '\x7b' :: (b ++ [.char '\x7d'])) := by
  intro u w r r' hu hr hr' heq
  have hkind := (Spells.noFields hb).typeName_eq hu heq
  cases w with
  | object ws =>
    cases hu with
    | noFields hb' =>
      simp only [List.cons_append, List.append_assoc, List.nil_append, List.cons.injEq,
        true_and] at heq
      exact ⟨rfl, (eq_of_blanks hb hb' rfl rfl heq).2⟩
    | object hb' hinner =>
      simp only [List.cons_append, List.append_assoc, List.nil_append, List.cons.injEq,
        true_and] at heq
      exact absurd heq.symm ((hinner.starts.append r').ne_close hb' hb (.inr rfl))
  | _ => simp [typeName, Text.ofString] at hkind

theorem object (hb : Blank b) (hinner : Spells t (.fields fields))
    (h : (Phrase.fields fields).Determined t) :
    (Phrase.value (.object fields)).Determined (.char '\x7b' :: (b ++ t)) := by
  intro u w r r' hu hr hr' heq
  -- the other text is an object, and not the empty one: behind the blanks a name starts
  have hkind := (Spells.object hb hinner).typeName_eq hu heq
  cases w with
  | object ws =>
    cases hu with
    | noFields hb' =>
      simp only [List.cons_append, List.append_assoc, List.nil_append, List.cons.injEq,
        true_and] at heq
      exact absurd heq ((hinner.starts.append r).ne_close hb hb' (.inr rfl))
    | object hb' hinner' =>
      simp only [List.cons_append, List.append_assoc, List.cons.injEq, true_and] at heq
      have hrest := (hinner.starts.append r).eq_of_blanks (hinner'.starts.append r') hb hb' heq
      obtain ⟨rfl, hrest⟩ := h _ _ _ _ hinner' hrest
      exact ⟨rfl, hrest⟩
  | _ => simp [typeName, Text.ofString] at hkind

/-- Behind a value that others follow stand blanks and a mark, in both texts. -/
theorem value_append (h : (Phrase.value v).Determined t) {u : Text} {w : Json}
    (hu : Spells u (.value w)) (hb : Blank b) (hb' : Blank b') {c c' : CodePoint} {r r' : Text}
    (hc : c = .char ',' ∨ c = .char ']' ∨ c = .char '\x7d')
    (hc' : c' = .char ',' ∨ c' = .char ']' ∨ c' = .char '\x7d')
    (heq : t ++ (b ++ c :: r) = u ++ (b' ++ c' :: r')) : v = w ∧ c = c' ∧ r = r' := by
  have hmark {d : CodePoint} (hd : d = .char ',' ∨ d = .char ']' ∨ d = .char '\x7d') :
      isBlank d = false := by
    rcases hd with rfl | rfl | rfl <;> rfl
  obtain ⟨rfl, hrest⟩ := h _ _ _ _ hu (hb.ended_append (ended_cons (.inr hc)))
    (hb'.ended_append (ended_cons (.inr hc'))) heq
  exact ⟨rfl, eq_of_blanks hb hb' (hmark hc) (hmark hc') hrest⟩

theorem lastItem (h : (Phrase.value v).Determined t) (hb : Blank b) :
    (Phrase.items [v]).Determined (t ++ (b ++ [.char ']'])) := by
  intro u ws r r' hu heq
  -- the mark behind the first item tells whether others follow
  cases hu with
  | lastItem h' hb' =>
    simp only [List.append_assoc, List.cons_append, List.nil_append] at heq
    obtain ⟨rfl, -, hrest⟩ := h.value_append h' hb hb' (.inr (.inl rfl)) (.inr (.inl rfl)) heq
    exact ⟨rfl, hrest⟩
  | item h' hb' _ _ =>
    simp only [List.append_assoc, List.cons_append, List.nil_append] at heq
    obtain ⟨-, hmark, -⟩ := h.value_append h' hb hb' (.inr (.inl rfl)) (.inl rfl) heq
    cases hmark

theorem item {u : Text} (h : (Phrase.value v).Determined t) (hb : Blank b) (hb' : Blank b')
    (hu : Starts u) (hitems : (Phrase.items items).Determined u) :
    (Phrase.items (v :: items)).Determined (t ++ (b ++ .char ',' :: (b' ++ u))) := by
  intro u' ws r r' hu' heq
  -- the mark behind the first item tells whether others follow
  cases hu' with
  | lastItem h' hb₁ =>
    simp only [List.append_assoc, List.cons_append, List.nil_append] at heq
    obtain ⟨-, hmark, -⟩ := h.value_append h' hb hb₁ (.inl rfl) (.inr (.inl rfl)) heq
    cases hmark
  | item h' hb₁ hb₂ hitems' =>
    simp only [List.append_assoc, List.cons_append] at heq
    obtain ⟨rfl, -, hrest⟩ := h.value_append h' hb hb₁ (.inl rfl) (.inl rfl) heq
    have hmore := (hu.append r).eq_of_blanks (hitems'.starts.append r') hb' hb₂ hrest
    obtain ⟨rfl, hrest⟩ := hitems _ _ _ _ hitems' hmore
    exact ⟨rfl, hrest⟩

theorem lastField (hname : SpellsName n name) (ht : Starts t) (h : (Phrase.value v).Determined t)
    (hb : Blank b) :
    (Phrase.fields [(name, v)]).Determined (n ++ (t ++ (b ++ [.char '\x7d']))) := by
  intro u ws r r' hu heq
  -- the name first, then as for an item
  cases hu with
  | lastField hname' h' hb' =>
    simp only [List.append_assoc, List.cons_append, List.nil_append] at heq
    obtain ⟨rfl, heq⟩ := hname.unique hname' (ht.append _) (h'.starts.append _) heq
    obtain ⟨rfl, -, hrest⟩ := h.value_append h' hb hb' (.inr (.inr rfl)) (.inr (.inr rfl)) heq
    exact ⟨rfl, hrest⟩
  | field hname' h' hb' _ _ =>
    simp only [List.append_assoc, List.cons_append, List.nil_append] at heq
    obtain ⟨-, heq⟩ := hname.unique hname' (ht.append _) (h'.starts.append _) heq
    obtain ⟨-, hmark, -⟩ := h.value_append h' hb hb' (.inr (.inr rfl)) (.inl rfl) heq
    cases hmark

theorem field {u : Text} (hname : SpellsName n name) (ht : Starts t)
    (h : (Phrase.value v).Determined t) (hb : Blank b) (hb' : Blank b') (hu : Starts u)
    (hfields : (Phrase.fields fields).Determined u) :
    (Phrase.fields ((name, v) :: fields)).Determined
      (n ++ (t ++ (b ++ .char ',' :: (b' ++ u)))) := by
  intro u' ws r r' hu' heq
  -- the name first, then as for an item
  cases hu' with
  | lastField hname' h' hb₁ =>
    simp only [List.append_assoc, List.cons_append, List.nil_append] at heq
    obtain ⟨-, heq⟩ := hname.unique hname' (ht.append _) (h'.starts.append _) heq
    obtain ⟨-, hmark, -⟩ := h.value_append h' hb hb₁ (.inl rfl) (.inr (.inr rfl)) heq
    cases hmark
  | field hname' h' hb₁ hb₂ hfields' =>
    simp only [List.append_assoc, List.cons_append] at heq
    obtain ⟨rfl, heq⟩ := hname.unique hname' (ht.append _) (h'.starts.append _) heq
    obtain ⟨rfl, -, hrest⟩ := h.value_append h' hb hb₁ (.inl rfl) (.inl rfl) heq
    have hmore := (hu.append r).eq_of_blanks (hfields'.starts.append r') hb' hb₂ hrest
    obtain ⟨rfl, hrest⟩ := hfields _ _ _ _ hfields' hmore
    exact ⟨rfl, hrest⟩

end Phrase.Determined

/-- **Every text determines what it spells.** -/
theorem Spells.determined {p : Phrase} (h : Spells t p) : p.Determined t := by
  induction h with
  | null => exact .null
  | bool b => exact .bool b
  | natural h => exact .natural h
  | negative h => exact .negative h
  | text h => exact .text h
  | noItems hb => exact .noItems hb
  | array hb h ih => exact .array hb h ih
  | noFields hb => exact .noFields hb
  | object hb h ih => exact .object hb h ih
  | lastItem h hb ih => exact .lastItem ih hb
  | item h hb hb' hitems ih ihItems => exact .item ih hb hb' hitems.starts ihItems
  | lastField hname h hb ih => exact .lastField hname h.starts ih hb
  | field hname h hb hb' hfields ih ihFields =>
    exact .field hname h.starts ih hb hb' hfields.starts ihFields

theorem textOf_iff {v : Json} : TextOf v t ↔
    ∃ b s b', t = b ++ (s ++ b') ∧ Blank b ∧ Spells s (.value v) ∧ Blank b' := by
  constructor
  · rintro ⟨hb, h, hb'⟩
    exact ⟨_, _, _, rfl, hb, h, hb'⟩
  · rintro ⟨b, s, b', rfl, hb, h, hb'⟩
    exact ⟨hb, h, hb'⟩

/-- **A text is the text of one value.** -/
theorem TextOf.unique {v w : Json} (hv : TextOf v t) (hw : TextOf w t) : v = w := by
  obtain ⟨b, s, b', rfl, hb, h, hb'⟩ := textOf_iff.1 hv
  obtain ⟨b₁, s₁, b₁', heq, hb₁, h₁, hb₁'⟩ := textOf_iff.1 hw
  -- without the blanks in front the texts are equal, and behind the values are blanks only
  have hinner := (h.starts.append b').eq_of_blanks (h₁.starts.append b₁') hb hb₁ heq
  have hended {blanks : Text} (hblanks : Blank blanks) : Ended blanks := by
    simpa using hblanks.ended_append (nofun : Ended [])
  exact (h.determined _ _ _ _ h₁ (hended hb') (hended hb₁') hinner).1

/-! ### Literals -/

theorem quoted_append (s rest : Text) :
    quoted false s ++ rest
      = .char '"' :: (s.flatMap (escapedPoint false) ++ .char '"' :: rest) := by
  simp [quoted]

/-- **Literals delimit themselves.** -/
theorem quoted_append_inj {s s' : Text} (h : quoted false s ++ r = quoted false s' ++ r') :
    s = s' ∧ r = r' := by
  rw [quoted_append, quoted_append, List.cons.injEq] at h
  exact (spellsString_escaped s).unique (spellsString_escaped s') h.2

end GraphPath.Json
