import GraphPath.Json.Printer
import GraphPath.Proofs.Json.Digits
import GraphPath.Proofs.Json.Spelling

/-!
# The printer writes the grammar

What is printed for a value without floats, with any blanks behind commas and colons and every code
point as itself, is a text of that value.

* `Json.WrittenAs`, `Json.writtenAs_escapedPoint` — the three ways to write a code point;
* `Json.spells_escapedPoint` — one code point of a string, escaped where it has to be;
* `Json.whole_ofNat` — the digits of a number;
* `Json.Layout.verbatim` — layouts that escape nothing else;
* `Json.FloatFree.textOf_print`, `Json.FloatFree.textOf_print_spaced` — the texts of a value.
-/

namespace GraphPath.Json

/-! ### Strings -/

theorem hexDigit?_digitChar {n : Nat} (h : n < 16) : hexDigit? (.char n.digitChar) = some n := by
  interval_cases n <;> rfl

/-- A control is written with four digits. -/
theorem spellsUnit_ofHex {n : Nat} (h : n < 0x20) : SpellsUnit (Text.ofHex 4 n) n := by
  -- two zeros, and the two digits that a control has
  have hdigits : Text.ofHex 4 n
      = [.char '0', .char '0', .char (n / 16).digitChar, .char (n % 16).digitChar] := by
    interval_cases n <;> rfl
  have hvalue : n = ((0 * 16 + 0) * 16 + n / 16) * 16 + n % 16 := by omega
  have hzero : hexDigit? (.char '0') = some 0 := rfl
  have hspells := SpellsUnit.mk hzero hzero (hexDigit?_digitChar (n := n / 16) (by omega))
    (hexDigit?_digitChar (n := n % 16) (by omega))
  rwa [← hdigits, ← hvalue] at hspells

/-- **How a code point is written**: as a letter behind a backslash, as the number of a control, or
as it is. -/
inductive WrittenAs (c : CodePoint) : Text → Prop
  | letter {e : CodePoint} (hletter : escaped? e = some c) (hslash : e ≠ .char '/') :
    WrittenAs c [.char '\\', e]
  | number (hcontrol : c.toNat < 0x20) : WrittenAs c (unicodeEscape c.toNat)
  | point (hquote : c ≠ .char '"') (hbackslash : c ≠ .char '\\') (hcontrol : 0x20 ≤ c.toNat) :
    WrittenAs c [c]

theorem writtenAs_escapedPoint (c : CodePoint) : WrittenAs c (escapedPoint false c) := by
  by_cases hquote : c = .char '"'
  · subst hquote
    exact .letter rfl nofun
  by_cases hbackslash : c = .char '\\'
  · subst hbackslash
    exact .letter rfl nofun
  -- controls that have a letter, then those that are written as a number
  by_cases hletter : c = .char '\n' ∨ c = .char '\r' ∨ c = .char '\t' ∨ c = .char '\x08' ∨
      c = .char '\x0c'
  · rcases hletter with rfl | rfl | rfl | rfl | rfl <;> exact .letter rfl nofun
  obtain ⟨hn, hr, ht, hb, hf⟩ : c ≠ .char '\n' ∧ c ≠ .char '\r' ∧ c ≠ .char '\t' ∧
      c ≠ .char '\x08' ∧ c ≠ .char '\x0c' := by
    simpa only [not_or] using hletter
  by_cases hcontrol : c.toNat < 0x20
  · have hescaped : escapedPoint false c = unicodeEscape c.toNat := by
      simp [escapedPoint, hquote, hbackslash, hn, hr, ht, hb, hf, hcontrol]
    rw [hescaped]
    exact .number hcontrol
  · have hescaped : escapedPoint false c = [c] := by
      simp [escapedPoint, hquote, hbackslash, hn, hr, ht, hb, hf, hcontrol]
    rw [hescaped]
    exact .point hquote hbackslash (Nat.le_of_not_lt hcontrol)

/-- **One code point of a string**, escaped where it has to be. -/
theorem spells_escapedPoint (c : CodePoint) {t s : Text} (h : SpellsString t s) :
    SpellsString (escapedPoint false c ++ t) (c :: s) := by
  have hwritten := writtenAs_escapedPoint c
  generalize escapedPoint false c = text at hwritten ⊢
  -- each way to write a code point is a rule of the grammar
  cases hwritten with
  | letter hletter => exact .letter hletter h
  | number hcontrol =>
    cases c with
    | surrogate u =>
      simp only [CodePoint.toNat_surrogate] at hcontrol
      omega
    | char d => exact .unit (spellsUnit_ofHex hcontrol) (CodePoint.ofNat?_char d) h
  | point hquote hbackslash hcontrol => exact .point hquote hbackslash hcontrol h

theorem spellsString_escaped (s : Text) : SpellsString (s.flatMap (escapedPoint false)) s := by
  induction s with
  | nil => exact .nil
  | cons c s ih => exact spells_escapedPoint c ih

/-! ### Numbers -/

/-- **The digits of a number** have no zero in front. -/
theorem whole_ofNat (n : Nat) : Whole (Text.ofNat n) where
  ne_nil := Text.ofNat_ne_nil n
  all_digits _ := Text.isDigit_of_mem_ofNat
  leading _ := Text.leading_of_ofNat

theorem spells_ofInt (n : Int) : Spells (Text.ofInt n) (.value (.int n)) := by
  cases n with
  | ofNat n =>
    have h := Spells.natural (whole_ofNat n)
    rwa [ofDigits_ofNat] at h
  | negSucc n =>
    have h := Spells.negative (whole_ofNat (n + 1))
    rwa [ofDigits_ofNat] at h

/-! ### Values -/

/-- **Layouts that escape only what has to be**, with blanks behind commas and behind colons. -/
def Layout.verbatim (b b' : Text) : Layout := ⟨.char ',' :: b, .char ':' :: b', false⟩

theorem Layout.compact_eq : compact = verbatim [] [] := rfl

theorem Layout.spaced_eq : spaced = verbatim [.char ' '] [.char ' '] := rfl

variable {b b' : Text}

theorem spellsName_quoted (hb' : Blank b') (name : Text) :
    SpellsName (quoted false name ++ .char ':' :: b') name := by
  have h := SpellsName.mk (spellsString_escaped name) blank_nil hb'
  simpa [quoted] using h

theorem spells_items (hb : Blank b) {item : Json} {items : List Json}
    (h : ∀ other ∈ item :: items, Spells (print (.verbatim b b') other) (.value other)) :
    Spells (printItems (.verbatim b b') (item :: items) ++ [.char ']'])
      (.items (item :: items)) := by
  -- the first item is printed alone, so the induction runs over those behind it
  induction items generalizing item with
  | nil =>
    have hlast := Spells.lastItem (h item List.mem_cons_self) blank_nil
    simpa [printItems, printMoreItems] using hlast
  | cons next items ih =>
    obtain ⟨hitem, hrest⟩ := List.forall_mem_cons.1 h
    have hmore := Spells.item hitem blank_nil hb (ih hrest)
    simpa [printItems, printMoreItems, Layout.verbatim] using hmore

theorem spells_fields (hb : Blank b) (hb' : Blank b') {field : Text × Json} {fields : Fields Json}
    (h : ∀ other ∈ field :: fields, Spells (print (.verbatim b b') other.2) (.value other.2)) :
    Spells (printFields (.verbatim b b') (field :: fields) ++ [.char '\x7d'])
      (.fields (field :: fields)) := by
  -- as for items, with a name in front of every value
  induction fields generalizing field with
  | nil =>
    have hlast := Spells.lastField (spellsName_quoted hb' field.1) (h field List.mem_cons_self)
      blank_nil
    simpa [printFields, printMoreFields, Layout.verbatim] using hlast
  | cons next fields ih =>
    obtain ⟨hfield, hrest⟩ := List.forall_mem_cons.1 h
    have hmore := Spells.field (spellsName_quoted hb' field.1) hfield blank_nil hb
      (ih hrest)
    simpa [printFields, printMoreFields, Layout.verbatim] using hmore

/-- **What is printed is a text of the value.** -/
theorem FloatFree.spells_print (hb : Blank b) (hb' : Blank b') {v : Json} (h : v.FloatFree) :
    Spells (print (.verbatim b b') v) (.value v) := by
  -- on the value; brackets with nothing between them have a rule of their own
  induction h with
  | null => exact .null
  | bool b => exact .bool b
  | int n => exact spells_ofInt n
  | text t =>
    have htext := Spells.text (spellsString_escaped t)
    simpa [print, quoted, Layout.verbatim] using htext
  | @array items h ih =>
    cases items with
    | nil => exact .noItems blank_nil
    | cons item items => exact .array (b := []) blank_nil (spells_items hb ih)
  | @object fields h ih =>
    cases fields with
    | nil => exact .noFields blank_nil
    | cons field fields => exact .object (b := []) blank_nil (spells_fields hb hb' ih)

/-- What is printed is a whole text of the value. -/
theorem FloatFree.textOf_verbatim (hb : Blank b) (hb' : Blank b') {v : Json} (h : v.FloatFree) :
    TextOf v (print (.verbatim b b') v) := by
  have htext := TextOf.mk blank_nil (h.spells_print hb hb') blank_nil
  rwa [List.nil_append, List.append_nil] at htext

/-- **The compact text** of a value is one of its texts. -/
theorem FloatFree.textOf_print {v : Json} (h : v.FloatFree) : TextOf v (print .compact v) := by
  rw [Layout.compact_eq]
  exact h.textOf_verbatim blank_nil blank_nil

/-- **The text with blanks** of a value is one of its texts. -/
theorem FloatFree.textOf_print_spaced {v : Json} (h : v.FloatFree) :
    TextOf v (print .spaced v) := by
  have hblank : Blank [.char ' '] := fun c hc => by
    rw [List.mem_singleton.1 hc]
    rfl
  rw [Layout.spaced_eq]
  exact h.textOf_verbatim hblank hblank

theorem Proper.textOf_print {v : Json} (h : v.Proper) : TextOf v (print .compact v) :=
  h.floatFree.textOf_print

end GraphPath.Json
