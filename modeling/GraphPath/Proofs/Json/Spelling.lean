import GraphPath.Proofs.Json.Proper
import GraphPath.Proofs.Text.Utf8

/-!
# The grammar of JSON texts

What the texts of a value are, apart from any reader: words, integers, strings with any of their
escapes, and arrays and objects with blanks where they may stand. Floats have no texts here.

One relation covers values and the parts between brackets, so that every statement about texts is
one induction.

* `Json.SpellsString` — what stands between the quotes of a string;
* `Json.Whole` — the digits of a natural number;
* `Json.Phrase`, `Json.Spells` — the texts of values, items and fields;
* `Json.TextOf` — the whole texts of a value, blanks around it included;
* `Json.Spells.starts` — what a text can begin with;
* `Json.Spells.scalar` — texts hold no surrogates that their values do not hold.
-/

namespace GraphPath.Json

/-- Blanks. -/
def Blank (t : Text) : Prop := ∀ c ∈ t, isBlank c = true

theorem blank_nil : Blank [] := nofun

/-! ### Strings -/

/-- **A 16-bit unit** by its four hexadecimal digits. -/
inductive SpellsUnit : Text → Nat → Prop
  | mk {a b c d : CodePoint} {w x y z : Nat} (ha : hexDigit? a = some w) (hb : hexDigit? b = some x)
      (hc : hexDigit? c = some y) (hd : hexDigit? d = some z) :
      SpellsUnit [a, b, c, d] (((w * 16 + x) * 16 + y) * 16 + z)

/-- **What stands between the quotes** of a string: code points as they are, letters behind a
backslash, and numbers of code points, past `U+FFFF` as a surrogate pair. -/
inductive SpellsString : Text → Text → Prop
  | nil : SpellsString [] []
  | point {c : CodePoint} {t s : Text} (hquote : c ≠ .char '"') (hbackslash : c ≠ .char '\\')
      (hcontrol : 0x20 ≤ c.toNat) (h : SpellsString t s) : SpellsString (c :: t) (c :: s)
  | letter {c d : CodePoint} {t s : Text} (hletter : escaped? c = some d) (h : SpellsString t s) :
      SpellsString (.char '\\' :: c :: t) (d :: s)
  | unit {digits t s : Text} {n : Nat} {c : Char} (hdigits : SpellsUnit digits n)
      (hpoint : CodePoint.ofNat? n = some (.char c)) (h : SpellsString t s) :
      SpellsString (.char '\\' :: .char 'u' :: (digits ++ t)) (.char c :: s)
  | pair {high low t s : Text} {m n : Nat} {c : Char} (hhigh : SpellsUnit high m)
      (hlow : SpellsUnit low n) (hpoint : CodePoint.ofPair? m n = some (.char c))
      (h : SpellsString t s) :
      SpellsString (.char '\\' :: .char 'u' :: (high ++ .char '\\' :: .char 'u' :: (low ++ t)))
        (.char c :: s)

/-- **A name** in its quotes, with the colon behind it and any blanks. -/
inductive SpellsName : Text → Text → Prop
  | mk {t s b b' : Text} (h : SpellsString t s) (hb : Blank b) (hb' : Blank b') :
      SpellsName (.char '"' :: (t ++ .char '"' :: (b ++ .char ':' :: b'))) s

/-! ### Values -/

/-- **The digits of a natural number**: at least one, and no zero in front of others. -/
structure Whole (digits : Text) : Prop where
  ne_nil : digits ≠ []
  all_digits : ∀ c ∈ digits, isDigit c = true
  leading : ∀ rest, digits = .char '0' :: rest → rest = []

/-- **What a text can spell**: a value, or what is between the brackets of one. -/
inductive Phrase where
  | value (v : Json)
  | items (items : List Json)
  | fields (fields : Fields Json)

/-- **The texts of values**, and of items and fields up to their closing bracket. -/
inductive Spells : Text → Phrase → Prop
  | null : Spells "null" (.value .null)
  | bool (b : Bool) : Spells (if b then "true" else "false") (.value (.bool b))
  | natural {digits : Text} (h : Whole digits) : Spells digits (.value (.int (ofDigits digits)))
  | negative {digits : Text} (h : Whole digits) :
      Spells (.char '-' :: digits) (.value (.int (-(ofDigits digits : Int))))
  | text {t s : Text} (h : SpellsString t s) :
      Spells (.char '"' :: (t ++ [.char '"'])) (.value (.text s))
  | noItems {b : Text} (hb : Blank b) :
      Spells (.char '[' :: (b ++ [.char ']'])) (.value (.array []))
  | array {b t : Text} {items : List Json} (hb : Blank b) (h : Spells t (.items items)) :
      Spells (.char '[' :: (b ++ t)) (.value (.array items))
  | noFields {b : Text} (hb : Blank b) :
      Spells (.char '\x7b' :: (b ++ [.char '\x7d'])) (.value (.object []))
  | object {b t : Text} {fields : Fields Json} (hb : Blank b) (h : Spells t (.fields fields)) :
      Spells (.char '\x7b' :: (b ++ t)) (.value (.object fields))
  | lastItem {t b : Text} {v : Json} (h : Spells t (.value v)) (hb : Blank b) :
      Spells (t ++ (b ++ [.char ']'])) (.items [v])
  | item {t b b' u : Text} {v : Json} {items : List Json} (h : Spells t (.value v)) (hb : Blank b)
      (hb' : Blank b') (hitems : Spells u (.items items)) :
      Spells (t ++ (b ++ .char ',' :: (b' ++ u))) (.items (v :: items))
  | lastField {n t b : Text} {name : Text} {v : Json} (hname : SpellsName n name)
      (h : Spells t (.value v)) (hb : Blank b) :
      Spells (n ++ (t ++ (b ++ [.char '\x7d']))) (.fields [(name, v)])
  | field {n t b b' u : Text} {name : Text} {v : Json} {fields : Fields Json}
      (hname : SpellsName n name) (h : Spells t (.value v)) (hb : Blank b) (hb' : Blank b')
      (hfields : Spells u (.fields fields)) :
      Spells (n ++ (t ++ (b ++ .char ',' :: (b' ++ u)))) (.fields ((name, v) :: fields))

/-- **The whole texts of a value.** -/
inductive TextOf (v : Json) : Text → Prop
  | mk {b t b' : Text} (hb : Blank b) (h : Spells t (.value v)) (hb' : Blank b') :
      TextOf v (b ++ (t ++ b'))

/-! ### What texts begin with -/

/-- A text that begins with neither a blank nor a closing bracket. -/
def Starts (t : Text) : Prop :=
  ∃ c rest, t = c :: rest ∧ isBlank c = false ∧ c ≠ .char ']' ∧ c ≠ .char '\x7d'

theorem Starts.append {t : Text} (h : Starts t) (u : Text) : Starts (t ++ u) := by
  obtain ⟨c, rest, rfl, hc⟩ := h
  exact ⟨c, rest ++ u, rfl, hc⟩

theorem isDigit_eq_false_of_isBlank {c : CodePoint} (h : isBlank c = true) :
    Json.isDigit c = false := by
  simp only [isBlank, Bool.or_eq_true, decide_eq_true_eq] at h
  rcases h with ((rfl | rfl) | rfl) | rfl <;> rfl

theorem Whole.starts {digits : Text} (h : Whole digits) : Starts digits := by
  obtain ⟨hne, hdigit, -⟩ := h
  cases digits with
  | nil => exact absurd rfl hne
  | cons c rest =>
    have hc := hdigit c List.mem_cons_self
    -- a digit is neither a blank nor a bracket
    refine ⟨c, rest, rfl, Bool.eq_false_iff.2 fun hblank => ?_, ?_, ?_⟩
    · rw [isDigit_eq_false_of_isBlank hblank] at hc
      cases hc
    · rintro rfl
      cases hc
    · rintro rfl
      cases hc

theorem SpellsName.starts {n name : Text} (h : SpellsName n name) : Starts n := by
  cases h with
  | mk h hb hb' => exact ⟨.char '"', _, rfl, rfl, nofun, nofun⟩

/-- **Texts begin with what they spell.** -/
theorem Spells.starts {t : Text} {p : Phrase} (h : Spells t p) : Starts t := by
  -- on the spelling: items and fields begin with the first value or name
  induction h with
  | null => exact ⟨.char 'n', _, rfl, rfl, nofun, nofun⟩
  | bool b =>
    cases b with
    | false => exact ⟨.char 'f', _, rfl, rfl, nofun, nofun⟩
    | true => exact ⟨.char 't', _, rfl, rfl, nofun, nofun⟩
  | natural h => exact h.starts
  | negative h => exact ⟨.char '-', _, rfl, rfl, nofun, nofun⟩
  | text h => exact ⟨.char '"', _, rfl, rfl, nofun, nofun⟩
  | noItems hb => exact ⟨.char '[', _, rfl, rfl, nofun, nofun⟩
  | array hb h => exact ⟨.char '[', _, rfl, rfl, nofun, nofun⟩
  | noFields hb => exact ⟨.char '\x7b', _, rfl, rfl, nofun, nofun⟩
  | object hb h => exact ⟨.char '\x7b', _, rfl, rfl, nofun, nofun⟩
  | lastItem h hb ih => exact ih.append _
  | item h hb hb' hitems ih => exact ih.append _
  | lastField hname h hb => exact hname.starts.append _
  | field hname h hb hb' hfields => exact hname.starts.append _

/-! ### Surrogates -/

/-- No surrogates. -/
def Scalar (t : Text) : Prop := ∀ c ∈ t, c.isSurrogate = false

@[simp] theorem scalar_nil : Scalar [] := nofun

@[simp] theorem scalar_append {t u : Text} : Scalar (t ++ u) ↔ Scalar t ∧ Scalar u :=
  List.forall_mem_append

@[simp] theorem scalar_cons_char {c : Char} {t : Text} : Scalar (.char c :: t) ↔ Scalar t :=
  List.forall_mem_cons.trans (and_iff_right rfl)

theorem scalar_cons {c : CodePoint} {t : Text} :
    Scalar (c :: t) ↔ c.isSurrogate = false ∧ Scalar t := List.forall_mem_cons

theorem scalar_iff {t : Text} : Scalar t ↔ t.any (·.isSurrogate) = false := by
  simp [Scalar]

theorem Blank.scalar {b : Text} (h : Blank b) : Scalar b := by
  intro c hc
  cases c with
  | char d => rfl
  | surrogate u => cases h _ hc

theorem Whole.scalar {digits : Text} (h : Whole digits) : Scalar digits := by
  intro c hc
  cases c with
  | char d => rfl
  | surrogate u => cases h.all_digits _ hc

theorem SpellsUnit.scalar {digits : Text} {n : Nat} (h : SpellsUnit digits n) : Scalar digits := by
  have hdigit {c : CodePoint} {x : Nat} (h : hexDigit? c = some x) : c.isSurrogate = false := by
    cases c with
    | char d => rfl
    | surrogate u => cases h
  cases h with
  | mk ha hb hc hd => simp [scalar_cons, hdigit ha, hdigit hb, hdigit hc, hdigit hd]

theorem SpellsString.scalar {t s : Text} (h : SpellsString t s) (hs : Scalar s) : Scalar t := by
  -- on the spelling: what stands behind a backslash is ASCII
  induction h with
  | nil => exact hs
  | point hquote hbackslash hcontrol h ih =>
    obtain ⟨hc, hs⟩ := scalar_cons.1 hs
    exact scalar_cons.2 ⟨hc, ih hs⟩
  | @letter c d t s hletter h ih =>
    have hc : c.isSurrogate = false := by
      cases c with
      | char d => rfl
      | surrogate u => cases hletter
    exact scalar_cons_char.2 (scalar_cons.2 ⟨hc, ih (scalar_cons.1 hs).2⟩)
  | unit hdigits hpoint h ih => simp [hdigits.scalar, ih (scalar_cons.1 hs).2]
  | pair hhigh hlow hpoint h ih => simp [hhigh.scalar, hlow.scalar, ih (scalar_cons.1 hs).2]

theorem SpellsName.scalar {n name : Text} (h : SpellsName n name) (hname : Scalar name) :
    Scalar n := by
  cases h with
  | mk h hb hb' => simp [h.scalar hname, hb.scalar, hb'.scalar]

/-- Whether a surrogate occurs in what is spelled. -/
def Phrase.hasSurrogate : Phrase → Bool
  | .value v => v.hasSurrogate
  | .items vs => itemsHaveSurrogate vs
  | .fields fs => fieldsHaveSurrogate fs

/-- **Texts hold no surrogates** that their values do not hold. -/
theorem Spells.scalar {t : Text} {p : Phrase} (h : Spells t p) (hp : p.hasSurrogate = false) :
    Scalar t := by
  -- on the spelling: what surrounds the parts is ASCII, and the parts have no surrogates
  induction h with
  | null => simp [Text.ofString]
  | bool b => cases b <;> simp [Text.ofString]
  | natural h => exact h.scalar
  | negative h => simp [h.scalar]
  | text h => simp [h.scalar (scalar_iff.2 hp)]
  | noItems hb | noFields hb => simp [hb.scalar]
  | array hb h ih | object hb h ih => simp [hb.scalar, ih hp]
  | lastItem h hb ih =>
    obtain ⟨hv, -⟩ := Bool.or_eq_false_iff.1 hp
    simp [ih hv, hb.scalar]
  | item h hb hb' hitems ih ihItems =>
    obtain ⟨hv, hrest⟩ := Bool.or_eq_false_iff.1 hp
    simp [ih hv, hb.scalar, hb'.scalar, ihItems hrest]
  | lastField hname h hb ih =>
    obtain ⟨hfield, -⟩ := Bool.or_eq_false_iff.1 hp
    obtain ⟨hn, hv⟩ := Bool.or_eq_false_iff.1 hfield
    simp [hname.scalar (scalar_iff.2 hn), ih hv, hb.scalar]
  | field hname h hb hb' hfields ih ihFields =>
    obtain ⟨hfield, hrest⟩ := Bool.or_eq_false_iff.1 hp
    obtain ⟨hn, hv⟩ := Bool.or_eq_false_iff.1 hfield
    simp [hname.scalar (scalar_iff.2 hn), ih hv, hb.scalar, hb'.scalar, ihFields hrest]

theorem TextOf.scalar {v : Json} {t : Text} (h : TextOf v t) (hv : v.hasSurrogate = false) :
    Scalar t := by
  cases h with
  | mk hb h hb' => simp [hb.scalar, h.scalar hv, hb'.scalar]

end GraphPath.Json
