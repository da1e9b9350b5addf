import GraphPath.Proofs.Json.Printing
import GraphPath.Proofs.Text.Joined

/-!
# Printed texts stay on one line

Nothing below the blank stands inside a JSON string, and all else that the printer writes is above
it. So a printed value holds no line break, and a stream of printed values, each closed by a line
break, is cut at these breaks and nowhere else.

* `Text.Inert` — printed ASCII;
* `Json.Visible` — texts without controls;
* `Json.SpellsString.visible` — strings, however they are escaped;
* `Json.Layout.OneLine`, `Json.FloatFree.visible_print` — layouts and printed values;
* `Json.Visible.splitOn_line` — a line in a stream.
-/

namespace GraphPath

/-! ### Printed ASCII -/

/-- **Printed ASCII**, DEL included. -/
def Text.Inert (t : Text) : Prop := ∀ c ∈ t, 0x20 ≤ c.toNat ∧ c.toNat < 0x80

instance (t : Text) : Decidable (Text.Inert t) :=
  inferInstanceAs (Decidable (∀ c ∈ t, 0x20 ≤ c.toNat ∧ c.toNat < 0x80))

theorem Text.inert_ofNat (n : Nat) : (Text.ofNat n).Inert := by
  intro c hc
  have hdigit := Text.isDigit_of_mem_ofNat hc
  cases c with
  | surrogate u => cases hdigit
  | char d =>
    have hd : '0' ≤ d ∧ d ≤ '9' := by simpa [Json.isDigit, Json.digit?] using hdigit
    have hlow : 48 ≤ d.toNat := hd.1
    have hhigh : d.toNat ≤ 57 := hd.2
    rw [CodePoint.toNat_char]
    omega

namespace Json

theorem inert_of_escaped {e c : CodePoint} (h : escaped? e = some c) :
    0x20 ≤ e.toNat ∧ e.toNat < 0x80 := by
  unfold escaped? at h
  split_ifs at h <;>
  · subst e
    decide

/-! ### Texts without controls -/

/-- **A text without controls.** -/
def Visible (t : Text) : Prop := ∀ c ∈ t, 0x20 ≤ c.toNat

instance (t : Text) : Decidable (Visible t) :=
  inferInstanceAs (Decidable (∀ c ∈ t, 0x20 ≤ c.toNat))

theorem visible_nil : Visible [] := nofun

@[simp] theorem visible_append {t u : Text} : Visible (t ++ u) ↔ Visible t ∧ Visible u :=
  List.forall_mem_append

@[simp] theorem visible_cons {c : CodePoint} {t : Text} :
    Visible (c :: t) ↔ 0x20 ≤ c.toNat ∧ Visible t :=
  List.forall_mem_cons

/-! ### Strings and numbers -/

theorem visible_hexDigit {c : CodePoint} {n : Nat} (h : hexDigit? c = some n) :
    0x20 ≤ c.toNat := by
  cases c with
  | surrogate u => cases h
  | char d =>
    by_contra hlow
    -- below the blank there is no digit and no letter
    have hchar : ∀ e : Char, 0x20 ≤ e.toNat → ¬ e ≤ d := fun e he hle =>
      hlow (Nat.le_trans he hle)
    simp [hexDigit?, hchar '0' (by decide), hchar 'a' (by decide), hchar 'A' (by decide)] at h

theorem SpellsUnit.visible {digits : Text} {n : Nat} (h : SpellsUnit digits n) :
    Visible digits := by
  cases h with
  | mk ha hb hc hd =>
    simp [visible_hexDigit ha, visible_hexDigit hb, visible_hexDigit hc, visible_hexDigit hd,
      visible_nil]

/-- **Strings hold no controls**, however they are escaped. -/
theorem SpellsString.visible {t s : Text} (h : SpellsString t s) : Visible t := by
  -- on the spelling: no rule lets a control stand in a string as it is
  induction h with
  | nil => exact visible_nil
  | point hquote hbackslash hcontrol h ih => exact visible_cons.2 ⟨hcontrol, ih⟩
  | letter hletter h ih =>
    exact visible_cons.2 ⟨by decide, visible_cons.2 ⟨(inert_of_escaped hletter).1, ih⟩⟩
  | unit hdigits hpoint h ih => simp [hdigits.visible, ih]
  | pair hhigh hlow hpoint h ih =>
    simp [hhigh.visible, hlow.visible, ih]

theorem visible_quoted (t : Text) : Visible (quoted false t) := by
  simp [quoted, (spellsString_escaped t).visible, visible_nil]

theorem visible_ofInt (n : Int) : Visible (Text.ofInt n) := by
  have hnat (n : Nat) : Visible (Text.ofNat n) := fun c hc => (Text.inert_ofNat n c hc).1
  cases n with
  | ofNat n => exact hnat n
  | negSucc n => exact visible_cons.2 ⟨by decide, hnat (n + 1)⟩

/-! ### Values -/

/-- **Layouts on one line**: every code point past the controls is written as itself, and the
separators hold no controls. -/
structure Layout.OneLine (layout : Layout) : Prop where
  verbatim : layout.asciiOnly = false
  visible_item : Visible layout.itemSeparator
  visible_name : Visible layout.nameSeparator

theorem Layout.oneLine_spaced : spaced.OneLine := ⟨rfl, by decide, by decide⟩

section Values

variable {layout : Layout} (hlayout : layout.OneLine)

include hlayout

theorem visible_moreItems {items : List Json} (h : ∀ item ∈ items, Visible (print layout item)) :
    Visible (printMoreItems layout items) := by
  induction items with
  | nil => exact visible_nil
  | cons item items ih =>
    obtain ⟨hitem, hrest⟩ := List.forall_mem_cons.1 h
    simp [printMoreItems, hlayout.visible_item, hitem, ih hrest]

theorem visible_moreFields {fields : Fields Json}
    (h : ∀ field ∈ fields, Visible (print layout field.2)) :
    Visible (printMoreFields layout fields) := by
  induction fields with
  | nil => exact visible_nil
  | cons field fields ih =>
    obtain ⟨hfield, hrest⟩ := List.forall_mem_cons.1 h
    simp [printMoreFields, hlayout.verbatim, hlayout.visible_item, hlayout.visible_name,
      visible_quoted, hfield, ih hrest]

/-- **Printed values hold no controls.** -/
theorem FloatFree.visible_print {v : Json} (h : v.FloatFree) : Visible (print layout v) := by
  -- on the value: around its parts stand brackets, separators and quotes
  induction h with
  | null => exact (by decide : Visible "null")
  | bool b =>
    cases b with
    | false => exact (by decide : Visible "false")
    | true => exact (by decide : Visible "true")
  | int n => exact visible_ofInt n
  | text t =>
    rw [print, hlayout.verbatim]
    exact visible_quoted t
  | @array items h ih =>
    cases items with
    | nil => exact (by decide : Visible "[]")
    | cons item items =>
      obtain ⟨hitem, hrest⟩ := List.forall_mem_cons.1 ih
      simp [print, printItems, hitem, visible_moreItems hlayout hrest, visible_nil]
  | @object fields h ih =>
    cases fields with
    | nil => exact (by decide : Visible [.char '\x7b', .char '\x7d'])
    | cons field fields =>
      obtain ⟨hfield, hrest⟩ := List.forall_mem_cons.1 ih
      simp [print, printFields, hlayout.verbatim, hlayout.visible_name, visible_quoted, hfield,
        visible_moreFields hlayout hrest, visible_nil]

end Values

/-! ### Lines -/

/-- **A line in a stream** is cut off at the break that closes it. -/
theorem Visible.splitOn_line {line : Text} (h : Visible line) (rest : Text) :
    Text.splitOn (.char '\n') (line ++ .char '\n' :: rest)
      = line :: Text.splitOn (.char '\n') rest :=
  Text.splitOn_piece (fun hbreak => absurd (h _ hbreak) (by decide)) rest

end Json

end GraphPath
