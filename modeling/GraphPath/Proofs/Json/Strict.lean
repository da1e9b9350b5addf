import GraphPath.Json.Strict
import GraphPath.Proofs.Json.Legible
import GraphPath.Proofs.Json.Printing
import GraphPath.Proofs.Json.Reading
import GraphPath.Proofs.Json.Writing

/-!
# What the strict reader takes

The strict reader takes every text of a value without surrogates whose integers are short enough,
their signs included, and whose containers are not nested too deeply. What it takes it reads like
the other reader.

The scan for long numbers goes through a text code point by code point. Behind the text of a value
it stands between values or in the whole part of a number, and whatever may come next takes it out
of there.

* `Json.isWide` — integers whose text is too long for the strict reader;
* `Json.Scan.run` — where a scan ends, if it meets no long number;
* `Json.Spells.run` — the scan of what a text spells;
* `Json.TextOf.readStrict?_eq` — the texts that are taken;
* `Json.read_of_readStrict?` — what is taken is read alike.
-/

namespace GraphPath.Json

/-- **Whether the text of an integer**, its sign included, is too long for the strict reader. -/
def isWide (n : Int) : Bool := decide (digitLimit < (Text.ofInt n).length)

/-! ### Scans -/

namespace Scan

/-- **Where a scan ends** behind a text, if it meets no number that is too long. -/
def run (scan : Scan) : Text → Option Scan
  | [] => some scan
  | c :: rest => if (scan.next c).isTooLong then none else run (scan.next c) rest

theorem hasLongWhole_eq (scan : Scan) (t : Text) : hasLongWhole scan t = (scan.run t).isNone := by
  induction t generalizing scan with
  | nil => rfl
  | cons c rest ih =>
    rw [hasLongWhole, run, ih]
    split <;> simp [*]

theorem run_append (scan : Scan) (t u : Text) :
    scan.run (t ++ u) = (scan.run t).bind (·.run u) := by
  induction t generalizing scan with
  | nil => rfl
  | cons c rest ih =>
    rw [List.cons_append, run, run, ih]
    split <;> rfl

/-- A text that leaves a scan somewhere is passed over. -/
theorem run_append_of_run {scan behind : Scan} {t : Text} (h : scan.run t = some behind)
    (u : Text) : scan.run (t ++ u) = behind.run u := by
  rw [run_append, h]
  rfl

/-- One code point, unless it makes a number too long. -/
theorem run_cons {scan behind : Scan} {c : CodePoint} (h : scan.next c = behind)
    (hshort : behind.isTooLong = false) (rest : Text) : scan.run (c :: rest) = behind.run rest := by
  rw [run, h, hshort, if_neg Bool.false_ne_true]

/-- **A scan behind a value** stands between values, or in a whole part of any length. -/
inductive Settled : Scan → Prop
  | between : Settled .between
  | inWhole (length : Nat) : Settled (.inWhole length)

/-- What may stand behind a value. -/
def Closing (c : CodePoint) : Prop :=
  isBlank c = true ∨ c = .char ',' ∨ c = .char ']' ∨ c = .char '\x7d'

/-- **Behind a value**, what may come next takes the scan between values. -/
theorem Settled.next_eq {scan : Scan} (h : scan.Settled) {c : CodePoint} (hc : Closing c) :
    scan.next c = .between := by
  -- seven code points, and none of them goes on with a number
  have hpoint : c = .char ' ' ∨ c = .char '\t' ∨ c = .char '\n' ∨ c = .char '\r' ∨ c = .char ',' ∨
      c = .char ']' ∨ c = .char '\x7d' := by
    simpa [Closing, isBlank, or_assoc] using hc
  cases h <;> rcases hpoint with rfl | rfl | rfl | rfl | rfl | rfl | rfl <;> rfl

theorem Settled.run_cons {scan : Scan} (h : scan.Settled) {c : CodePoint} (hc : Closing c)
    (rest : Text) : scan.run (c :: rest) = Scan.between.run rest :=
  Scan.run_cons (h.next_eq hc) rfl rest

end Scan

open Scan

theorem run_bracket (rest : Text) :
    Scan.between.run (.char '[' :: rest) = Scan.between.run rest := rfl

theorem run_brace (rest : Text) :
    Scan.between.run (.char '\x7b' :: rest) = Scan.between.run rest := rfl

/-- Blanks leave a scan between values. -/
theorem Blank.run {b : Text} (h : Blank b) : Scan.between.run b = some .between := by
  induction b with
  | nil => rfl
  | cons c b ih =>
    obtain ⟨hc, hb⟩ := List.forall_mem_cons.1 h
    rw [Settled.between.run_cons (.inl hc)]
    exact ih hb

/-- **Behind a value** come blanks and what closes it. -/
theorem Blank.run_closing {b : Text} (h : Blank b) {scan : Scan} (hscan : scan.Settled)
    {c : CodePoint} (hc : Closing c) (rest : Text) :
    scan.run (b ++ c :: rest) = Scan.between.run rest := by
  cases b with
  | nil => exact hscan.run_cons hc rest
  | cons d b =>
    obtain ⟨hd, hb⟩ := List.forall_mem_cons.1 h
    rw [List.cons_append, hscan.run_cons (.inl hd), run_append_of_run (Blank.run hb),
      Settled.between.run_cons hc]

/-! ### Strings -/

/-- A code point of a string that is neither a quote nor a backslash. -/
theorem run_inString_cons {c : CodePoint} (hquote : c ≠ .char '"') (hbackslash : c ≠ .char '\\')
    (rest : Text) : Scan.inString.run (c :: rest) = Scan.inString.run rest :=
  run_cons (by rw [next, if_neg hquote, if_neg hbackslash]) rfl rest

theorem run_hexDigit {c : CodePoint} {x : Nat} (h : hexDigit? c = some x) (rest : Text) :
    Scan.inString.run (c :: rest) = Scan.inString.run rest := by
  refine run_inString_cons ?_ ?_ rest <;> (rintro rfl; cases h)

/-- A backslash and what is behind it. -/
theorem run_escape (c : CodePoint) (rest : Text) :
    Scan.inString.run (.char '\\' :: c :: rest) = Scan.inString.run rest := rfl

theorem SpellsUnit.run {digits : Text} {n : Nat} (h : SpellsUnit digits n) (rest : Text) :
    Scan.inString.run (digits ++ rest) = Scan.inString.run rest := by
  cases h with
  | mk ha hb hc hd =>
    simp only [List.cons_append, List.nil_append]
    rw [run_hexDigit ha, run_hexDigit hb, run_hexDigit hc, run_hexDigit hd]

/-- **What stands in a string** does not lead out of it. -/
theorem SpellsString.run {t s : Text} (h : SpellsString t s) (rest : Text) :
    Scan.inString.run (t ++ rest) = Scan.inString.run rest := by
  -- on the spelling: an escape is skipped, and its digits are like other code points
  induction h with
  | nil => rfl
  | point hquote hbackslash hcontrol h ih =>
    rw [List.cons_append, run_inString_cons hquote hbackslash, ih]
  | letter hletter h ih =>
    rw [List.cons_append, List.cons_append, run_escape, ih]
  | unit hdigits hpoint h ih =>
    rw [List.cons_append, List.cons_append, run_escape, List.append_assoc, hdigits.run, ih]
  | pair hhigh hlow hpoint h ih =>
    rw [List.cons_append, List.cons_append, run_escape, List.append_assoc, hhigh.run,
      List.cons_append, List.cons_append, run_escape, List.append_assoc, hlow.run, ih]

/-- A string with its quotes. -/
theorem SpellsString.run_quoted {t s : Text} (h : SpellsString t s) (rest : Text) :
    Scan.between.run (.char '"' :: (t ++ .char '"' :: rest)) = Scan.between.run rest := by
  have hopening : Scan.between.run (.char '"' :: (t ++ .char '"' :: rest))
      = Scan.inString.run (t ++ .char '"' :: rest) := rfl
  rw [hopening, h.run]
  rfl

theorem SpellsName.run {n name : Text} (h : SpellsName n name) :
    Scan.between.run n = some .between := by
  cases h with
  | @mk t _ b b' h hb hb' =>
    have hcolon : Scan.between.run (.char ':' :: b') = Scan.between.run b' := rfl
    rw [h.run_quoted, run_append_of_run (Blank.run hb), hcolon, Blank.run hb']

/-! ### Numbers -/

/-- **Digits go on with a whole part** as long as it is short enough. -/
theorem run_digits {digits : Text} (h : ∀ c ∈ digits, isDigit c = true) (length : Nat)
    (hlimit : length + digits.length ≤ digitLimit) :
    (Scan.inWhole length).run digits = some (.inWhole (length + digits.length)) := by
  induction digits generalizing length with
  | nil => rfl
  | cons c digits ih =>
    obtain ⟨hc, hdigits⟩ := List.forall_mem_cons.1 h
    rw [List.length_cons] at hlimit ⊢
    -- the number of digits so far is the state, so the bound is that of all of them
    have hshort : Scan.isTooLong (.inWhole (length + 1)) = false := by
      rw [isTooLong, decide_eq_false_iff_not]
      omega
    rw [Scan.run_cons (by rw [next, if_pos hc]) hshort, ih hdigits _ (by omega)]
    congr 2
    omega

theorem opensWhole_of_isDigit {c : CodePoint} (h : isDigit c = true) : opensWhole c = true := by
  rw [opensWhole, h, Bool.or_true]

/-- The first code point of a number. -/
theorem run_opening {c : CodePoint} (hc : opensWhole c = true) (rest : Text) :
    Scan.between.run (c :: rest) = (Scan.inWhole 1).run rest := by
  have hquote : c ≠ .char '"' := by
    rintro rfl
    cases hc
  exact Scan.run_cons (by rw [next, if_neg hquote, if_pos hc]) (by decide) rest

/-- A number has no more digits than the text of its value. -/
theorem Whole.length_le_ofNat {digits : Text} (h : Whole digits) :
    digits.length ≤ (Text.ofNat (ofDigits digits)).length := by
  refine h.length_le (List.length_pos_iff.2 (Text.ofNat_ne_nil _)) ?_
  have hsize := ofDigits_lt (Text.ofNat (ofDigits digits))
  rwa [ofDigits_ofNat] at hsize

/-- **A number that is not wide** is passed over. -/
theorem Whole.run {digits : Text} (h : Whole digits) (hwide : isWide (ofDigits digits) = false) :
    Scan.between.run digits = some (.inWhole digits.length) := by
  have hlimit : digits.length ≤ digitLimit :=
    Nat.le_trans h.length_le_ofNat (Nat.le_of_not_lt (of_decide_eq_false hwide))
  obtain ⟨c, others, rfl, hc⟩ := h.eq_cons
  have hothers : ∀ d ∈ others, isDigit d = true := fun d hd => h.all_digits d (.tail _ hd)
  rw [List.length_cons] at hlimit ⊢
  rw [run_opening (opensWhole_of_isDigit hc), run_digits hothers 1 (by omega), Nat.add_comm]

/-- A negative number is one longer than its digits. -/
theorem Whole.run_negative {digits : Text} (h : Whole digits)
    (hwide : isWide (-(ofDigits digits : Int)) = false) :
    Scan.between.run (.char '-' :: digits) = some (.inWhole (1 + digits.length)) := by
  have hlimit : 1 + digits.length ≤ digitLimit := by
    cases hvalue : ofDigits digits with
    | zero =>
      -- the sign of zero is not part of its value
      have hone : digits.length ≤ 1 := h.length_le Nat.one_pos (by rw [hvalue]; decide)
      have hroom : 2 ≤ digitLimit := by decide
      omega
    | succ n =>
      have hlength := h.length_le_ofNat
      have htext : Text.ofInt (-(ofDigits digits : Int)) = .char '-' :: Text.ofNat (n + 1) := by
        rw [hvalue]
        rfl
      rw [isWide, htext, decide_eq_false_iff_not, List.length_cons] at hwide
      rw [hvalue] at hlength
      omega
  rw [run_opening rfl, run_digits h.all_digits 1 hlimit]

/-! ### Values -/

/-- No integer in what is spelled is wide. -/
def Phrase.hasWide : Phrase → Bool
  | .value v => v.anyInt isWide
  | .items vs => anyIntOfItems isWide vs
  | .fields fs => anyIntOfFields isWide fs

/-- **The scan of what a text spells** meets no long number if no integer in it is wide. -/
theorem Spells.run {t : Text} {p : Phrase} (h : Spells t p) (hp : p.hasWide = false) :
    ∃ scan, Settled scan ∧ Scan.between.run t = some scan := by
  -- on the spelling: a number leaves the scan inside it, and every other value between values
  induction h with
  | null => exact ⟨_, .between, rfl⟩
  | bool b => cases b <;> exact ⟨_, .between, rfl⟩
  | natural h => exact ⟨_, .inWhole _, h.run hp⟩
  | negative h => exact ⟨_, .inWhole _, h.run_negative hp⟩
  | text h => exact ⟨_, .between, h.run_quoted []⟩
  | noItems hb =>
    refine ⟨_, .between, ?_⟩
    rw [run_bracket, run_append_of_run (Blank.run hb)]
    rfl
  | noFields hb =>
    refine ⟨_, .between, ?_⟩
    rw [run_brace, run_append_of_run (Blank.run hb)]
    rfl
  | array hb h ih =>
    rw [run_bracket, run_append_of_run (Blank.run hb)]
    exact ih hp
  | object hb h ih =>
    rw [run_brace, run_append_of_run (Blank.run hb)]
    exact ih hp
  | lastItem h hb ih =>
    obtain ⟨scan, hscan, hrun⟩ := ih (Bool.or_eq_false_iff.1 hp).1
    refine ⟨_, .between, ?_⟩
    rw [run_append_of_run hrun, hb.run_closing hscan (.inr (.inr (.inl rfl)))]
    rfl
  | item h hb hb' hitems ih ihItems =>
    obtain ⟨hv, hrest⟩ := Bool.or_eq_false_iff.1 hp
    obtain ⟨scan, hscan, hrun⟩ := ih hv
    rw [run_append_of_run hrun, hb.run_closing hscan (.inr (.inl rfl)),
      run_append_of_run (Blank.run hb')]
    exact ihItems hrest
  | lastField hname h hb ih =>
    obtain ⟨scan, hscan, hrun⟩ := ih (Bool.or_eq_false_iff.1 hp).1
    refine ⟨_, .between, ?_⟩
    rw [run_append_of_run hname.run, run_append_of_run hrun,
      hb.run_closing hscan (.inr (.inr (.inr rfl)))]
    rfl
  | field hname h hb hb' hfields ih ihFields =>
    obtain ⟨hv, hrest⟩ := Bool.or_eq_false_iff.1 hp
    obtain ⟨scan, hscan, hrun⟩ := ih hv
    rw [run_append_of_run hname.run, run_append_of_run hrun,
      hb.run_closing hscan (.inr (.inl rfl)), run_append_of_run (Blank.run hb')]
    exact ihFields hrest

theorem TextOf.hasLongWhole_eq {v : Json} {t : Text} (h : TextOf v t)
    (hv : v.anyInt isWide = false) : hasLongWhole .between t = false := by
  obtain @⟨b, t, b', hb, h, hb'⟩ := h
  obtain ⟨scan, hscan, hrun⟩ := h.run hv
  rw [Scan.hasLongWhole_eq, run_append_of_run (Blank.run hb), run_append_of_run hrun]
  -- nothing more is met behind the value
  cases b' with
  | nil => rfl
  | cons c b' =>
    obtain ⟨hc, hb'⟩ := List.forall_mem_cons.1 hb'
    rw [hscan.run_cons (.inl hc), Blank.run hb']
    rfl

/-! ### The strict reader -/

/-- **The texts that are taken**: those of values without surrogates, without wide integers and not
nested too deeply. -/
theorem TextOf.readStrict?_eq {v : Json} {t : Text} (h : TextOf v t) (hproper : v.Proper)
    (hscalar : v.hasSurrogate = false) (hwide : v.anyInt isWide = false)
    (hnesting : v.nesting ≤ nestingLimit) : readStrict? t = some v := by
  have htext : t.any (·.isSurrogate) = false := scalar_iff.1 (h.scalar hscalar)
  rw [readStrict?, h.readRaw_eq hproper]
  simp only [htext, hscalar, h.hasLongWhole_eq hwide, Nat.not_lt.2 hnesting, hproper.merged_eq]
  rfl

/-- **What is taken is read alike** by the other reader. -/
theorem read_of_readStrict? {v : Json} {t : Text} (h : readStrict? t = some v) :
    read t = .ok v := by
  unfold readStrict? at h
  split at h
  · cases h
  · next raw hraw =>
    split at h
    · cases h
    · rw [read, hraw]
      exact congrArg Except.ok (Option.some.inj h)

end GraphPath.Json
