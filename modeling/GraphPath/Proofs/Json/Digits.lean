import GraphPath.Json.Reader
import Mathlib.Data.List.Basic
import Mathlib.Tactic.IntervalCases
import Mathlib.Tactic.Ring

/-!
# Digits and numbers

The digits of a number read as that number, and they have no zero in front unless the number is
zero.

* `Json.ofDigits_append` — the number of joined digits;
* `Json.ofDigits_ofNat` — digits are read as the number that they were written for;
* `Text.isDigit_of_mem_ofNat`, `Text.ofNat_ne_nil`, `Text.leading_of_ofNat` — the digits of a
  number.
-/

namespace GraphPath

namespace Json

theorem ofDigits_append (digits more : Text) :
    ofDigits (digits ++ more) = ofDigits digits * 10 ^ more.length + ofDigits more := by
  -- from any number on, so that the digits in front can be carried along
  suffices h : ∀ n, more.foldl (fun n c => n * 10 + (digit? c).getD 0) n
      = n * 10 ^ more.length + ofDigits more by
    rw [ofDigits, List.foldl_append]
    exact h _
  induction more with
  | nil => intro n; simp [ofDigits]
  | cons c more ih =>
    intro n
    have hmore : ofDigits (c :: more) = (digit? c).getD 0 * 10 ^ more.length + ofDigits more := by
      rw [ofDigits, List.foldl_cons, Nat.zero_mul, Nat.zero_add, ih]
    rw [List.foldl_cons, ih, hmore, List.length_cons, Nat.pow_succ]
    ring

theorem digit?_pos {c : CodePoint} (h : isDigit c = true) (hzero : c ≠ .char '0') :
    0 < (digit? c).getD 0 := by
  cases c with
  | surrogate u => cases h
  | char d =>
    have hd : '0' ≤ d ∧ d ≤ '9' := by simpa [isDigit, digit?] using h
    -- the digits stand in a row from `48` on, and only the first of them is zero
    have hlow : 48 ≤ d.toNat := hd.1
    have hne : d.toNat ≠ 48 := fun heq => hzero (congrArg _ (Char.toNat_inj.1 heq))
    simp only [digit?, hd, and_self, if_true, Option.getD_some]
    omega

theorem digit?_digitChar {n : Nat} (h : n < 10) : digit? (.char n.digitChar) = some n := by
  interval_cases n <;> rfl

end Json

namespace Text

theorem ofNat_of_lt {n : Nat} (h : n < 10) : ofNat n = [.char n.digitChar] := by
  rw [ofNat, Nat.toDigits_of_lt_base h]
  rfl

theorem ofNat_of_le {n : Nat} (h : 10 ≤ n) :
    ofNat n = ofNat (n / 10) ++ [.char (n % 10).digitChar] := by
  rw [ofNat, Nat.toDigits_of_base_le (by decide) h, List.map_append]
  rfl

theorem isDigit_of_mem_ofNat {n : Nat} {c : CodePoint} (h : c ∈ ofNat n) : Json.isDigit c := by
  obtain ⟨d, hd, rfl⟩ := List.mem_map.1 h
  have hdigit : d.isDigit = true := Nat.isDigit_of_mem_toDigits (by decide) (by decide) hd
  simp only [Char.isDigit, Bool.and_eq_true, decide_eq_true_eq] at hdigit
  have hrange : '0' ≤ d ∧ d ≤ '9' := hdigit
  simp [Json.isDigit, Json.digit?, hrange]

theorem ofNat_ne_nil (n : Nat) : ofNat n ≠ [] := by
  simp [ofNat, Nat.toDigits_ne_nil]

end Text

/-- **Digits are read as their number.** -/
theorem Json.ofDigits_ofNat (n : Nat) : ofDigits (Text.ofNat n) = n := by
  induction n using Nat.strongRecOn with
  | ind n ih =>
    -- on the number: what is in front of the last digit is written for a tenth of it
    by_cases h : n < 10
    · rw [Text.ofNat_of_lt h]
      simp [ofDigits, digit?_digitChar h]
    · have hlast : n % 10 < 10 := Nat.mod_lt n (by decide)
      rw [Text.ofNat_of_le (Nat.le_of_not_lt h), ofDigits_append, ih (n / 10) (by omega)]
      simp only [ofDigits, List.foldl_cons, List.foldl_nil, digit?_digitChar hlast,
        Option.getD_some, List.length_singleton]
      omega

namespace Text

theorem ofNat_injective {m n : Nat} (h : ofNat m = ofNat n) : m = n := by
  rw [← Json.ofDigits_ofNat m, h, Json.ofDigits_ofNat]

/-- **Only zero starts with a zero.** -/
theorem leading_of_ofNat {n : Nat} {rest : Text} (h : ofNat n = .char '0' :: rest) :
    rest = [] := by
  induction n using Nat.strongRecOn generalizing rest with
  | ind n ih =>
    by_cases hn : n < 10
    · rw [ofNat_of_lt hn] at h
      exact (List.cons.inj h).2.symm
    · -- the digits in front of the last one would be those of zero
      rw [ofNat_of_le (Nat.le_of_not_lt hn)] at h
      cases hfront : ofNat (n / 10) with
      | nil => exact absurd hfront (ofNat_ne_nil _)
      | cons c front =>
        rw [hfront, List.cons_append] at h
        obtain ⟨rfl, -⟩ := List.cons.inj h
        have hvalue := Json.ofDigits_ofNat (n / 10)
        rw [hfront, ih (n / 10) (by omega) hfront] at hvalue
        have hzero : n / 10 = 0 := hvalue.symm
        omega

end Text

end GraphPath
