import GraphPath.Json.Printer
import GraphPath.Proofs.Json.Legible

/-!
# Values that can be written

A value is written unless an integer in it has too many digits, and what is written is the text
that its layout gives it. Proper values can always be written.

* `Json.isOversized_iff` — integers with too many digits;
* `Json.anyInt_array`, `Json.anyInt_object` — integers inside of containers;
* `Json.Legible.hasOversized_eq` — values that reading can give;
* `Json.write_eq_ok_iff`, `Json.write_eq_error_iff` — what becomes of any value;
* `Json.Proper.write_eq` — proper values.
-/

namespace GraphPath.Json

/-! ### Integers inside of values -/

theorem isOversized_iff {n : Int} : isOversized n = true ↔ 10 ^ digitLimit ≤ n.natAbs := by
  -- the definition computes the power, which unfolding must not
  have hpower (k : Nat) : Nat.pow 10 k = 10 ^ k := rfl
  rw [isOversized, hpower, decide_eq_true_iff]

theorem isOversized_eq_false_iff {n : Int} :
    isOversized n = false ↔ n.natAbs < 10 ^ digitLimit := by
  rw [← Bool.not_eq_true, isOversized_iff, Nat.not_le]

/-- A number with few digits does not have too many. -/
theorem isOversized_of_short {n : Int} {digits : Nat} (h : n.natAbs < 10 ^ digits)
    (hdigits : digits ≤ digitLimit) : isOversized n = false :=
  isOversized_eq_false_iff.2 (Nat.lt_of_lt_of_le h (Nat.pow_le_pow_right (by decide) hdigits))

section AnyInt

variable {kind : Int → Bool}

theorem anyIntOfItems_eq (items : List Json) :
    anyIntOfItems kind items = items.any (anyInt kind) := by
  induction items with
  | nil => rfl
  | cons item items ih => rw [anyIntOfItems, ih, List.any_cons]

theorem anyIntOfFields_eq (fields : Fields Json) :
    anyIntOfFields kind fields = fields.any fun field => anyInt kind field.2 := by
  induction fields with
  | nil => rfl
  | cons field fields ih => rw [anyIntOfFields, ih, List.any_cons]

/-- No integer of an array is of a kind if none of an item is. -/
theorem anyInt_array {items : List Json} : anyInt kind (.array items) = false ↔
    ∀ item ∈ items, anyInt kind item = false := by
  rw [anyInt, anyIntOfItems_eq, List.any_eq_false]
  simp

/-- No integer of an object is of a kind if none of a field is. -/
theorem anyInt_object {fields : Fields Json} : anyInt kind (.object fields) = false ↔
    ∀ field ∈ fields, anyInt kind field.2 = false := by
  rw [anyInt, anyIntOfFields_eq, List.any_eq_false]
  simp

end AnyInt

/-- **Values that reading can give** hold no integers with too many digits. -/
theorem Legible.hasOversized_eq {v : Json} (h : v.Legible) : v.hasOversized = false := by
  induction h with
  | null => rfl
  | bool b => rfl
  | int h =>
    rw [hasOversized, anyInt]
    exact isOversized_eq_false_iff.2 h
  | float x => rfl
  | text t => rfl
  | array h ih => exact anyInt_array.2 ih
  | object hnames h ih => exact anyInt_object.2 ih

theorem Proper.hasOversized_eq {v : Json} (h : v.Proper) : v.hasOversized = false :=
  h.legible.hasOversized_eq

/-! ### Writing -/

section Write

variable {layout : Layout} {v : Json}

theorem write_of_small (h : v.hasOversized = false) : v.write layout = .ok (v.print layout) := by
  rw [write, h]
  rfl

theorem write_of_large (h : v.hasOversized = true) : v.write layout = .error .tooManyDigits := by
  rw [write, h]
  rfl

/-- **A value is written** if no integer in it has too many digits. -/
theorem write_eq_ok_iff {t : Text} :
    v.write layout = .ok t ↔ v.hasOversized = false ∧ v.print layout = t := by
  cases h : v.hasOversized with
  | false => simp [write_of_small h]
  | true => simp [write_of_large h]

/-- **Nothing else** keeps a value from being written. -/
theorem write_eq_error_iff {fault : Unwritable} :
    v.write layout = .error fault ↔ v.hasOversized = true := by
  cases fault
  cases h : v.hasOversized with
  | false => simp [write_of_small h]
  | true => simp [write_of_large h]

theorem Proper.write_eq (h : v.Proper) (layout : Layout) : v.write layout = .ok (v.print layout) :=
  write_of_small h.hasOversized_eq

end Write

end GraphPath.Json

/-! ### An integer with too many digits -/

namespace GraphPath.Sample

/-- The least integer that has too many digits. -/
def huge : Int := ((10 ^ Json.digitLimit : Nat) : Int)

theorem huge_isOversized : Json.isOversized huge = true := by
  rw [Json.isOversized_iff, huge, Int.natAbs_natCast]

theorem huge_hasOversized : (Json.int huge).hasOversized = true := by
  rw [Json.hasOversized, Json.anyInt, huge_isOversized]

theorem huge_pos : 0 < huge := Int.natCast_pos.2 (Nat.pow_pos (by decide))

end GraphPath.Sample
