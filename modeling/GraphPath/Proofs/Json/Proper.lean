import GraphPath.Json.Reader
import Mathlib.Algebra.Group.Nat.Defs

/-!
# Proper values

A value is proper if JSON text can hold it exactly: numbers are integers that are not too long to
be read, and the fields of every object have distinct names. Merging repeated names leaves such a
value as it is.

* `Fields.ofList_of_nodup` — fields with distinct names are kept as they stand;
* `Json.FloatFree` — values without floats, with integers of any size;
* `Json.Proper` — proper values;
* `Json.Proper.merged_eq` — merging finds nothing to merge in them.
-/

namespace GraphPath

namespace Fields

variable {α : Type}

theorem set_of_not_mem {name : Text} {value : α} {fields : Fields α} (h : name ∉ fields.names) :
    set name value fields = fields ++ [(name, value)] := by
  induction fields with
  | nil => rfl
  | cons field fields ih =>
    obtain ⟨other, old⟩ := field
    obtain ⟨hne, hrest⟩ := not_or.1 fun hmem => h (List.mem_cons.2 hmem)
    rw [set, if_neg (Ne.symm hne), ih hrest]
    rfl

/-- **Distinct names stay as they are.** -/
theorem ofList_of_nodup {fields : Fields α} (h : fields.names.Nodup) : ofList fields = fields := by
  -- the fields are appended one by one to those that were written before
  suffices hfold : ∀ before : Fields α, List.Nodup (names (before ++ fields)) →
      fields.foldl (fun merged field => set field.1 field.2 merged) before = before ++ fields from
    hfold [] h
  clear h
  induction fields with
  | nil => exact fun before _ => (List.append_nil before).symm
  | cons field fields ih =>
    intro before h
    have hnames : (names before ++ field.1 :: names fields).Nodup := by simpa [names] using h
    have hnew : field.1 ∉ names before := fun hmem =>
      (List.nodup_append.1 hnames).2.2 _ hmem _ List.mem_cons_self rfl
    rw [List.foldl_cons, set_of_not_mem hnew, ih]
    · simp
    · simpa using h

end Fields

namespace Json

/-- **Values without floats**, at any depth. -/
inductive FloatFree : Json → Prop
  | null : FloatFree .null
  | bool (b : Bool) : FloatFree (.bool b)
  | int (n : Int) : FloatFree (.int n)
  | text (t : Text) : FloatFree (.text t)
  | array {items : List Json} (h : ∀ item ∈ items, FloatFree item) : FloatFree (.array items)
  | object {fields : Fields Json} (h : ∀ field ∈ fields, FloatFree field.2) :
    FloatFree (.object fields)

/-- **Proper values**: no floats, no integers that are too long to be read, and no repeated
names. -/
inductive Proper : Json → Prop
  | null : Proper .null
  | bool (b : Bool) : Proper (.bool b)
  | int {n : Int} (h : n.natAbs < 10 ^ digitLimit) : Proper (.int n)
  | text (t : Text) : Proper (.text t)
  | array {items : List Json} (h : ∀ item ∈ items, Proper item) : Proper (.array items)
  | object {fields : Fields Json} (hnames : fields.names.Nodup)
      (h : ∀ field ∈ fields, Proper field.2) : Proper (.object fields)

/-- Proper values hold no floats. -/
theorem Proper.floatFree {v : Json} (h : v.Proper) : v.FloatFree := by
  induction h with
  | null => exact .null
  | bool b => exact .bool b
  | int h => exact .int _
  | text t => exact .text t
  | array h ih => exact .array ih
  | object hnames h ih => exact .object ih

theorem mergedItems_eq {items : List Json} (h : ∀ item ∈ items, item.merged = item) :
    mergedItems items = items := by
  induction items with
  | nil => rfl
  | cons item items ih =>
    rw [mergedItems, h item List.mem_cons_self, ih fun other hother => h other (.tail _ hother)]

theorem mergedFields_eq {fields : Fields Json} (h : ∀ field ∈ fields, field.2.merged = field.2) :
    mergedFields fields = fields := by
  induction fields with
  | nil => rfl
  | cons field fields ih =>
    rw [mergedFields, h field List.mem_cons_self, ih fun other hother => h other (.tail _ hother)]

/-- **Nothing is merged** in a proper value. -/
theorem Proper.merged_eq {v : Json} (h : v.Proper) : v.merged = v := by
  induction h with
  | null => rfl
  | bool b => rfl
  | int h => rfl
  | text t => rfl
  | array h ih => rw [merged, mergedItems_eq ih]
  | object hnames h ih => rw [merged, mergedFields_eq ih, Fields.ofList_of_nodup hnames]

end Json

end GraphPath
