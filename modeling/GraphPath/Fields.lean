import GraphPath.Text.CodePoint

/-!
# Fields in order

Named values in the order of their first mention. Objects of JSON and rows of a result
are both lists of fields; writing a field that is present keeps its place.

* `Fields.get?` — the value under a name, `Fields.get?_eq_some_iff` — where the names are distinct;
* `Fields.set` — writing one field, `Fields.get?_set_self`, `Fields.get?_set_of_ne` — what is
  there after it;
* `Fields.ofList` — writing many, the last value winning at the first place;
* `Fields.nodup_names_ofList` — the names of the result are distinct.
-/

namespace GraphPath

/-- **Fields.** Named values in order. -/
abbrev Fields (α : Type) := List (Text × α)

namespace Fields

variable {α : Type}

/-- The names, in order. -/
def names (fields : Fields α) : List Text := fields.map (·.1)

/-- The value of the first field of a name. -/
def get? (name : Text) : Fields α → Option α
  | [] => none
  | (other, value) :: fields => if other = name then some value else get? name fields

/-- **Writing a field.** A present name keeps its place and takes the new value, a new
name goes to the end. -/
def set (name : Text) (value : α) : Fields α → Fields α
  | [] => [(name, value)]
  | (other, old) :: fields =>
    if other = name then (name, value) :: fields else (other, old) :: set name value fields

/-- The fields with one entry per name: the last value at the first place. -/
def ofList (fields : Fields α) : Fields α :=
  fields.foldl (fun merged field => set field.1 field.2 merged) []

theorem get?_map {β : Type} (f : α → β) (name : Text) (fields : Fields α) :
    get? name (fields.map fun (name, value) => (name, f value)) = (get? name fields).map f := by
  induction fields with
  | nil => rfl
  | cons field fields ih =>
    obtain ⟨other, value⟩ := field
    rw [List.map_cons, get?, get?, ih]
    split <;> rfl

/-- Where the names are distinct, each field is the first of its name. -/
theorem get?_eq_some_iff {fields : Fields α} (h : fields.names.Nodup) {name : Text} {value : α} :
    get? name fields = some value ↔ (name, value) ∈ fields := by
  induction fields with
  | nil => simp [get?]
  | cons field fields ih =>
    obtain ⟨other, first⟩ := field
    obtain ⟨hother, hrest⟩ := List.nodup_cons.1 h
    by_cases hname : other = name
    · subst hname
      have hnew : (other, value) ∉ fields := fun hmem => hother (List.mem_map.2 ⟨_, hmem, rfl⟩)
      simp [get?, hnew, eq_comm]
    · simp [get?, hname, ih hrest, Ne.symm hname]

theorem get?_set_self (name : Text) (value : α) (fields : Fields α) :
    get? name (set name value fields) = some value := by
  induction fields with
  | nil => simp [set, get?]
  | cons field fields ih =>
    obtain ⟨present, old⟩ := field
    by_cases h : present = name
    · simp [set, get?, h]
    · simp [set, get?, h, ih]

theorem get?_set_of_ne {name other : Text} (h : name ≠ other) (value : α) (fields : Fields α) :
    get? other (set name value fields) = get? other fields := by
  induction fields with
  | nil => simp [set, get?, h]
  | cons field fields ih =>
    obtain ⟨present, old⟩ := field
    by_cases hpresent : present = name
    · subst hpresent
      simp [set, get?, h]
    · simp [set, get?, hpresent, ih]

theorem mem_names_set {name other : Text} {value : α} {fields : Fields α} :
    other ∈ (set name value fields).names ↔ other = name ∨ other ∈ fields.names := by
  induction fields with
  | nil => simp [set, names]
  | cons field fields ih =>
    obtain ⟨present, old⟩ := field
    by_cases h : present = name
    · simp [set, names, h]
    · simp only [set, h, ↓reduceIte]
      simp only [names, List.map_cons, List.mem_cons] at ih ⊢
      rw [ih]
      exact or_left_comm

theorem nodup_names_set {name : Text} {value : α} {fields : Fields α}
    (h : fields.names.Nodup) : (set name value fields).names.Nodup := by
  induction fields with
  | nil => simp [set, names]
  | cons field fields ih =>
    obtain ⟨present, old⟩ := field
    obtain ⟨hnew, hrest⟩ := List.nodup_cons.1 h
    by_cases heq : present = name
    · subst heq
      simpa [set, names] using h
    · simp only [set, heq, ↓reduceIte]
      refine List.nodup_cons.2 ⟨fun hmem => ?_, ih hrest⟩
      rcases mem_names_set.1 hmem with h' | h'
      · exact heq h'
      · exact hnew h'

/-- Written fields have distinct names. -/
theorem nodup_names_ofList (fields : Fields α) : (ofList fields).names.Nodup := by
  suffices h : ∀ merged : Fields α, merged.names.Nodup →
      (fields.foldl (fun merged field => set field.1 field.2 merged) merged).names.Nodup from
    h [] List.nodup_nil
  induction fields with
  | nil => exact fun _ h => h
  | cons field fields ih => exact fun merged h => ih _ (nodup_names_set h)

end Fields

end GraphPath
