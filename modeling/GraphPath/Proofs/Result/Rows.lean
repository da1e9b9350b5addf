import GraphPath.Proofs.Json.Writing
import GraphPath.Proofs.Outcome
import GraphPath.Result.Decode

/-!
# What decoding gives

The rows of objects are there, one for each, if their values can be written; and what is wrong with
an answer is told apart by who says it: only the answer itself can reject a query, and then it is
the query that was asked.

* `Json.toFieldText_eq_error_iff`, `Json.shownText_eq_error_iff` — values without a text;
* `Row.ofObject_fields` — the row of an object has its names, and the field texts of its values;
* `Rows.ofItems_objects`, `Rows.map_of_objects` — the rows of objects, in order;
* `DecodeError.about_of_ok` — the error about a payload that can be written;
* `Rows.ofJson_ne_rejected` — reading the rows of a value never rejects a query;
* `Rows.ofResponse_rejected` — a rejection names the query of the answer.
-/

namespace GraphPath

/-! ### The texts of values -/

namespace Json

variable {v : Json}

/-- A value that is no string has its compact text as a field. -/
theorem toFieldText_eq (h : ∀ t, v ≠ .text t) : v.toFieldText = v.write .compact := by
  cases v with
  | text t => exact absurd rfl (h t)
  | _ => rw [toFieldText]; exact nofun

/-- A value that is no string is shown as its text with blanks. -/
theorem shownText_eq (h : ∀ t, v ≠ .text t) : v.shownText = v.write .spaced := by
  cases v with
  | text t => exact absurd rfl (h t)
  | _ => rw [shownText]; exact nofun

theorem toFieldText_eq_error_iff {fault : Unwritable} :
    v.toFieldText = .error fault ↔ v.hasOversized = true := by
  by_cases h : ∃ t, v = .text t
  · obtain ⟨t, rfl⟩ := h
    exact ⟨nofun, nofun⟩
  · rw [toFieldText_eq (not_exists.1 h), write_eq_error_iff]

theorem shownText_eq_error_iff {fault : Unwritable} :
    v.shownText = .error fault ↔ v.hasOversized = true := by
  by_cases h : ∃ t, v = .text t
  · obtain ⟨t, rfl⟩ := h
    exact ⟨nofun, nofun⟩
  · rw [shownText_eq (not_exists.1 h), write_eq_error_iff]

end Json

/-! ### The row of an object -/

namespace Row

theorem eq_of_fields {row other : Row} (h : row.fields = other.fields) : row = other := by
  cases row
  cases other
  cases h
  rfl

/-- Field texts are those of the values, in order. -/
theorem fieldTexts_eq_ok {fields : Fields Json} {texts : Fields Text}
    (h : fieldTexts fields = .ok texts) :
    texts.map (Prod.map id .ok) = fields.map (Prod.map id Json.toFieldText) := by
  -- on the fields: the first value has its text, and so have the others
  induction fields generalizing texts with
  | nil =>
    cases h
    rfl
  | cons field fields ih =>
    obtain ⟨text, htext, h⟩ := Outcome.bind_eq_ok.1 h
    obtain ⟨rest, hrest, h⟩ := Outcome.bind_eq_ok.1 h
    cases h
    rw [List.map_cons, List.map_cons, ih hrest, Prod.map, Prod.map, htext]

/-- **Only a value that cannot be written** keeps fields from having their texts. -/
theorem fieldTexts_eq_error_iff {fields : Fields Json} {fault : Json.Unwritable} :
    fieldTexts fields = .error fault ↔ (Json.object fields).hasOversized = true := by
  induction fields with
  | nil => exact ⟨nofun, nofun⟩
  | cons field fields ih =>
    have hcons : (Json.object (field :: fields)).hasOversized
        = (field.2.hasOversized || (Json.object fields).hasOversized) := rfl
    rw [fieldTexts, hcons, Bool.or_eq_true]
    cases htext : field.2.toFieldText with
    | error other =>
      cases other
      cases fault
      exact ⟨fun _ => .inl (Json.toFieldText_eq_error_iff.1 htext), fun _ => rfl⟩
    | ok text =>
      -- the first value is written, so the fault is that of another one
      have hsmall : field.2.hasOversized ≠ true := by
        intro hlarge
        have herror : field.2.toFieldText = .error fault := Json.toFieldText_eq_error_iff.2 hlarge
        rw [herror] at htext
        cases htext
      rw [or_iff_right hsmall, ← ih]
      exact Outcome.bind_ok_eq_error _

theorem ofObject_eq_error_iff {fields : Fields Json} {fault : Json.Unwritable} :
    ofObject fields = .error fault ↔ (Json.object fields).hasOversized = true := by
  rw [← fieldTexts_eq_error_iff]
  exact Outcome.bind_ok_eq_error _

/-- **An object whose values can be written** has a row. -/
theorem ofObject_isOk {fields : Fields Json} (h : (Json.object fields).hasOversized = false) :
    ∃ row, ofObject fields = .ok row := by
  cases hrow : ofObject fields with
  | ok row => exact ⟨row, rfl⟩
  | error fault =>
    rw [ofObject_eq_error_iff.1 hrow] at h
    cases h

/-- **The row of an object** has its fields in their order, each with its field text. -/
theorem ofObject_fields {fields : Fields Json} {row : Row} (hnames : fields.names.Nodup)
    (h : ofObject fields = .ok row) :
    row.fields.map (Prod.map id .ok) = fields.map (Prod.map id Json.toFieldText) := by
  obtain ⟨texts, htexts, h⟩ := Outcome.bind_eq_ok.1 h
  cases h
  have heq := fieldTexts_eq_ok htexts
  -- names are not changed by the texts, so none of them is written twice
  have hsame : texts.names = fields.names := by
    simpa [Fields.names, Function.comp_def] using congrArg (List.map Prod.fst) heq
  have hkept : (ofList texts).fields = texts := by
    rw [← hsame] at hnames
    exact Fields.ofList_of_nodup hnames
  rw [hkept, heq]

end Row

/-! ### The rows of a value -/

/-- **A problem with a payload that can be written** is told with a fragment of it. -/
theorem DecodeError.about_of_ok {problem : ResponseProblem} {payload : Payload} {fragment : Text}
    (h : payload.fragment = .ok fragment) :
    about problem payload = .response ⟨problem, fragment⟩ := by
  rw [about, h]

theorem DecodeError.about_of_error {problem : ResponseProblem} {payload : Payload}
    {fault : Json.Unwritable} (h : payload.fragment = .error fault) :
    about problem payload = .unwritable fault := by
  rw [about, h]

theorem DecodeError.about_ne_rejected (problem : ResponseProblem) (payload : Payload)
    (complaint : Text) (asked : Option Text) :
    about problem payload ≠ .rejected complaint asked := by
  unfold about
  split <;> exact nofun

namespace Rows

/-- **The rows of objects**, in order. -/
theorem ofItems_objects (index : Nat) {objects : List (Fields Json)} {rows : List Row}
    (h : objects.map Row.ofObject = rows.map .ok) :
    ofItems index (objects.map .object) = .ok rows := by
  induction objects generalizing index rows with
  | nil =>
    cases rows with
    | nil => rfl
    | cons row rows => cases h
  | cons fields objects ih =>
    cases rows with
    | nil => cases h
    | cons row rows =>
      obtain ⟨hrow, hrest⟩ := List.cons.inj h
      rw [List.map_cons, ofItems, ofItem, hrow, ih _ hrest]
      rfl

/-- **Objects whose values can be written** have rows. -/
theorem exists_rows {objects : List (Fields Json)}
    (h : ∀ fields ∈ objects, (Json.object fields).hasOversized = false) :
    ∃ rows : List Row, objects.map Row.ofObject = rows.map .ok := by
  induction objects with
  | nil => exact ⟨[], rfl⟩
  | cons fields objects ih =>
    obtain ⟨hfields, hobjects⟩ := List.forall_mem_cons.1 h
    obtain ⟨row, hrow⟩ := Row.ofObject_isOk hfields
    obtain ⟨rows, hrows⟩ := ih hobjects
    exact ⟨row :: rows, by rw [List.map_cons, hrow, hrows, List.map_cons]⟩

/-- **What the rows of objects have** is told by the objects one by one. -/
theorem map_of_objects {α : Type} {ofRow : Row → α} {ofFields : Fields Json → α}
    {objects : List (Fields Json)} {rows : List Row}
    (heach : ∀ fields ∈ objects, ∀ row, Row.ofObject fields = .ok row → ofRow row = ofFields fields)
    (h : objects.map Row.ofObject = rows.map .ok) : rows.map ofRow = objects.map ofFields := by
  induction objects generalizing rows with
  | nil =>
    cases rows with
    | nil => rfl
    | cons row rows => cases h
  | cons fields objects ih =>
    cases rows with
    | nil => cases h
    | cons row rows =>
      obtain ⟨hrow, hrest⟩ := List.cons.inj h
      obtain ⟨hfields, hobjects⟩ := List.forall_mem_cons.1 heach
      rw [List.map_cons, List.map_cons, ih hobjects hrest, hfields row hrow]

/-! ### Rejections -/

theorem ofItem_ne_rejected (index : Nat) (item : Json) (complaint : Text) (asked : Option Text) :
    ofItem index item ≠ .error (.rejected complaint asked) := by
  cases item with
  | object fields =>
    rw [ofItem]
    cases Row.ofObject fields <;> exact nofun
  | _ => exact fun h => DecodeError.about_ne_rejected _ _ _ _ (Except.error.inj h)

theorem ofItems_ne_rejected (index : Nat) (items : List Json) (complaint : Text)
    (asked : Option Text) : ofItems index items ≠ .error (.rejected complaint asked) := by
  induction items generalizing index with
  | nil => exact nofun
  | cons item items ih =>
    rw [ofItems]
    intro h
    -- the fault of the first element, or that of a later one
    rcases Outcome.bind_eq_error.1 h with h | ⟨row, -, h⟩
    · exact ofItem_ne_rejected index item complaint asked h
    · exact ih _ ((Outcome.bind_ok_eq_error _).1 h)

/-- **A value is faulty on its own account**: its rows are never rejected. -/
theorem ofJson_ne_rejected (v : Json) (complaint : Text) (asked : Option Text) :
    ofJson v ≠ .error (.rejected complaint asked) := by
  cases v with
  | array items =>
    intro h
    exact ofItems_ne_rejected 0 items complaint asked ((Outcome.bind_ok_eq_error _).1 h)
  | _ => exact fun h => DecodeError.about_ne_rejected _ _ _ _ (Except.error.inj h)

/-- **A rejection names the query** that was asked. -/
theorem ofResponse_rejected {payload : Payload} {query asked : Option Text} {complaint : Text}
    (h : ofResponse payload query = .error (.rejected complaint asked)) : asked = query := by
  unfold ofResponse at h
  -- malformed, rejected, without rows, or with the rows of a value
  split at h
  · exact absurd (Except.error.inj h) (DecodeError.about_ne_rejected _ _ _ _)
  · split at h
    · cases h
      rfl
    · split at h
      · cases h
      · exact absurd h (ofJson_ne_rejected _ _ _)

end Rows

end GraphPath
