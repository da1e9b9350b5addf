import GraphPath.Proofs.Json.Legible
import GraphPath.Proofs.Json.Unambiguity
import GraphPath.Proofs.Result.Decoding

/-!
# Rows, all or none

A payload that is a list of objects has one row for each, with exactly the fields of its object. One
element that has no row, and there are no rows: the first such element is what the fault is about,
and nothing behind it is looked at. What is no list has no rows either. Field texts lose nothing,
for the text of a value that is no string is a text of this value and of no other.

An object has no row if an integer in it has too many digits to be written. The fault is then that
of writing it, as it is for any payload that an error would have to show.

* `Payload.Holds` — what a payload is, or is read as;
* `Json.HasRow` — elements that have a row;
* `Rows.ofItems_misfit` — the first element that has none;
* `Json.textOf_toFieldText`, `Json.textOf_shownText` — what field texts and fragments are texts of;
* `Rows.ofPayload_exact` — any payload;
* `Rows.ofPayload_unwritten` — an integer that a row cannot hold.
-/

namespace GraphPath

/-! ### Payloads -/

/-- **The value that a payload holds**: the one that it is, or the one that it is read as. A value
that is a string is a text like any other. -/
inductive Payload.Holds (v : Json) : Payload → Prop
  | value (h : ∀ t, v ≠ .text t) : Holds v (.value v)
  | text {t : Text} (h : Json.readUnmarked t = .ok v) : Holds v (.text t)
  | string {t : Text} (h : Json.readUnmarked t = .ok v) : Holds v (.value (.text t))
  | bytes {raw : Bytes} {t : Text} (hraw : Json.ofBytes raw = .ok t) (h : Json.read t = .ok v) :
      Holds v (.bytes raw)

/-- **A payload has the rows of what it holds.** -/
theorem Payload.Holds.ofPayload_eq {payload : Payload} {v : Json} (h : payload.Holds v) :
    Rows.ofPayload payload = Rows.ofJson v := by
  cases h with
  | value h =>
    cases v with
    | text t => exact absurd rfl (h t)
    | _ => rfl
  | text h | string h =>
    rw [Rows.ofPayload, h]
    rfl
  | bytes hraw h =>
    simp only [Rows.ofPayload, hraw, h]
    rfl

/-! ### Rows -/

/-- **Elements that have a row**: objects whose values can be written. -/
def Json.HasRow (item : Json) : Prop :=
  (∃ fields, item = .object fields) ∧ item.hasOversized = false

/-- The id of an object's row. -/
theorem Row.id?_ofObject {fields : Fields Json} {row : Row} (hnames : fields.names.Nodup)
    (h : ofObject fields = .ok row) :
    row.id?.map .ok = (Fields.get? "id" fields).map Json.toFieldText := by
  have hvalues {α β : Type} (f : α → β) (others : Fields α) :
      Fields.get? "id" (others.map (Prod.map id f)) = (Fields.get? "id" others).map f :=
    Fields.get?_map f "id" others
  rw [id?, get?, ← hvalues, ofObject_fields hnames h, hvalues]

namespace Rows

theorem ids_of_objects {objects : List (Fields Json)} {rows : List Row}
    (hnames : ∀ fields ∈ objects, fields.names.Nodup)
    (h : objects.map Row.ofObject = rows.map .ok) :
    rows.map (fun row => row.id?.map .ok)
      = objects.map fun fields => (Fields.get? "id" fields).map Json.toFieldText :=
  map_of_objects (fun fields hfields _ hrow => Row.id?_ofObject (hnames fields hfields) hrow) h

/-- An element that has a row. -/
theorem ofItem_of_hasRow {item : Json} (h : item.HasRow) (index : Nat) :
    ∃ row, ofItem index item = .ok row := by
  obtain ⟨⟨fields, rfl⟩, hsmall⟩ := h
  obtain ⟨row, hrow⟩ := Row.ofObject_isOk hsmall
  exact ⟨row, by rw [ofItem, hrow]; rfl⟩

/-- **The first element without a row** is the fault, whatever stands behind it. -/
theorem ofItems_misfit {items : List Json} {i : Nat} {item : Json} (hitem : items[i]? = some item)
    (hbefore : ∀ j < i, ∃ other, items[j]? = some other ∧ other.HasRow) (index : Nat)
    {error : DecodeError} (herror : ofItem (index + i) item = .error error) :
    ofItems index items = .error error := by
  induction items generalizing i index with
  | nil => simp at hitem
  | cons first items ih =>
    cases i with
    | zero =>
      obtain rfl : first = item := Option.some.inj hitem
      rw [ofItems]
      exact Outcome.bind_eq_error.2 (.inl herror)
    | succ i =>
      -- the first element has a row, so the fault is that of the others
      obtain ⟨other, hfirst, hother⟩ := hbefore 0 i.succ_pos
      obtain rfl : first = other := Option.some.inj hfirst
      obtain ⟨row, hrow⟩ := ofItem_of_hasRow hother index
      rw [← Nat.add_assoc, Nat.add_right_comm] at herror
      have hrest := ih hitem (fun j hj => hbefore (j + 1) (Nat.succ_lt_succ hj)) (index + 1) herror
      rw [ofItems, hrow, hrest]
      rfl

/-- An element that is no object, told with its beginning. -/
theorem ofItem_misfit {item : Json} (h : ∀ fields, item ≠ .object fields) (index : Nat) :
    ofItem index item = .error (.about (.notAnObject index) (.value item)) := by
  cases item with
  | object fields => exact absurd rfl (h fields)
  | _ => rfl

/-- What is no list, told with its beginning. -/
theorem ofJson_misfit {v : Json} (h : ∀ items, v ≠ .array items) :
    ofJson v = .error (.about (.notAnArray v.typeName) (.value v)) := by
  cases v with
  | array items => exact absurd rfl (h items)
  | _ => rfl

/-- An error that cannot show its payload. -/
theorem about_of_large {v : Json} (h : v.hasOversized = true) (problem : ResponseProblem) :
    DecodeError.about problem (.value v) = .unwritable .tooManyDigits := by
  have hshown : v.shownText = .error .tooManyDigits := Json.shownText_eq_error_iff.2 h
  refine DecodeError.about_of_error ?_
  rw [Payload.fragment, Payload.shownText, hshown]
  rfl

/-- An error that shows the beginning of its payload. -/
theorem about_of_shown {v : Json} {text : Text} (h : v.shownText = .ok text)
    (problem : ResponseProblem) :
    DecodeError.about problem (.value v) = .response ⟨problem, text.take fragmentLimit⟩ := by
  refine DecodeError.about_of_ok ?_
  rw [Payload.fragment, Payload.shownText, h]
  rfl

/-- **An element that cannot be written** is a fault, whether it is an object or not. -/
theorem ofItem_of_large {item : Json} (h : item.hasOversized = true) (index : Nat) :
    ofItem index item = .error (.unwritable .tooManyDigits) := by
  -- an object has no row, and of anything else the error cannot be shown
  by_cases hobject : ∃ fields, item = .object fields
  · obtain ⟨fields, rfl⟩ := hobject
    have hrow : Row.ofObject fields = .error .tooManyDigits := Row.ofObject_eq_error_iff.2 h
    rw [ofItem, hrow]
    rfl
  · rw [ofItem_misfit (not_exists.1 hobject), about_of_large h]

end Rows

/-! ### Field texts -/

namespace Json

variable {v : Json} {t : Text}

/-- **A field text** is a text of its value, and of no other. -/
theorem textOf_toFieldText (hfree : v.FloatFree) (h : ∀ t, v ≠ .text t)
    (ht : v.toFieldText = .ok t) (w : Json) : TextOf w t ↔ w = v := by
  rw [toFieldText_eq h] at ht
  obtain ⟨-, rfl⟩ := write_eq_ok_iff.1 ht
  refine ⟨fun hw => hw.unique hfree.textOf_print, ?_⟩
  rintro rfl
  exact hfree.textOf_print

/-- **What an error shows** begins a text of its value, and of no other. -/
theorem textOf_shownText (hfree : v.FloatFree) (h : ∀ t, v ≠ .text t)
    (ht : v.shownText = .ok t) (w : Json) : TextOf w t ↔ w = v := by
  rw [shownText_eq h] at ht
  obtain ⟨-, rfl⟩ := write_eq_ok_iff.1 ht
  refine ⟨fun hw => hw.unique hfree.textOf_print_spaced, ?_⟩
  rintro rfl
  exact hfree.textOf_print_spaced

/-- A value that can be written has a field text and can be shown. -/
theorem texts_isOk (h : v.hasOversized = false) :
    ∃ text shown, v.toFieldText = .ok text ∧ v.shownText = .ok shown := by
  cases v with
  | text t => exact ⟨t, t, rfl, rfl⟩
  | _ => exact ⟨_, _, write_of_small h, write_of_small h⟩

end Json

/-! ### Any payload -/

namespace Rows

/-- **Rows are exact, all or none.** A payload that holds a list of objects that can be written has
one row for each, in order: its fields are those of the object, in order, a string as it is and any
other value as its compact text; and its id is that of the object, if that has one. A list with an
element that has no row has no rows, and the first such element decides, whatever stands behind it:
if it is no object, the fault names it and shows the beginning of it; and if it cannot be written,
this is the fault. What is no list has no rows, and is shown in the same way. Without floats, a
value that is no string and can be written has a field text, which is a text of this value alone
and, if the value has distinct names, is read as it; so no other such value has the same field
text. -/
theorem ofPayload_exact :
    (∀ {payload : Payload} {objects : List (Fields Json)},
      payload.Holds (.array (objects.map .object)) →
      (∀ fields ∈ objects, fields.names.Nodup ∧ (Json.object fields).hasOversized = false) →
      ∃ rows, ofPayload payload = .ok rows ∧
        rows.toList.map (fun row => row.fields.map (Prod.map id Except.ok))
          = objects.map (List.map (Prod.map id Json.toFieldText)) ∧
        rows.ids.map (Option.map Except.ok)
          = objects.map fun fields => (Fields.get? "id" fields).map Json.toFieldText) ∧
    (∀ {payload : Payload} {items : List Json} {i : Nat} {item : Json},
      payload.Holds (.array items) → items[i]? = some item → ¬item.HasRow →
      (∀ j < i, ∃ other, items[j]? = some other ∧ other.HasRow) →
      (item.hasOversized = false → ∃ text error, item.shownText = .ok text ∧
        ofPayload payload = .error error ∧
        error = .response ⟨.notAnObject i, text.take fragmentLimit⟩ ∧
        error.message = "Result row " ++ Text.ofNat i ++ " is not a JSON object") ∧
      (item.hasOversized = true → ofPayload payload = .error (.unwritable .tooManyDigits))) ∧
    (∀ {payload : Payload} {v : Json}, payload.Holds v → (∀ items, v ≠ .array items) →
      (v.hasOversized = false → ∃ text, v.shownText = .ok text ∧
        ofPayload payload = .error (.response ⟨.notAnArray v.typeName, text.take fragmentLimit⟩)) ∧
      (v.hasOversized = true → ofPayload payload = .error (.unwritable .tooManyDigits))) ∧
    ∀ {v : Json}, v.FloatFree → (∀ t, v ≠ .text t) →
      (v.hasOversized = false → ∃ text shown, v.toFieldText = .ok text ∧ v.shownText = .ok shown ∧
        (∀ w, Json.TextOf w text ↔ w = v) ∧ (∀ w, Json.TextOf w shown ↔ w = v) ∧
        (v.Proper → Json.read text = .ok v) ∧
        ∀ w : Json, w.FloatFree → (∀ t, w ≠ .text t) → w.toFieldText = .ok text → w = v) ∧
      (v.hasOversized = true → v.toFieldText = .error .tooManyDigits) := by
  -- objects, the first misfit of a list, what is no list, and field texts
  refine ⟨fun {payload objects} hholds hobjects => ?_,
    fun {payload items i item} hholds hitem hmisfit hbefore => ⟨fun hsmall => ?_, fun hlarge => ?_⟩,
    fun {payload v} hholds hno => ⟨fun hsmall => ?_, fun hlarge => ?_⟩,
    fun {v} hfree hno => ⟨fun hsmall => ?_, Json.toFieldText_eq_error_iff.2⟩⟩
  · -- the rows are there, and what they have is told by the objects
    have hnames : ∀ fields ∈ objects, fields.names.Nodup :=
      fun fields hfields => (hobjects fields hfields).1
    obtain ⟨rows, hrows⟩ := exists_rows fun fields hfields => (hobjects fields hfields).2
    refine ⟨⟨rows⟩, ?_, fields_of_objects hnames hrows, ?_⟩
    · rw [hholds.ofPayload_eq]
      exact ofJson_objects hrows
    · rw [ids, List.map_map]
      exact ids_of_objects hnames hrows
  · -- an element that can be written and has no row is no object
    have hobject : ∀ fields, item ≠ .object fields :=
      fun fields heq => hmisfit ⟨⟨fields, heq⟩, hsmall⟩
    obtain ⟨-, text, -, htext⟩ := Json.texts_isOk hsmall
    refine ⟨text, _, htext, ?_, rfl, rfl⟩
    rw [hholds.ofPayload_eq, ofJson]
    refine Outcome.bind_eq_error.2 (.inl (ofItems_misfit hitem hbefore 0 ?_))
    rw [ofItem_misfit hobject, about_of_shown htext, Nat.zero_add]
  · rw [hholds.ofPayload_eq, ofJson]
    exact Outcome.bind_eq_error.2 (.inl (ofItems_misfit hitem hbefore 0 (ofItem_of_large hlarge _)))
  · -- what is no list is shown like an element that is no object
    obtain ⟨-, text, -, htext⟩ := Json.texts_isOk hsmall
    refine ⟨text, htext, ?_⟩
    rw [hholds.ofPayload_eq, ofJson_misfit hno, about_of_shown htext]
  · rw [hholds.ofPayload_eq, ofJson_misfit hno, about_of_large hlarge]
  · obtain ⟨text, shown, htext, hshown⟩ := Json.texts_isOk hsmall
    refine ⟨text, shown, htext, hshown, Json.textOf_toFieldText hfree hno htext,
      Json.textOf_shownText hfree hno hshown, fun hproper => ?_, fun w hw hwno heq => ?_⟩
    · rw [Json.toFieldText_eq hno] at htext
      obtain ⟨-, rfl⟩ := Json.write_eq_ok_iff.1 htext
      exact hproper.read_print
    · -- the text of both is a text of both
      rw [← Json.textOf_toFieldText hfree hno htext]
      exact (Json.textOf_toFieldText hw hwno heq w).2 rfl

namespace Sample

/-- A list of one object. -/
def rowed : Json := .array [.object [("n", .bool true), ("id", .text "a")]]

/-- A list with a misfit. -/
def misfit : Json := .array [.object [], .array [.null], .text "b"]

end Sample

/-- A list of objects, a list with a misfit, an integer on its own, and a list as a field. -/
theorem ofPayload_exact_sample :
    (∃ rows, ofPayload (.value Sample.rowed) = .ok rows ∧
      rows.ids.map (Option.map Except.ok) = [some (Json.toFieldText (.text "a"))]) ∧
    (∃ error, ofPayload (.value Sample.misfit) = .error error ∧
      error.message = "Result row 1 is not a JSON object") ∧
    ofPayload (.value (.int Sample.huge)) = .error (.unwritable .tooManyDigits) ∧
    ∃ text, Json.toFieldText (.array [.null, .object []]) = .ok text ∧
      Json.read text = .ok (.array [.null, .object []]) := by
  obtain ⟨hrows, hmisfit, hother, htext⟩ := ofPayload_exact
  refine ⟨?_, ?_, ?_, ?_⟩
  · have hnames : List.Nodup [("n" : Text), ("id" : Text)] := by decide
    obtain ⟨rows, hok, -, hids⟩ := @hrows (.value Sample.rowed)
      [[("n", .bool true), ("id", .text "a")]] (.value nofun)
      (List.forall_mem_singleton.2 ⟨hnames, rfl⟩)
    exact ⟨rows, hok, hids⟩
  · have hbefore : ∀ j < 1, ∃ other, [Json.object [], .array [.null], .text "b"][j]? = some other ∧
        other.HasRow := by
      intro j hj
      obtain rfl := Nat.lt_one_iff.1 hj
      exact ⟨.object [], rfl, ⟨[], rfl⟩, rfl⟩
    have hitem : [Json.object [], .array [.null], .text "b"][1]? = some (.array [.null]) := rfl
    have hnone : ¬(Json.array [.null]).HasRow := fun ⟨⟨fields, h⟩, _⟩ => nomatch h
    obtain ⟨hnamed, -⟩ := hmisfit (.value nofun) hitem hnone hbefore
    obtain ⟨text, error, -, herror, -, hmessage⟩ := hnamed rfl
    exact ⟨error, herror, hmessage⟩
  · have hholds : (Payload.value (.int Sample.huge)).Holds (.int Sample.huge) := .value nofun
    exact (hother hholds nofun).2 Sample.huge_hasOversized
  · have hproper : (Json.array [.null, .object []]).Proper := by
      refine .array fun item hitem => ?_
      rcases List.mem_pair.1 hitem with rfl | rfl
      · exact .null
      · exact .object List.nodup_nil nofun
    obtain ⟨text, -, hok, -, -, -, hread, -⟩ := (htext hproper.floatFree nofun).1 rfl
    exact ⟨text, hok, hread hproper⟩

/-- **An integer with too many digits is in no row**, though its list is one of objects, and it has
no field text. -/
theorem ofPayload_unwritten :
    ofPayload (.value (.array [.object [("n", .int Sample.huge)]]))
        = .error (.unwritable .tooManyDigits) ∧
      (Json.int Sample.huge).FloatFree ∧
      (Json.int Sample.huge).toFieldText = .error .tooManyDigits := by
  -- by the equations of the search for long integers; deciding it would compute the integer
  have hlarge : (Json.object [("n", .int Sample.huge)]).hasOversized = true := by
    rw [Json.hasOversized, Json.anyInt, Json.anyIntOfFields, Json.anyIntOfFields, Bool.or_false,
      ← Json.hasOversized, Sample.huge_hasOversized]
  have hitem : [Json.object [("n", .int Sample.huge)]][0]?
      = some (.object [("n", .int Sample.huge)]) := rfl
  have hitems : ofItems 0 [.object [("n", .int Sample.huge)]]
      = .error (.unwritable .tooManyDigits) := by
    refine ofItems_misfit hitem (fun j hj => absurd hj (Nat.not_lt_zero j)) 0 ?_
    rw [ofItem_of_large hlarge]
  have hholds : (Payload.value (.array [.object [("n", .int Sample.huge)]])).Holds
      (.array [.object [("n", .int Sample.huge)]]) := .value fun t h => by cases h
  refine ⟨?_, .int _, Json.toFieldText_eq_error_iff.2 Sample.huge_hasOversized⟩
  rw [hholds.ofPayload_eq, ofJson, hitems]
  rfl

end Rows

end GraphPath
