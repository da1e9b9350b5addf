import GraphPath.Proofs.Json.Printing
import GraphPath.Proofs.Json.Reading
import GraphPath.Proofs.Result.Rows

/-!
# Rows by value, text and bytes

Objects have the same rows whether they are decoded as they are, from their JSON text, or from the
bytes of that text. The rows of any payload are themselves objects, and decoding these gives the
rows again.

* `Json.Proper.read_print` — reading back what is printed;
* `Json.ofBytes_of_array` — the bytes of a list of objects are taken for UTF-8;
* `Row.toJson`, `Rows.toJson` — rows as objects;
* `Rows.ofPayload_forms` — the forms of a payload agree, and rows come back from their own text.
-/

namespace GraphPath

namespace Json

/-! ### Texts -/

/-- **Reading back what is printed.** -/
theorem Proper.read_print {v : Json} (h : v.Proper) : read (print .compact v) = .ok v :=
  h.textOf_print.read_eq h

/-! ### Bytes -/

/-- The first two bytes tell the encoding if neither of them is zero or begins a mark. -/
theorem Encoding.detect_of_array {b : UInt8} (hb : b ≠ 0) (more : Bytes) :
    detect (0x5B :: b :: more) = .utf8 0 := by
  -- the detection looks at two bytes of a short text, and at four of a longer one
  rcases more with _ | ⟨b₂, _ | ⟨b₃, more⟩⟩
  · have hpair : detect [0x5B, b] = if b = 0 then .utf16 .little 0 else .utf8 0 := rfl
    rw [hpair, if_neg hb]
  · rfl
  · have hfour : detect (0x5B :: b :: b₂ :: b₃ :: more) = if b = 0 then
        if b₂ = 0 ∧ b₃ = 0 then .utf32 .little 0 else .utf16 .little 0 else .utf8 0 := rfl
    rw [hfour, if_neg hb]

/-- **The bytes of a list of objects** are taken for UTF-8. -/
theorem ofBytes_of_array {c : Char} {rest : Text} {raw : Bytes} (hc : c = ']' ∨ c = '\x7b')
    (h : Utf8.encode (.char '[' :: .char c :: rest) = .ok raw) :
    ofBytes raw = .ok (.char '[' :: .char c :: rest) := by
  -- the bracket and what stands behind it are one byte each
  obtain ⟨_, more, hfirst, hmore, hraw⟩ := Utf8.encodeFrom_cons h
  obtain ⟨_, last, hsecond, -, rfl⟩ := Utf8.encodeFrom_cons hmore
  cases hfirst
  cases hsecond
  have hdetect : Encoding.detect raw = .utf8 0 := by
    rcases hc with rfl | rfl <;> rw [hraw] <;> exact Encoding.detect_of_array (by decide) last
  rw [ofBytes, hdetect]
  exact Utf8.decode_encode h

end Json

/-! ### Rows -/

/-- A row as an object. -/
def Row.toJson (row : Row) : Json := .object (row.fields.map fun (name, text) => (name, .text text))

/-- Rows as a list of objects. -/
def Rows.toJson (rows : Rows) : Json := .array (rows.toList.map Row.toJson)

namespace Row

theorem names_toJson (row : Row) :
    Fields.names (row.fields.map fun (name, text) => (name, Json.text text)) = row.names :=
  List.map_map

/-- **A row is the row of its object.** -/
theorem ofObject_toJson (row : Row) :
    ofObject (row.fields.map fun (name, text) => (name, .text text)) = .ok row := by
  -- texts can always be written, so the object has a row
  have hsmall : (Json.object (row.fields.map fun (name, text) => (name, .text text))).hasOversized
      = false := by
    refine Json.anyInt_object.2 fun field hfield => ?_
    obtain ⟨⟨name, text⟩, -, rfl⟩ := List.mem_map.1 hfield
    rfl
  obtain ⟨other, hother⟩ := ofObject_isOk hsmall
  have hfields := ofObject_fields (by rw [names_toJson]; exact row.distinct) hother
  -- the field text of a text is this text
  have hsame : other.fields.map (Prod.map id Except.ok)
      = row.fields.map (Prod.map id (Except.ok : Text → Except Json.Unwritable Text)) := by
    rw [hfields, List.map_map]
    rfl
  have hinjective : Function.Injective
      (Prod.map id (Except.ok : Text → Except Json.Unwritable Text) : Text × Text → _) :=
    Function.injective_id.prodMap fun _ _ => Except.ok.inj
  rw [hother, eq_of_fields (hinjective.list_map hsame)]

/-- Rows are proper objects. -/
theorem proper_toJson (row : Row) : row.toJson.Proper := by
  refine .object (by rw [names_toJson]; exact row.distinct) fun field hfield => ?_
  obtain ⟨⟨name, text⟩, -, rfl⟩ := List.mem_map.1 hfield
  exact .text text

end Row

namespace Rows

theorem toJson_eq (rows : Rows) : rows.toJson = .array
    ((rows.toList.map fun row => row.fields.map fun (name, text) => (name, .text text)).map
      .object) := by
  rw [toJson, List.map_map]
  rfl

theorem proper_toJson (rows : Rows) : rows.toJson.Proper := by
  refine .array fun item hitem => ?_
  obtain ⟨row, -, rfl⟩ := List.mem_map.1 hitem
  exact row.proper_toJson

/-! ### Payloads -/

variable {objects : List (Fields Json)}

theorem ofJson_objects {rows : Rows} (h : objects.map Row.ofObject = rows.toList.map .ok) :
    ofJson (.array (objects.map .object)) = .ok rows := by
  rw [ofJson, ofItems_objects 0 h]
  rfl

/-- **The fields of the rows** of objects with distinct names. -/
theorem fields_of_objects {rows : List Row} (hnames : ∀ fields ∈ objects, fields.names.Nodup)
    (h : objects.map Row.ofObject = rows.map .ok) :
    rows.map (fun row => row.fields.map (Prod.map id Except.ok))
      = objects.map (List.map (Prod.map id Json.toFieldText)) :=
  map_of_objects (fun fields hfields _ hrow => Row.ofObject_fields (hnames fields hfields) hrow) h

/-- The text of a list of objects begins with its bracket and what comes behind it. -/
theorem print_objects (objects : List (Fields Json)) : ∃ c rest, (c = ']' ∨ c = '\x7b') ∧
    (Json.array (objects.map .object)).print .compact = .char '[' :: .char c :: rest := by
  cases objects with
  | nil => exact ⟨']', [], .inl rfl, rfl⟩
  | cons fields objects => exact ⟨'\x7b', _, .inr rfl, rfl⟩

/-- **The text of objects has their rows.** -/
theorem ofPayload_text (h : (Json.array (objects.map .object)).Proper) {rows : Rows}
    (hrows : objects.map Row.ofObject = rows.toList.map .ok) :
    ofPayload (.text ((Json.array (objects.map .object)).print .compact)) = .ok rows := by
  have hread : Json.readUnmarked ((Json.array (objects.map .object)).print .compact)
      = .ok (.array (objects.map .object)) := h.read_print
  rw [ofPayload, hread]
  exact ofJson_objects hrows

/-- **The bytes of the text of objects have their rows.** -/
theorem ofPayload_bytes (h : (Json.array (objects.map .object)).Proper) {rows : Rows}
    (hrows : objects.map Row.ofObject = rows.toList.map .ok) {raw : Bytes}
    (hraw : Utf8.encode ((Json.array (objects.map .object)).print .compact) = .ok raw) :
    ofPayload (.bytes raw) = .ok rows := by
  -- what stands behind the bracket is a bracket or a brace, which tells UTF-8
  have hbytes : Json.ofBytes raw = .ok ((Json.array (objects.map .object)).print .compact) := by
    obtain ⟨c, rest, hc, htext⟩ := print_objects objects
    rw [htext] at hraw ⊢
    exact Json.ofBytes_of_array hc hraw
  have hread : Json.read ((Json.array (objects.map .object)).print .compact)
      = .ok (.array (objects.map .object)) := h.read_print
  simp only [ofPayload, hbytes, hread]
  exact ofJson_objects hrows

/-- **The forms of a payload agree.** A list of proper objects, its text, and the bytes of its text
if it has any, have the same rows: those of the objects in order, each with the fields of its
object in order and their field texts. And whatever rows a payload has, floats or not, these rows as
objects have a text, which has the same rows. -/
theorem ofPayload_forms :
    (∀ objects : List (Fields Json), (Json.array (objects.map .object)).Proper →
      let value := Json.array (objects.map .object)
      ∃ rows text, value.toFieldText = .ok text ∧
        rows.toList.map (fun row => row.fields.map (Prod.map id Except.ok))
          = objects.map (List.map (Prod.map id Json.toFieldText)) ∧
        ofPayload (.value value) = .ok rows ∧ ofPayload (.text text) = .ok rows ∧
        (value.hasSurrogate = false → ∃ raw, Utf8.encode text = .ok raw ∧
          ofPayload (.bytes raw) = .ok rows)) ∧
      ∀ payload rows, ofPayload payload = .ok rows →
        ∃ text, rows.toJson.toFieldText = .ok text ∧ ofPayload (.text text) = .ok rows := by
  refine ⟨fun objects h => ?_, fun payload rows _ => ?_⟩
  · have hobjects : ∀ fields ∈ objects, (Json.object fields).Proper := by
      cases h with
      | array hitems => exact fun fields hfields => hitems _ (List.mem_map_of_mem hfields)
    have hnames : ∀ fields ∈ objects, fields.names.Nodup := by
      intro fields hfields
      cases hobjects fields hfields with
      | object hnames _ => exact hnames
    obtain ⟨rows, hrows⟩ := exists_rows fun fields hfields =>
      (hobjects fields hfields).hasOversized_eq
    refine ⟨⟨rows⟩, _, h.write_eq .compact, fields_of_objects hnames hrows, ofJson_objects hrows,
      ofPayload_text h hrows, fun hscalar => ?_⟩
    -- a text without surrogates has bytes
    obtain ⟨raw, hraw⟩ := (Utf8.encode_isOk_iff _).2 (h.textOf_print.scalar hscalar)
    exact ⟨raw, hraw, ofPayload_bytes h hrows hraw⟩
  · -- however the rows came about, as objects of texts they are proper
    have hproper := rows.proper_toJson
    rw [toJson_eq] at hproper ⊢
    refine ⟨_, hproper.write_eq .compact, ofPayload_text hproper ?_⟩
    rw [List.map_map]
    exact List.map_congr_left fun row _ => Row.ofObject_toJson row

end Rows

namespace Sample

/-- An object with a quote, a control and a character past ASCII in its texts. -/
def object : Fields Json :=
  [("id", .text "al\"ice\x01é"), ("n", .array [.int (-12), .null, .object []])]

theorem list_proper : (Json.array [.int (-12), .null, .object []]).Proper := by
  refine .array fun item hitem => ?_
  simp only [List.mem_cons, List.not_mem_nil, or_false] at hitem
  rcases hitem with rfl | rfl | rfl
  · exact .int (Nat.lt_of_lt_of_le (by decide : 12 < 10 ^ 2) (Nat.pow_le_pow_right (by decide)
      (by decide)))
  · exact .null
  · exact .object List.nodup_nil nofun

theorem object_proper : (Json.array ([object].map .object)).Proper := by
  refine .array fun item hitem => ?_
  obtain rfl := List.mem_singleton.1 hitem
  refine .object (by decide) fun field hfield => ?_
  rcases List.mem_pair.1 hfield with rfl | rfl
  · exact .text _
  · exact list_proper

/-- The fields of the sample object as its row has them. -/
def rowFields : Fields (Except Json.Unwritable Text) :=
  [("id", .ok "al\"ice\x01é"), ("n", .ok "[-12,null,\x7b\x7d]")]

theorem rowFields_eq : object.map (Prod.map id Json.toFieldText) = rowFields := by
  have hlist : Json.toFieldText (.array [.int (-12), .null, .object []])
      = .ok "[-12,null,\x7b\x7d]" := list_proper.write_eq .compact
  rw [rowFields, ← hlist]
  rfl

end Sample

namespace Rows

/-- The sample object has a row by its text and by the bytes of it. -/
theorem ofPayload_forms_sample :
    ∃ rows : Rows,
      rows.toList.map (fun row => row.fields.map (Prod.map id Except.ok)) = [Sample.rowFields] ∧
      ofPayload (.text "[\x7b\"id\":\"al\\\"ice\\u0001é\",\"n\":[-12,null,\x7b\x7d]\x7d]")
        = .ok rows ∧
      ∃ raw, ofPayload (.bytes raw) = .ok rows := by
  obtain ⟨rows, text, htext, hfields, -, hrows, hbytes⟩ :=
    ofPayload_forms.1 [Sample.object] Sample.object_proper
  have hshape : ∀ t, Json.array ([Sample.object].map .object) ≠ .text t := fun t h => nomatch h
  rw [Json.toFieldText_eq hshape] at htext
  obtain ⟨-, rfl⟩ := Json.write_eq_ok_iff.1 htext
  obtain ⟨raw, -, hraw⟩ := hbytes rfl
  refine ⟨rows, ?_, hrows, raw, hraw⟩
  rw [hfields, List.map_singleton, Sample.rowFields_eq]

end Rows

end GraphPath
