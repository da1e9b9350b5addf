import GraphPath.Log.Record
import GraphPath.Proofs.Json.Unambiguity
import GraphPath.Proofs.Json.Visible
import GraphPath.Proofs.Json.Writing

/-!
# One faithful line for each record

The line of a record is one object, whatever its texts hold: it has no code point below the blank,
so that nothing can end it early, and it has one reading, from which the parts of the record come
back. Tuples come back as lists, and what is no data as the text that stands for it.

Two things can be in the way, and then there is no line at all: the arguments of a message may not
fit its template, and an integer of the context may have too many digits.

* `LogValue.plain` — a logged value with lists for tuples and texts for what is no data;
* `LogValue.ofJson`, `LogValue.ofJson_toJson` — reading a logged value back;
* `LogValue.Proper` — values without floats and with distinct names;
* `LogRecord.Entry` — what the object of a record holds;
* `LogRecord.Faithful`, `LogRecord.faithful_line` — lines that hold their records, on their own;
* `LogRecord.format_faithful` — every record that can be formatted has such a line.
-/

namespace GraphPath

/-! ### Logged values -/

namespace LogValue

mutual

/-- **A logged value as plain data.** -/
def plain : LogValue → LogValue
  | .list items => .list (plainItems items)
  | .tuple items => .list (plainItems items)
  | .object fields => .object (plainFields fields)
  | .other shown => .text shown
  | .unshown => .null
  | .null => .null
  | .bool b => .bool b
  | .int n => .int n
  | .float x => .float x
  | .text t => .text t

/-- The items of a sequence as plain data. -/
def plainItems : List LogValue → List LogValue
  | [] => []
  | item :: items => plain item :: plainItems items

/-- The fields of a dictionary as plain data. -/
def plainFields : List (Text × LogValue) → List (Text × LogValue)
  | [] => []
  | (name, value) :: fields => (name, plain value) :: plainFields fields

end

mutual

/-- **A JSON value as a logged value.** -/
def ofJson : Json → LogValue
  | .null => .null
  | .bool b => .bool b
  | .int n => .int n
  | .float x => .float x
  | .text t => .text t
  | .array items => .list (ofJsonItems items)
  | .object fields => .object (ofJsonFields fields)

/-- The items of an array as logged values. -/
def ofJsonItems : List Json → List LogValue
  | [] => []
  | item :: items => ofJson item :: ofJsonItems items

/-- The fields of an object as logged values. -/
def ofJsonFields : List (Text × Json) → List (Text × LogValue)
  | [] => []
  | (name, value) :: fields => (name, ofJson value) :: ofJsonFields fields

end

mutual

/-- **A logged value comes back as plain data** from its JSON. -/
theorem ofJson_toJson : ∀ v : LogValue, ofJson v.toJson = v.plain
  | .null | .bool _ | .int _ | .float _ | .text _ | .other _ | .unshown => rfl
  | .list items => by rw [toJson, ofJson, ofJsonItems_toJsonItems items, plain]
  | .tuple items => by rw [toJson, ofJson, ofJsonItems_toJsonItems items, plain]
  | .object fields => by rw [toJson, ofJson, ofJsonFields_toJsonFields fields, plain]

theorem ofJsonItems_toJsonItems :
    ∀ items : List LogValue, ofJsonItems (toJsonItems items) = plainItems items
  | [] => rfl
  | item :: items => by
    rw [toJsonItems, ofJsonItems, ofJson_toJson item, ofJsonItems_toJsonItems items, plainItems]

theorem ofJsonFields_toJsonFields :
    ∀ fields : List (Text × LogValue), ofJsonFields (toJsonFields fields) = plainFields fields
  | [] => rfl
  | (name, value) :: fields => by
    rw [toJsonFields, ofJsonFields, ofJson_toJson value, ofJsonFields_toJsonFields fields,
      plainFields]

end

/-- **Proper logged values**: no floats and no repeated names. What is no data may be anything. -/
inductive Proper : LogValue → Prop
  | null : Proper .null
  | bool (b : Bool) : Proper (.bool b)
  | int (n : Int) : Proper (.int n)
  | text (t : Text) : Proper (.text t)
  | list {items : List LogValue} (h : ∀ item ∈ items, Proper item) : Proper (.list items)
  | tuple {items : List LogValue} (h : ∀ item ∈ items, Proper item) : Proper (.tuple items)
  | object {fields : Fields LogValue} (hnames : fields.names.Nodup)
      (h : ∀ field ∈ fields, Proper field.2) : Proper (.object fields)
  | other (shown : Text) : Proper (.other shown)
  | unshown : Proper .unshown

theorem toJsonItems_eq_map (items : List LogValue) : toJsonItems items = items.map toJson := by
  induction items with
  | nil => rfl
  | cons item items ih => rw [toJsonItems, ih, List.map_cons]

theorem toJsonFields_eq_map (fields : Fields LogValue) :
    toJsonFields fields = fields.map fun (name, value) => (name, value.toJson) := by
  induction fields with
  | nil => rfl
  | cons field fields ih => rw [toJsonFields, ih, List.map_cons]

theorem isOversizedItems_eq_false_iff (items : List LogValue) :
    isOversizedItems items = false ↔ ∀ item ∈ items, item.isOversized = false := by
  induction items with
  | nil => exact ⟨fun _ => nofun, fun _ => rfl⟩
  | cons item items ih => rw [isOversizedItems, Bool.or_eq_false_iff, ih, List.forall_mem_cons]

theorem isOversizedFields_eq_false_iff (fields : Fields LogValue) :
    isOversizedFields fields = false ↔ ∀ field ∈ fields, field.2.isOversized = false := by
  induction fields with
  | nil => exact ⟨fun _ => nofun, fun _ => rfl⟩
  | cons field fields ih => rw [isOversizedFields, Bool.or_eq_false_iff, ih, List.forall_mem_cons]

theorem proper_toJsonItems {items : List LogValue} (h : ∀ item ∈ items, item.toJson.Proper) :
    (Json.array (toJsonItems items)).Proper := by
  rw [toJsonItems_eq_map]
  refine .array fun value hvalue => ?_
  obtain ⟨item, hitem, rfl⟩ := List.mem_map.1 hvalue
  exact h item hitem

theorem proper_toJsonFields {fields : Fields LogValue} (hnames : fields.names.Nodup)
    (h : ∀ field ∈ fields, field.2.toJson.Proper) : (Json.object (toJsonFields fields)).Proper := by
  rw [toJsonFields_eq_map]
  refine .object ?_ fun field hfield => ?_
  · rwa [Fields.names, List.map_map]
  · obtain ⟨⟨name, value⟩, hmem, rfl⟩ := List.mem_map.1 hfield
    exact h (name, value) hmem

/-- **Proper values that can be written have proper JSON.** -/
theorem Proper.toJson {v : LogValue} (h : v.Proper) (hsize : v.isOversized = false) :
    v.toJson.Proper := by
  -- on the value: what is no data is written as a text
  induction h with
  | null => exact .null
  | bool b => exact .bool b
  | int n => exact .int (Json.isOversized_eq_false_iff.1 hsize)
  | text t => exact .text t
  | list h ih | tuple h ih =>
    have hitems := (isOversizedItems_eq_false_iff _).1 hsize
    exact proper_toJsonItems fun item hitem => ih item hitem (hitems item hitem)
  | object hnames h ih =>
    have hfields := (isOversizedFields_eq_false_iff _).1 hsize
    exact proper_toJsonFields hnames fun field hfield => ih field hfield (hfields field hfield)
  | other shown => exact .text shown
  | unshown => cases hsize

end LogValue

namespace LogRecord

/-! ### The object of a record -/

/-- **The names in the object of a record**: six that are always there, one for a context that is a
dictionary and one for a failure. -/
def fieldNames (record : LogRecord) : List Text :=
  let always : List Text := ["timestamp", "level", "service", "correlation_id", "module", "message"]
  let context : List Text := match record.context with
    | .object _ => ["context"]
    | _ => []
  let failure : List Text := match record.failure with
    | some _ => ["exception"]
    | none => []
  always ++ context ++ failure

/-- **What the object of a record holds.** -/
structure Entry (record : LogRecord) (timestamp service : Text) (fields : Fields Json) : Prop where
  names : fields.names = record.fieldNames
  timestamp : fields.get? "timestamp" = some (.text timestamp)
  level : fields.get? "level" = some (.text record.level.name)
  service : fields.get? "service" = some (.text service)
  correlation : fields.get? "correlation_id" = some (.text record.correlationText)
  module : fields.get? "module" = some (.text record.module)
  message : fields.get? "message" = some (.text record.message)
  context : ∀ context, record.context = .object context →
    ∃ v, fields.get? "context" = some v ∧ LogValue.ofJson v = (LogValue.object context).plain
  failure : ∀ failure, record.failure = some failure →
    fields.get? "exception" = some (.text failure.text)

/-- The fields of the object of a record. -/
def fields (record : LogRecord) (timestamp service : Text) : Fields Json :=
  ("timestamp", .text timestamp) ::
    (record.header service ++ record.contextField ++ record.failureField : Fields Json)

theorem names_contextField (record : LogRecord) :
    record.contextField.names = match record.context with
      | .object _ => ["context"]
      | _ => [] := by
  unfold contextField
  cases record.context <;> rfl

theorem contextField_of_object {record : LogRecord} {context : Fields LogValue}
    (h : record.context = .object context) :
    record.contextField = ([("context", (LogValue.object context).toJson)] : Fields Json) := by
  rw [contextField, h, LogValue.toJson]

theorem names_failureField (record : LogRecord) :
    record.failureField.names = match record.failure with
      | some _ => ["exception"]
      | none => [] := by
  unfold failureField
  cases record.failure <;> rfl

theorem names_fields (record : LogRecord) (timestamp service : Text) :
    (record.fields timestamp service).names = record.fieldNames := by
  -- the names in front are fixed, and so are those of a context and of a failure
  have hparts : (record.fields timestamp service).names
      = Fields.names (("timestamp", .text timestamp) :: record.header service)
        ++ record.contextField.names ++ record.failureField.names := by
    simp [fields, Fields.names]
  rw [hparts, names_contextField, names_failureField]
  rfl

theorem nodup_fieldNames (record : LogRecord) : record.fieldNames.Nodup := by
  unfold fieldNames
  -- four lists of names, by what the record has
  split <;> split <;> decide

theorem get?_failure (record : LogRecord) (timestamp service : Text) {failure : LogFailure}
    (h : record.failure = some failure) :
    (record.fields timestamp service).get? "exception" = some (.text failure.text) := by
  have hfailure :
      record.failureField = ([("exception", .text failure.text)] : Fields Json) := by
    rw [failureField, h]
  rw [fields, hfailure]
  -- a context may stand in front of it
  unfold contextField
  cases record.context <;> rfl

theorem entry_fields (record : LogRecord) (timestamp service : Text) :
    record.Entry timestamp service (record.fields timestamp service) where
  names := names_fields record timestamp service
  timestamp := rfl
  level := rfl
  service := rfl
  correlation := rfl
  module := rfl
  message := rfl
  context context h := by
    refine ⟨(LogValue.object context).toJson, ?_, LogValue.ofJson_toJson _⟩
    rw [fields, contextField_of_object h]
    rfl
  failure failure h := get?_failure record timestamp service h

/-- **A proper context**: if it is a dictionary, this is proper. -/
def ProperContext (record : LogRecord) : Prop :=
  ∀ context, record.context = .object context → (LogValue.object context).Proper

theorem proper_contextField {record : LogRecord} (h : record.ProperContext)
    (hsize : record.isOversized = false) : ∀ field ∈ record.contextField, field.2.Proper := by
  intro field hfield
  unfold contextField at hfield
  split at hfield
  · next context hcontext =>
    have hcontextSize : (LogValue.object context).isOversized = false := by
      rwa [isOversized, hcontext] at hsize
    rw [List.mem_singleton.1 hfield]
    exact (h context hcontext).toJson hcontextSize
  · exact absurd hfield List.not_mem_nil

theorem proper_failureField (record : LogRecord) :
    ∀ field ∈ record.failureField, field.2.Proper := by
  intro field hfield
  unfold failureField at hfield
  split at hfield
  · rw [List.mem_singleton.1 hfield]
    exact .text _
  · exact absurd hfield List.not_mem_nil

/-- **The object of a record is proper** if its context is and can be written. -/
theorem proper_toJson {record : LogRecord} (timestamp service : Text) (h : record.ProperContext)
    (hsize : record.isOversized = false) : (record.toJson timestamp service).Proper := by
  have hnames : (record.fields timestamp service).names.Nodup := by
    rw [names_fields]
    exact nodup_fieldNames record
  have hheader : ∀ field ∈ record.header service, field.2.Proper := by
    simp [header, Json.Proper.text]
  -- the texts are proper whatever they are, so only the context counts
  refine .object hnames ?_
  rw [List.forall_mem_cons, List.forall_mem_append, List.forall_mem_append]
  exact ⟨.text timestamp, ⟨hheader, proper_contextField h hsize⟩, proper_failureField record⟩

/-! ### The line of a record -/

/-- **A line that holds its record**, on its own. It has one reading, and the fields of that are
those of the record. In a stream of lines it ends where it should and nowhere else. -/
structure Faithful (record : LogRecord) (timestamp service line : Text) : Prop where
  visible : Json.Visible line
  alone : ∀ rest, Text.splitOn (.char '\n') (line ++ .char '\n' :: rest)
    = line :: Text.splitOn (.char '\n') rest
  holds : ∃ fields, record.Entry timestamp service fields ∧
    Json.read line = .ok (.object fields) ∧ ∀ v, Json.TextOf v line ↔ v = .object fields

/-- **The line of a record is faithful** if the context of the record is proper and can be
written. -/
theorem faithful_line {record : LogRecord} (timestamp service : Text) (h : record.ProperContext)
    (hsize : record.isOversized = false) :
    record.Faithful timestamp service (record.line timestamp service) := by
  have hproper := proper_toJson timestamp service h hsize
  -- the line is a text of the object, so nothing else is read from it
  have htext : Json.TextOf (record.toJson timestamp service) (record.line timestamp service) :=
    hproper.floatFree.textOf_print_spaced
  have hvisible : Json.Visible (record.line timestamp service) :=
    hproper.floatFree.visible_print Json.Layout.oneLine_spaced
  refine ⟨hvisible, hvisible.splitOn_line, record.fields timestamp service,
    entry_fields record timestamp service, htext.read_eq hproper, fun v => ⟨fun hv => ?_, ?_⟩⟩
  · exact hv.unique htext
  · rintro rfl
    exact htext

theorem format_of_misfit (record : LogRecord) {arguments : List Value} {fault : Template.Fault}
    (timestamp service : Text) (h : Template.fill record.message arguments = .error fault) :
    record.format arguments timestamp service = .error fault := by
  rw [format, h]
  rfl

theorem format_of_fill (record : LogRecord) {arguments : List Value} {message : Text}
    (timestamp service : Text) (h : Template.fill record.message arguments = .ok message) :
    record.format arguments timestamp service = if record.isOversized then .error .tooManyDigits
      else .ok (line { record with message := message } timestamp service) := by
  rw [format, h]
  rfl

/-- **Every record whose arguments fit and whose context can be written has a faithful line**, and
formatting fails for no other reason. Without arguments the message is as it is. -/
theorem format_faithful (record : LogRecord) (arguments : List Value) (timestamp service : Text)
    (h : record.ProperContext) :
    (arguments = [] → Template.fill record.message arguments = .ok record.message) ∧
    (∀ fault, Template.fill record.message arguments = .error fault →
      record.format arguments timestamp service = .error fault) ∧
    ∀ message, Template.fill record.message arguments = .ok message →
      (record.isOversized = true →
        record.format arguments timestamp service = .error .tooManyDigits) ∧
      (record.isOversized = false →
        ∃ line, record.format arguments timestamp service = .ok line ∧
          Faithful { record with message := message } timestamp service line) := by
  refine ⟨?_, fun fault hfault => format_of_misfit record timestamp service hfault,
    fun message hmessage => ?_⟩
  · rintro rfl
    rfl
  · rw [format_of_fill record timestamp service hmessage]
    refine ⟨fun hsize => if_pos hsize, fun hsize => ⟨_, if_neg (by simp [hsize]), ?_⟩⟩
    -- the message is no part of the context, so the filled record is as proper as the given one
    have hcontext : ProperContext { record with message := message } := h
    exact faithful_line timestamp service hcontext hsize

namespace Sample

/-- A record with breaks in every text but the message, which is a template. -/
def record (template : Text) (context : LogValue) : LogRecord where
  level := .warning
  module := "trans\nport"
  message := template
  context := context
  correlation := some "id\r\n"
  failure := some ⟨"ValueError", "first\nsecond"⟩

/-- A context with a tuple, with something that is no data, and with a break in a name. -/
def context : Fields LogValue :=
  [("one\ntwo", .tuple [.int 1, .other "Node(id='a')", .object [("deep", .list [.null])]])]

theorem context_proper : (LogValue.object context).Proper := by
  -- from the inside out
  have hlist : (LogValue.list [.null]).Proper := .list (List.forall_mem_singleton.2 .null)
  have hdeep : (LogValue.object [("deep", .list [.null])]).Proper :=
    .object (List.pairwise_singleton _ _) (List.forall_mem_singleton.2 hlist)
  have hitems : ∀ item ∈ [.int 1, .other "Node(id='a')", .object [("deep", .list [.null])]],
      LogValue.Proper item := by
    simp [hdeep, LogValue.Proper.int, LogValue.Proper.other]
  exact .object (List.pairwise_singleton _ _) (List.forall_mem_singleton.2 (.tuple hitems))

theorem context_written : (LogValue.object context).isOversized = false := by
  have hone : Json.isOversized 1 = false :=
    Json.isOversized_of_short (by decide : (1 : Int).natAbs < 10 ^ 1) (by decide)
  simp [context, LogValue.isOversized, LogValue.isOversizedFields, LogValue.isOversizedItems, hone]

/-- A context with the least number that has too many digits. -/
def oversized : Fields LogValue := [("n", .int ((10 ^ Json.digitLimit : Nat) : Int))]

theorem oversized_isOversized : LogValue.isOversizedFields oversized = true := by
  have hlarge : Json.isOversized ((10 ^ Json.digitLimit : Nat) : Int) = true :=
    Json.isOversized_iff.2 (Nat.le_refl _)
  rw [oversized, LogValue.isOversizedFields, LogValue.isOversized, hlarge, Bool.true_or]

end Sample

/-- A template with an argument that breaks off is filled, and the line is one line. -/
theorem format_faithful_sample :
    (Sample.record "user %s" (.object Sample.context)).ProperContext ∧
    Template.fill "user %s" [.text "a\nb"] = .ok "user a\nb" ∧
    ∃ line, (Sample.record "user %s" (.object Sample.context)).format [.text "a\nb"] "now" "svc"
        = .ok line ∧
      (Sample.record "user a\nb" (.object Sample.context)).Faithful "now" "svc" line := by
  have hproper : (Sample.record "user %s" (.object Sample.context)).ProperContext := by
    rintro _ ⟨⟩
    exact Sample.context_proper
  have hfill : Template.fill "user %s" [.text "a\nb"] = .ok "user a\nb" := by
    rfl
  obtain ⟨-, -, hformat⟩ :=
    format_faithful (Sample.record "user %s" (.object Sample.context)) [.text "a\nb"] "now" "svc"
      hproper
  exact ⟨hproper, hfill, (hformat _ hfill).2 Sample.context_written⟩

/-- **Not every record has a line.** Arguments need not fit the template, and an integer of the
context may have too many digits. -/
theorem format_unfaithful :
    (Sample.record "%d" .null).format [.text "x"] "now" "svc"
        = .error (.notANumber (.char 'd') "str") ∧
      (Sample.record "m" (.object Sample.oversized)).format [] "now" "svc"
        = .error .tooManyDigits := by
  refine ⟨rfl, ?_⟩
  have hfill : Template.fill "m" [] = .ok "m" := rfl
  -- the message has no place for an argument, so the context decides
  have hsize : (Sample.record "m" (.object Sample.oversized)).isOversized = true :=
    Sample.oversized_isOversized
  rw [format_of_fill (Sample.record "m" (.object Sample.oversized)) "now" "svc" hfill, if_pos hsize]

end LogRecord

end GraphPath
