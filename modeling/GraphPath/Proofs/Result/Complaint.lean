import GraphPath.Proofs.Result.Answer
import GraphPath.Proofs.Result.Decoding

/-!
# Complaints are heard

A body whose complaint says something never has rows, whatever else it holds: it rejects the query
or is malformed. The one string that is passed over is the empty one, for it is taken as no
complaint at all.

* `Payload.Carries.read_eq` — the strict reader gives what the reader of any JSON gives;
* `Payload.Carries.strictJson?_cases` — or it refuses the body;
* `Rows.silent_of_ok` — bodies with rows have no complaint that says something;
* `Rows.ofResponse_heard`, `Rows.ofResponse_passedOver` — a complaint that says something, and the
  empty one;
* `Rows.ofResponse_complains` — what becomes of a complaint.
-/

namespace GraphPath

/-! ### The two readers -/

namespace Payload

variable {t : Text} {payload : Payload} {v : Json}

theorem Carries.read_eq (h : payload.Carries t) (hstrict : payload.strictJson? = some v) :
    Json.read t = .ok v := by
  rw [h.strictJson?_eq] at hstrict
  exact Json.read_of_readStrict? hstrict

/-- **The strict reader** refuses a body or agrees with the other one. -/
theorem Carries.strictJson?_cases (h : payload.Carries t) (hread : Json.read t = .ok v) :
    payload.strictJson? = none ∨ payload.strictJson? = some v := by
  cases hstrict : payload.strictJson? with
  | none => exact .inl rfl
  | some w =>
    have hsame : (Except.ok w : Except Json.ReadFault Json) = .ok v := by
      rw [← h.read_eq hstrict, hread]
    exact .inr (congrArg some (Except.ok.inj hsame))

end Payload

/-! ### Complaints -/

namespace Envelope

variable {fields : Fields Json} {complaint : Text}

theorem not_misfitComplaint (h : Fields.get? "error" fields = some (.text complaint)) :
    ¬MisfitComplaint fields := by
  rintro ⟨v, hv, -, htext⟩
  rw [h] at hv
  exact htext complaint (Option.some.inj hv).symm

theorem not_misfitResult {result : Option (List Json)} (h : result? fields = some result) :
    ¬MisfitResult fields := by
  rw [← result?_eq_none_iff, h]
  exact nofun

end Envelope

namespace Rows

variable {t : Text} {payload : Payload} {query : Option Text} {fields : Fields Json}

/-- A body that is refused is malformed. -/
theorem ofResponse_refused (hcarries : payload.Carries t) (h : payload.strictJson? = none) :
    ofResponse payload query = .error (.response ⟨.malformed 1, t.take fragmentLimit⟩) := by
  have herror : Envelope.ofPayload payload = .error 1 := by
    refine Envelope.ofPayload_error fun fields => ?_
    rw [h]
    exact nofun
  exact ofResponse_of_carries hcarries herror

/-- With a complaint that is a string, rows of the wrong kind are the one misfit. -/
theorem ofResponse_misfitResult (hcarries : payload.Carries t)
    (hobject : payload.strictJson? = some (.object fields)) {complaint : Text}
    (hcomplaint : Fields.get? "error" fields = some (.text complaint))
    (hresult : Envelope.MisfitResult fields) :
    ofResponse payload query = .error (.response ⟨.malformed 1, t.take fragmentLimit⟩) := by
  have herror : Envelope.ofPayload payload = .error 1 := by
    rw [Envelope.ofPayload_object hobject, Envelope.result?_eq_none_iff.2 hresult,
      Envelope.complaint?_eq_some_iff.2 hcomplaint]
    rfl
  exact ofResponse_of_carries hcarries herror

/-- **Bodies with rows** are answers without a complaint that says something. -/
theorem silent_of_ok {rows : Rows} (h : ofResponse payload query = .ok rows) :
    ∃ fields, payload.strictJson? = some (.object fields) ∧
      ∀ complaint, Fields.get? "error" fields = some (.text complaint) → complaint = [] := by
  -- a body with rows is not malformed, so it is an object without misfits
  have hfaultless : ∀ count, Envelope.ofPayload payload ≠ .error count := by
    intro count hcount
    rw [ofResponse_malformed hcount] at h
    cases h
  have hobject : ∃ fields, payload.strictJson? = some (.object fields) := by
    by_contra hnone
    exact hfaultless 1 (Envelope.ofPayload_error fun fields hfields => hnone ⟨fields, hfields⟩)
  obtain ⟨fields, hfields⟩ := hobject
  have hfit : ¬(Envelope.MisfitComplaint fields ∨ Envelope.MisfitResult fields) := by
    intro hmisfit
    obtain ⟨count, hcount⟩ := Envelope.ofPayload_misfit hfields hmisfit
    exact hfaultless count hcount
  obtain ⟨hcomplaint, hresult⟩ := not_or.1 hfit
  refine ⟨fields, hfields, fun complaint hsaid => ?_⟩
  -- a complaint that says something would have rejected the query
  cases complaint with
  | nil => rfl
  | cons c complaint =>
    rw [ofResponse_complaint hfields hcomplaint hresult hsaid] at h
    cases h

/-- A value that both readers give. -/
theorem strictJson?_of_accepted {v : Json} (hcarries : payload.Carries t)
    (hread : Json.read t = .ok v) (h : payload.strictJson? ≠ none) :
    payload.strictJson? = some v :=
  (hcarries.strictJson?_cases hread).resolve_left h

/-- **A complaint that says something** is told, unless the rows beside it are of the wrong kind. -/
theorem ofResponse_heard (hcarries : payload.Carries t) (query : Option Text)
    {complaint : Text} (hread : Json.read t = .ok (.object fields))
    (haccepted : payload.strictJson? ≠ none)
    (hcomplaint : Fields.get? "error" fields = some (.text complaint)) (hsaid : complaint ≠ []) :
    (¬Envelope.MisfitResult fields →
      ofResponse payload query = .error (.rejected complaint query)) ∧
    (Envelope.MisfitResult fields →
      ofResponse payload query = .error (.response ⟨.malformed 1, t.take fragmentLimit⟩)) := by
  have hobject := strictJson?_of_accepted hcarries hread haccepted
  constructor
  · intro hresult
    have hfit := Envelope.not_misfitComplaint hcomplaint
    obtain ⟨c, rest, rfl⟩ := List.exists_cons_of_ne_nil hsaid
    exact ofResponse_complaint hobject hfit hresult hcomplaint
  · intro hresult
    exact ofResponse_misfitResult hcarries hobject hcomplaint hresult

/-- **The empty complaint** is passed over. -/
theorem ofResponse_passedOver (hcarries : payload.Carries t) (query : Option Text)
    (hread : Json.read t = .ok (.object fields)) (haccepted : payload.strictJson? ≠ none)
    (hcomplaint : Fields.get? "error" fields = some (.text [])) :
    (Fields.get? "result" fields = none ∨ Fields.get? "result" fields = some .null →
      ofResponse payload query = .ok .empty) ∧
    ∀ items, Fields.get? "result" fields = some (.array items) →
      ofResponse payload query = ofPayload (.value (.array items)) := by
  have hobject := strictJson?_of_accepted hcarries hread haccepted
  have hfit := Envelope.not_misfitComplaint hcomplaint
  have hsilent : ∀ c complaint, Fields.get? "error" fields ≠ some (.text (c :: complaint)) := by
    rw [hcomplaint]
    rintro c complaint ⟨⟩
  -- a body with such a complaint has the rows of its result
  have hrows {result : Option (List Json)} (h : Envelope.result? fields = some result) :
      ofResponse payload query = result.elim (.ok .empty) fun items => ofJson (.array items) :=
    ofResponse_result hobject hfit (Envelope.not_misfitResult h) hsilent h
  constructor
  · intro hmissing
    exact hrows (Envelope.result?_eq_missing_iff.2 hmissing)
  · intro items hitems
    exact hrows (Envelope.result?_eq_some_iff.2 hitems)

/-- **What becomes of a complaint** in the text of a body, or in the bytes of it. A body that the
strict reader refuses is malformed. In any other body, a complaint that says something rejects the
query and is told, unless the rows are of the wrong kind and the body is malformed. So bodies with
rows have no such complaint. The empty complaint is passed over: the body has the rows that it would
have without it. -/
theorem ofResponse_complains (hcarries : payload.Carries t) (query : Option Text) :
    (payload.strictJson? = none →
      ofResponse payload query = .error (.response ⟨.malformed 1, t.take fragmentLimit⟩)) ∧
    (∀ {fields : Fields Json} {complaint : Text}, Json.read t = .ok (.object fields) →
      payload.strictJson? ≠ none →
      Fields.get? "error" fields = some (.text complaint) → complaint ≠ [] →
      (¬Envelope.MisfitResult fields →
        ofResponse payload query = .error (.rejected complaint query)) ∧
      (Envelope.MisfitResult fields →
        ofResponse payload query = .error (.response ⟨.malformed 1, t.take fragmentLimit⟩))) ∧
    (∀ rows, ofResponse payload query = .ok rows → ∃ fields,
      Json.read t = .ok (.object fields) ∧
      ∀ complaint, Fields.get? "error" fields = some (.text complaint) → complaint = []) ∧
    ∀ {fields : Fields Json}, Json.read t = .ok (.object fields) → payload.strictJson? ≠ none →
      Fields.get? "error" fields = some (.text []) →
      (Fields.get? "result" fields = none ∨ Fields.get? "result" fields = some .null →
        ofResponse payload query = .ok .empty) ∧
      ∀ items, Fields.get? "result" fields = some (.array items) →
        ofResponse payload query = ofPayload (.value (.array items)) := by
  -- a refused body, a complaint that says something, rows, and the empty complaint
  refine ⟨?_, ?_, ?_, ?_⟩
  · intro hrefused
    exact ofResponse_refused hcarries hrefused
  · intro fields complaint hread haccepted hcomplaint hsaid
    exact ofResponse_heard hcarries query hread haccepted hcomplaint hsaid
  · intro rows hrows
    obtain ⟨fields, hobject, hsilent⟩ := silent_of_ok hrows
    exact ⟨fields, hcarries.read_eq hobject, hsilent⟩
  · intro fields hread haccepted hcomplaint
    exact ofResponse_passedOver hcarries query hread haccepted hcomplaint

namespace Sample

/-- An answer without rows that has a complaint. -/
def complaining (complaint : Text) : Fields Json := [("result", .null), ("error", .text complaint)]

/-- The text of the answer. -/
def complainingText (complaint : Text) : Text :=
  Json.print .compact (.object (complaining complaint))

theorem answerable_complaining {complaint : Text} (h : complaint.any (·.isSurrogate) = false) :
    Json.Answerable (complaining complaint) where
  proper := by
    have hnames : List.Nodup [("result" : Text), ("error" : Text)] := by decide
    refine .object hnames fun field hfield => ?_
    rcases List.mem_pair.1 hfield with rfl | rfl
    · exact .null
    · exact .text complaint
  scalar := by
    have hfields : (Json.object (complaining complaint)).hasSurrogate
        = (complaint.any (·.isSurrogate) || false) := rfl
    rw [hfields, h]
    rfl
  narrow := rfl
  nesting_le := (by decide : 1 ≤ Json.nestingLimit)

/-- The strict reader takes the text. -/
theorem strictJson?_complaining {complaint : Text} (h : complaint.any (·.isSurrogate) = false) :
    (Payload.text (complainingText complaint)).strictJson?
      = some (.object (complaining complaint)) :=
  Payload.Carries.text.strictJson?_object (answerable_complaining h).proper.textOf_print
    (answerable_complaining h)

theorem not_misfitResult_complaining (complaint : Text) :
    ¬Envelope.MisfitResult (complaining complaint) := by
  have hmissing : Envelope.result? (complaining complaint) = some none := rfl
  exact Envelope.not_misfitResult hmissing

end Sample

/-- A complaint beside null is told. -/
theorem ofResponse_complains_sample :
    Payload.Carries (Sample.complainingText "boom") (.text (Sample.complainingText "boom")) ∧
      ofResponse (.text (Sample.complainingText "boom")) (some "g.V().All()")
        = .error (.rejected "boom" (some "g.V().All()")) := by
  have hread : Json.read (Sample.complainingText "boom")
      = .ok (.object (Sample.complaining "boom")) :=
    (Sample.answerable_complaining rfl).proper.read_print
  have haccepted : (Payload.text (Sample.complainingText "boom")).strictJson? ≠ none := by
    rw [Sample.strictJson?_complaining rfl]
    exact nofun
  obtain ⟨-, hheard, -⟩ := ofResponse_complains .text (some "g.V().All()")
  obtain ⟨htold, -⟩ := hheard hread haccepted rfl nofun
  exact ⟨.text, htold (Sample.not_misfitResult_complaining "boom")⟩

/-- **An empty complaint goes unheard**: the answer counts as one without rows. -/
theorem ofResponse_unheard :
    Sample.complainingText [] = "\x7b\"result\":null,\"error\":\"\"\x7d" ∧
      ofResponse (.text (Sample.complainingText [])) none = .ok .empty := by
  have hcomplaint : Fields.get? "error" (Sample.complaining []) = some (.text []) := rfl
  have hsilent : ∀ c complaint,
      Fields.get? "error" (Sample.complaining []) ≠ some (.text (c :: complaint)) := nofun
  exact ⟨rfl, ofResponse_result (Sample.strictJson?_complaining rfl)
    (Envelope.not_misfitComplaint hcomplaint) (Sample.not_misfitResult_complaining []) hsilent rfl⟩

end Rows

end GraphPath
