import GraphPath.Proofs.Json.Strict
import GraphPath.Proofs.Result.Rows

/-!
# What becomes of an answer

An answer is an object, of which only two members count. A member of the wrong kind makes it
malformed, whatever the other one is; then a complaint that says something rejects the query,
whatever the rows are; then there may be no rows; and at last the rows are those of the array,
read as a payload of its own.

* `Json.Answerable` — objects that an answer can hold;
* `Payload.Carries` — a text, or the bytes of it;
* `Envelope.MisfitResult`, `Envelope.MisfitComplaint` — members of the wrong kind;
* `Envelope.ofPayload_object` — the two members of an answer, or how many of them are misfits;
* `DecodeError.asked`, `DecodeError.blurred` — what of an error depends on the query, and on the
  rest of the answer;
* `Rows.ofResponse_classified` — any answer.
-/

namespace GraphPath

/-! ### Payloads -/

/-- **A text is carried** as it is, or as its bytes. -/
inductive Payload.Carries (t : Text) : Payload → Prop
  | text : Carries t (.text t)
  | bytes {raw : Bytes} (h : Utf8.encode t = .ok raw) : Carries t (.bytes raw)

/-- **Objects that an answer can hold**: proper ones without surrogates and without wide integers,
that are not nested too deeply. -/
structure Json.Answerable (fields : Fields Json) : Prop where
  proper : (Json.object fields).Proper
  scalar : (Json.object fields).hasSurrogate = false
  narrow : (Json.object fields).anyInt isWide = false
  nesting_le : (Json.object fields).nesting ≤ nestingLimit

namespace Payload

variable {t : Text} {payload : Payload} {fields : Fields Json}

theorem Carries.fragment_eq (h : payload.Carries t) :
    payload.fragment = .ok (t.take fragmentLimit) := by
  cases h with
  | text => rfl
  | bytes h =>
    rw [fragment, shownText, Utf8.decodeLossy_encode h]
    rfl

/-- A problem with a text that is carried is told with its beginning. -/
theorem Carries.about_eq (h : payload.Carries t) (problem : ResponseProblem) :
    DecodeError.about problem payload = .response ⟨problem, t.take fragmentLimit⟩ :=
  DecodeError.about_of_ok h.fragment_eq

theorem Carries.strictJson?_eq (h : payload.Carries t) :
    payload.strictJson? = Json.readStrict? t := by
  cases h with
  | text => rfl
  | bytes h =>
    have hdecode : Utf8.decode false _ = .ok t := Utf8.decode_encode h
    rw [strictJson?, hdecode]
    rfl

/-- **The text of an object is that object.** -/
theorem Carries.strictJson?_object (h : payload.Carries t) (ht : Json.TextOf (.object fields) t)
    (hfields : Json.Answerable fields) : payload.strictJson? = some (.object fields) := by
  rw [h.strictJson?_eq]
  exact ht.readStrict?_eq hfields.proper hfields.scalar hfields.narrow hfields.nesting_le

end Payload

/-! ### Texts that are no objects -/

namespace Json

theorem readWord?_ne_object {t rest : Text} {v : Json} (h : readWord? t = some (v, rest))
    (fields : Fields Json) : v ≠ .object fields := by
  obtain ⟨⟨word, value⟩, hfind, heq⟩ := Option.map_eq_some_iff.1 h
  obtain ⟨rfl, -⟩ := Prod.mk.inj heq
  -- one of six words was found, and none of them is an object
  have hmem := List.mem_of_find?_eq_some hfind
  simp only [words, List.mem_cons, Prod.mk.injEq, List.not_mem_nil, or_false] at hmem
  rcases hmem with ⟨-, rfl⟩ | ⟨-, rfl⟩ | ⟨-, rfl⟩ | ⟨-, rfl⟩ | ⟨-, rfl⟩ | ⟨-, rfl⟩ <;> rintro ⟨⟩

theorem readNumber_ne_object {t rest : Text} {v : Json} (h : readNumber t = .ok (v, rest))
    (fields : Fields Json) : v ≠ .object fields := by
  rintro rfl
  unfold readNumber at h
  simp only at h
  -- a number is an integer or a float
  split at h
  · cases h
  · split at h
    · split at h <;> cases h
    · cases h

/-- **An object starts with its brace.** -/
theorem head?_of_readValue {fuel : Nat} {t rest : Text} {fields : Fields Json}
    (h : readValue fuel t = .ok (.object fields, rest)) : t.head? = some (.char '\x7b') := by
  cases fuel with
  | zero => cases h
  | succ fuel =>
    rw [readValue.eq_def] at h
    simp only at h
    -- by what the text starts with: nothing, a string, an array, an object, a word or a number
    split at h
    · cases h
    · split at h <;> cases h
    · split at h
      · cases h
      · split at h <;> cases h
    · rfl
    · split at h
      · next heq =>
        cases h
        exact absurd rfl (readWord?_ne_object heq fields)
      · exact absurd rfl (readNumber_ne_object h fields)

theorem head?_of_readRaw {t : Text} {fields : Fields Json} (h : readRaw t = .ok (.object fields)) :
    (skipBlanks t).head? = some (.char '\x7b') := by
  unfold readRaw at h
  split at h
  · cases h
  · next heq =>
    split at h
    · cases h
      exact head?_of_readValue heq
    · cases h

end Json

/-- **A text that does not start with a brace is no object.** -/
theorem Payload.Carries.strictJson?_ne_object {t : Text} {payload : Payload}
    (h : payload.Carries t) (ht : (Json.skipBlanks t).head? ≠ some (.char '\x7b'))
    (fields : Fields Json) : payload.strictJson? ≠ some (.object fields) := by
  rw [h.strictJson?_eq, Json.readStrict?]
  split
  · exact (Option.some_ne_none _).symm
  · next v hread =>
    split
    · exact (Option.some_ne_none _).symm
    · -- merging names makes no object of another value
      intro hobject
      cases v with
      | object others => exact ht (Json.head?_of_readRaw hread)
      | _ => cases hobject

namespace Envelope

/-! ### Members of the wrong kind -/

/-- The member under `result` is neither an array nor null. -/
def MisfitResult (fields : Fields Json) : Prop :=
  ∃ v, Fields.get? "result" fields = some v ∧ v ≠ .null ∧ ∀ items, v ≠ .array items

/-- The member under `error` is neither a string nor null. -/
def MisfitComplaint (fields : Fields Json) : Prop :=
  ∃ v, Fields.get? "error" fields = some v ∧ v ≠ .null ∧ ∀ complaint, v ≠ .text complaint

variable {fields : Fields Json}

theorem result?_eq_none_iff : result? fields = none ↔ MisfitResult fields := by
  unfold result? MisfitResult
  cases h : Fields.get? "result" fields with
  | none => simp
  | some v => cases v <;> simp

theorem complaint?_eq_none_iff : complaint? fields = none ↔ MisfitComplaint fields := by
  unfold complaint? MisfitComplaint
  cases h : Fields.get? "error" fields with
  | none => simp
  | some v => cases v <;> simp

theorem result?_eq_missing_iff : result? fields = some none ↔
    Fields.get? "result" fields = none ∨ Fields.get? "result" fields = some .null := by
  unfold result?
  cases h : Fields.get? "result" fields with
  | none => simp
  | some v => cases v <;> simp

theorem result?_eq_some_iff {items : List Json} :
    result? fields = some (some items) ↔ Fields.get? "result" fields = some (.array items) := by
  unfold result?
  cases h : Fields.get? "result" fields with
  | none => simp
  | some v => cases v <;> simp

theorem complaint?_eq_some_iff {complaint : Text} :
    complaint? fields = some (some complaint) ↔
      Fields.get? "error" fields = some (.text complaint) := by
  unfold complaint?
  cases h : Fields.get? "error" fields with
  | none => simp
  | some v => cases v <;> simp

variable {payload : Payload}

theorem ofPayload_error (h : ∀ fields, payload.strictJson? ≠ some (.object fields)) :
    ofPayload payload = .error 1 := by
  unfold ofPayload
  split
  · next fields heq => exact absurd heq (h fields)
  · rfl

/-- An answer by its two members, or how many of them are misfits. -/
def ofMembers : Option (Option (List Json)) → Option (Option Text) → Except Nat Envelope
  | some result, some complaint => .ok ⟨result, complaint⟩
  | none, none => .error 2
  | _, _ => .error 1

/-- **An answer is its two members.** -/
theorem ofPayload_object (h : payload.strictJson? = some (.object fields)) :
    ofPayload payload = ofMembers (result? fields) (complaint? fields) := by
  rw [ofPayload, h]
  rfl

theorem ofPayload_misfit (h : payload.strictJson? = some (.object fields))
    (hmisfit : MisfitComplaint fields ∨ MisfitResult fields) :
    ∃ count, ofPayload payload = .error count := by
  rw [ofPayload_object h]
  -- whatever the other member is, there is a misfit to count
  rcases hmisfit with hcomplaint | hresult
  · rw [complaint?_eq_none_iff.2 hcomplaint]
    cases result? fields <;> exact ⟨_, rfl⟩
  · rw [result?_eq_none_iff.2 hresult]
    cases complaint? fields <;> exact ⟨_, rfl⟩

end Envelope

/-! ### Errors -/

namespace DecodeError

/-- An error as it is for another query. -/
def asked (query : Option Text) : DecodeError → DecodeError
  | .rejected complaint _ => .rejected complaint query
  | error => error

/-- An error without the fragment of an answer that is malformed. -/
def blurred : DecodeError → DecodeError
  | .response ⟨.malformed count, _⟩ => .response ⟨.malformed count, []⟩
  | error => error

/-- A problem with a payload does not depend on the query. -/
theorem about_asked (problem : ResponseProblem) (payload : Payload) (query : Option Text) :
    (about problem payload).asked query = about problem payload := by
  unfold about
  split <;> rfl

end DecodeError

namespace Rows

variable {payload : Payload} {query : Option Text}

theorem ofResponse_malformed {count : Nat} (h : Envelope.ofPayload payload = .error count) :
    ofResponse payload query = .error (.about (.malformed count) payload) := by
  rw [ofResponse, h]

/-- What becomes of a text that is malformed. -/
theorem ofResponse_of_carries {t : Text} (hcarries : payload.Carries t) {count : Nat}
    (h : Envelope.ofPayload payload = .error count) :
    ofResponse payload query = .error (.response ⟨.malformed count, t.take fragmentLimit⟩) := by
  rw [ofResponse_malformed h, hcarries.about_eq]

/-- What is wrong with a value does not depend on a query. -/
theorem ofJson_asked (v : Json) (other : Option Text) :
    (ofJson v).mapError (·.asked other) = ofJson v := by
  cases h : ofJson v with
  | ok rows => rfl
  | error error =>
    cases error with
    | rejected complaint asked => exact absurd h (ofJson_ne_rejected v complaint asked)
    | _ => rfl

/-- **Only a rejection depends on the query.** -/
theorem ofResponse_asked (payload : Payload) (query other : Option Text) :
    ofResponse payload other = (ofResponse payload query).mapError (·.asked other) := by
  unfold ofResponse
  -- malformed, or by its rows and its complaint, the empty one apart
  rcases Envelope.ofPayload payload with count | ⟨_ | items, _ | _ | ⟨c, complaint⟩⟩
  · exact congrArg Except.error (DecodeError.about_asked _ payload other).symm
  · rfl
  · rfl
  · rfl
  · exact (ofJson_asked _ other).symm
  · exact (ofJson_asked _ other).symm
  · rfl

/-- **Only a fragment depends on the rest of an answer.** -/
theorem ofResponse_blurred {other : Payload} {t u : Text} (hcarries : payload.Carries t)
    (hother : other.Carries u) (h : Envelope.ofPayload payload = Envelope.ofPayload other) :
    (ofResponse payload query).mapError DecodeError.blurred
      = (ofResponse other query).mapError DecodeError.blurred := by
  unfold ofResponse
  rw [h]
  cases Envelope.ofPayload other with
  | error count =>
    dsimp only
    rw [hcarries.about_eq, hother.about_eq]
    rfl
  | ok envelope => rfl

/-! ### Any answer -/

section Answer

variable {fields : Fields Json}

/-- An answer without misfits has its two members. -/
theorem ofPayload_fit (h : payload.strictJson? = some (.object fields))
    (hcomplaint : ¬Envelope.MisfitComplaint fields) (hresult : ¬Envelope.MisfitResult fields) :
    ∃ result complaint, Envelope.result? fields = some result ∧
      Envelope.complaint? fields = some complaint ∧
      Envelope.ofPayload payload = .ok ⟨result, complaint⟩ := by
  obtain ⟨result, hresult⟩ := Option.ne_none_iff_exists'.1
    (mt Envelope.result?_eq_none_iff.1 hresult)
  obtain ⟨complaint, hcomplaint⟩ := Option.ne_none_iff_exists'.1
    (mt Envelope.complaint?_eq_none_iff.1 hcomplaint)
  refine ⟨result, complaint, hresult, hcomplaint, ?_⟩
  rw [Envelope.ofPayload_object h, hresult, hcomplaint]
  rfl

/-- **A complaint that says something** rejects the query. -/
theorem ofResponse_complaint (h : payload.strictJson? = some (.object fields))
    (hfit : ¬Envelope.MisfitComplaint fields) (hresult : ¬Envelope.MisfitResult fields)
    {c : CodePoint} {complaint : Text}
    (hcomplaint : Fields.get? "error" fields = some (.text (c :: complaint))) :
    ofResponse payload query = .error (.rejected (c :: complaint) query) := by
  obtain ⟨result, said, -, hsaid, henvelope⟩ := ofPayload_fit h hfit hresult
  rw [Envelope.complaint?_eq_some_iff.2 hcomplaint] at hsaid
  obtain rfl := Option.some.inj hsaid
  rw [ofResponse, henvelope]

/-- **Without such a complaint** the rows are those under `result`. -/
theorem ofResponse_result (h : payload.strictJson? = some (.object fields))
    (hfit : ¬Envelope.MisfitComplaint fields) (hresult : ¬Envelope.MisfitResult fields)
    (hsilent : ∀ c complaint, Fields.get? "error" fields ≠ some (.text (c :: complaint)))
    {result : Option (List Json)} (hrows : Envelope.result? fields = some result) :
    ofResponse payload query = result.elim (.ok .empty) fun items => ofJson (.array items) := by
  obtain ⟨result', said, hresult', hsaid, henvelope⟩ := ofPayload_fit h hfit hresult
  rw [hrows] at hresult'
  obtain rfl := Option.some.inj hresult'
  rw [ofResponse, henvelope]
  rcases said with _ | _ | ⟨c, complaint⟩
  · cases result <;> rfl
  · cases result <;> rfl
  · exact absurd (Envelope.complaint?_eq_some_iff.1 hsaid) (hsilent c complaint)

/-- Two answers with the same two members have the same shape. -/
theorem ofPayload_congr {others : Fields Json} {other : Payload}
    (h : payload.strictJson? = some (.object fields))
    (hother : other.strictJson? = some (.object others))
    (hcomplaint : Fields.get? "error" others = Fields.get? "error" fields)
    (hresult : Fields.get? "result" others = Fields.get? "result" fields) :
    Envelope.ofPayload other = Envelope.ofPayload payload := by
  rw [Envelope.ofPayload_object h, Envelope.ofPayload_object hother, Envelope.result?,
    Envelope.result?, Envelope.complaint?, Envelope.complaint?, hcomplaint, hresult]

end Answer

/-- **Any answer is classified.** Take the text of an object that an answer can hold, or the bytes
of it. With a member of the wrong kind it is malformed, and shows where it begins. Otherwise a
complaint that is not empty rejects the query that is asked, whatever the rows are; without one, no
rows or null are no rows at all, and an array has the rows that it has as a payload. Other members
and the order of members change at most what a malformed answer shows. A text that is no object is
malformed, and the query is in nothing but rejections. -/
theorem ofResponse_classified :
    (∀ {fields : Fields Json} {t : Text} {payload : Payload} {query : Option Text},
      Json.Answerable fields → Json.TextOf (.object fields) t → payload.Carries t →
      (Envelope.MisfitComplaint fields ∨ Envelope.MisfitResult fields → ∃ count,
        ofResponse payload query
          = .error (.response ⟨.malformed count, t.take fragmentLimit⟩)) ∧
      (¬Envelope.MisfitComplaint fields → ¬Envelope.MisfitResult fields →
        (∀ c complaint, Fields.get? "error" fields = some (.text (c :: complaint)) →
          ofResponse payload query = .error (.rejected (c :: complaint) query)) ∧
        ((∀ c complaint, Fields.get? "error" fields ≠ some (.text (c :: complaint))) →
          (Fields.get? "result" fields = none ∨ Fields.get? "result" fields = some .null →
            ofResponse payload query = .ok .empty) ∧
          ∀ items, Fields.get? "result" fields = some (.array items) →
            ofResponse payload query = ofPayload (.value (.array items)))) ∧
      ∀ {others : Fields Json} {u : Text} {other : Payload}, Json.Answerable others →
        Json.TextOf (.object others) u → other.Carries u →
        Fields.get? "error" others = Fields.get? "error" fields →
        Fields.get? "result" others = Fields.get? "result" fields →
        (ofResponse other query).mapError DecodeError.blurred
          = (ofResponse payload query).mapError DecodeError.blurred) ∧
    (∀ {t : Text} {payload : Payload} {query : Option Text}, payload.Carries t →
      (Json.skipBlanks t).head? ≠ some (.char '\x7b') →
      ofResponse payload query = .error (.response ⟨.malformed 1, t.take fragmentLimit⟩)) ∧
    ∀ payload query other,
      ofResponse payload other = (ofResponse payload query).mapError (·.asked other) := by
  refine ⟨fun {fields t payload query} hfields ht hcarries => ?_, fun hcarries ht => ?_,
    ofResponse_asked⟩
  · -- misfits, a complaint, no rows, an array of rows, and answers that differ elsewhere
    have hobject := hcarries.strictJson?_object ht hfields
    refine ⟨fun hmisfit => ?_, fun hfit hresult => ⟨fun c complaint hcomplaint => ?_,
      fun hsilent => ⟨fun hmissing => ?_, fun items hitems => ?_⟩⟩,
      fun hothers hu hcarries' hcomplaint hresult => ?_⟩
    · obtain ⟨count, hcount⟩ := Envelope.ofPayload_misfit hobject hmisfit
      exact ⟨count, ofResponse_of_carries hcarries hcount⟩
    · exact ofResponse_complaint hobject hfit hresult hcomplaint
    · exact ofResponse_result hobject hfit hresult hsilent
        (Envelope.result?_eq_missing_iff.2 hmissing)
    · exact ofResponse_result hobject hfit hresult hsilent (Envelope.result?_eq_some_iff.2 hitems)
    · exact ofResponse_blurred hcarries' hcarries (ofPayload_congr hobject
        (hcarries'.strictJson?_object hu hothers) hcomplaint hresult)
  · exact ofResponse_of_carries hcarries
      (Envelope.ofPayload_error (hcarries.strictJson?_ne_object ht))

end Rows

/-! ### A complaint beside a number -/

namespace Sample

/-- An answer with a number and a complaint. -/
def answer (digits : Text) : Fields Json :=
  [("n", .int (Json.ofDigits digits)), ("error", .text "boom")]

/-- The text of the answer. -/
def answerText (digits : Text) : Text :=
  .char '\x7b' :: (("\"n\":" : Text) ++ (digits ++ (",\"error\":\"boom\"\x7d" : Text)))

theorem spellsName (name : String) :
    Json.SpellsName (Json.quoted false name ++ ":") name :=
  Json.spellsName_quoted Json.blank_nil name

variable {digits : Text}

theorem textOf_answer (h : Json.Whole digits) :
    Json.TextOf (.object (answer digits)) (answerText digits) := by
  have hcomplaint : Json.Spells ("\"boom\"" : Text) (.value (.text "boom")) :=
    .text (Json.spellsString_escaped "boom")
  have hfields := Json.Spells.field (spellsName "n") (.natural h) Json.blank_nil Json.blank_nil
    (.lastField (spellsName "error") hcomplaint Json.blank_nil)
  have htext := Json.TextOf.mk Json.blank_nil (.object (b := []) Json.blank_nil hfields)
    Json.blank_nil
  rw [List.append_nil] at htext
  exact htext

theorem nodup_answer (digits : Text) : (answer digits).names.Nodup :=
  (by decide : List.Nodup [("n" : Text), ("error" : Text)])

theorem answerable_answer (h : Json.ofDigits digits < 10 ^ Json.digitLimit)
    (hnarrow : Json.isWide (Json.ofDigits digits) = false) : Json.Answerable (answer digits) where
  proper := by
    -- two members with distinct names, a number and a text
    refine .object (nodup_answer digits) fun field hfield => ?_
    rcases List.mem_pair.1 hfield with rfl | rfl
    · exact .int h
    · exact .text _
  scalar := rfl
  narrow := by
    refine Json.anyInt_object.2 fun field hfield => ?_
    rcases List.mem_pair.1 hfield with rfl | rfl
    · exact hnarrow
    · rfl
  nesting_le := (by decide : 1 ≤ Json.nestingLimit)

/-- A number that is too long to be read. -/
def longDigits : Text := List.replicate 4301 (.char '7')

theorem whole_longDigits : Json.Whole longDigits where
  ne_nil := nofun
  all_digits d hd := by
    rw [List.eq_of_mem_replicate hd]
    rfl
  leading rest h := by
    have hmem : .char '0' ∈ longDigits := h ▸ List.mem_cons_self
    cases List.eq_of_mem_replicate hmem

/-- Nothing behind the number is read. -/
theorem readRaw_answer (h : Json.Whole digits) (hlimit : Json.digitLimit < digits.length) :
    Json.readRaw (answerText digits) = .error (.tooManyDigits digits.length) := by
  -- the object, its field and its value use up three of the fuel
  obtain ⟨fuel, hfuel⟩ : ∃ fuel, 2 * (answerText digits).length + 2 = fuel + 3 :=
    ⟨2 * (answerText digits).length - 1, by
      rw [answerText, List.length_cons]
      omega⟩
  have hdigits : Json.readValue (fuel + 1) (digits ++ (",\"error\":\"boom\"\x7d" : Text))
      = .error (.tooManyDigits digits.length) :=
    (Json.readValue_digits h _).trans
      (Json.readNumber_tooLong h hlimit (Json.ended_cons (.inr (.inl rfl))))
  have hfields : Json.readFields (fuel + 2) (("\"n\":" : Text) ++ (digits ++
      (",\"error\":\"boom\"\x7d" : Text))) = .error (.tooManyDigits digits.length) := by
    refine (Json.readFields_eq (spellsName "n") (h.starts.append _)).trans ?_
    rw [hdigits]
    rfl
  have hskip (rest : Text) : Json.skipBlanks (("\"n\":" : Text) ++ rest)
      = ("\"n\":" : Text) ++ rest := rfl
  have hbrace : Json.skipBlanks (answerText digits) = answerText digits := rfl
  have hstart : Json.Starts (("\"n\":" : Text) ++ (digits ++
      (",\"error\":\"boom\"\x7d" : Text))) := (spellsName "n").starts.append _
  rw [Json.readRaw, hfuel, hbrace, answerText, Json.readValue_object (by rwa [hskip]), hskip,
    hfields]
  rfl

end Sample

namespace Rows

/-- **A number that is too long makes an answer malformed**, wherever it stands. Of this one nothing
else is wrong, and yet its complaint is not told. -/
theorem ofResponse_oversized :
    Json.TextOf (.object (Sample.answer Sample.longDigits)) (Sample.answerText Sample.longDigits) ∧
      (Sample.answer Sample.longDigits).names.Nodup ∧
      (Json.object (Sample.answer Sample.longDigits)).hasSurrogate = false ∧
      (Json.object (Sample.answer Sample.longDigits)).nesting = 1 ∧
      Fields.get? "error" (Sample.answer Sample.longDigits) = some (.text "boom") ∧
      Fields.get? "result" (Sample.answer Sample.longDigits) = none ∧
      ofResponse (.text (Sample.answerText Sample.longDigits)) none = .error (.response
        ⟨.malformed 1, (Sample.answerText Sample.longDigits).take fragmentLimit⟩) := by
  refine ⟨Sample.textOf_answer Sample.whole_longDigits, Sample.nodup_answer _, rfl, rfl, rfl, rfl,
    ofResponse_of_carries .text (Envelope.ofPayload_error fun fields => ?_)⟩
  have hlimit : Json.digitLimit < Sample.longDigits.length := by
    rw [Sample.longDigits, List.length_replicate]
    decide
  rw [Payload.strictJson?, Json.readStrict?,
    Sample.readRaw_answer Sample.whole_longDigits hlimit]
  exact (Option.some_ne_none _).symm

/-- With a number that can be read, the complaint rejects the query. -/
theorem ofResponse_classified_sample :
    ofResponse (.text (Sample.answerText "12")) (some "g.V()")
      = .error (.rejected "boom" (some "g.V()")) := by
  have hwhole : Json.Whole ("12" : Text) := ⟨nofun, by decide, fun rest h => by cases h⟩
  -- the bound itself is too large to be computed
  have hsmall : Json.ofDigits ("12" : Text) < 10 ^ Json.digitLimit :=
    Nat.lt_of_lt_of_le (by decide : Json.ofDigits ("12" : Text) < 10 ^ 2)
      (Nat.pow_le_pow_right (by decide) (by decide))
  have hcomplaint : ¬Envelope.MisfitComplaint (Sample.answer "12") := by
    rintro ⟨v, hv, -, hne⟩
    exact hne "boom" (Option.some.inj hv).symm
  have hresult : ¬Envelope.MisfitResult (Sample.answer "12") := by
    rintro ⟨v, hv, -⟩
    cases hv
  have hnarrow : Json.isWide (Json.ofDigits ("12" : Text)) = false := by decide
  obtain ⟨-, hfit, -⟩ := ofResponse_classified.1 (Sample.answerable_answer hsmall hnarrow)
    (Sample.textOf_answer hwhole) .text
  exact (hfit hcomplaint hresult).1 _ _ rfl

end Rows

end GraphPath
