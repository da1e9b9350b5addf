import GraphPath.Proofs.Gremlin.Script
import GraphPath.Proofs.Gremlin.Unambiguous
import GraphPath.Proofs.Json.Visible

/-!
# Line ends in programs

All of a program but its names is printed ASCII, and of a name all but the controls stands in the
program as it is. So what is found in a program and is neither ASCII nor a control comes from a
name: a program holds no line feed and no carriage return, but it holds a separator just if a name
does.

* `Json.texts`, `WireQuery.names` — the texts of a value, and the names of a wire query;
* `Json.texts_canonical` — canonical wire steps have the same texts;
* `CodePoint.Foreign` — classes without printed ASCII;
* `Calls.any_text` — such a class in the text of calls;
* `Gremlin.program_names` — such a class in the program of a query;
* `Gremlin.script_exact` — literals and programs as parts of a script.
-/

namespace GraphPath

/-! ### The names of a wire query -/

namespace Json

mutual

/-- **The texts of a value** at any depth, names of fields apart. -/
def texts : Json → List Text
  | .text t => [t]
  | .array items => textsOfItems items
  | .object fields => textsOfFields fields
  | .null | .bool _ | .int _ | .float _ => []

/-- The texts of items at any depth. -/
def textsOfItems : List Json → List Text
  | [] => []
  | item :: items => texts item ++ textsOfItems items

/-- The texts of the values of fields at any depth. -/
def textsOfFields : List (Text × Json) → List Text
  | [] => []
  | (_, value) :: fields => texts value ++ textsOfFields fields

end

theorem texts_wireStep (operation : Text) (operand : Json) :
    (wireStep operation operand).texts = operand.texts := by
  rw [wireStep, texts, textsOfFields, textsOfFields, List.append_nil]

theorem texts_unwrapped (operation : Text) (operand : Json) :
    (unwrapped operation operand).texts = operand.texts := by
  unfold unwrapped
  split
  · rw [texts, textsOfItems, textsOfItems, List.append_nil]
  · rw [texts, textsOfItems, textsOfItems, List.append_nil]
  · rfl

mutual

/-- **Canonical wire steps have the same texts.** -/
theorem texts_canonical : ∀ v : Json, v.canonical.texts = v.texts
  | .null | .bool _ | .int _ | .float _ | .text _ => rfl
  | .array items => by rw [canonical, texts, texts, textsOfItems_canonical items]
  | .object [] => rfl
  | .object [(operation, operand)] => by
    rw [canonical, texts_wireStep, texts_unwrapped, texts_canonical operand, ← texts_wireStep,
      wireStep]
  | .object (_ :: _ :: _) => rfl

theorem textsOfItems_canonical :
    ∀ items : List Json, textsOfItems (canonicalItems items) = textsOfItems items
  | [] => rfl
  | item :: items => by
    rw [canonicalItems, textsOfItems, textsOfItems, texts_canonical item,
      textsOfItems_canonical items]

end

theorem textsOfItems_texts (ts : List Text) : textsOfItems (ts.map .text) = ts := by
  induction ts with
  | nil => rfl
  | cons t ts ih => rw [List.map_cons, textsOfItems, ih, texts, List.singleton_append]

theorem texts_collapse (operands : List Json) :
    (Compile.collapse operands).texts = textsOfItems operands := by
  rcases operands with _ | ⟨first, _ | ⟨second, operands⟩⟩
  · rfl
  · rw [textsOfItems, textsOfItems, List.append_nil]
    rfl
  · rfl

end Json

/-- **The names of a wire query**: the ids of its start, and the texts in its steps. -/
def WireQuery.names (wire : WireQuery) : List Text :=
  Json.textsOfItems wire.start ++ Json.textsOfItems wire.steps

/-! ### Classes of code points -/

/-- **A class without printed ASCII.** -/
def CodePoint.Foreign (p : CodePoint → Bool) : Prop :=
  ∀ c : CodePoint, 0x20 ≤ c.toNat → c.toNat < 0x80 → p c = false

/-- The members of a class that a literal does not escape. -/
def CodePoint.unescaped (p : CodePoint → Bool) (c : CodePoint) : Bool :=
  decide (0x20 ≤ c.toNat) && p c

section Foreign

variable {p : CodePoint → Bool} (hp : CodePoint.Foreign p)

include hp

theorem Text.Inert.any_eq_false {t : Text} (h : t.Inert) : t.any p = false := by
  rw [List.any_eq_false]
  intro c hc
  obtain ⟨hlow, hhigh⟩ := h c hc
  rw [hp c hlow hhigh]
  exact Bool.false_ne_true

theorem Text.Inert.any_append {t : Text} (h : t.Inert) (u : Text) : (t ++ u).any p = u.any p := by
  rw [List.any_append, h.any_eq_false hp, Bool.false_or]

/-- Printed ASCII around a text. -/
theorem Text.any_enclosed {before behind : Text} (hbefore : before.Inert) (hbehind : behind.Inert)
    (t : Text) : (before ++ t ++ behind).any p = t.any p := by
  rw [List.any_append, hbefore.any_append hp, hbehind.any_eq_false hp, Bool.or_false]

/-- Foreign code points in joined pieces are foreign code points in a piece. -/
theorem Text.any_join {separator : Text} (hseparator : separator.Inert) (pieces : List Text) :
    (join separator pieces).any p = pieces.any fun piece => piece.any p := by
  cases pieces with
  | nil => rfl
  | cons piece pieces =>
    have hmore (more : List Text) :
        (more.flatMap (separator ++ ·)).any p = more.any fun piece => piece.any p := by
      induction more with
      | nil => rfl
      | cons next more ih =>
        rw [List.flatMap_cons, List.any_append, hseparator.any_append hp, ih, List.any_cons]
    rw [join_cons, List.any_append, hmore, List.any_cons]

theorem CodePoint.unescaped_of_lt {c : CodePoint} (h : c.toNat < 0x80) :
    CodePoint.unescaped p c = false := by
  by_cases hlow : 0x20 ≤ c.toNat
  · rw [CodePoint.unescaped, hp c hlow h, Bool.and_false]
  · rw [CodePoint.unescaped, decide_eq_false hlow, Bool.false_and]

end Foreign

/-! ### Literals -/

namespace Json

theorem inert_unicodeEscape {n : Nat} (h : n < 0x20) : Text.Inert (unicodeEscape n) := by
  interval_cases n <;> decide

variable {p : CodePoint → Bool} (hp : CodePoint.Foreign p)

include hp

theorem any_escapedPoint (c : CodePoint) :
    (escapedPoint false c).any p = CodePoint.unescaped p c := by
  have hwritten := writtenAs_escapedPoint c
  generalize escapedPoint false c = text at hwritten ⊢
  -- what JSON escapes is written in printed ASCII
  cases hwritten with
  | @letter e hletter hslash =>
    have hinert : Text.Inert [.char '\\', e] :=
      List.forall_mem_cons.2 ⟨by decide, List.forall_mem_singleton.2 (inert_of_escaped hletter)⟩
    obtain ⟨-, hascii⟩ := Script.single?_of_escaped hletter hslash
    rw [hinert.any_eq_false hp, CodePoint.unescaped_of_lt hp hascii]
  | number hcontrol =>
    rw [(inert_unicodeEscape hcontrol).any_eq_false hp, CodePoint.unescaped_of_lt hp (by omega)]
  | point hquote hbackslash hcontrol =>
    rw [CodePoint.unescaped, decide_eq_true hcontrol, Bool.true_and, List.any_cons, List.any_nil,
      Bool.or_false]

/-- **What is foreign in a literal** is what is foreign in the name, controls apart. -/
theorem any_quoted (t : Text) : (quoted false t).any p = t.any (CodePoint.unescaped p) := by
  have hquote : Text.Inert [.char '"'] := by decide
  have hinside : (t.flatMap (escapedPoint false)).any p = t.any (CodePoint.unescaped p) := by
    induction t with
    | nil => rfl
    | cons c t ih => rw [List.flatMap_cons, List.any_append, any_escapedPoint hp, ih, List.any_cons]
  calc (quoted false t).any p
      = (t.flatMap (escapedPoint false)).any p := Text.any_enclosed hp hquote hquote _
    _ = t.any (CodePoint.unescaped p) := hinside

end Json

/-! ### Programs -/

theorem Operation.inert_text (operation : Operation) : operation.text.Inert := by
  cases operation <;> decide

section Calls

variable {p : CodePoint → Bool} (hp : CodePoint.Foreign p)

/-- Whether a class has members in some of these texts that a literal does not escape. -/
def Text.anyUnescaped (p : CodePoint → Bool) (ts : List Text) : Bool :=
  ts.any fun t => t.any (CodePoint.unescaped p)

theorem Text.anyUnescaped_append (ts us : List Text) :
    anyUnescaped p (ts ++ us) = (anyUnescaped p ts || anyUnescaped p us) :=
  List.any_append

/-- The names of wire steps are those of the first and of the others. -/
theorem Text.anyUnescaped_step (operation : Text) (operand : Json) (steps : List Json) :
    anyUnescaped p (Json.textsOfItems (.wireStep operation operand :: steps))
      = (anyUnescaped p operand.texts || anyUnescaped p (Json.textsOfItems steps)) := by
  rw [Json.textsOfItems, anyUnescaped_append, Json.texts_wireStep]

include hp

theorem Program.any_names (ts : List Text) :
    (Program.names ts).any p = Text.anyUnescaped p ts := by
  have hcomma : Text.Inert "," := by decide
  rw [Program.names, Text.any_join hp hcomma, List.any_map, Text.anyUnescaped]
  exact congrArg (List.any ts) (funext fun t => Json.any_quoted hp t)

theorem Program.any_start (ids : List Text) :
    (Program.start ids).any p = Text.anyUnescaped p ids := by
  have hopen : Text.Inert "g.V(" := by decide
  have hclose : Text.Inert ")" := by decide
  rw [Program.start, Text.any_enclosed hp hopen hclose, Program.any_names hp]

theorem Argument.any_text (a : Argument) :
    a.text.any p = Text.anyUnescaped p a.wire.texts := by
  -- names are literals, and everything around them is printed ASCII
  cases a with
  | null =>
    have hnull : Text.Inert "null" := by decide
    exact hnull.any_eq_false hp
  | name t =>
    rw [Argument.text, Argument.wire, Json.texts, Program.name, Json.any_quoted hp]
    exact (Bool.or_false _).symm
  | names ts =>
    have hopen : Text.Inert "[" := by decide
    have hclose : Text.Inert "]" := by decide
    rw [Argument.text, Argument.wire, Json.texts, Json.textsOfItems_texts,
      Text.any_enclosed hp hopen hclose, Program.any_names hp]
  | number n => exact (Text.inert_ofNat n).any_eq_false hp

theorem Argument.any_texts (as : List Argument) :
    ((as.map Argument.text).any fun text => text.any p)
      = Text.anyUnescaped p (Json.textsOfItems (as.map Argument.wire)) := by
  induction as with
  | nil => rfl
  | cons a as ih =>
    rw [List.map_cons, List.any_cons, ih, List.map_cons, Json.textsOfItems,
      Text.anyUnescaped_append, Argument.any_text hp]

namespace Calls

theorem any_between (operation : Operation) (inside : Text) :
    (between operation inside).any p = inside.any p := by
  have hdot : Text.Inert "." := by decide
  have hopen : Text.Inert "(" := by decide
  have hclose : Text.Inert ")" := by decide
  have hbetween : between operation inside
      = ("." : Text) ++ (operation.text ++ (("(" : Text) ++ inside ++ (")" : Text))) := by
    simp [between, Text.ofString]
  rw [hbetween, hdot.any_append hp, operation.inert_text.any_append hp,
    Text.any_enclosed hp hopen hclose]

/-- **What is foreign in the text of calls** is what is foreign in the names of their wire steps,
controls apart. -/
theorem any_text (calls : Calls) :
    calls.text.any p = Text.anyUnescaped p (Json.textsOfItems calls.wires) := by
  have hcomma : Text.Inert "," := by decide
  -- on the calls: their operations and brackets are printed ASCII
  induction calls with
  | nil => rfl
  | plain operation as rest ih =>
    have hinside : (Text.join "," (as.map Argument.text)).any p
        = Text.anyUnescaped p (Json.textsOfItems (as.map Argument.wire)) := by
      rw [Text.any_join hp hcomma, Argument.any_texts hp]
    rw [text, List.any_append, any_between hp, hinside, ih, wires, Text.anyUnescaped_step,
      Json.texts_collapse]
  | through operation ids inner as rest ihInner ih =>
    -- the names of the start, of the inner calls and of the arguments, in this order on both sides
    have hinside : (Text.join "," ((Program.start ids ++ inner.text) :: as.map Argument.text)).any p
        = (Text.anyUnescaped p ids || Text.anyUnescaped p (Json.textsOfItems inner.wires)
          || Text.anyUnescaped p (Json.textsOfItems (as.map Argument.wire))) := by
      rw [Text.any_join hp hcomma, List.any_cons, List.any_append, Program.any_start hp, ihInner,
        Argument.any_texts hp]
    have hwire : Text.anyUnescaped p (Json.textsOfItems
          (.array (.wireStep Wire.startOperation (.array (ids.map .text)) :: inner.wires)
            :: as.map Argument.wire))
        = (Text.anyUnescaped p ids || Text.anyUnescaped p (Json.textsOfItems inner.wires)
          || Text.anyUnescaped p (Json.textsOfItems (as.map Argument.wire))) := by
      rw [Json.textsOfItems, Text.anyUnescaped_append, Json.texts, Text.anyUnescaped_step,
        Json.texts, Json.textsOfItems_texts]
    rw [text, List.any_append, any_between hp, hinside, ih, wires, Text.anyUnescaped_step,
      Json.texts_collapse, hwire]
  | follow operation inner rest ihInner ih =>
    have hstart : Text.Inert "g.M()" := by decide
    rw [text, List.any_append, any_between hp, hstart.any_append hp, ihInner, ih, wires,
      Text.anyUnescaped_step, Json.texts]

end Calls

end Calls

namespace Gremlin

variable {registry : Registry} {q : Query} {wire : WireQuery}

/-- **What is foreign in a program** is what is foreign in the names of its wire query, controls
apart. -/
theorem program_names {program : Text} (hregistry : registry.Built)
    (hquery : (Value.query q).Built) (h : registry.compile (.query q) = .ok wire)
    (hprogram : wire.toGremlin = .ok program) (p : CodePoint → Bool) (hp : CodePoint.Foreign p) :
    program.any p = Text.anyUnescaped p wire.names := by
  obtain ⟨ids, calls, rfl, hstart, hsteps⟩ := calls_of_compile hregistry hquery h hprogram
  -- the calls are those of canonical steps, which have the same names
  have htexts : Json.textsOfItems calls.wires = Json.textsOfItems wire.steps := by
    rw [← hsteps, ← Json.canonicalItems_eq]
    exact Json.texts_canonical (.array wire.steps)
  rw [List.any_append, Program.any_start hp, Calls.any_text hp, WireQuery.names, hstart,
    Json.textsOfItems_texts, Text.anyUnescaped_append, htexts]

/-! ### Scripts -/

theorem foreign_isLineTerminator : CodePoint.Foreign CodePoint.isLineTerminator := by
  intro c hlow hhigh
  rw [CodePoint.isLineTerminator_of_le hlow, CodePoint.isSeparator_of_lt (by omega)]

/-- Of the code points that end a line, a literal leaves the separators as they are. -/
theorem unescaped_isLineTerminator (c : CodePoint) :
    CodePoint.unescaped CodePoint.isLineTerminator c = c.isSeparator := by
  by_cases hlow : 0x20 ≤ c.toNat
  · rw [CodePoint.unescaped, decide_eq_true hlow, Bool.true_and,
      CodePoint.isLineTerminator_of_le hlow]
  · rw [CodePoint.unescaped, decide_eq_false hlow, Bool.false_and,
      CodePoint.isSeparator_of_lt (by omega)]

/-- **Programs hold no controls**, for a literal escapes all of them. -/
theorem visible_of_names {program : Text} {names : List Text}
    (h : ∀ p, CodePoint.Foreign p → program.any p = Text.anyUnescaped p names) :
    Json.Visible program := by
  -- the controls are a class without printed ASCII, and a literal escapes them all
  have hcontrol : CodePoint.Foreign fun c => decide (c.toNat < 0x20) :=
    fun c hlow _ => decide_eq_false (Nat.not_lt.2 hlow)
  have hnone : Text.anyUnescaped (fun c => decide (c.toNat < 0x20)) names = false := by
    rw [Text.anyUnescaped, List.any_eq_false]
    intro name _
    rw [Bool.not_eq_true, List.any_eq_false]
    intro c _
    simp [CodePoint.unescaped]
  rw [← h _ hcontrol, List.any_eq_false] at hnone
  exact fun c hc => Nat.not_lt.1 fun hlow => hnone c hc (decide_eq_true hlow)

/-- **Names in scripts.** The literal of a name is a literal of a script just if the name holds no
separator, and then it denotes the name and nothing else. A query that compiles has a program unless
its limit has too many digits. The program has no line feed and no carriage return; it has a
separator just if a name of the query has one. -/
theorem script_exact (hregistry : registry.Built) :
    (∀ s u, Script.Literal (literal s) u ↔
      (∀ c ∈ s, c.isSeparator = false) ∧ u = Text.units s) ∧
    ∀ {q : Query} {wire : WireQuery}, (Value.query q).Built →
      registry.compile (.query q) = .ok wire →
        (q.final.Writable → ∃ program, wire.toGremlin = .ok program) ∧
        ∀ program, wire.toGremlin = .ok program →
          (∀ c ∈ program, c.isLineTerminator → c.isSeparator) ∧
          ((∃ c ∈ program, c.isLineTerminator) ↔
            ∃ name ∈ wire.names, ∃ c ∈ name, c.isSeparator) := by
  refine ⟨fun s u => Script.literal_iff s, fun hquery h => ⟨fun hwritable =>
    ⟨_, program_of_compile hregistry hquery (Nat.le_refl _) h hwritable⟩,
    fun program hprogram => ?_⟩⟩
  -- of a class that no literal escapes, the program holds what the names hold
  have hnames := program_names hregistry hquery h hprogram
  have hvisible := visible_of_names hnames
  have hlines := hnames _ foreign_isLineTerminator
  rw [Text.anyUnescaped, funext unescaped_isLineTerminator] at hlines
  refine ⟨fun c hc hline => ?_, ?_⟩
  · rwa [CodePoint.isLineTerminator_of_le (hvisible c hc)] at hline
  · rw [← List.any_eq_true, hlines, List.any_eq_true]
    exact exists_congr fun name => and_congr_right fun _ => List.any_eq_true

/-- The names of the sample hold no separator, so its program is on one line. -/
theorem script_exact_sample : ∃ wire program,
    Sample.registry.compile (.query Sample.query) = .ok wire ∧ wire.toGremlin = .ok program ∧
      ¬∃ c ∈ program, c.isLineTerminator := by
  obtain ⟨-, hscripts⟩ := script_exact Sample.registry_built
  obtain ⟨hwritten, hprograms⟩ := hscripts Sample.query_built rfl
  obtain ⟨program, hprogram⟩ := hwritten Sample.query_writable
  obtain ⟨-, hlines⟩ := hprograms program hprogram
  refine ⟨_, program, rfl, hprogram, fun hline => ?_⟩
  have hnone : ¬∃ name ∈ [("A\"" : Text), "likes", "B", "t"], ∃ c ∈ name, c.isSeparator := by
    decide
  exact hnone (hlines.1 hline)

/-- A node that is called after the line separator. -/
def separator : Name := ⟨"\u2028", by decide⟩

/-- **A separator ends the literal of a name**, and stands in the program as it is. -/
theorem script_broken :
    (∀ u, ¬Script.Literal (literal separator.text) u) ∧
      (Value.query (Sample.allOf separator)).Built ∧
      ∃ wire program, Registry.empty.compile (.query (Sample.allOf separator)) = .ok wire ∧
        wire.toGremlin = .ok program ∧ ∃ c ∈ program, c.isLineTerminator := by
  refine ⟨fun u hliteral => ?_, Sample.allOf_built separator, _, _, rfl, rfl, .char '\u2028', ?_,
    rfl⟩
  · obtain ⟨hnone, -⟩ := (Script.literal_iff _).1 hliteral
    cases hnone (.char '\u2028') List.mem_cons_self
  · decide

end Gremlin

end GraphPath
