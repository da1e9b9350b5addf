import GraphPath.Proofs.Gremlin.Literals
import GraphPath.Proofs.Json.Digits
import GraphPath.Wire.Compile
import Mathlib.Data.List.Basic

/-!
# Calls, and how their text is read

The structure that the text of a program has: calls with arguments, and as the first
argument of a call perhaps further calls, behind a start of their own or not. The text of
calls determines them, whatever names occur in them: `Calls.text_append_inj` goes through
the calls one by one, and what stands behind them cannot be taken for another call.

* `Operation`, `Argument`, `Calls` — the calls of a program;
* `Calls.text` — their text;
* `Argument.delimited` — an argument delimits itself;
* `Calls.text_append_inj` — **unique reading**.
-/

namespace GraphPath

/-- **What a call is called.** -/
inductive Operation where
  | out
  | inn
  | both
  | is
  | has
  | as
  | back
  | save
  | and
  | or
  | follow
  | followReverse
  | all
  | getLimit
deriving DecidableEq, Repr

/-- The name in the text. -/
def Operation.text : Operation → Text
  | .out => "Out"
  | .inn => "In"
  | .both => "Both"
  | .is => "Is"
  | .has => "Has"
  | .as => "As"
  | .back => "Back"
  | .save => "Save"
  | .and => "And"
  | .or => "Or"
  | .follow => "Follow"
  | .followReverse => "FollowR"
  | .all => "All"
  | .getLimit => "GetLimit"

/-- **An argument that is no call.** -/
inductive Argument where
  | null
  | name (t : Text)
  | names (ts : List Text)
  | number (n : Nat)
deriving DecidableEq

/-- The text of an argument. -/
def Argument.text : Argument → Text
  | .null => "null"
  | .name t => Program.name t
  | .names ts => "[" ++ Program.names ts ++ "]"
  | .number n => Text.ofNat n

/-- **Calls**, one behind the other: with plain arguments, with calls behind a start as the
first argument, or with the calls of a morphism as the only one. -/
inductive Calls where
  -- one inductive type with the inner calls beside the rest, so that its induction principle
  -- covers every level
  | nil
  | plain (operation : Operation) (arguments : List Argument) (rest : Calls)
  | through (operation : Operation) (ids : List Text) (inner : Calls)
    (arguments : List Argument) (rest : Calls)
  | follow (operation : Operation) (inner : Calls) (rest : Calls)

namespace Calls

/-- What stands between the parentheses of a call. -/
def between (operation : Operation) (inside : Text) : Text :=
  .char '.' :: operation.text ++ .char '(' :: inside ++ [.char ')']

/-- **The text of calls.** -/
def text : Calls → Text
  | .nil => []
  | .plain operation arguments rest =>
    between operation (Text.join "," (arguments.map Argument.text)) ++ text rest
  | .through operation ids inner arguments rest =>
    between operation (Text.join "," ((Program.start ids ++ text inner)
      :: arguments.map Argument.text)) ++ text rest
  | .follow operation inner rest => between operation ("g.M()" ++ text inner) ++ text rest

end Calls

/-! ### Numbers and names -/

namespace Text

theorem takeWhile_isDigit_of_follows {close : CodePoint} (h : Json.isDigit close = false)
    {u : Text} (hu : Follows close u) : u.takeWhile Json.isDigit = [] := by
  obtain ⟨c, rest, rfl, rfl | rfl⟩ := hu
  · rfl
  · simp [h]

end Text

/-! ### Arguments delimit themselves -/

namespace Argument

/-- The sorts of arguments by their first code point. -/
def startsWith : Argument → CodePoint → Bool
  | .null, c => c = .char 'n'
  | .name _, c => c = .char '"'
  | .names _, c => c = .char '['
  | .number _, c => Json.isDigit c

theorem text_start (a : Argument) : ∃ c rest, a.text = c :: rest ∧ a.startsWith c := by
  cases a with
  | null => exact ⟨.char 'n', _, rfl, rfl⟩
  | name t => exact ⟨.char '"', _, rfl, rfl⟩
  | names ts => exact ⟨.char '[', _, rfl, rfl⟩
  | number n =>
    cases h : Text.ofNat n with
    | nil => exact absurd h (Text.ofNat_ne_nil n)
    | cons c rest =>
      exact ⟨c, rest, h, Text.isDigit_of_mem_ofNat (h ▸ List.mem_cons_self)⟩

/-- Arguments of one text have one sort: some code point starts both. -/
theorem starts_of_append_eq {a b : Argument} {u v : Text} (h : a.text ++ u = b.text ++ v) :
    ∃ c, a.startsWith c ∧ b.startsWith c := by
  obtain ⟨c, rest, ha, hac⟩ := a.text_start
  obtain ⟨d, rest', hb, hbd⟩ := b.text_start
  rw [ha, hb] at h
  obtain ⟨rfl, -⟩ := List.cons.inj h
  exact ⟨c, hac, hbd⟩

theorem names_text_append (ts : List Text) (u : Text) :
    (Argument.names ts).text ++ u = .char '[' :: (Program.names ts ++ .char ']' :: u) := by
  simp [text, Text.ofString]

/-- **An argument delimits itself** before a comma and before a closing parenthesis. -/
theorem delimited : Text.Delimited (.char ')') Argument.text where
  cancel {a b u v} hu hv h := by
    obtain ⟨c, hac, hbc⟩ := starts_of_append_eq h
    -- what the one starts with is what the other starts with, so both are of one sort
    cases a with
    | null =>
      obtain rfl : c = .char 'n' := by simpa [startsWith] using hac
      cases b with
      | null => exact ⟨rfl, List.append_cancel_left h⟩
      | name | names | number => cases hbc
    | name t =>
      obtain rfl : c = .char '"' := by simpa [startsWith] using hac
      cases b with
      | name t' =>
        obtain ⟨rfl, hrest⟩ := Json.quoted_append_inj h
        exact ⟨rfl, hrest⟩
      | null | names | number => cases hbc
    | names ts =>
      obtain rfl : c = .char '[' := by simpa [startsWith] using hac
      cases b with
      | names ts' =>
        rw [names_text_append, names_text_append] at h
        obtain ⟨rfl, hrest⟩ := Program.names_inj (.char ']') nofun nofun
          (List.cons.inj h).2
        exact ⟨rfl, hrest⟩
      | null | name | number => cases hbc
    | number n =>
      cases b with
      | number n' =>
        -- the digits end before a comma and before a parenthesis
        obtain ⟨hdigits, hrest⟩ := Text.append_inj_of_takeWhile
          (fun c hc => Text.isDigit_of_mem_ofNat hc) (fun c hc => Text.isDigit_of_mem_ofNat hc)
          (Text.takeWhile_isDigit_of_follows rfl hu) (Text.takeWhile_isDigit_of_follows rfl hv) h
        exact ⟨congrArg _ (Text.ofNat_injective hdigits), hrest⟩
      | null | name | names =>
        obtain rfl := by simpa [startsWith] using hbc
        cases hac
  start a := by
    obtain ⟨c, rest, ha, hac⟩ := a.text_start
    refine ⟨c, rest, ha, ?_⟩
    rintro rfl
    cases a <;> cases hac

/-- Behind an opening parenthesis, plain arguments do not look like a start. -/
theorem join_start (as : List Argument) (rest : Text) :
    ∃ c others, Text.join "," (as.map text) ++ .char ')' :: rest = c :: others ∧
      c ≠ .char 'g' := by
  cases as with
  | nil => exact ⟨.char ')', rest, rfl, nofun⟩
  | cons a as =>
    obtain ⟨c, others, ha, hac⟩ := a.text_start
    rw [Text.join_append, ha]
    refine ⟨c, _, rfl, ?_⟩
    rintro rfl
    cases a <;> cases hac

end Argument

/-! ### Calls are determined by their text -/

namespace Operation

/-- Every operation. -/
def every : List Operation :=
  [.out, .inn, .both, .is, .has, .as, .back, .save, .and, .or, .follow, .followReverse, .all,
    .getLimit]

/-- Different operations are called differently. -/
theorem text_injective {a b : Operation} (h : a.text = b.text) : a = b := by
  -- an operation is found again by its name
  have hfind : ∀ op : Operation, every.find? (·.text = op.text) = some op := by
    intro op
    cases op <;> rfl
  have hsome : some a = some b := by rw [← hfind a, ← hfind b, h]
  exact Option.some.inj hsome

theorem ne_of_mem_text {op : Operation} {c : CodePoint} (h : c ∈ op.text) :
    c ≠ .char '(' := by
  rintro rfl
  revert h
  cases op <;> decide

end Operation

namespace Calls

/-- No call follows. -/
def Ends (rest : Text) : Prop := ∀ others, rest ≠ .char '.' :: others

theorem ends_of_follows {rest : Text} (h : Text.Follows (.char ')') rest) : Ends rest := by
  obtain ⟨c, others, rfl, rfl | rfl⟩ := h
  · exact fun _ h => nomatch (List.cons.inj h).1
  · exact fun _ h => nomatch (List.cons.inj h).1

theorem between_append (operation : Operation) (inside rest : Text) :
    between operation inside ++ rest
      = .char '.' :: (operation.text ++ .char '(' :: (inside ++ .char ')' :: rest)) := by
  simp [between]

/-- The name of a call ends where its parentheses open. -/
theorem between_append_inj {op op' : Operation} {inside inside' u v : Text}
    (h : between op inside ++ u = between op' inside' ++ v) :
    op = op' ∧ inside ++ .char ')' :: u = inside' ++ .char ')' :: v := by
  rw [between_append, between_append] at h
  -- no name of a call has a parenthesis in it
  have hname : ∀ {op : Operation} (c), c ∈ op.text → decide (c ≠ .char '(') = true :=
    fun c hc => decide_eq_true (Operation.ne_of_mem_text hc)
  obtain ⟨hop, hinside⟩ := Text.append_inj_of_takeWhile hname hname
    (by simp) (by simp) (List.cons.inj h).2
  exact ⟨Operation.text_injective hop, (List.cons.inj hinside).2⟩

/-- Behind a start, calls and arguments up to the closing parenthesis. -/
theorem through_append (ids : List Text) (inner : Calls) (as : List Argument) (rest : Text) :
    Text.join "," ((Program.start ids ++ inner.text) :: as.map Argument.text)
        ++ .char ')' :: rest
      = .char 'g' :: .char '.' :: .char 'V' :: .char '(' :: (Program.names ids ++
        .char ')' :: (inner.text ++ Text.more (.char ')') Argument.text as rest)) := by
  rw [Text.join_cons, Text.more, List.flatMap_map]
  simp [Program.start, Text.ofString]

theorem follow_append (inner : Calls) (rest : Text) :
    ("g.M()" ++ inner.text) ++ .char ')' :: rest
      = .char 'g' :: .char '.' :: .char 'M' :: .char '(' :: .char ')' ::
        (inner.text ++ .char ')' :: rest) := by
  simp [Text.ofString]

/-! ### The form of the first call -/

/-- What calls begin with, if with anything. -/
inductive Form where
  | none
  | plain
  | through
  | follow
deriving DecidableEq

/-- The form of calls. -/
def form : Calls → Form
  | .nil => .none
  | .plain .. => .plain
  | .through .. => .through
  | .follow .. => .follow

/-- What a text begins with: it is seen behind the first opening parenthesis. -/
def Form.ofText (t : Text) : Form :=
  if t.head? = some (.char '.') then
    let opening := ((t.dropWhile (· ≠ .char '(')).drop 1).take 3
    if opening = [.char 'g', .char '.', .char 'V'] then .through
    else if opening = [.char 'g', .char '.', .char 'M'] then .follow
    else .plain
  else .none

/-- The form of a call is that of what stands in its parentheses. -/
theorem ofText_between (op : Operation) (inside rest : Text) :
    Form.ofText (between op inside ++ rest) =
      if (inside ++ .char ')' :: rest).take 3 = [.char 'g', .char '.', .char 'V'] then .through
      else if (inside ++ .char ')' :: rest).take 3 = [.char 'g', .char '.', .char 'M'] then .follow
      else .plain := by
  -- no name of an operation has a bracket, so the first one opens the arguments
  have hname : ∀ c ∈ .char '.' :: op.text, decide (c ≠ .char '(') = true := by
    intro c hc
    rcases List.mem_cons.1 hc with rfl | hc
    · rfl
    · exact decide_eq_true (Operation.ne_of_mem_text hc)
  have hdrop : (between op inside ++ rest).dropWhile (· ≠ .char '(')
      = .char '(' :: (inside ++ .char ')' :: rest) := by
    rw [between_append, ← List.cons_append, List.dropWhile_append_of_pos hname]
    simp
  have hhead : (between op inside ++ rest).head? = some (.char '.') := by
    rw [between_append]
    rfl
  rw [Form.ofText, if_pos hhead, hdrop]
  rfl

theorem ofText_text_append {cs : Calls} {u : Text} (hu : Ends u) :
    Form.ofText (cs.text ++ u) = cs.form := by
  cases cs with
  | nil =>
    -- what ends a list of calls does not begin with a dot
    have hhead : u.head? ≠ some (.char '.') := by
      cases u with
      | nil => exact nofun
      | cons c others => exact fun h => hu others (by rw [Option.some.inj h])
    rw [text, List.nil_append, Form.ofText, if_neg hhead, form]
  | plain op as rest =>
    obtain ⟨c, others, hstart, hc⟩ := Argument.join_start as (rest.text ++ u)
    rw [text, List.append_assoc, ofText_between, hstart, form]
    simp [hc]
  | through op ids inner as rest =>
    rw [text, List.append_assoc, ofText_between, through_append, form]
    rfl
  | follow op inner rest =>
    rw [text, List.append_assoc, ofText_between, follow_append, form]
    rfl

theorem form_eq {cs ds : Calls} {u v : Text} (hu : Ends u) (hv : Ends v)
    (h : cs.text ++ u = ds.text ++ v) : cs.form = ds.form := by
  rw [← ofText_text_append hu, h, ofText_text_append hv]

/-- **Unique reading.** Calls are determined by their text, and so is what stands behind
them if it does not go on with another call. The induction is on the first calls, the inner
ones included; the form of the others is that of the same text. -/
theorem text_append_inj {cs ds : Calls} {u v : Text} (hu : Ends u) (hv : Ends v)
    (h : cs.text ++ u = ds.text ++ v) : cs = ds ∧ u = v := by
  induction cs generalizing ds u v with
  | nil =>
    cases ds with
    | nil => exact ⟨rfl, h⟩
    | plain | through | follow => cases form_eq hu hv h
  | plain op as rest ih =>
    cases ds with
    | plain op' as' rest' =>
      rw [text, text, List.append_assoc, List.append_assoc] at h
      obtain ⟨rfl, hinside⟩ := between_append_inj h
      -- the arguments end at the closing parenthesis, and the rest is read on from there
      obtain ⟨rfl, hrest⟩ := Argument.delimited.join_inj nofun hinside
      obtain ⟨rfl, rfl⟩ := ih hu hv hrest
      exact ⟨rfl, rfl⟩
    | nil | through | follow => cases form_eq hu hv h
  | through op ids inner as rest ihInner ih =>
    cases ds with
    | through op' ids' inner' as' rest' =>
      rw [text, text, List.append_assoc, List.append_assoc] at h
      obtain ⟨rfl, hinside⟩ := between_append_inj h
      rw [through_append, through_append] at hinside
      simp only [List.cons.injEq, true_and] at hinside
      -- first the ids, then the inner calls, then the arguments behind them
      obtain ⟨rfl, hcalls⟩ := Program.names_inj (.char ')') nofun nofun hinside
      obtain ⟨rfl, hmore⟩ := ihInner (ends_of_follows (Text.follows_more _ _))
        (ends_of_follows (Text.follows_more _ _)) hcalls
      obtain ⟨rfl, hrest⟩ := Argument.delimited.more_inj nofun hmore
      obtain ⟨rfl, rfl⟩ := ih hu hv hrest
      exact ⟨rfl, rfl⟩
    | nil | plain | follow => cases form_eq hu hv h
  | follow op inner rest ihInner ih =>
    cases ds with
    | follow op' inner' rest' =>
      rw [text, text, List.append_assoc, List.append_assoc] at h
      obtain ⟨rfl, hinside⟩ := between_append_inj h
      rw [follow_append, follow_append] at hinside
      simp only [List.cons.injEq, true_and] at hinside
      -- the inner calls end at the parenthesis that closes the outer one
      obtain ⟨rfl, hclose⟩ := ihInner (ends_of_follows ⟨_, _, rfl, .inr rfl⟩)
        (ends_of_follows ⟨_, _, rfl, .inr rfl⟩) hinside
      obtain ⟨rfl, rfl⟩ := ih hu hv (List.cons.inj hclose).2
      exact ⟨rfl, rfl⟩
    | nil | plain | through => cases form_eq hu hv h

end Calls

end GraphPath
