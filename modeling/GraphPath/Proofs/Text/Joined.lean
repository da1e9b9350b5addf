import GraphPath.Text.CodePoint
import Mathlib.Data.List.TakeDrop

/-!
# Pieces of texts

Pieces that are written one behind the other, with commas between them and a closing code
point at the end, can be told apart when each of them delimits itself. A text is cut at a separator
into pieces that do not hold it.

* `Text.join_cons` — a first piece, and the others each behind a separator;
* `Text.splitOn_piece`, `Text.splitOn_last` — the pieces that a separator cuts off;
* `Text.span_stop` — what is in front of the end of a class of code points;
* `Text.append_inj_of_takeWhile` — the first piece of a class of code points;
* `Text.Ends` — what can stand behind the last piece;
* `Text.join_append_inj` — pieces that can be told from what follows them are determined by the
  text that they make, and so is what stands behind the last one;
* `Text.Delimited` — pieces that delimit themselves before a comma and before the closing
  code point;
* `Text.Delimited.more_inj`, `Text.Delimited.join_inj` — such pieces, up to the closing one.
-/

namespace GraphPath.Text

theorem join_cons (separator piece : Text) (pieces : List Text) :
    join separator (piece :: pieces) = piece ++ pieces.flatMap (separator ++ ·) := by
  induction pieces generalizing piece with
  | nil => simp [join]
  | cons next pieces ih =>
    rw [join, ih, List.flatMap_cons, List.append_assoc, List.append_assoc]
    exact nofun

/-! ### Cutting -/

/-- **A piece** is cut off at the separator behind it. -/
theorem splitOn_piece {separator : CodePoint} {piece : Text} (h : separator ∉ piece)
    (rest : Text) :
    splitOn separator (piece ++ separator :: rest) = piece :: splitOn separator rest := by
  induction piece with
  | nil => exact if_pos rfl
  | cons c piece ih =>
    -- the separator is not the first code point, so it is looked for behind it
    obtain ⟨hc, hpiece⟩ := not_or.1 (mt List.mem_cons.2 h)
    rw [List.cons_append, splitOn, if_neg (Ne.symm hc), ih hpiece]

/-- A text of a class of code points ends where the class does. -/
theorem span_stop {p : CodePoint → Bool} {front rest : Text} (hfront : ∀ c ∈ front, p c)
    (hrest : ∀ c ∈ rest.head?, p c = false) : (front ++ rest).span p = (front, rest) := by
  have hstop : rest.takeWhile p = [] ∧ rest.dropWhile p = rest := by
    cases rest with
    | nil => exact ⟨rfl, rfl⟩
    | cons c rest => simp [hrest c rfl]
  rw [List.span_eq_takeWhile_dropWhile, List.takeWhile_append_of_pos hfront,
    List.dropWhile_append_of_pos hfront, hstop.1, hstop.2, List.append_nil]

/-- Two texts of one class of code points, each up to the end of the class, are equal if the
whole texts are. -/
theorem append_inj_of_takeWhile {p : CodePoint → Bool} {x y u v : Text}
    (hx : ∀ c ∈ x, p c) (hy : ∀ c ∈ y, p c) (hu : u.takeWhile p = [])
    (hv : v.takeWhile p = []) (h : x ++ u = y ++ v) : x = y ∧ u = v := by
  -- both are what a scan for the class takes from the one text
  have hxy : x = y := by
    have hwhile := congrArg (List.takeWhile p) h
    rwa [List.takeWhile_append_of_pos hx, List.takeWhile_append_of_pos hy, hu, hv,
      List.append_nil, List.append_nil] at hwhile
  subst hxy
  exact ⟨rfl, List.append_cancel_left h⟩

/-! ### Pieces that can be told from what follows -/

/-- **What can stand behind the last piece**: it cannot be taken for a further piece, behind a comma
or without one. -/
structure Ends {α : Type} (follows : Text → Prop) (write : α → Text) (rest : Text) : Prop where
  follows : follows rest
  no_comma : ∀ others, rest ≠ .char ',' :: others
  no_piece : ∀ a others, rest ≠ write a ++ others

section Joined

variable {α : Type} {follows : Text → Prop} {write : α → Text} {u v : Text}
variable (hcancel : ∀ {a b : α} {u v : Text}, follows u → follows v →
  write a ++ u = write b ++ v → a = b ∧ u = v)
variable (hcomma : ∀ rest, follows (.char ',' :: rest))

/-- The pieces behind a comma each. -/
def further (write : α → Text) (xs : List α) : Text := xs.flatMap fun a => .char ',' :: write a

theorem join_append (x : α) (xs : List α) (rest : Text) :
    join "," ((x :: xs).map write) ++ rest = write x ++ (further write xs ++ rest) := by
  rw [List.map_cons, join_cons, further, List.append_assoc, List.flatMap_map]
  rfl

include hcomma in
theorem follows_further (hu : Ends follows write u) (xs : List α) :
    follows (further write xs ++ u) := by
  cases xs with
  | nil => exact hu.follows
  | cons x xs => exact hcomma _

include hcancel hcomma

/-- **Further pieces are determined** by their text, and so is the rest behind it. -/
theorem further_inj (hu : Ends follows write u) (hv : Ends follows write v) {xs ys : List α}
    (h : further write xs ++ u = further write ys ++ v) : xs = ys ∧ u = v := by
  induction xs generalizing ys with
  | nil =>
    -- a comma does not end the pieces
    cases ys with
    | nil => exact ⟨rfl, h⟩
    | cons y ys => exact absurd h (hu.no_comma _)
  | cons x xs ih =>
    cases ys with
    | nil => exact absurd h.symm (hv.no_comma _)
    | cons y ys =>
      -- behind the commas, the first pieces are told apart from what follows them
      have hpieces : write x ++ (further write xs ++ u) = write y ++ (further write ys ++ v) := by
        simpa [further] using h
      obtain ⟨rfl, hmore⟩ :=
        hcancel (follows_further hcomma hu xs) (follows_further hcomma hv ys) hpieces
      obtain ⟨rfl, hrest⟩ := ih hmore
      exact ⟨rfl, hrest⟩

/-- **Joined pieces are determined** by their text, and so is the rest behind it. -/
theorem join_append_inj (hu : Ends follows write u) (hv : Ends follows write v) {xs ys : List α}
    (h : join "," (xs.map write) ++ u = join "," (ys.map write) ++ v) : xs = ys ∧ u = v := by
  -- no pieces on one side only would make a piece of the rest
  cases xs with
  | nil =>
    cases ys with
    | nil => exact ⟨rfl, h⟩
    | cons y ys =>
      rw [join_append] at h
      exact absurd h (hu.no_piece _ _)
  | cons x xs =>
    cases ys with
    | nil =>
      rw [join_append] at h
      exact absurd h.symm (hv.no_piece _ _)
    | cons y ys =>
      rw [join_append, join_append] at h
      obtain ⟨rfl, hmore⟩ :=
        hcancel (follows_further hcomma hu xs) (follows_further hcomma hv ys) h
      obtain ⟨rfl, hrest⟩ := further_inj hcancel hcomma hu hv hmore
      exact ⟨rfl, hrest⟩

end Joined

/-! ### Pieces up to a closing code point -/

/-- What stands behind a piece: a comma, or the closing code point. -/
def Follows (close : CodePoint) (rest : Text) : Prop :=
  ∃ c others, rest = c :: others ∧ (c = .char ',' ∨ c = close)

/-- **Pieces that delimit themselves**, and of which none starts with the closing code
point. -/
structure Delimited {α : Type} (close : CodePoint) (write : α → Text) : Prop where
  cancel : ∀ {a b : α} {u v : Text}, Follows close u → Follows close v →
    write a ++ u = write b ++ v → a = b ∧ u = v
  start : ∀ a, ∃ c rest, write a = c :: rest ∧ c ≠ close

section Delimited

variable {α : Type} {close : CodePoint} {write : α → Text} {u v : Text}

/-- The pieces behind a comma each, up to the closing code point. -/
def more (close : CodePoint) (write : α → Text) (xs : List α) (rest : Text) : Text :=
  xs.flatMap (fun a => .char ',' :: write a) ++ close :: rest

theorem follows_comma (close : CodePoint) (rest : Text) : Follows close (.char ',' :: rest) :=
  ⟨.char ',', rest, rfl, .inl rfl⟩

theorem follows_more (xs : List α) (rest : Text) : Follows close (more close write xs rest) := by
  cases xs with
  | nil => exact ⟨close, rest, rfl, .inr rfl⟩
  | cons x xs => exact follows_comma close _

namespace Delimited

/-- The closing code point ends the pieces, whatever stands behind it. -/
theorem ends (hwrite : Delimited close write) (hclose : close ≠ .char ',') (rest : Text) :
    Ends (Follows close) write (close :: rest) where
  follows := ⟨close, rest, rfl, .inr rfl⟩
  no_comma _ h := hclose (List.cons.inj h).1
  no_piece a others h := by
    -- a piece starts with something else
    obtain ⟨c, rest, hstart, hne⟩ := hwrite.start a
    rw [hstart] at h
    exact hne (List.cons.inj h).1.symm

/-- **Further pieces are determined** by their text, and so is what stands behind the closing code
point. -/
theorem more_inj (hwrite : Delimited close write) (hclose : close ≠ .char ',') {xs ys : List α}
    (h : more close write xs u = more close write ys v) : xs = ys ∧ u = v := by
  obtain ⟨rfl, hrest⟩ := further_inj hwrite.cancel (follows_comma close) (hwrite.ends hclose u)
    (hwrite.ends hclose v) h
  exact ⟨rfl, (List.cons.inj hrest).2⟩

/-- **Joined pieces are determined** by their text, and so is what stands behind the closing code
point. -/
theorem join_inj (hwrite : Delimited close write) (hclose : close ≠ .char ',') {xs ys : List α}
    (h : join "," (xs.map write) ++ close :: u = join "," (ys.map write) ++ close :: v) :
    xs = ys ∧ u = v := by
  obtain ⟨rfl, hrest⟩ := join_append_inj hwrite.cancel (follows_comma close)
    (hwrite.ends hclose u) (hwrite.ends hclose v) h
  exact ⟨rfl, (List.cons.inj hrest).2⟩

end Delimited

end Delimited

end GraphPath.Text
