import GraphPath.Gremlin
import GraphPath.Proofs.Gremlin.Program
import GraphPath.Proofs.Json.Unambiguity
import GraphPath.Proofs.Json.Visible
import GraphPath.Proofs.Text.Joined

/-!
# Literals in a program

A name in a program is a string literal. It delimits itself: nothing that stands behind it can be
taken for a part of it, and no name swallows what follows, however many quotes and backslashes it
ends with. So a list of literals up to a parenthesis or a bracket has one list of names.

* `Gremlin.literals_texts` — the literals of names;
* `Program.names_append_inj` — names up to what closes them;
* `Gremlin.literals_delimited` — **literals delimit themselves**, alone and in a list.
-/

namespace GraphPath

namespace Program

/-- A code point that is no quote and no comma ends a list of names, whatever stands behind it. -/
theorem names_end {close : CodePoint} (hquote : close ≠ .char '"') (hcomma : close ≠ .char ',')
    (rest : Text) : Text.Ends (fun _ => True) name (close :: rest) where
  follows := trivial
  no_comma _ h := hcomma (List.cons.inj h).1
  no_piece _ _ h := hquote (List.cons.inj h).1

/-- **Names up to what ends them are determined** by their text, and so is what ends them. A literal
delimits itself whatever follows, so the two lists need not end alike. -/
theorem names_append_inj {xs ys : List Text} {u v : Text} (hu : Text.Ends (fun _ => True) name u)
    (hv : Text.Ends (fun _ => True) name v) (h : names xs ++ u = names ys ++ v) :
    xs = ys ∧ u = v :=
  Text.join_append_inj (fun _ _ => Json.quoted_append_inj) (fun _ => trivial) hu hv h

/-- Names up to a closing code point are determined by their text. -/
theorem names_inj (close : CodePoint) (hquote : close ≠ .char '"') (hcomma : close ≠ .char ',')
    {u v : Text} {xs ys : List Text} (h : names xs ++ close :: u = names ys ++ close :: v) :
    xs = ys ∧ u = v := by
  obtain ⟨hnames, hrest⟩ :=
    names_append_inj (names_end hquote hcomma u) (names_end hquote hcomma v) h
  exact ⟨hnames, (List.cons.inj hrest).2⟩

end Program

namespace Gremlin

/-- The literal of a name is always written. -/
theorem literalOf_text (t : Text) : literalOf (.text t) = .ok (literal t) := rfl

/-- **The literals of names**, with commas between them. -/
theorem literals_texts (ts : List Text) : literals (ts.map .text) = .ok (Program.names ts) := by
  -- each of them is written, one after the other
  have hmap : (ts.map Json.text).mapM literalOf = .ok (ts.map Program.name) := by
    induction ts with
    | nil => rfl
    | cons t ts ih =>
      rw [List.map_cons, List.mapM_cons, literalOf_text, ih]
      rfl
  rw [literals, hmap]
  rfl

/-- A closing parenthesis or bracket. -/
def closes (c : CodePoint) : Bool := c = .char ')' || c = .char ']'

theorem names_end_of_closes {c : CodePoint} (h : closes c = true) (rest : Text) :
    Text.Ends (fun _ => True) Program.name (c :: rest) := by
  have hclose : c = .char ')' ∨ c = .char ']' := by simpa [closes] using h
  rcases hclose with rfl | rfl <;> exact Program.names_end (by decide) (by decide) rest

/-- **Literals delimit themselves.** Every name has a literal. A literal and what stands behind it
can be told apart in one way only, and no control stands in a literal. Every list of names has its
literals, with commas between them; if a parenthesis or a bracket closes them, they have no other
list of names, and what closes them and what stands behind that are determined too. -/
theorem literals_delimited :
    (∀ s : Text, literalOf (.text s) = .ok (literal s)) ∧
    (∀ s t u v : Text, literal s ++ u = literal t ++ v → s = t ∧ u = v) ∧
    (∀ s : Text, ∀ c ∈ literal s, 0x20 ≤ c.toNat) ∧
    (∀ xs : List Text, literals (xs.map .text) = .ok (Text.join "," (xs.map literal))) ∧
    ∀ (xs ys : List Text) (c d : CodePoint) (u v : Text), closes c = true → closes d = true →
      Text.join "," (xs.map literal) ++ c :: u = Text.join "," (ys.map literal) ++ d :: v →
      xs = ys ∧ c = d ∧ u = v := by
  refine ⟨literalOf_text, fun s t u v h => Json.quoted_append_inj h, fun s => Json.visible_quoted s,
    literals_texts, fun xs ys c d u v hc hd h => ?_⟩
  -- both ends are a parenthesis or a bracket, not necessarily the same
  obtain ⟨hnames, hrest⟩ :=
    Program.names_append_inj (names_end_of_closes hc u) (names_end_of_closes hd v) h
  exact ⟨hnames, List.cons.inj hrest⟩

/-- Two names and one name that would have the same text without escapes have different literals,
whatever closes them. -/
theorem literals_delimited_sample :
    closes (.char ')') = true ∧ closes (.char ']') = true ∧
      literals ([("a\\" : Text), "b"].map .text) = .ok "\"a\\\\\",\"b\"" ∧
      Text.join "," ([("a\\" : Text), "b"].map literal) ++ [CodePoint.char ')']
        ≠ Text.join "," ([("a\\\",\"b" : Text)].map literal) ++ [CodePoint.char ']'] := by
  have hround : closes (.char ')') = true := rfl
  have hsquare : closes (.char ']') = true := rfl
  obtain ⟨-, -, -, hwritten, hdelimited⟩ := literals_delimited
  -- equal texts would make one name of the two
  refine ⟨hround, hsquare, hwritten [("a\\" : Text), "b"], fun h => ?_⟩
  obtain ⟨hnames, -⟩ := hdelimited _ _ _ _ _ _ hround hsquare h
  exact absurd hnames (by decide)

end Gremlin

end GraphPath
