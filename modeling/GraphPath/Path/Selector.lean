import GraphPath.Text.CodePoint

/-!
# Selectors

What the steps of a path name: nodes, predicates (edge labels) and tags. A name is never
empty and neither is a set of names, so both facts are part of the types.

* `Name`, `Names` — a name, and one or more names in order;
* `NodeSelector` — every node, one node, or several;
* `TagSelector` — one tag, or several;
* `Selector` — any of these, or one predicate or several;
* `NodeSelector.ids` — the ids that a node selector names: none for every node.
-/

namespace GraphPath

/-- **A name**: a text that is not empty. -/
structure Name where
  text : Text
  nonempty : text ≠ []
deriving DecidableEq

/-- The name that a text is, if it is not empty. -/
def Name.ofText? : Text → Option Name
  | [] => none
  | c :: rest => some ⟨c :: rest, List.cons_ne_nil c rest⟩

/-- **Names**: one or more of them, in order. -/
structure Names where
  toList : List Name
  nonempty : toList ≠ []
deriving DecidableEq

/-- The texts of the names. -/
def Names.texts (names : Names) : List Text := names.toList.map (·.text)

/-- **Selecting nodes**: every node, one, or several. -/
inductive NodeSelector where
  | any
  | one (id : Name)
  | many (ids : Names)
deriving DecidableEq

/-- **Selecting tags**: one, or several at once. -/
inductive TagSelector where
  | one (tag : Name)
  | many (tags : Names)
deriving DecidableEq

/-- **A selector.** -/
inductive Selector where
  | nodes (nodes : NodeSelector)
  | predicate (name : Name)
  | predicates (names : Names)
  | tags (tags : TagSelector)
deriving DecidableEq

/-- The ids of the nodes to start from; none stands for every node. -/
def NodeSelector.ids : NodeSelector → List Text
  | .any => []
  | .one id => [id.text]
  | .many ids => ids.texts

end GraphPath
