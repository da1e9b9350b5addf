/-!
# Outcomes of chained operations

An operation that may fail, followed by one that uses its result: the whole succeeds if
both do, and its fault is that of the first that fails.

* `Outcome.bind_eq_ok`, `Outcome.bind_eq_error` — a chain taken apart;
* `Outcome.fault?` — the fault of an outcome, `Outcome.fault?_bind_bind` — that of a chain is the
  first one in it.
-/

namespace GraphPath.Outcome

variable {ε α β : Type} {x : Except ε α} {f : α → Except ε β}

theorem bind_eq_ok {b : β} : (x >>= f) = .ok b ↔ ∃ a, x = .ok a ∧ f a = .ok b := by
  cases x <;> simp [bind, Except.bind]

theorem bind_eq_error {e : ε} :
    (x >>= f) = .error e ↔ x = .error e ∨ ∃ a, x = .ok a ∧ f a = .error e := by
  cases x <;> simp [bind, Except.bind]

/-- What is made of a result does not fail. -/
theorem bind_ok_eq_error {e : ε} (g : α → β) :
    (x >>= fun a => .ok (g a)) = .error e ↔ x = .error e := by
  cases x <;> simp [bind, Except.bind]

/-! ### The fault of an outcome -/

variable {γ : Type}

/-- **The fault of an outcome**, if it has one. -/
def fault? : Except ε α → Option ε
  | .ok _ => none
  | .error e => some e

theorem fault?_eq_some {e : ε} : fault? x = some e ↔ x = .error e := by
  cases x <;> simp [fault?]

theorem fault?_eq_none : fault? x = none ↔ ∃ a, x = .ok a := by
  cases x <;> simp [fault?]

/-- What is made of a result adds no fault. -/
theorem fault?_bind_ok (g : α → β) : fault? (x >>= fun a => .ok (g a)) = fault? x := by
  cases x <;> rfl

/-- Of two operations the first fault counts. -/
theorem fault?_bind_bind {y : Except ε β} (g : α → β → γ) :
    fault? (x >>= fun a => y >>= fun b => .ok (g a b)) = (fault? x).or (fault? y) := by
  cases x with
  | error e => rfl
  | ok a => exact fault?_bind_ok (g a)

end GraphPath.Outcome
