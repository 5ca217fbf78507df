/-
**Results and errors.**

A computation that may end in an error is taken apart: it has a result exactly if all that it is
made of has one.

Main results:

* `Except.map_eq_ok_iff`, `Except.bind_eq_ok_iff` — what it takes for a result.
-/

set_option relaxedAutoImplicit false
set_option autoImplicit false

namespace Except

/-- A mapped result is a success exactly when the result is. -/
theorem map_eq_ok_iff {ε α β : Type} {f : α → β} {x : Except ε α} {b : β} :
    x.map f = .ok b ↔ ∃ a, x = .ok a ∧ f a = b := by
  cases x <;> simp [Except.map]

/-- Two results in sequence are a success exactly when both are. -/
theorem bind_eq_ok_iff {ε α β : Type} {f : α → Except ε β} {x : Except ε α} {b : β} :
    x >>= f = .ok b ↔ ∃ a, x = .ok a ∧ f a = .ok b := by
  cases x <;> simp [bind, Except.bind]

end Except
