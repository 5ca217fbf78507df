/-
**Time.**

How long a piece of work took is told by a clock: it is read before the work, and asked afterwards
how long ago that was.  All that a run learns from its clock is that one span of time.

Main definitions:

* `Clock` — the two questions to a clock;
* `Clock.taking` — the clock by which any work takes a given time;
* `Clock.milliseconds` — what is reported of a span of time.
-/

set_option relaxedAutoImplicit false
set_option autoImplicit false

namespace ObjectInitializer

/-- What can be asked of a clock.  Its unit is the nanosecond. -/
class Clock (m : Type → Type) where
  /-- A reading of the clock. -/
  now : m Nat
  /-- The time that has passed since a reading. -/
  since : Nat → m Nat

namespace Clock

/-- The clock by which any work takes the given time. -/
@[reducible]
def taking {m : Type → Type} [Monad m] (time : Nat) : Clock m where
  now := return 0
  since _ := return time

/-- A time in whole milliseconds, as a number of 64 bits. -/
def milliseconds (time : Nat) : Nat := time / 1000000 % UInt64.size

@[simp] theorem milliseconds_zero : milliseconds 0 = 0 := by simp [milliseconds]

end Clock

end ObjectInitializer
