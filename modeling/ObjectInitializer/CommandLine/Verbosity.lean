/-
**Verbosity.**

How much a run tells about itself.  Asking for quiet wins over asking for detail.

Main definitions:

* `Verbosity`, `Verbosity.ofFlags` — the levels, and the one that two flags ask for;
* `Verbosity.logFilter` — the least severity that is logged.
-/

set_option relaxedAutoImplicit false
set_option autoImplicit false

namespace ObjectInitializer

/-- How much a run tells about itself. -/
inductive Verbosity where
  | quiet
  | normal
  | verbose
  deriving Repr, DecidableEq

namespace Verbosity

/-- The level that the flags ask for. -/
def ofFlags (verbose quiet : Bool) : Verbosity :=
  if quiet then .quiet
  else if verbose then .verbose
  else .normal

/-- The name of a level. -/
def name : Verbosity → String
  | .quiet => "quiet"
  | .normal => "normal"
  | .verbose => "verbose"

/-- The least severity that is logged. -/
def logFilter : Verbosity → String
  | .quiet => "error"
  | .normal => "warn"
  | .verbose => "debug"

end Verbosity

end ObjectInitializer
