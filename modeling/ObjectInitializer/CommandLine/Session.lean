/-
**A session.**

The program from its command line to its exit code: the command line is read, the settings are
made, the run is carried out, and a failure is reported in words for users.  What the reader of the
command line has to say about a word that is wrong, and the help that it gives, are no part of the
report.

Main definitions:

* `Report` — exit code and what goes to the output streams;
* `session` — the program.
-/

import ObjectInitializer.CommandLine.Run
import ObjectInitializer.CommandLine.Usage

set_option relaxedAutoImplicit false
set_option autoImplicit false

namespace ObjectInitializer

/-- How a session ends. -/
structure Report where
  code : Nat
  /-- What was written to standard output. -/
  out : String
  /-- What was written to standard error. -/
  err : String
  deriving Repr, DecidableEq

/-- The exit code of a run that succeeded. -/
def successCode : Nat := 0

/-- The exit code of a run that failed. -/
def failureCode : Nat := 1

/-- The exit code of a command line that cannot be read. -/
def usageCode : Nat := 2

/-- The name and version of the program. -/
def versionLine : String := "codi 0.1.0\n"

/-- The line that reports a failure. -/
def failureLine (failure : Failure) : String :=
  "✗ " ++ failure.userMessage ++ "\n"

/-- The end of a session whose run had the given outcome. -/
def Outcome.report (outcome : Outcome) : Report :=
  match outcome.result with
  | .ok _ => ⟨successCode, outcome.out, outcome.err⟩
  | .error failure => ⟨failureCode, outcome.out, outcome.err ++ failureLine failure⟩

variable {m : Type → Type} [Monad m] [Storage m] [Clock m]

/-- A session whose command line asks for a run. -/
def Arguments.session (arguments : Arguments) : m Report := do
  match arguments.settings with
  | .error failure => return ⟨failureCode, "", failureLine failure⟩
  | .ok settings => return (← arguments.run settings).report

/-- A session with the given command line. -/
def session (words : List String) : m Report :=
  match Usage.read words with
  | .ok (.run arguments) => arguments.session
  | .ok .version => return ⟨successCode, versionLine, ""⟩
  | .ok .help => return ⟨successCode, "", ""⟩
  | .error _ => return ⟨usageCode, "", ""⟩

end ObjectInitializer
