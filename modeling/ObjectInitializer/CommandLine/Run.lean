/-
**A run.**

One conversion as the arguments describe it: the document is read and converted, and the statement
is printed, or written to the output file after its directory has been made.  What goes to the
two output streams is part of the result, and of a failed run what it had said until then.

Main definitions:

* `Outcome` — the result of a run and what it said;
* `writeOutput` — writes the output file;
* `Arguments.run` — carries out a run under given settings.
-/

import ObjectInitializer.CommandLine.Arguments
import ObjectInitializer.CommandLine.Statistics

set_option relaxedAutoImplicit false
set_option autoImplicit false

namespace ObjectInitializer

/-- The result of a run and what it said. -/
structure Outcome where
  result : Except Failure Conversion
  /-- What was written to standard output. -/
  out : String
  /-- What was written to standard error. -/
  err : String

variable {m : Type → Type} [Monad m] [Storage m]

/-- Writes the output file, after its directory has been made if it is missing. -/
def writeOutput (file : Path) (content : String) : m (Except Failure Unit) := do
  let directory := file.parent?
  let made ←
    match directory with
    | some directory => Storage.makeDirectories directory
    | none => pure (.ok ())
  match made with
  | .error error => return .error (.ofOsError error directory)
  | .ok () =>
    match ← Storage.write file content with
    | .error error => return .error (.ofOsError error (some file))
    | .ok () => return .ok ()

namespace Arguments

/-- The line that announces the writing of the output file. -/
def startLine : String := "Generating C# code for initialization...\n"

/-- The line that tells where the output file is. -/
def doneLine (file : Path) : String :=
  "✓ Generated code written to: " ++ file ++ "\n"

/-- What the run says, unless it is to be quiet. -/
def say (arguments : Arguments) (line : String) : String :=
  if arguments.quiet then "" else line

/-- The report of the measures, if it is asked for. -/
def statistics (arguments : Arguments) (conversion : Conversion) : String :=
  if arguments.stats then conversion.report ++ "\n" else ""

/-- Delivers a statement: prints it, or writes it to the output file. -/
def deliver (arguments : Arguments) (conversion : Conversion) : m Outcome := do
  if arguments.print then
    return ⟨.ok conversion, conversion.content, arguments.statistics conversion⟩
  else
    let file := arguments.outputPath
    match ← writeOutput file conversion.content with
    | .error failure => return ⟨.error failure, arguments.say startLine, ""⟩
    | .ok () =>
      return ⟨.ok conversion, arguments.say startLine ++ arguments.say (doneLine file),
        arguments.statistics conversion⟩

/-- Carries out a run under the given settings. -/
def run [Clock m] (arguments : Arguments) (settings : Settings) : m Outcome := do
  match ← arguments.input with
  | .error failure => return ⟨.error failure, "", ""⟩
  | .ok input =>
    match ← convertInput settings input with
    | .error failure => return ⟨.error failure, "", ""⟩
    | .ok conversion => arguments.deliver conversion

end Arguments

end ObjectInitializer
