/-
**Arguments.**

What a run is asked to do, and what follows from it: the settings of the conversion, where the
document comes from, and where the generated code goes.

Main definitions:

* `Arguments`, `Arguments.standard` — the arguments and their standard values;
* `Arguments.settings` — the settings, or why they are refused;
* `Arguments.input` — where the document comes from, or why there is none;
* `Arguments.outputPath` — the file that the generated code is written to.
-/

import ObjectInitializer.CommandLine.MemoryLimit
import ObjectInitializer.CommandLine.Verbosity
import ObjectInitializer.Conversion

set_option relaxedAutoImplicit false
set_option autoImplicit false

namespace ObjectInitializer

/-! ### Output files -/

/-- The name of the file that the generated code is written to. -/
def outputFileName : String := "GeneratedInitialization.cs"

/-- The directory that a file is in, the working directory for a file that is named alone. -/
def directoryOf (file : Path) : Path :=
  match file.parent? with
  | some parent => if parent = "" then "." else parent
  | none => "."

/-- The output file: in the output directory if one is given, else next to the input file, else in
the working directory. -/
def outputFilePath (inputFile outputDirectory : Option Path) : Path :=
  let directory :=
    match outputDirectory, inputFile with
    | some directory, _ => directory
    | none, some file => directoryOf file
    | none, none => "."
  directory.join outputFileName

/-! ### Arguments -/

/-- What a run is asked to do. -/
structure Arguments where
  /-- The file that holds the document. -/
  inputFile : Option Path
  /-- The directory for the output file. -/
  outputDirectory : Option Path
  /-- Whether the document is read from standard input. -/
  fromStandardInput : Bool
  className : String
  /-- The number of spaces of an indent, if it is not a tab. -/
  spaces : Option Nat
  lineEnding : LineEnding
  baseIndent : Nat
  memoryLimit : Option String
  maxDepth : Option Nat
  /-- Whether the generated code is printed instead of written to a file. -/
  print : Bool
  /-- Whether the measures of the conversion are reported. -/
  stats : Bool
  verbose : Bool
  quiet : Bool
  deriving Repr, DecidableEq

namespace Arguments

/-- The standard arguments. -/
def standard : Arguments where
  inputFile := none
  outputDirectory := none
  fromStandardInput := false
  className := defaultClassName
  spaces := none
  lineEnding := .lf
  baseIndent := 0
  memoryLimit := none
  maxDepth := none
  print := false
  stats := false
  verbose := false
  quiet := false

/-! ### What follows from arguments -/

/-- The memory limit that is asked for, or the standard one. -/
def memoryLimitOrStandard (arguments : Arguments) : Except String Nat :=
  match arguments.memoryLimit with
  | some text => MemoryLimit.read text
  | none => .ok Settings.standard.memoryLimit

/-- The settings that are asked for, whether valid or not, under the given memory limit. -/
def settingsUnder (arguments : Arguments) (memoryLimit : Nat) : Settings where
  className := arguments.className
  indent :=
    match arguments.spaces with
    | some count => .spaces count
    | none => .tab
  lineEnding := arguments.lineEnding
  baseIndent := arguments.baseIndent
  memoryLimit := memoryLimit
  maxDepth :=
    match arguments.maxDepth with
    | some depth => some depth
    | none => Settings.standard.maxDepth

/-- The settings that are asked for, if the memory limit can be read and they are valid. -/
def settings (arguments : Arguments) : Except Failure Settings :=
  match arguments.memoryLimitOrStandard with
  | .error text => .error (.ofKind (.configuration text))
  | .ok memoryLimit => do
    let settings := arguments.settingsUnder memoryLimit
    checkSettings settings
    return settings

/-- How much the run tells about itself. -/
def verbosity (arguments : Arguments) : Verbosity :=
  .ofFlags arguments.verbose arguments.quiet

/-- Where the document comes from.  A file must be there. -/
def input {m : Type → Type} [Monad m] [Storage m] (arguments : Arguments) :
    m (Except Failure Input) := do
  if arguments.fromStandardInput then return .ok .standardInput
  else
    match arguments.inputFile with
    | none => return .error (.ofKind .missingInput)
    | some path =>
      if path = "" then return .error (.ofKind .missingInput)
      else if ← Storage.isFile path then return .ok (.file path)
      else return .error (.ofKind (.inputNotFound path))

/-- The file that the generated code is written to. -/
def outputPath (arguments : Arguments) : Path :=
  let inputFile := if arguments.fromStandardInput then none else arguments.inputFile
  outputFilePath inputFile arguments.outputDirectory

end Arguments

end ObjectInitializer
