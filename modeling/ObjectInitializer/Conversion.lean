/-
**Conversion.**

From a JSON value, or from where a document comes from, to the statement that builds the value.
The checks come in a fixed order: the document is there, it is not too large, it parses, the
settings are valid, the value is not nested too deep, its compact form is not too large.  A clock
measures how long the conversion of the value takes, from the check of the settings on; where there
is none, the time is given.

Main definitions:

* `Conversion` — the statement and its measures;
* `convert`, `convertTimed` — the conversion of a value, in a given time and by a clock;
* `convertInput`, `convertText` — the conversion of a document.
-/

import ObjectInitializer.Clock
import ObjectInitializer.Emitter
import ObjectInitializer.Input
import ObjectInitializer.Limits

set_option relaxedAutoImplicit false
set_option autoImplicit false

namespace ObjectInitializer

/-- A generated statement and its measures. -/
structure Conversion where
  content : String
  /-- The size of the compact form of the value, in bytes. -/
  inputSize : Nat
  /-- The size of the statement, in bytes. -/
  outputSize : Nat
  /-- How long the conversion of the value took, in milliseconds. -/
  milliseconds : Nat
  tally : Tally
  deriving Repr, DecidableEq

/-! ### Values -/

/-- Refuses settings that are not valid. -/
def checkSettings (settings : Settings) : Except Failure Unit :=
  match settings.validate with
  | .ok () => .ok ()
  | .error text => .error (.ofKind (.configuration text))

/-- Refuses a value that must not be converted. -/
def checkValue (settings : Settings) (v : Json) : Except Failure Unit := do
  checkSettings settings
  Limits.checkDepth settings v
  Limits.checkCompactSize settings v

/-- The conversion to a rendering, of a value with the given size, in the given time. -/
def Conversion.ofRendering (rendering : Rendering) (inputSize milliseconds : Nat) : Conversion where
  content := rendering.content
  inputSize := inputSize
  outputSize := rendering.content.utf8ByteSize
  milliseconds := milliseconds
  tally := rendering.tally

/-- The conversion of a value without any check, in the given time. -/
def Conversion.ofValue (settings : Settings) (v : Json) (milliseconds : Nat) : Conversion :=
  .ofRendering (render settings v.toTree) v.compactSize milliseconds

/-- The conversion of a value in the given time, which is no time at all if none is given. -/
def convert (settings : Settings) (v : Json) (milliseconds : Nat := 0) :
    Except Failure Conversion := do
  checkValue settings v
  return .ofValue settings v milliseconds

/-- The conversion, had it taken the given time. -/
def Conversion.timed (conversion : Conversion) (milliseconds : Nat) : Conversion :=
  { conversion with milliseconds }

/-- The time that a conversion takes changes nothing but what it says about that time. -/
theorem convert_timed (settings : Settings) (v : Json) (milliseconds milliseconds' : Nat) :
    convert settings v milliseconds' =
      (convert settings v milliseconds).map (·.timed milliseconds') := by
  rw [convert, convert]
  cases checkValue settings v <;> rfl

/-- The conversion of a value, timed from before its checks until it has been rendered and
measured. -/
def convertTimed {m : Type → Type} [Monad m] [Clock m] (settings : Settings) (v : Json) :
    m (Except Failure Conversion) := do
  let start ← Clock.now
  match checkValue settings v with
  | .error failure => return .error failure
  | .ok () =>
    let rendering := render settings v.toTree
    let inputSize := v.compactSize
    let time ← Clock.since start
    return .ok (.ofRendering rendering inputSize (Clock.milliseconds time))

/-- By a clock that tells a given time, a value is converted in that time. -/
theorem convertTimed_taking {m : Type → Type} [Monad m] [LawfulMonad m] (settings : Settings)
    (v : Json) (time : Nat) :
    letI : Clock m := .taking time
    (convertTimed settings v : m (Except Failure Conversion)) =
      pure (convert settings v (Clock.milliseconds time)) := by
  refine (pure_bind _ _).trans ?_
  rw [convert]
  cases checkValue settings v with
  | error failure => rfl
  | ok => exact pure_bind _ _

/-! ### Documents -/

/-- The value of a document, from the outcome of parsing it. -/
def parsedValue (parsed : Except Json.ParseError Json) : Except Failure Json :=
  match parsed with
  | .ok v => .ok v
  | .error error => .error (.parse error)

/-- The file that is missing, if the document should be in one and is not. -/
def Input.missing? {m : Type → Type} [Monad m] [Storage m] (input : Input) : m (Option Path) := do
  match input with
  | .file path => return if ← input.exists? then none else some path
  | _ => return none

/-- The value of a document, if it is there and not too large. -/
def Input.load {m : Type → Type} [Monad m] [Storage m] (input : Input) (settings : Settings) :
    m (Except Failure Json) := do
  match ← input.missing? with
  | some path => return .error (.ofKind (.inputNotFound path))
  | none =>
    match Limits.checkSize settings (← input.size?) with
    | .error failure => return .error failure
    | .ok () => return parsedValue (← input.parse)

/-- The conversion of a document. -/
def convertInput {m : Type → Type} [Monad m] [Storage m] [Clock m] (settings : Settings)
    (input : Input) : m (Except Failure Conversion) := do
  match ← input.load settings with
  | .error failure => return .error failure
  | .ok v => convertTimed settings v

/-- The conversion of a document that is given as a text, in the given time. -/
def convertText (settings : Settings) (text : String) (milliseconds : Nat := 0) :
    Except Failure Conversion := do
  Limits.checkSize settings (some text.utf8ByteSize)
  convert settings (← parsedValue (Json.parse text)) milliseconds

end ObjectInitializer
