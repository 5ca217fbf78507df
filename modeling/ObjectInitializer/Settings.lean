/-
**Settings of a conversion.**

How the generated statement is named and laid out, and what input is accepted.  Settings are
checked before they are used; the checks have an order, and the first that fails is reported.

Main definitions:

* `Indent`, `Indent.unit` — the indent of one level;
* `Settings`, `Settings.standard` — the settings and their standard values;
* `Settings.Flaw`, `Settings.validate` — what can be wrong with settings.
-/

import ObjectInitializer.LineEnding
import ObjectInitializer.Text.Blank
import ObjectInitializer.Writer

set_option relaxedAutoImplicit false
set_option autoImplicit false

namespace ObjectInitializer

/-! ### Indents -/

/-- The indent of one level. -/
inductive Indent where
  | tab
  | spaces (count : Nat)
  deriving Repr, DecidableEq

/-- The characters of one level of indent. -/
def Indent.unit : Indent → String
  | .tab => defaultIndentUnit
  | .spaces count => String.ofList (List.replicate count ' ')

/-! ### Settings -/

/-- The class name of a statement that is not told otherwise. -/
def defaultClassName : String := "MyObject"

/-- The settings of a conversion. -/
structure Settings where
  /-- The name in front of ` instance = `. -/
  className : String
  indent : Indent
  lineEnding : LineEnding
  /-- The depth that the statement starts at. -/
  baseIndent : Nat
  /-- The greatest size of an input in bytes. -/
  memoryLimit : Nat
  /-- The greatest nesting depth of an input, if it is bounded. -/
  maxDepth : Option Nat
  deriving Repr, DecidableEq

/-- The standard settings. -/
def Settings.standard : Settings where
  className := defaultClassName
  indent := .tab
  lineEnding := .lf
  baseIndent := 0
  memoryLimit := 104857600
  maxDepth := some 1000

/-! ### Validity -/

/-- What is wrong with settings. -/
inductive Settings.Flaw where
  | emptyClassName
  | blankInClassName (className : String)
  | indentSize
  | memoryLimitTooSmall
  | maxDepthZero
  deriving Repr, DecidableEq

/-- The wording of a flaw. -/
def Settings.Flaw.message : Settings.Flaw → String
  | .emptyClassName => "Class name must not be empty"
  | .blankInClassName className =>
    "Class name '" ++ className ++ "' must not contain whitespace"
  | .indentSize => "Indent size must be 1-8 spaces"
  | .memoryLimitTooSmall => "Memory limit must be at least 1KB"
  | .maxDepthZero => "Max depth must be at least 1"

/-- Whether the indent is a tab or one to eight spaces. -/
def Indent.isAcceptable : Indent → Bool
  | .tab => true
  | .spaces count => 1 ≤ count && count ≤ 8

/-- The first flaw of the settings, if they have one. -/
def Settings.flaw? (settings : Settings) : Option Settings.Flaw :=
  if settings.className = "" then some .emptyClassName
  else if settings.className.toList.any Text.isBlank then
    some (.blankInClassName settings.className)
  else if !settings.indent.isAcceptable then some .indentSize
  else if settings.memoryLimit < 1024 then some .memoryLimitTooSmall
  else if settings.maxDepth = some 0 then some .maxDepthZero
  else none

/-- Accepts settings without a flaw, and refuses others with the wording of the first. -/
def Settings.validate (settings : Settings) : Except String Unit :=
  match settings.flaw? with
  | none => .ok ()
  | some flaw => .error flaw.message

/-- Settings are accepted exactly when they have no flaw. -/
theorem Settings.validate_eq_ok_iff (settings : Settings) :
    settings.validate = .ok () ↔ settings.flaw? = none := by
  unfold Settings.validate
  split <;> simp_all

/-- The standard settings are valid. -/
theorem Settings.flaw?_standard : Settings.standard.flaw? = none := by
  decide

end ObjectInitializer
