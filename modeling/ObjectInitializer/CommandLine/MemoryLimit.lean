/-
**Memory limits as text.**

A memory limit is written as a decimal numeral and a unit: `GB`, `MB`, `KB` or `B`, in any case, or
none for bytes.  Blanks around the text, and between number and unit, do not count.  The amount is
the number, rounded to binary64, times the unit, and the limit is its whole part, at most the
greatest number of 64 bits.

Main definitions:

* `MemoryLimit.splitUnit` — a text without its unit, and the bytes of the unit;
* `MemoryLimit.amount?` — the whole part of a number of units;
* `MemoryLimit.read` — the limit that a text stands for.
-/

import ObjectInitializer.Decimal
import ObjectInitializer.Text.Blank
import ObjectInitializer.Text.Case

set_option relaxedAutoImplicit false
set_option autoImplicit false

namespace ObjectInitializer.MemoryLimit

open Text

/-- The greatest memory limit. -/
def greatest : Nat := 18446744073709551615

/-- The units in the order in which they are looked for, with their bytes. -/
def units : List (List Char × Nat) :=
  [(['G', 'B'], 1073741824), (['M', 'B'], 1048576), (['K', 'B'], 1024), (['B'], 1)]

/-- The text in front of an ending, if the text has it. -/
def stripEnding? (ending cs : List Char) : Option (List Char) :=
  if ending.isSuffixOf cs then some (cs.take (cs.length - ending.length)) else none

/-- The text without its unit, and the bytes of the unit. -/
def splitUnit (cs : List Char) : List Char × Nat :=
  match units.findSome? fun unit => (stripEnding? unit.1 cs).map fun number => (number, unit.2) with
  | some split => split
  | none => (cs, 1)

/-- The whole part of a number of units of the given size, at most `greatest`.  Numbers below zero,
infinite ones and those that overflow have none. -/
def amount? (numeral : Numeral) (unit : Nat) : Option Nat :=
  match numeral with
  | .finite value =>
    match value.toBinary64? with
    | some multiple =>
      if value.negative && multiple != 0 then none
      else some (min (multiple * unit / Decimal.binary64Unit) greatest)
    | none => none
  | _ => none

/-- The form in which a text is read: without blanks at its ends, and in upper case. -/
def normalize (text : String) : List Char :=
  upper (trim text.toList)

/-- The limit that a text in the form of `normalize` stands for. -/
def readNormal? (cs : List Char) : Option Nat :=
  let (number, unit) := splitUnit cs
  (Numeral.read? (trim number)).bind fun numeral => amount? numeral unit

/-- The refusal of a text that stands for no limit. -/
def invalid (cs : List Char) : String :=
  "Invalid memory limit: " ++ String.ofList cs

/-- The limit that a text stands for, or the refusal. -/
def read (text : String) : Except String Nat :=
  let cs := normalize text
  match readNormal? cs with
  | some limit => .ok limit
  | none => .error (invalid cs)

end ObjectInitializer.MemoryLimit
