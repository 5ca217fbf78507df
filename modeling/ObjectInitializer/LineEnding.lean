/-
**Line endings.**

How a line of the generated code ends, and the names by which a line ending is asked for.

Main definitions:

* `LineEnding`, `LineEnding.text` — the endings and the characters they write;
* `LineEnding.ofName` — the ending with a given name, in any case.
-/

import ObjectInitializer.Text.Case

set_option relaxedAutoImplicit false
set_option autoImplicit false

namespace ObjectInitializer

/-- How a line ends. -/
inductive LineEnding where
  /-- A line feed. -/
  | lf
  /-- A carriage return and a line feed. -/
  | crlf
  deriving Repr, DecidableEq, Inhabited

namespace LineEnding

/-- The characters that end a line. -/
def text : LineEnding → String
  | .lf => "\n"
  | .crlf => "\r\n"

/-- The refusal of a name that belongs to no line ending. -/
def unknownName (name : String) : String :=
  "Invalid line ending '" ++ name ++ "'. Use 'lf' or 'crlf'"

/-- The line ending with the given name.  Names are compared in lower case. -/
def ofName (name : String) : Except String LineEnding :=
  let name := String.ofList (Text.lower name.toList)
  if name = "lf" || name = "unix" then .ok .lf
  else if name = "crlf" || name = "windows" then .ok .crlf
  else .error (unknownName name)

end LineEnding

end ObjectInitializer
