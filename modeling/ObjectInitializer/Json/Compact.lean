/-
**The compact form of a JSON value.**

A value written without blanks: items and members are separated by a comma, a key and its value by
a colon, numbers stand as they are kept, and strings are escaped no more than they must be.

Main definitions:

* `Json.writeCompact` — the compact form, appended to a text;
* `Json.compact`, `Json.compactSize` — the form by itself, and its length in bytes.
-/

import ObjectInitializer.Json.Basic
import ObjectInitializer.Json.Quoted

set_option relaxedAutoImplicit false
set_option autoImplicit false

namespace ObjectInitializer.Json

mutual

/-- Appends the compact form of a value to a text. -/
def writeCompact (out : String) : Json → String
  | .null => out ++ "null"
  | .bool true => out ++ "true"
  | .bool false => out ++ "false"
  | .number text => out ++ text
  | .string text => quote out text
  | .array items => (writeCompactItems (out.push '[') true items).push ']'
  | .object members => (writeCompactMembers (out.push '{') true members).push '}'

/-- Appends the compact forms of items, with a comma in front of each but the `first`. -/
def writeCompactItems (out : String) (first : Bool) : List Json → String
  | [] => out
  | v :: vs =>
    writeCompactItems (writeCompact (if first then out else out.push ',') v) false vs

/-- Appends the compact forms of members, with a comma in front of each but the `first`. -/
def writeCompactMembers (out : String) (first : Bool) : List (String × Json) → String
  | [] => out
  | (key, v) :: ms =>
    writeCompactMembers
      (writeCompact ((quote (if first then out else out.push ',') key).push ':') v) false ms

end

/-- The compact form of a value. -/
def compact (v : Json) : String :=
  writeCompact "" v

/-- The number of bytes of the compact form. -/
def compactSize (v : Json) : Nat :=
  v.compact.utf8ByteSize

end ObjectInitializer.Json
