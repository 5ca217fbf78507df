/-
**The layout of a statement.**

The text of a statement, given outright: at every depth the text of a value is put together from
the texts of its parts, with the indents of all its lines in place.  No writer is involved, and
nothing is left pending.

Main definitions:

* `Layout` — an indent unit and a line ending;
* `Layout.value` — the text of a value at a depth;
* `Layout.statement` — the text of a statement.
-/

import ObjectInitializer.Emitter

set_option relaxedAutoImplicit false
set_option autoImplicit false

namespace ObjectInitializer

/-- An indent unit and a line ending. -/
structure Layout where
  indentUnit : String
  lineEnding : LineEnding

/-- The layout that the settings ask for. -/
def Settings.layout (settings : Settings) : Layout :=
  { indentUnit := settings.indent.unit, lineEnding := settings.lineEnding }

namespace Layout

/-- The indent of a depth. -/
def indent (layout : Layout) : Nat → String
  | 0 => ""
  | depth + 1 => layout.indentUnit ++ layout.indent depth

/-- The end of a line. -/
def newline (layout : Layout) : String :=
  layout.lineEnding.text

mutual

/-- The text of a value at a depth, from where its line stands to the end of its last line. -/
def value (layout : Layout) (depth : Nat) (terminator : Terminator) : Tree → String
  | .null => "null" ++ terminator.text ++ layout.newline
  | .bool true => "true" ++ terminator.text ++ layout.newline
  | .bool false => "false" ++ terminator.text ++ layout.newline
  | .number text => text ++ terminator.text ++ layout.newline
  | .string text => stringLiteral text ++ terminator.text ++ layout.newline
  | .unsupported => unsupportedLiteral ++ terminator.text ++ layout.newline
  | .object members =>
    "new()" ++ layout.newline ++
      (layout.indent depth ++ "\x7b" ++ layout.newline) ++
      layout.entries (depth + 1) members ++
      (layout.indent depth ++ "\x7d" ++ terminator.text ++ layout.newline)
  | .array [] => "[]" ++ terminator.text ++ layout.newline
  | .array (item :: rest) =>
    layout.newline ++
      (layout.indent depth ++ "[" ++ layout.newline) ++
      layout.items (depth + 1) (item :: rest) ++
      (layout.indent depth ++ "]" ++ terminator.text ++ layout.newline)

/-- The lines of the entries of an object, less the metadata. -/
def entries (layout : Layout) (depth : Nat) : List (String × Tree) → String
  | [] => ""
  | (key, v) :: rest =>
    (if Tree.isMeta key then ""
      else layout.indent depth ++ key ++ " = " ++ layout.value depth .comma v) ++
      layout.entries depth rest

/-- The lines of the items of an array, less the nulls. -/
def items (layout : Layout) (depth : Nat) : List Tree → String
  | [] => ""
  | v :: rest =>
    (if v.isNull then "" else layout.indent depth ++ layout.value depth .comma v) ++
      layout.items depth rest

end

/-- The text of a statement that starts at a depth. -/
def statement (layout : Layout) (depth : Nat) (className : String) (v : Tree) : String :=
  layout.indent depth ++ className ++ " instance = " ++ layout.value depth .semicolon v

end Layout

end ObjectInitializer
