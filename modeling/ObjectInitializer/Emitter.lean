/-
**Rendering a value tree.**

A tree is written as a statement: the class name, ` instance = ` and the value.  The outermost
value ends with a semicolon and every other with a comma.  A scalar has the rest of its line; an
object is `new()` and a block with a line per property; an array is a collection in brackets on
lines of their own, or `[]` if it has no items.  Metadata and nulls in arrays are left out, nulls
in objects are kept, and texts stand between quotes as they are.

Main definitions:

* `Emitter` — a writer together with the counts so far;
* `Emitter.emit` — writes a value;
* `Emitter.statement` — writes the statement of a value;
* `render` — the statement of a value under given settings.
-/

import ObjectInitializer.Settings
import ObjectInitializer.Tally
import ObjectInitializer.Tree

set_option relaxedAutoImplicit false
set_option autoImplicit false

namespace ObjectInitializer

/-! ### Terminators and literals -/

/-- What ends a value. -/
inductive Terminator where
  /-- Ends a value inside of another. -/
  | comma
  /-- Ends the statement. -/
  | semicolon
  deriving Repr, DecidableEq

/-- The character of a terminator. -/
def Terminator.text : Terminator → String
  | .comma => ","
  | .semicolon => ";"

/-- The text for a value with no counterpart in the generated code. -/
def unsupportedLiteral : String := "default /* unsupported type */"

/-- A text between quotes, as it is. -/
def stringLiteral (text : String) : String :=
  "\"" ++ text ++ "\""

/-! ### Emitters -/

/-- A rendering under way. -/
structure Emitter where
  writer : Writer
  tally : Tally
  /-- The number of blocks and collections that are open. -/
  nesting : Nat
  deriving Repr, DecidableEq

namespace Emitter

/-- A rendering that starts with the given writer. -/
def new (writer : Writer) : Emitter :=
  { writer, tally := .empty, nesting := 0 }

/-- Changes the counts. -/
def count (e : Emitter) (add : Tally → Tally) : Emitter :=
  { e with tally := add e.tally }

/-- Writes with the writer. -/
def put (e : Emitter) (act : Writer → Writer) : Emitter :=
  { e with writer := act e.writer }

/-- Enters a block or collection. -/
def enter (e : Emitter) : Emitter :=
  { e with nesting := e.nesting + 1, tally := e.tally.reach (e.nesting + 1) }

/-- Leaves a block or collection. -/
def leave (e : Emitter) : Emitter :=
  { e with nesting := e.nesting - 1 }

/-- Writes a value that needs no further line. -/
def putScalar (e : Emitter) (literal : String) : Terminator → Emitter
  | .comma => e.put (·.writeLineWithComma literal)
  | .semicolon => e.put (·.writeLineWithSemicolon literal)

/-- Starts an object. -/
def openObject (e : Emitter) : Emitter :=
  ((e.count .addObject).put fun w => (w.writeLine "new()").startBlock).enter

/-- Ends an object. -/
def closeObject (e : Emitter) : Terminator → Emitter
  | .comma => e.leave.put .endBlockWithComma
  | .semicolon => e.leave.put .endBlockWithSemicolon

/-- Starts a property. -/
def openProperty (e : Emitter) (key : String) : Emitter :=
  (e.count .addProperty).put (·.write (key ++ " = "))

/-- Starts an array that has items. -/
def openArray (e : Emitter) : Emitter :=
  ((e.count .addArray).put .startCollection).enter

/-- Ends an array that has items. -/
def closeArray (e : Emitter) : Terminator → Emitter
  | .comma => e.leave.put .endCollectionWithComma
  | .semicolon => e.leave.put .endCollectionWithSemicolon

/-! ### Values -/

mutual

/-- Writes a value. -/
def emit (e : Emitter) (terminator : Terminator) : Tree → Emitter
  | .null => e.putScalar "null" terminator
  | .bool true => e.putScalar "true" terminator
  | .bool false => e.putScalar "false" terminator
  | .number text => e.putScalar text terminator
  | .string text => e.putScalar (stringLiteral text) terminator
  | .unsupported => (e.count .addUnsupported).putScalar unsupportedLiteral terminator
  | .object entries => (emitEntries e.openObject entries).closeObject terminator
  | .array [] => (e.count .addArray).putScalar "[]" terminator
  | .array (item :: items) =>
    (emitItems e.openArray (item :: items)).closeArray terminator

/-- Writes the entries of an object, less the metadata. -/
def emitEntries (e : Emitter) : List (String × Tree) → Emitter
  | [] => e
  | (key, value) :: entries =>
    if Tree.isMeta key then emitEntries (e.count .addMeta) entries
    else emitEntries (emit (e.openProperty key) .comma value) entries

/-- Writes the items of an array, less the nulls. -/
def emitItems (e : Emitter) : List Tree → Emitter
  | [] => e
  | item :: items =>
    if item.isNull then emitItems (e.count .addNull) items
    else emitItems (emit e .comma item) items

end

/-- Writes the statement that gives `instance` of the class the value. -/
def statement (e : Emitter) (className : String) (value : Tree) : Emitter :=
  (e.put fun w => w.beginIndented.write (className ++ " instance = ")).emit .semicolon value

end Emitter

/-! ### Rendering -/

/-- A statement and what was met in rendering it. -/
structure Rendering where
  content : String
  tally : Tally
  deriving Repr, DecidableEq

/-- What an emitter has rendered. -/
def Emitter.rendering (e : Emitter) : Rendering :=
  { content := e.writer.text, tally := e.tally }

/-- An empty text laid out as the settings say. -/
def Settings.writer (settings : Settings) : Writer :=
  .atDepth settings.baseIndent settings.indent.unit settings.lineEnding

/-- The statement of a value under the given settings. -/
def render (settings : Settings) (value : Tree) : Rendering :=
  ((Emitter.new settings.writer).statement settings.className value).rendering

/-- The statement of a value of the named class under the standard settings. -/
def renderClass (className : String) (value : Tree) : String :=
  (render { Settings.standard with className } value).content

end ObjectInitializer
