/-
**An indenting writer.**

A text that grows at its end, line by line.  Ending a line does not indent the next one: the indent
is *pending* and written in front of whatever comes next, be it empty, at the depth the writer has
by then.  The first line has no pending indent, so a text that starts inside of something is
indented by `Writer.beginIndented`.

Main definitions:

* `Writer` — the text so far, the depth, the indent unit and the line ending;
* `Writer.write`, `Writer.writeLine` — text with and without the end of its line;
* `Writer.startBlock`, `Writer.startCollection`, `Writer.close` — one level further in or out.
-/

import ObjectInitializer.LineEnding

set_option relaxedAutoImplicit false
set_option autoImplicit false

namespace ObjectInitializer

/-- The indent unit of a writer that is not told otherwise. -/
def defaultIndentUnit : String := "\t"

/-- The greatest depth of a writer, plus one: depths are counted in words of 64 bits. -/
def depthModulus : Nat := 18446744073709551616

/-- A text under construction. -/
structure Writer where
  /-- The text so far. -/
  text : String
  /-- How many indent units a line starts with. -/
  depth : Nat
  indentUnit : String
  lineEnding : LineEnding
  /-- Whether the current line still lacks its indent. -/
  pending : Bool
  deriving Repr, DecidableEq

namespace Writer

/-- An empty text at the given depth. -/
def atDepth (depth : Nat) (indentUnit : String) (lineEnding : LineEnding) : Writer :=
  { text := "", depth, indentUnit, lineEnding, pending := false }

/-- An empty text that is not indented. -/
def empty : Writer :=
  atDepth 0 defaultIndentUnit .lf

/-! ### Text -/

/-- Appends `n` copies of `unit` to a text. -/
def repeatOnto (out : String) (unit : String) : Nat → String
  | 0 => out
  | n + 1 => repeatOnto (out ++ unit) unit n

/-- Writes the indent of the current line now. -/
def beginIndented (w : Writer) : Writer :=
  { w with text := repeatOnto w.text w.indentUnit w.depth, pending := false }

/-- Writes the indent of the current line if it is pending. -/
def indentIfPending (w : Writer) : Writer :=
  if w.pending then w.beginIndented else w

/-- Appends to the text as it is. -/
def append (w : Writer) (s : String) : Writer :=
  { w with text := w.text ++ s }

/-- Leaves the indent pending. -/
def markPending (w : Writer) : Writer :=
  { w with pending := true }

/-- Writes on the current line. -/
def write (w : Writer) (s : String) : Writer :=
  w.indentIfPending.append s

/-- Writes on the current line and ends it. -/
def writeLine (w : Writer) (s : String) : Writer :=
  ((w.write s).append w.lineEnding.text).markPending

/-- Writes on the current line, with a comma behind. -/
def writeWithComma (w : Writer) (s : String) : Writer :=
  (w.write s).write ","

/-- Writes on the current line, with a comma behind, and ends it. -/
def writeLineWithComma (w : Writer) (s : String) : Writer :=
  (w.write s).writeLine ","

/-- Writes on the current line, with a semicolon behind, and ends it. -/
def writeLineWithSemicolon (w : Writer) (s : String) : Writer :=
  (w.write s).writeLine ";"

/-! ### Levels -/

/-- Goes one level in. -/
def indent (w : Writer) : Writer :=
  { w with depth := (w.depth + 1) % depthModulus }

/-- Goes one level out, but not beyond depth zero. -/
def outdent (w : Writer) : Writer :=
  { w with depth := w.depth - 1 }

/-- Opens a block: a brace ends the current line. -/
def startBlock (w : Writer) : Writer :=
  (w.writeLine "\x7b").indent

/-- Opens a collection: the current line ends, and a bracket has the next one. -/
def startCollection (w : Writer) : Writer :=
  ((w.writeLine "").writeLine "[").indent

/-- Closes a block or collection with the given text on its own line. -/
def close (w : Writer) (closer : String) : Writer :=
  w.outdent.writeLine closer

/-- Closes a block. -/
def endBlock (w : Writer) : Writer :=
  w.close "\x7d"

/-- Closes a block, with a comma behind. -/
def endBlockWithComma (w : Writer) : Writer :=
  w.close "\x7d,"

/-- Closes a block, with a semicolon behind. -/
def endBlockWithSemicolon (w : Writer) : Writer :=
  w.close "\x7d;"

/-- Closes a collection. -/
def endCollection (w : Writer) : Writer :=
  w.close "]"

/-- Closes a collection, with a comma behind. -/
def endCollectionWithComma (w : Writer) : Writer :=
  w.close "],"

/-- Closes a collection, with a semicolon behind. -/
def endCollectionWithSemicolon (w : Writer) : Writer :=
  w.close "];"

/-! ### What the operations change -/

@[simp] theorem beginIndented_depth (w : Writer) : w.beginIndented.depth = w.depth := rfl

@[simp] theorem beginIndented_pending (w : Writer) : w.beginIndented.pending = false := rfl

@[simp] theorem indentIfPending_depth (w : Writer) : w.indentIfPending.depth = w.depth := by
  unfold indentIfPending; split <;> rfl

@[simp] theorem indentIfPending_pending (w : Writer) : w.indentIfPending.pending = false := by
  unfold indentIfPending; split <;> simp_all

@[simp] theorem write_depth (w : Writer) (s : String) : (w.write s).depth = w.depth := by
  simp [write, append]

@[simp] theorem write_pending (w : Writer) (s : String) : (w.write s).pending = false := by
  simp [write, append]

@[simp] theorem writeLine_depth (w : Writer) (s : String) : (w.writeLine s).depth = w.depth := by
  simp [writeLine, append, markPending]

@[simp] theorem writeLine_pending (w : Writer) (s : String) : (w.writeLine s).pending = true := rfl

end Writer

end ObjectInitializer
