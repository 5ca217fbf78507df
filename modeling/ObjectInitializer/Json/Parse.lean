/-
**Parse errors.**

What a user is told about a document that was refused: a message, where known the line and column,
and a preview, which is the offending line with a caret below the reported column.

Main definitions:

* `Json.ParseError`, `Json.ParseError.display` — the report and its one-line form;
* `Json.preview?` — a line of a text with a caret below it;
* `Json.parse` — the value of a document, or the report of why it has none.
-/

import ObjectInitializer.Json.Document
import ObjectInitializer.Text.Blank

set_option relaxedAutoImplicit false
set_option autoImplicit false

namespace ObjectInitializer.Json

open Text

/-! ### Reports -/

/-- The report on a document that was refused. -/
structure ParseError where
  message : String
  location : Option Position
  preview : Option String
  deriving Repr, DecidableEq

namespace ParseError

/-- The report as one line. -/
def display (error : ParseError) : String :=
  match error.location with
  | some place =>
    error.message ++ " at line " ++ toString place.line ++ ", column " ++ toString place.column
  | none => error.message

/-- The report on a document that has nothing but blanks. -/
def empty : ParseError :=
  ⟨"Empty JSON input", none, none⟩

/-- The report on a document that could not be read from `place`. -/
def unreadable (place : String) (reason : String) : ParseError :=
  ⟨"Failed to read " ++ place ++ ": " ++ reason, none, none⟩

end ParseError

/-! ### Previews -/

/-- The line of a position with a caret below it: as many characters of the line stand in front of
the caret as the column says, less one, but no more than the line has. -/
def preview? (text : List Char) (position : Position) : Option (List Char) :=
  (line? (position.line - 1) text).map fun line =>
    line ++ '\n' :: (List.replicate (min (position.column - 1) line.length) ' ' ++ ['^'])

/-- The report on a fault in a document. -/
def ParseError.ofFault (text : List Char) (fault : Fault) : ParseError :=
  let position := fault.position text
  { message :=
      "Invalid JSON: " ++ fault.cause.message ++ " at line " ++ toString position.line ++
        " column " ++ toString position.column
    location := some position
    preview := (preview? text position).map String.ofList }

/-! ### Parsing -/

/-- The value of a document. -/
def parse (text : String) : Except ParseError Json :=
  let cs := text.toList
  if cs.all isBlank then .error .empty
  else
    match read cs with
    | .ok v => .ok v
    | .error fault => .error (.ofFault cs fault)

end ObjectInitializer.Json
