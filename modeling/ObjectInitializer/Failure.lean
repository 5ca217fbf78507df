/-
**Failures of a conversion.**

Rendering cannot fail; reading, parsing, the limits and the settings can.  A failure has a message,
a wording for users that may say more, and the texts of the failures below it.

Main definitions:

* `Failure.Kind` — what went wrong outside of the document;
* `Failure` — the failures of a conversion;
* `Failure.message`, `Failure.userMessage`, `Failure.sources` — their texts.
-/

import ObjectInitializer.Json.Parse
import ObjectInitializer.OsError

set_option relaxedAutoImplicit false
set_option autoImplicit false

namespace ObjectInitializer

/-! ### Kinds -/

/-- What went wrong outside of the document. -/
inductive Failure.Kind where
  /-- A file or directory could not be used. -/
  | io (text : String) (path : Option String)
  | inputNotFound (path : String)
  | missingInput
  /-- The input has more bytes than the memory limit allows. -/
  | jsonTooLarge (size limit : Nat)
  /-- The compact form has more bytes than the memory limit allows. -/
  | memoryLimitExceeded (size limit : Nat)
  | nestingTooDeep (depth limit : Nat)
  /-- The settings are not valid. -/
  | configuration (text : String)
  deriving Repr, DecidableEq

/-- The message of a kind. -/
def Failure.Kind.message : Failure.Kind → String
  | .io text _ => "IO error: " ++ text
  | .inputNotFound path => "The file '" ++ path ++ "' does not exist."
  | .missingInput => "No input provided. Use --from <path> or --stdin"
  | .jsonTooLarge size limit =>
    "JSON too large: " ++ toString size ++ " bytes (limit: " ++ toString limit ++ " bytes)"
  | .memoryLimitExceeded size limit =>
    "Memory limit exceeded: " ++ toString size ++ " bytes (limit: " ++ toString limit ++ " bytes)"
  | .nestingTooDeep depth limit =>
    "Nesting too deep: " ++ toString depth ++ " levels (limit: " ++ toString limit ++ ")"
  | .configuration text => "Invalid configuration: " ++ text

/-- The wording of a kind for users. -/
def Failure.Kind.userMessage : Failure.Kind → String
  | .jsonTooLarge size limit =>
    "JSON file too large: " ++ toString size ++ " bytes (limit: " ++ toString limit ++ " bytes)"
  | .nestingTooDeep depth limit =>
    "JSON nesting depth " ++ toString depth ++ " exceeds the limit of " ++ toString limit
  | kind => kind.message

/-! ### Failures -/

/-- The failures of a conversion. -/
inductive Failure where
  /-- The document was refused. -/
  | parse (error : Json.ParseError)
  /-- Something outside of the document went wrong, because of the given failures below it. -/
  | conversion (kind : Failure.Kind) (sources : List String)
  /-- Anything else, with the failures below it. -/
  | other (text : String) (sources : List String)
  deriving Repr, DecidableEq

namespace Failure

/-- A failure of a kind by itself. -/
def ofKind (kind : Kind) : Failure :=
  .conversion kind []

/-- A failure to use a file or directory, for the given reason. -/
def ofReason (reason : String) (path : Option String) : Failure :=
  let text :=
    match path with
    | some path => reason ++ " (" ++ path ++ ")"
    | none => reason
  .conversion (.io text path) [reason]

/-- A failure of the operating system to use a file or directory. -/
def ofOsError (error : OsError) (path : Option String) : Failure :=
  ofReason error.message path

/-- The message of a failure. -/
def message : Failure → String
  | .parse error => error.display
  | .conversion kind _ => kind.message
  | .other text _ => text

/-- The wording of a parse error for users. -/
def parseMessage (error : Json.ParseError) : String :=
  let head :=
    match error.location with
    | some place =>
      "JSON parse error at line " ++ toString place.line ++ ", column " ++ toString place.column ++
        ": " ++ error.message
    | none => "JSON parse error: " ++ error.message
  match error.preview with
  | some preview => head ++ "\n" ++ preview
  | none => head

/-- The wording of a failure for users. -/
def userMessage : Failure → String
  | .parse error => parseMessage error
  | .conversion kind _ => kind.userMessage
  | .other text _ => "Unexpected error: " ++ text

/-- The messages of the failures below a failure, the nearest first. -/
def sources : Failure → List String
  | .parse _ => []
  | .conversion _ sources => sources
  | .other _ sources => sources

end Failure

end ObjectInitializer
