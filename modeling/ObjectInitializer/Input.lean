/-
**Where a document comes from.**

A document is given as a text, stands in a file, or is read from standard input.  The size of the
first two is known before they are read.

Main definitions:

* `Input`, `Input.description` — the three origins;
* `Input.exists?`, `Input.size?` — what is known before reading;
* `Input.parse` — the value of the document.
-/

import ObjectInitializer.Json.Parse
import ObjectInitializer.Storage

set_option relaxedAutoImplicit false
set_option autoImplicit false

namespace ObjectInitializer

/-- Where a document comes from. -/
inductive Input where
  | text (content : String)
  | file (path : Path)
  | standardInput
  deriving Repr, DecidableEq

namespace Input

/-- The origin in words. -/
def description : Input → String
  | .text _ => "string input"
  | .file path => "file: " ++ path
  | .standardInput => "standard input"

/-- The value of a text that was to be read from a place. -/
def parseRead (place : String) (text : Except ReadError String) : Except Json.ParseError Json :=
  match text with
  | .ok text => Json.parse text
  | .error error => .error (.unreadable place error.message)

variable {m : Type → Type} [Monad m] [Storage m]

/-- Whether the document is there to be read. -/
def exists? : Input → m Bool
  | .text _ => return true
  | .file path => Storage.isFile path
  | .standardInput => return true

/-- The size of the document in bytes, if it is known before reading. -/
def size? : Input → m (Option Nat)
  | .text content => return some content.utf8ByteSize
  | .file path => Storage.size? path
  | .standardInput => return none

/-- The value of the document. -/
def parse : Input → m (Except Json.ParseError Json)
  | .text content => return Json.parse content
  | .file path => return parseRead ("file " ++ path) (ReadError.decode (← Storage.read path))
  | .standardInput => return parseRead "stdin" (ReadError.decode (← Storage.readStandardInput))

end Input

end ObjectInitializer
