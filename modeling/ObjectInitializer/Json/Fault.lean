/-
**Faults in a JSON text.**

Why a text was refused, and where.  A reader works on the text that is still unread, so it gives
the place of a fault by the number of bytes that it has not passed: the fault is reported in front
of them if the reader tripped over the byte before, and behind the first of them if it only looked
at that one.  A fault inside the text of a boxed number (`Json.boxKey`) has a position of its own,
counted in that text.

Main definitions:

* `Json.Fault.Cause`, `Json.Fault.Cause.message` — why a text was refused, and the wording;
* `Json.Fault`, `Json.Fault.here`, `Json.Fault.inside`, `Json.Fault.past` — a fault and its places;
* `Json.Fault.position` — the position of a fault in the whole text.
-/

import ObjectInitializer.Text.Position

set_option relaxedAutoImplicit false
set_option autoImplicit false

namespace ObjectInitializer.Json

open Text

/-! ### Causes -/

/-- Why a text is not a JSON document. -/
inductive Fault.Cause where
  | endInValue
  | endInList
  | endInObject
  | endInString
  | expectedValue
  | expectedLiteral
  | expectedColon
  | expectedCommaOrListEnd
  | expectedCommaOrObjectEnd
  | keyNotString
  | trailingComma
  | trailingCharacters
  | invalidNumber
  | controlCharacter
  | invalidEscape
  | unexpectedEndOfEscape
  | loneSurrogate
  /-- A boxed number that is something else than a string. -/
  | unboxable (found : String)
  deriving Repr, DecidableEq

/-- The wording of a cause. -/
def Fault.Cause.message : Fault.Cause → String
  | .endInValue => "EOF while parsing a value"
  | .endInList => "EOF while parsing a list"
  | .endInObject => "EOF while parsing an object"
  | .endInString => "EOF while parsing a string"
  | .expectedValue => "expected value"
  | .expectedLiteral => "expected ident"
  | .expectedColon => "expected `:`"
  | .expectedCommaOrListEnd => "expected `,` or `]`"
  | .expectedCommaOrObjectEnd => "expected `,` or `\x7d`"
  | .keyNotString => "key must be a string"
  | .trailingComma => "trailing comma"
  | .trailingCharacters => "trailing characters"
  | .invalidNumber => "invalid number"
  | .controlCharacter => "control character (\\u0000-\\u001F) found while parsing a string"
  | .invalidEscape => "invalid escape"
  | .unexpectedEndOfEscape => "unexpected end of hex escape"
  | .loneSurrogate => "lone leading surrogate in hex escape"
  | .unboxable found => "invalid type: " ++ found ++ ", expected string containing a number"

/-! ### Places -/

/-- Where a fault is reported. -/
inductive Fault.Place where
  /-- In front of the last `unread` bytes, which the reader has not passed. -/
  | upTo (unread : Nat)
  /-- Behind the first of the last `unread` bytes, which the reader has not passed, or at the end
  of the text if there are none. -/
  | past (unread : Nat)
  /-- At a position in the text of a boxed number. -/
  | boxed (position : Position)
  deriving Repr, DecidableEq

/-- A cause and its place. -/
structure Fault where
  cause : Fault.Cause
  place : Fault.Place
  deriving Repr, DecidableEq

namespace Fault

/-- A fault in front of the unread text. -/
def here (cause : Cause) (rest : List Char) : Fault :=
  ⟨cause, .upTo (byteSize rest)⟩

/-- A fault of a reader that has passed the first byte of the text. -/
def inside (cause : Cause) (rest : List Char) : Fault :=
  ⟨cause, .upTo (byteSize rest - 1)⟩

/-- A fault of a reader that has looked at the first byte of the text without passing it. -/
def past (cause : Cause) (rest : List Char) : Fault :=
  ⟨cause, .past (byteSize rest)⟩

/-- The position of a fault, in the whole text. -/
def position (fault : Fault) (text : List Char) : Position :=
  match fault.place with
  | .upTo unread => positionOf text (byteSize text - unread)
  | .past unread => positionOf text (byteSize text - (unread - 1))
  | .boxed position => position

end Fault

end ObjectInitializer.Json
