/-
**Quoted strings of JSON.**

Between its quotes a string holds characters as they are, save the quote, the backslash and the
control characters, and escapes.  An escape in hexadecimal names a unit of UTF-16; a character
beyond the first 65536 takes two of them.  Writing escapes only what cannot stand as it is.

Main definitions:

* `Json.readString` — the string at the front of a text, behind its opening quote;
* `Json.escapeChar`, `Json.quote` — the shortest escaped form of a character and of a string.
-/

import ObjectInitializer.Json.Fault

set_option relaxedAutoImplicit false
set_option autoImplicit false

namespace ObjectInitializer.Json

open Text

/-! ### Reading escapes -/

/-- The value of a hexadecimal digit. -/
def hexValue? (c : Char) : Option Nat :=
  let n := c.toNat
  if 0x30 ≤ n && n ≤ 0x39 then some (n - 0x30)
  else if 0x41 ≤ n && n ≤ 0x46 then some (n - 0x37)
  else if 0x61 ≤ n && n ≤ 0x66 then some (n - 0x57)
  else none

/-- The fault of a text that does not start with four hexadecimal digits: the reader passes four
bytes, or the whole text if it is shorter. -/
def badUnit (cs : List Char) : Fault :=
  if byteSize cs < 4 then .here .endInString [] else ⟨.invalidEscape, .upTo (byteSize cs - 4)⟩

/-- Reads a unit of UTF-16, written as four hexadecimal digits. -/
def readUnit (cs : List Char) : Except Fault (Nat × List Char) :=
  match cs with
  | a :: b :: c :: d :: rest =>
    match hexValue? a, hexValue? b, hexValue? c, hexValue? d with
    | some a, some b, some c, some d => .ok (((a * 16 + b) * 16 + c) * 16 + d, rest)
    | _, _, _, _ => .error (badUnit cs)
  | _ => .error (badUnit cs)

/-- Whether a unit of UTF-16 is the first of a pair. -/
def isHighUnit (n : Nat) : Bool :=
  0xD800 ≤ n && n ≤ 0xDBFF

/-- Whether a unit of UTF-16 is the second of a pair. -/
def isLowUnit (n : Nat) : Bool :=
  0xDC00 ≤ n && n ≤ 0xDFFF

/-- The code point that a pair of units stands for. -/
def pairValue (high low : Nat) : Nat :=
  0x10000 + (high - 0xD800) * 0x400 + (low - 0xDC00)

/-- Reads the second unit of a pair, of which the first is `high`. -/
def readLowUnit (high : Nat) (cs : List Char) : Except Fault (Char × List Char) :=
  match cs with
  | '\\' :: 'u' :: rest =>
    match readUnit rest with
    | .ok (low, rest) =>
      if isLowUnit low then .ok (Char.ofNat (pairValue high low), rest)
      else .error (.here .loneSurrogate rest)
    | .error fault => .error fault
  | [] | ['\\'] => .error (.here .endInString [])
  | '\\' :: rest => .error (.inside .unexpectedEndOfEscape rest)
  | _ => .error (.inside .unexpectedEndOfEscape cs)

/-- Reads the units of an escape in hexadecimal, behind its `\u`. -/
def readHexEscape (cs : List Char) : Except Fault (Char × List Char) :=
  match readUnit cs with
  | .ok (unit, rest) =>
    if isLowUnit unit then .error (.here .loneSurrogate rest)
    else if isHighUnit unit then readLowUnit unit rest
    else .ok (Char.ofNat unit, rest)
  | .error fault => .error fault

/-- The character that a letter behind a backslash stands for. -/
def simpleEscape? (c : Char) : Option Char :=
  match c with
  | '"' => some '"'
  | '\\' => some '\\'
  | '/' => some '/'
  | 'b' => some '\x08'
  | 'f' => some '\x0c'
  | 'n' => some '\n'
  | 'r' => some '\r'
  | 't' => some '\t'
  | _ => none

/-- Reads an escape behind its backslash. -/
def readEscape (cs : List Char) : Except Fault (Char × List Char) :=
  match cs with
  | [] => .error (.here .endInString [])
  | c :: rest =>
    match simpleEscape? c with
    | some image => .ok (image, rest)
    | none => if c = 'u' then readHexEscape rest else .error (.inside .invalidEscape cs)

/-! ### Reading strings -/

/-- What comes next inside a string: a character, or the closing quote. -/
inductive Piece where
  | character (c : Char) (rest : List Char)
  | close (rest : List Char)

/-- Whether the character must not stand in a string as it is. -/
def isControl (c : Char) : Bool :=
  c.toNat < 0x20

/-- Reads the next character of a string, or its closing quote. -/
def readPiece (cs : List Char) : Except Fault Piece :=
  match cs with
  | [] => .error (.here .endInString [])
  | c :: rest =>
    if c = '"' then .ok (.close rest)
    else if c = '\\' then
      match readEscape rest with
      | .ok (image, rest) => .ok (.character image rest)
      | .error fault => .error fault
    else if isControl c then .error (.inside .controlCharacter cs)
    else .ok (.character c rest)

theorem length_lt_of_readUnit {cs rest : List Char} {n : Nat} (h : readUnit cs = .ok (n, rest)) :
    rest.length < cs.length := by
  unfold readUnit at h
  split at h
  · split at h
    · simp only [Except.ok.injEq, Prod.mk.injEq] at h
      simp only [← h.2, List.length_cons]
      omega
    · simp at h
  · simp at h

theorem length_lt_of_readLowUnit {high : Nat} {cs rest : List Char} {c : Char}
    (h : readLowUnit high cs = .ok (c, rest)) : rest.length < cs.length := by
  unfold readLowUnit at h
  split at h
  · split at h
    · rename_i hu
      have := length_lt_of_readUnit hu
      split at h
      · simp only [Except.ok.injEq, Prod.mk.injEq] at h
        simp only [← h.2, List.length_cons]
        omega
      · simp at h
    · simp at h
  all_goals simp at h

theorem length_lt_of_readEscape {cs rest : List Char} {c : Char}
    (h : readEscape cs = .ok (c, rest)) : rest.length < cs.length := by
  unfold readEscape at h
  split at h
  · simp at h
  · split at h
    · simp only [Except.ok.injEq, Prod.mk.injEq] at h
      simp [← h.2]
    · split at h
      · unfold readHexEscape at h
        split at h
        · rename_i hu
          have := length_lt_of_readUnit hu
          split at h
          · simp at h
          · split at h
            · have := length_lt_of_readLowUnit h
              simp only [List.length_cons]
              omega
            · simp only [Except.ok.injEq, Prod.mk.injEq] at h
              simp only [← h.2, List.length_cons]
              omega
        · simp at h
      · simp at h

theorem length_lt_of_readPiece_character {cs rest : List Char} {c : Char}
    (h : readPiece cs = .ok (.character c rest)) : rest.length < cs.length := by
  unfold readPiece at h
  split at h
  · simp at h
  · split at h
    · simp at h
    · split at h
      · split at h
        · rename_i he
          have := length_lt_of_readEscape he
          simp only [Except.ok.injEq, Piece.character.injEq] at h
          simp only [← h.2, List.length_cons]
          omega
        · simp at h
      · split at h
        · simp at h
        · simp only [Except.ok.injEq, Piece.character.injEq] at h
          simp [← h.2]

theorem length_lt_of_readPiece_close {cs rest : List Char}
    (h : readPiece cs = .ok (.close rest)) : rest.length < cs.length := by
  unfold readPiece at h
  split at h
  · simp at h
  · split at h
    · simp only [Except.ok.injEq, Piece.close.injEq] at h
      simp [← h]
    · split at h
      · split at h <;> simp at h
      · split at h <;> simp at h

/-- Reads the rest of a string of which the reversed text `done` has been read. -/
def readStringAfter (done : List Char) (cs : List Char) : Except Fault (List Char × List Char) :=
  match _h : readPiece cs with
  | .ok (.character c rest) => readStringAfter (c :: done) rest
  | .ok (.close rest) => .ok (done.reverse, rest)
  | .error fault => .error fault
termination_by cs.length
decreasing_by exact length_lt_of_readPiece_character _h

/-- Reads the string at the front of a text, behind its opening quote. -/
def readString (cs : List Char) : Except Fault (List Char × List Char) :=
  readStringAfter [] cs

theorem length_lt_of_readStringAfter {done cs s rest : List Char}
    (h : readStringAfter done cs = .ok (s, rest)) : rest.length < cs.length := by
  fun_induction readStringAfter done cs with
  | case1 done cs c r hp ih =>
    have := length_lt_of_readPiece_character hp
    have := ih h
    omega
  | case2 done cs r hp =>
    simp only [Except.ok.injEq, Prod.mk.injEq] at h
    rw [← h.2]
    exact length_lt_of_readPiece_close hp
  | case3 => simp at h

theorem length_lt_of_readString {cs s rest : List Char} (h : readString cs = .ok (s, rest)) :
    rest.length < cs.length :=
  length_lt_of_readStringAfter h

/-! ### Writing -/

/-- The digit of a value below sixteen, in lower case. -/
def hexDigit (n : Nat) : Char :=
  if n < 10 then Char.ofNat (0x30 + n) else Char.ofNat (0x57 + n)

/-- The form of a character in a string: as it is wherever it may stand so, else the letter of a
simple escape, else four hexadecimal digits. -/
def escapeChar (c : Char) : List Char :=
  if c = '"' then ['\\', '"']
  else if c = '\\' then ['\\', '\\']
  else if c = '\x08' then ['\\', 'b']
  else if c = '\x0c' then ['\\', 'f']
  else if c = '\n' then ['\\', 'n']
  else if c = '\r' then ['\\', 'r']
  else if c = '\t' then ['\\', 't']
  else if isControl c then
    ['\\', 'u', '0', '0', hexDigit (c.toNat / 16), hexDigit (c.toNat % 16)]
  else [c]

/-- Appends the characters to the text, each in its escaped form. -/
def writeEscaped (out : String) (cs : List Char) : String :=
  cs.foldl (fun out c => (escapeChar c).foldl String.push out) out

/-- Appends the string to the text, escaped and between quotes. -/
def quote (out : String) (s : String) : String :=
  (writeEscaped (out.push '"') s.toList).push '"'

theorem toList_foldl_push (out : String) (cs : List Char) :
    (cs.foldl String.push out).toList = out.toList ++ cs := by
  induction cs generalizing out with
  | nil => simp
  | cons c cs ih => simp [ih]

@[simp] theorem toList_writeEscaped (out : String) (cs : List Char) :
    (writeEscaped out cs).toList = out.toList ++ cs.flatMap escapeChar := by
  induction cs generalizing out with
  | nil => simp [writeEscaped]
  | cons c cs ih =>
    simp only [writeEscaped, List.foldl_cons, List.flatMap_cons] at ih ⊢
    rw [ih, toList_foldl_push, List.append_assoc]

/-- A quoted string is its escaped characters between quotes, behind what was there. -/
@[simp] theorem toList_quote (out : String) (s : String) :
    (quote out s).toList = out.toList ++ '"' :: (s.toList.flatMap escapeChar ++ ['"']) := by
  simp [quote]

end ObjectInitializer.Json
