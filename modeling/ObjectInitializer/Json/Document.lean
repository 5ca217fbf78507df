/-
**Reading a JSON document.**

A document is one value, with blanks around it and between its parts.  Nesting is unlimited: the
reader keeps the arrays and objects that it is inside of as a list of frames, and goes one step at
a time.  Each step passes at least one character, so that the length of the unread text bounds the
number of steps.

An object whose first key is `Json.boxKey` is a *boxed number*: its only member is a string that
holds a number, and the object stands for that number.

Main definitions:

* `Json.State`, `Json.step` — where a reader is, and its next step;
* `Json.run`, `Json.read` — all its steps, and the value of a document.
-/

import ObjectInitializer.Json.Basic
import ObjectInitializer.Json.Number
import ObjectInitializer.Json.Quoted

set_option relaxedAutoImplicit false
set_option autoImplicit false

namespace ObjectInitializer.Json

open Except (map_eq_ok_iff bind_eq_ok_iff)
open Text

/-! ### Blanks, literals and scalars -/

/-- The blanks of JSON. -/
def isSpace (c : Char) : Bool :=
  c == ' ' || c == '\n' || c == '\t' || c == '\r'

/-- The text without its leading blanks. -/
def skipSpace (cs : List Char) : List Char :=
  cs.dropWhile isSpace

/-- Reads the rest of a literal, of which `expected` is still to come. -/
def readLiteral : List Char → List Char → Except Fault (List Char)
  | [], cs => .ok cs
  | _ :: _, [] => .error (.here .endInValue [])
  | e :: es, c :: cs =>
    if c = e then readLiteral es cs else .error (.inside .expectedLiteral (c :: cs))

/-- Reads the value at the front of a text, if it is neither an array nor an object. -/
def readScalar (cs : List Char) : Except Fault (Json × List Char) :=
  match cs with
  | [] => .error (.past .endInValue [])
  | c :: rest =>
    if c = 'n' then (readLiteral ['u', 'l', 'l'] rest).map fun r => (.null, r)
    else if c = 't' then (readLiteral ['r', 'u', 'e'] rest).map fun r => (.bool true, r)
    else if c = 'f' then (readLiteral ['a', 'l', 's', 'e'] rest).map fun r => (.bool false, r)
    else if c = '"' then
      (readString rest).map fun r => (.string (String.ofList r.1), r.2)
    else if startsNumber c then
      (scanNumber cs).map fun r => (.number (String.ofList (numberText r.1)), r.2)
    else .error (.past .expectedValue cs)

/-- Reads the colon behind a key. -/
def readColon (cs : List Char) : Except Fault (List Char) :=
  match skipSpace cs with
  | [] => .error (.past .endInObject [])
  | c :: rest => if c = ':' then .ok rest else .error (.past .expectedColon (c :: rest))

/-- Reads a key, behind its opening quote, and the colon that follows it. -/
def readKey (cs : List Char) : Except Fault (String × List Char) := do
  let (key, cs) ← readString cs
  let cs ← readColon cs
  return (String.ofList key, cs)

/-! ### Boxed numbers -/

/-- The key that makes an object a boxed number, if it is the first one. -/
def boxKey : String := "$serde_json::private::Number"

/-- Whether the text of a number is an integer of 64 bits, with or without a sign. -/
def isWordInteger (digits : List Char) : Bool :=
  let value (ds : List Char) : Nat := ds.foldl (fun n d => 10 * n + (d.toNat - 48)) 0
  let isInteger (ds : List Char) : Bool := ds.all Char.isDigit && ds.length ≤ 20
  match digits with
  | '-' :: ds => isInteger ds && value ds ≤ 9223372036854775808
  | ds => isInteger ds && value ds ≤ 18446744073709551615

/-- What a fault calls a value that is no string. -/
def boxedKind : Json → String
  | .null => "null"
  | .bool true => "boolean `true`"
  | .bool false => "boolean `false`"
  | .number text =>
    if isWordInteger text.toList then "integer `" ++ text ++ "`" else "number"
  | .string _ => "string"
  | .array _ => "sequence"
  | .object _ => "map"

/-- The fault of a boxed number that is something else than a string. -/
def unboxable (cs : List Char) : Fault :=
  match cs with
  | '[' :: _ => .here (.unboxable "sequence") cs
  | '{' :: _ => .here (.unboxable "map") cs
  | _ =>
    match readScalar cs with
    | .ok (v, rest) => .here (.unboxable (boxedKind v)) rest
    | .error fault => fault

/-- Reads the closing brace of a boxed number. -/
def readBoxEnd (cs : List Char) : Except Fault (List Char) :=
  match skipSpace cs with
  | [] => .error (.past .endInObject [])
  | c :: rest =>
    if c = '}' then .ok rest
    else if c = ',' then .error (.past .trailingComma (c :: rest))
    else .error (.past .trailingCharacters (c :: rest))

/-- Reads a boxed number behind its key and colon. -/
def readBoxed (cs : List Char) : Except Fault (Json × List Char) :=
  match skipSpace cs with
  | '"' :: rest => do
    let (digits, rest) ← readString rest
    match readBareNumber digits with
    | .ok digits => do
      let rest ← readBoxEnd rest
      return (.number (String.ofList digits), rest)
    | .error fault => .error ⟨fault.cause, .boxed (fault.position digits)⟩
  | cs => .error (unboxable cs)

/-! ### Steps -/

/-- An array or object that the reader is inside of. -/
inductive Frame where
  /-- An array, by its items so far, the last one first. -/
  | list (done : List Json)
  /-- An object, by its members so far and the key of the value that is being read. -/
  | members (done : List (String × Json)) (key : String)

/-- What the reader has to do next. -/
inductive Phase where
  /-- Read a value. -/
  | value
  /-- Go on behind the value just read. -/
  | after (v : Json)

/-- Where a reader is: the frames around it, the innermost first, its task, and the unread text. -/
structure State where
  frames : List Frame
  phase : Phase
  rest : List Char

/-- What a step leads to: a further state, or the value of the document. -/
inductive Progress where
  | more (s : State)
  | done (v : Json)

/-- Reads the value at the front of a text, or opens it if it is an array or object. -/
def stepValue (frames : List Frame) (cs : List Char) : Except Fault Progress :=
  match cs with
  | '[' :: rest =>
    match skipSpace rest with
    | [] => .error (.past .endInList [])
    | ']' :: rest => .ok (.more ⟨frames, .after (.array []), rest⟩)
    | rest => .ok (.more ⟨.list [] :: frames, .value, rest⟩)
  | '{' :: rest =>
    match skipSpace rest with
    | [] => .error (.past .endInObject [])
    | '}' :: rest => .ok (.more ⟨frames, .after (.object []), rest⟩)
    | '"' :: rest =>
      match readKey rest with
      | .ok (key, rest) =>
        if key = boxKey then
          (readBoxed rest).map fun r => .more ⟨frames, .after r.1, r.2⟩
        else .ok (.more ⟨.members [] key :: frames, .value, rest⟩)
      | .error fault => .error fault
    | rest => .error (.past .keyNotString rest)
  | cs => (readScalar cs).map fun r => .more ⟨frames, .after r.1, r.2⟩

/-- Goes on in an array, of which all items so far are given, the last one first. -/
def stepList (done : List Json) (frames : List Frame) (cs : List Char) : Except Fault Progress :=
  match cs with
  | [] => .error (.past .endInList [])
  | ',' :: rest =>
    match skipSpace rest with
    | [] => .error (.past .endInValue [])
    | ']' :: rest => .error (.past .trailingComma (']' :: rest))
    | rest => .ok (.more ⟨.list done :: frames, .value, rest⟩)
  | ']' :: rest => .ok (.more ⟨frames, .after (.array done.reverse), rest⟩)
  | cs => .error (.past .expectedCommaOrListEnd cs)

/-- Goes on in an object, of which all members so far are given. -/
def stepMembers (done : List (String × Json)) (frames : List Frame) (cs : List Char) :
    Except Fault Progress :=
  match cs with
  | [] => .error (.past .endInObject [])
  | ',' :: rest =>
    match skipSpace rest with
    | [] => .error (.past .endInValue [])
    | '}' :: rest => .error (.past .trailingComma ('}' :: rest))
    | '"' :: rest =>
      (readKey rest).map fun r => .more ⟨.members done r.1 :: frames, .value, r.2⟩
    | rest => .error (.past .keyNotString rest)
  | '}' :: rest => .ok (.more ⟨frames, .after (.object done), rest⟩)
  | cs => .error (.past .expectedCommaOrObjectEnd cs)

/-- Ends the document behind its value. -/
def stepEnd (v : Json) (cs : List Char) : Except Fault Progress :=
  match cs with
  | [] => .ok (.done v)
  | cs => .error (.past .trailingCharacters cs)

/-- The next step of a reader. -/
def step (s : State) : Except Fault Progress :=
  let cs := skipSpace s.rest
  match s.phase, s.frames with
  | .value, frames => stepValue frames cs
  | .after v, [] => stepEnd v cs
  | .after v, .list done :: frames => stepList (v :: done) frames cs
  | .after v, .members done key :: frames => stepMembers (setMember key v done) frames cs

/-! ### Every step passes a character -/

theorem length_skipSpace_le (cs : List Char) : (skipSpace cs).length ≤ cs.length :=
  (List.dropWhile_sublist _).length_le

theorem length_le_of_readLiteral {expected cs rest : List Char}
    (h : readLiteral expected cs = .ok rest) : rest.length ≤ cs.length := by
  induction expected generalizing cs with
  | nil => simp only [readLiteral, Except.ok.injEq] at h; simp [h]
  | cons e es ih =>
    cases cs with
    | nil => simp [readLiteral] at h
    | cons c cs =>
      simp only [readLiteral] at h
      split at h
      · have := ih h
        simp only [List.length_cons]
        omega
      · simp at h

theorem length_lt_of_readScalar {cs rest : List Char} {v : Json}
    (h : readScalar cs = .ok (v, rest)) : rest.length < cs.length := by
  unfold readScalar at h
  split at h
  · simp at h
  · rename_i c cs
    have literal {expected r : List Char} (hr : readLiteral expected cs = .ok r) :
        r.length < (c :: cs).length := by
      have := length_le_of_readLiteral hr
      simp only [List.length_cons]
      omega
    split at h
    · obtain ⟨r, hr, h⟩ := map_eq_ok_iff.1 h
      simp only [Prod.mk.injEq] at h
      exact h.2 ▸ literal hr
    · split at h
      · obtain ⟨r, hr, h⟩ := map_eq_ok_iff.1 h
        simp only [Prod.mk.injEq] at h
        exact h.2 ▸ literal hr
      · split at h
        · obtain ⟨r, hr, h⟩ := map_eq_ok_iff.1 h
          simp only [Prod.mk.injEq] at h
          exact h.2 ▸ literal hr
        · split at h
          · obtain ⟨r, hr, h⟩ := map_eq_ok_iff.1 h
            simp only [Prod.mk.injEq] at h
            have := length_lt_of_readString hr
            simp only [← h.2, List.length_cons]
            omega
          · split at h
            · obtain ⟨r, hr, h⟩ := map_eq_ok_iff.1 h
              simp only [Prod.mk.injEq] at h
              exact h.2 ▸ length_lt_of_scanNumber hr
            · simp at h

theorem length_lt_of_readColon {cs rest : List Char} (h : readColon cs = .ok rest) :
    rest.length < cs.length := by
  have hs := length_skipSpace_le cs
  unfold readColon at h
  split at h
  · simp at h
  · rename_i hc
    split at h
    · simp only [Except.ok.injEq] at h
      rw [hc, List.length_cons] at hs
      rw [← h]
      omega
    · simp at h

theorem length_lt_of_readKey {cs rest : List Char} {key : String}
    (h : readKey cs = .ok (key, rest)) : rest.length < cs.length := by
  obtain ⟨r₁, h₁, h⟩ := bind_eq_ok_iff.1 h
  obtain ⟨r₂, h₂, h⟩ := bind_eq_ok_iff.1 h
  simp only [pure, Except.pure, Except.ok.injEq, Prod.mk.injEq] at h
  have := length_lt_of_readString h₁
  have := length_lt_of_readColon h₂
  rw [← h.2]
  omega

theorem length_lt_of_readBoxEnd {cs rest : List Char} (h : readBoxEnd cs = .ok rest) :
    rest.length < cs.length := by
  have hs := length_skipSpace_le cs
  unfold readBoxEnd at h
  split at h
  · simp at h
  · rename_i hc
    split at h
    · simp only [Except.ok.injEq] at h
      rw [hc, List.length_cons] at hs
      rw [← h]
      omega
    · split at h <;> simp at h

theorem length_lt_of_readBoxed {cs rest : List Char} {v : Json}
    (h : readBoxed cs = .ok (v, rest)) : rest.length < cs.length := by
  have hs := length_skipSpace_le cs
  unfold readBoxed at h
  split at h
  · rename_i hc
    rw [hc, List.length_cons] at hs
    obtain ⟨⟨digits, r₁⟩, h₁, h⟩ := bind_eq_ok_iff.1 h
    have := length_lt_of_readString h₁
    simp only at h
    split at h
    · obtain ⟨r₂, h₂, h⟩ := bind_eq_ok_iff.1 h
      have := length_lt_of_readBoxEnd h₂
      simp only [pure, Except.pure, Except.ok.injEq, Prod.mk.injEq] at h
      rw [← h.2]
      omega
    · simp at h
  · simp at h

theorem length_lt_of_stepValue {frames : List Frame} {cs : List Char} {t : State}
    (h : stepValue frames cs = .ok (.more t)) : t.rest.length < cs.length := by
  unfold stepValue at h
  split at h
  · rename_i rest
    have hs := length_skipSpace_le rest
    split at h
    · simp at h
    · rename_i hc
      simp only [Except.ok.injEq, Progress.more.injEq] at h
      simp only [hc, List.length_cons, ← h] at hs ⊢
      omega
    · simp only [Except.ok.injEq, Progress.more.injEq] at h
      simp only [List.length_cons, ← h]
      omega
  · rename_i rest
    have hs := length_skipSpace_le rest
    split at h
    · simp at h
    · rename_i hc
      simp only [Except.ok.injEq, Progress.more.injEq] at h
      simp only [hc, List.length_cons, ← h] at hs ⊢
      omega
    · rename_i hc
      rw [hc, List.length_cons] at hs
      split at h
      · rename_i hk
        have := length_lt_of_readKey hk
        split at h
        · obtain ⟨r, hr, h⟩ := map_eq_ok_iff.1 h
          have := length_lt_of_readBoxed hr
          simp only [Progress.more.injEq] at h
          simp only [List.length_cons, ← h]
          omega
        · simp only [Except.ok.injEq, Progress.more.injEq] at h
          simp only [List.length_cons, ← h]
          omega
      · simp at h
    · simp at h
  · obtain ⟨r, hr, h⟩ := map_eq_ok_iff.1 h
    simp only [Progress.more.injEq] at h
    exact h ▸ length_lt_of_readScalar hr

theorem length_lt_of_stepList {done : List Json} {frames : List Frame} {cs : List Char} {t : State}
    (h : stepList done frames cs = .ok (.more t)) : t.rest.length < cs.length := by
  unfold stepList at h
  split at h
  · simp at h
  · rename_i rest
    have hs := length_skipSpace_le rest
    split at h
    · simp at h
    · simp at h
    · simp only [Except.ok.injEq, Progress.more.injEq] at h
      simp only [List.length_cons, ← h]
      omega
  · simp only [Except.ok.injEq, Progress.more.injEq] at h
    simp [← h]
  · simp at h

theorem length_lt_of_stepMembers {done : List (String × Json)} {frames : List Frame}
    {cs : List Char} {t : State} (h : stepMembers done frames cs = .ok (.more t)) :
    t.rest.length < cs.length := by
  unfold stepMembers at h
  split at h
  · simp at h
  · rename_i rest
    have hs := length_skipSpace_le rest
    split at h
    · simp at h
    · simp at h
    · rename_i hc
      rw [hc, List.length_cons] at hs
      obtain ⟨r, hr, h⟩ := map_eq_ok_iff.1 h
      have := length_lt_of_readKey hr
      simp only [Progress.more.injEq] at h
      simp only [List.length_cons, ← h]
      omega
    · simp at h
  · simp only [Except.ok.injEq, Progress.more.injEq] at h
    simp [← h]
  · simp at h

theorem stepEnd_ne_more (v : Json) (cs : List Char) (t : State) :
    stepEnd v cs ≠ .ok (.more t) := by
  unfold stepEnd
  split <;> simp

/-- A step passes at least one character. -/
theorem length_lt_of_step {s t : State} (h : step s = .ok (.more t)) :
    t.rest.length < s.rest.length := by
  refine Nat.lt_of_lt_of_le ?_ (length_skipSpace_le s.rest)
  unfold step at h
  simp only at h
  split at h
  · exact length_lt_of_stepValue h
  · exact absurd h (stepEnd_ne_more _ _ _)
  · exact length_lt_of_stepList h
  · exact length_lt_of_stepMembers h

/-! ### Documents -/

/-- All steps of a reader, up to the value of the document or a fault. -/
def run (s : State) : Except Fault Json :=
  match _h : step s with
  | .ok (.more t) => run t
  | .ok (.done v) => .ok v
  | .error fault => .error fault
termination_by s.rest.length
decreasing_by exact length_lt_of_step _h

/-- The value of a document. -/
def read (text : List Char) : Except Fault Json :=
  run ⟨[], .value, text⟩

end ObjectInitializer.Json
