/-
**Line feeds in front of a document.**

To its reader, line feeds in front of a document are blanks: the reader goes the same steps behind
them and has the same fault, which it places by the bytes that are unread.  The report on the fault
moves down with the document.  Its position has the same column as many lines further down as there
are line feeds, the line of that number is the one that was shown before, and of the message only
the number of the line is different.

A fault among the characters of a boxed number is the exception.  Its position counts from the first
of these characters, wherever they stand, and so does not move.

Main definitions:

* `Json.messageAt` — the message of a report, from a reason and a position.

Main results:

* `Json.Fault.IsIn.position_newlines`, `Json.Fault.IsBoxedIn.position_eq` — a fault in the document
  moves down, and a fault in a boxed number stays;
* `Json.parse_newlines` — **the report on a document behind line feeds**;
* `Json.read_boxed_fault` — a document whose boxed number is none has the fault of the number.
-/

import ObjectInitializer.Proofs.Json.Compact
import ObjectInitializer.Proofs.Json.Reports

set_option relaxedAutoImplicit false
set_option autoImplicit false

namespace ObjectInitializer

namespace Text

/-- Line feeds are blanks. -/
theorem trim_newlines_eq_nil_iff {cs : List Char} (k : Nat) :
    trim (List.replicate k '\n' ++ cs) = [] ↔ trim cs = [] := by
  have hblank : (List.replicate k '\n').all isBlank = true :=
    List.all_eq_true.2 fun c hc => by rw [List.eq_of_mem_replicate hc]; decide
  rw [trim_eq_nil_iff, trim_eq_nil_iff, List.all_append, hblank, Bool.true_and]

end Text

namespace Json

open Text

variable {cs : List Char} {fault : Fault}

/-! ### The fault -/

theorem isSpaces_newlines (k : Nat) : IsSpaces (List.replicate k '\n') := fun c hc => by
  rw [List.eq_of_mem_replicate hc]
  rfl

/-- Behind line feeds, a document has the same value or fault. -/
theorem read_newlines (k : Nat) (cs : List Char) : read (List.replicate k '\n' ++ cs) = read cs :=
  run_spaces_append (isSpaces_newlines k) cs

/-- A fault in the document moves down with it. -/
theorem Fault.IsIn.position_newlines (h : fault.IsIn cs) (k : Nat) :
    fault.position (List.replicate k '\n' ++ cs) = (fault.position cs).below k := by
  obtain ⟨cause, place⟩ := fault
  -- as many bytes are unread, of a text that is longer by the line feeds
  have hmove {unread : Nat} (hunread : unread ≤ byteSize cs) :
      positionOf (List.replicate k '\n' ++ cs)
          (byteSize (List.replicate k '\n' ++ cs) - unread) =
        (positionOf cs (byteSize cs - unread)).below k := by
    rw [byteSize_append, byteSize_newlines, Nat.add_sub_assoc hunread, positionOf_newlines]
  cases place with
  | upTo unread => exact hmove h
  | past unread => exact hmove (Nat.le_trans (Nat.sub_le unread 1) h)
  | boxed position => exact h.elim

/-- A fault in a boxed number has its position in any text. -/
theorem Fault.IsBoxedIn.position_eq (h : fault.IsBoxedIn cs) (text : List Char) :
    fault.position text = fault.position cs := by
  obtain ⟨digits, n, -, -, -, hplace⟩ := h
  rw [position, position, hplace]

/-- **A document whose boxed number is none** has the fault of the number, at its position among the
characters of the number. -/
theorem read_boxed_fault {keyText gap text digits : List Char} (hkey : SpellsKey keyText boxKey)
    (hgap : IsSpaces gap) (htext : SpellsString text digits)
    (hdigits : readBareNumber digits = .error fault) (rest : List Char) :
    read ('\x7b' :: (keyText ++ (gap ++ '"' :: (text ++ '"' :: rest)))) =
      .error ⟨fault.cause, .boxed (fault.position digits)⟩ := by
  have hspace : skipSpace ('"' :: (text ++ '"' :: rest)) = '"' :: (text ++ '"' :: rest) :=
    skipSpace_of_stops (stops_cons.2 rfl)
  have hboxed : readBoxed (gap ++ '"' :: (text ++ '"' :: rest)) =
      .error ⟨fault.cause, .boxed (fault.position digits)⟩ := by
    rw [readBoxed, skipSpace_append hgap, hspace]
    simp only [readString_append htext, bind, Except.bind, hdigits]
  obtain ⟨cs, hkey⟩ := hkey.exists_readKey
  obtain ⟨hfirst, hread⟩ := hkey (gap ++ '"' :: (text ++ '"' :: rest))
  have hstep : step ⟨[], .value, '\x7b' :: (keyText ++ (gap ++ '"' :: (text ++ '"' :: rest)))⟩ =
      .error ⟨fault.cause, .boxed (fault.position digits)⟩ := by
    show stepValue [] ('\x7b' :: (keyText ++ (gap ++ '"' :: (text ++ '"' :: rest)))) = _
    simp only [stepValue, hfirst, hread, if_pos, hboxed]
    rfl
  rw [read, run_eq, hstep]

/-! ### The report -/

/-- The message of a report. -/
def messageAt (reason : String) (place : Position) : String :=
  reason ++ " at line " ++ toString place.line ++ " column " ++ toString place.column

theorem ParseError.ofFault_eq (cs : List Char) (fault : Fault) :
    ofFault cs fault =
      { message := messageAt ("Invalid JSON: " ++ fault.cause.message) (fault.position cs)
        location := some (fault.position cs)
        preview := (preview? cs (fault.position cs)).map String.ofList } :=
  rfl

/-- What is shown at a position is shown below the line feeds as well. -/
theorem preview?_newlines {place : Position} (hline : 1 ≤ place.line) (k : Nat) :
    preview? (List.replicate k '\n' ++ cs) (place.below k) = preview? cs place := by
  have hnumber : (place.below k).line - 1 = place.line - 1 + k := by
    show place.line + k - 1 = place.line - 1 + k
    omega
  rw [preview?, preview?, hnumber, line?_newlines]
  rfl

/-- The report on a fault in the document moves down with it. -/
theorem ParseError.ofFault_newlines (hread : read cs = .error fault) (h : fault.IsIn cs) (k : Nat) :
    ofFault (List.replicate k '\n' ++ cs) fault =
      { message :=
          messageAt ("Invalid JSON: " ++ fault.cause.message) ((fault.position cs).below k)
        location := some ((fault.position cs).below k)
        preview := (ofFault cs fault).preview } := by
  rw [ofFault_eq, ofFault_eq, h.position_newlines k, preview?_newlines (one_le_line_of_read hread)]

/-- Of the report on a fault in a boxed number, only what is shown can be different. -/
theorem ParseError.ofFault_boxed (h : fault.IsBoxedIn cs) (text : List Char) :
    ∃ shown, ofFault text fault = { ofFault cs fault with preview := shown } := by
  refine ⟨(ofFault text fault).preview, ?_⟩
  rw [ofFault_eq cs, ofFault_eq text, h.position_eq text]

/-- **The report on a document behind line feeds** is the one on the document, as many lines further
down: the column, the reason and the line that is shown are the same.  This holds of every document
that is refused with a position, unless that is a position in a boxed number whose characters are no
numeral; then it stays as it is, and so does the message. -/
theorem parse_newlines (text : String) (error : ParseError) (place : Position)
    (h : parse text = .error error) (hplace : error.location = some place) :
    ∃ reason, error.message = messageAt reason place ∧
      ((∀ k, parse (String.ofList (List.replicate k '\n') ++ text) =
          .error
            { message := messageAt reason ⟨place.line + k, place.column⟩
              location := some ⟨place.line + k, place.column⟩
              preview := error.preview }) ∨
        ∃ digits n, Boxes text.toList digits ∧ ¬ IsNumeral digits ∧ n ≤ byteSize digits ∧
          place = positionOf digits n ∧
          ∀ k, ∃ shown, parse (String.ofList (List.replicate k '\n') ++ text) =
            .error { error with preview := shown }) := by
  obtain ⟨-, rfl⟩ | ⟨hblank, fault, hread, rfl⟩ := parse_eq_error_iff.1 h
  · cases hplace
  · cases hplace
    have hmoved (k : Nat) : parse (String.ofList (List.replicate k '\n') ++ text) =
        .error (.ofFault (List.replicate k '\n' ++ text.toList) fault) := by
      have htext : (String.ofList (List.replicate k '\n') ++ text).toList =
          List.replicate k '\n' ++ text.toList := by
        rw [String.toList_append, String.toList_ofList]
      refine parse_eq_error_iff.2 (.inr ⟨?_, fault, ?_, ?_⟩)
      · rwa [htext, ne_eq, trim_newlines_eq_nil_iff]
      · rw [htext, read_newlines, hread]
      · rw [htext]
    refine ⟨"Invalid JSON: " ++ fault.cause.message, rfl, ?_⟩
    obtain hin | hboxed := read_fault hread
    · refine .inl fun k => ?_
      rw [hmoved, ParseError.ofFault_newlines hread hin]
      rfl
    · have hstays (k : Nat) := ParseError.ofFault_boxed hboxed
        (List.replicate k '\n' ++ text.toList)
      obtain ⟨digits, n, hboxes, hdigits, hn, hposition⟩ := hboxed
      refine .inr ⟨digits, n, hboxes, hdigits, hn, by rw [Fault.position, hposition], fun k => ?_⟩
      obtain ⟨shown, hshown⟩ := hstays k
      exact ⟨shown, by rw [hmoved, hshown]⟩

/-- A fault on the second line, behind a character of two bytes. -/
theorem parse_newlines_second_line :
    let text := "\"é\"\n x"
    let error : ParseError :=
      ⟨"Invalid JSON: trailing characters at line 2 column 2", some ⟨2, 2⟩, some " x\n ^"⟩
    parse text = .error error ∧ error.location = some ⟨2, 2⟩ ∧
      ∃ reason, error.message = messageAt reason ⟨2, 2⟩ ∧
        ((∀ k, parse (String.ofList (List.replicate k '\n') ++ text) =
            .error ⟨messageAt reason ⟨2 + k, 2⟩, some ⟨2 + k, 2⟩, error.preview⟩) ∨
          ∃ digits n, Boxes text.toList digits ∧ ¬ IsNumeral digits ∧ n ≤ byteSize digits ∧
            ⟨2, 2⟩ = positionOf digits n ∧
            ∀ k, ∃ shown, parse (String.ofList (List.replicate k '\n') ++ text) =
              .error { error with preview := shown }) := by
  intro text error
  have hstring : Spells ['"', 'é', '"'] (.string "é") :=
    .string (.cons (.plain (by decide) (by decide) (by decide)) .nil)
  have htext : text.toList = ['"', 'é', '"'] ++ ['\n', ' ', 'x'] := by decide
  have hread : read text.toList = .error (.past .trailingCharacters ['x']) :=
    htext ▸ read_trailing hstring (stops_cons.2 rfl) rfl
  have hparse : parse text = .error error :=
    parse_eq_error_iff.2 (.inr ⟨by decide, _, hread, by decide⟩)
  exact ⟨hparse, rfl, parse_newlines text error ⟨2, 2⟩ hparse rfl⟩

/-- **A fault in a boxed number stays where it was**: it is reported on the first line of a document
that starts with a line feed, and that line is shown. -/
theorem boxed_fault_stays :
    let text := "\x7b\"$serde_json::private::Number\":\"x\"\x7d"
    let message := "Invalid JSON: invalid number at line 1 column 1"
    parse text = .error ⟨message, some ⟨1, 1⟩, some (text ++ "\n^")⟩ ∧
      parse ("\n" ++ text) = .error ⟨message, some ⟨1, 1⟩, some "\n^"⟩ ∧
      ¬ ∃ moved preview, parse ("\n" ++ text) = .error ⟨moved, some ⟨1 + 1, 1⟩, preview⟩ := by
  intro text message
  have hdigits : readBareNumber ['x'] = .error (.past .invalidNumber ['x']) := rfl
  have hread : read text.toList =
      .error ⟨.invalidNumber, .boxed ((Fault.past .invalidNumber ['x']).position ['x'])⟩ := by
    have htext : text.toList =
        '\x7b' :: ((stringText boxKey ++ [':']) ++ ([] ++ '"' :: (['x'] ++ '"' :: ['\x7d']))) := by
      decide
    exact htext ▸ read_boxed_fault (spellsKey_stringText boxKey) isSpaces_nil
      (spellsString_escape ['x']) hdigits ['\x7d']
  have hbelow : read ("\n" ++ text).toList = read text.toList := by
    rw [String.toList_append]
    exact read_newlines 1 text.toList
  have hparse : parse ("\n" ++ text) = .error ⟨message, some ⟨1, 1⟩, some "\n^"⟩ :=
    parse_eq_error_iff.2 (.inr ⟨by decide, _, hbelow.trans hread, by decide⟩)
  refine ⟨parse_eq_error_iff.2 (.inr ⟨by decide, _, hread, by decide⟩), hparse, ?_⟩
  rintro ⟨moved, preview, hmoved⟩
  rw [hparse] at hmoved
  cases hmoved

end Json

end ObjectInitializer
