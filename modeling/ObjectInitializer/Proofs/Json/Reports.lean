/-
**Reports on refused documents.**

A document that is refused is nothing but blanks, or it has a fault; in the second case the report
has the position of the fault, and what it shows is the line of that number, if there is one.

The position of a fault is in the document or, in a boxed number, among the characters of a string.
In the document there is a line at every position but one: the end of a document that ends with a
line feed, where the report has nothing to show.  A position among the characters of a string says
nothing about the lines of the document.

The caret stands behind as many characters as the column counts bytes, but behind no more than the
line has.  It is below the column if the characters in front of it have one byte each; otherwise it
stands too far to the right.

Main results:

* `Json.parse_eq_error_iff` — what is refused, and with which report;
* `Json.parse_caret` — **what a report shows**, and where the caret stands below the column;
* `Json.parse_position` — **where a report has its position**, and when it shows a line;
* `Json.read_trailing`, `Json.read_list_unended` — a document with something behind its value, and
  one that ends inside of an array.
-/

import Mathlib.Data.List.TakeWhile
import ObjectInitializer.Json.Parse
import ObjectInitializer.Proofs.Json.Completeness
import ObjectInitializer.Proofs.Json.Places

set_option relaxedAutoImplicit false
set_option autoImplicit false

namespace ObjectInitializer

namespace Text

/-- A text is nothing but blanks exactly if nothing is left of it without those at its ends. -/
theorem trim_eq_nil_iff {cs : List Char} : trim cs = [] ↔ cs.all isBlank = true := by
  have hends : trim cs = [] ↔ ∀ c ∈ cs.dropWhile isBlank, isBlank c = true := by
    simp only [trim, List.reverse_eq_nil_iff, List.dropWhile_eq_nil_iff, List.mem_reverse]
  rw [hends, List.all_eq_true]
  constructor
  · intro h c hc
    rw [← List.takeWhile_append_dropWhile (p := isBlank) (l := cs)] at hc
    exact (List.mem_append.1 hc).elim List.mem_takeWhile_imp (h c)
  · intro h c hc
    exact h c ((List.dropWhile_suffix _).mem hc)

end Text

namespace Json

open Text

variable {cs : List Char} {text : String} {fault : Fault} {error : ParseError}

/-! ### What is refused -/

/-- **A document is refused** if it is nothing but blanks, or for a fault. -/
theorem parse_eq_error_iff :
    parse text = .error error ↔
      trim text.toList = [] ∧ error = .empty ∨
        trim text.toList ≠ [] ∧ ∃ fault, read text.toList = .error fault ∧
          error = .ofFault text.toList fault := by
  rw [parse, ne_eq, trim_eq_nil_iff]
  split
  · rename_i hblank
    simp [hblank, eq_comm]
  · rename_i hblank
    cases read text.toList <;> simp [hblank, eq_comm]

/-- A value with something else behind it than blanks is refused there. -/
theorem read_trailing {text rest more : List Char} {v : Json} {c : Char} (htext : Spells text v)
    (hrest : Stops isNumeralChar rest) (hc : skipSpace rest = c :: more) :
    read (text ++ rest) = .error (.past .trailingCharacters (c :: more)) := by
  have hstep : step ⟨[], .after v, rest⟩ = .error (.past .trailingCharacters (c :: more)) := by
    simp only [step, hc, stepEnd]
  rw [read, takesValue_of_spells htext [] rest hrest, run_eq, hstep]

/-- An array that ends before its first item is refused at its end. -/
theorem read_list_unended {gap : List Char} (hgap : IsSpaces gap) :
    read ('[' :: gap) = .error (.past .endInList []) := by
  have hopen : skipSpace ('[' :: gap) = '[' :: gap := skipSpace_of_stops (stops_cons.2 rfl)
  have hend : skipSpace gap = [] := by
    rw [← List.append_nil gap, skipSpace_append hgap]
    rfl
  have hstep : step ⟨[], .value, '[' :: gap⟩ = .error (.past .endInList []) := by
    simp only [step, hopen, stepValue, hend]
  rw [read, run_eq, hstep]

/-! ### The caret -/

/-- **What a report shows** is the line that it names, with the caret below.  The caret is never
left of the character at the column; it is below that character exactly if the characters that
should stand in front of it have one byte each, or the column is behind the line. -/
theorem parse_caret (text : String) (error : ParseError) (place : Position) (preview : String)
    (h : parse text = .error error) (hplace : error.location = some place)
    (hpreview : error.preview = some preview) :
    ∃ line, IsLine text.toList place.line line ∧
      let before := place.column - 1
      let blanks := min before line.length
      preview = String.ofList (line ++ '\n' :: (List.replicate blanks ' ' ++ ['^'])) ∧
        fitting line before ≤ blanks ∧
        (blanks = fitting line before ↔
          (∀ c ∈ line.take before, c.utf8Size = 1) ∨ byteSize line ≤ before) := by
  obtain ⟨-, rfl⟩ | ⟨-, fault, hread, rfl⟩ := parse_eq_error_iff.1 h
  · cases hplace
  · cases hplace
    obtain ⟨shown, hshown, rfl⟩ := Option.map_eq_some_iff.1 hpreview
    obtain ⟨line, hline, rfl⟩ := Option.map_eq_some_iff.1 hshown
    have hisLine := line?_eq_some_iff.1 hline
    rw [Nat.sub_add_cancel (one_le_line_of_read hread)] at hisLine
    exact ⟨line, hisLine, rfl, fitting_le_min .., min_eq_fitting_iff⟩

/-- On a second line, a blank in front of the caret. -/
theorem parse_caret_second_line :
    let text := "1\n x"
    let error : ParseError :=
      ⟨"Invalid JSON: trailing characters at line 2 column 2", some ⟨2, 2⟩, some " x\n ^"⟩
    parse text = .error error ∧ error.location = some ⟨2, 2⟩ ∧ error.preview = some " x\n ^" ∧
      ∃ line, IsLine text.toList 2 line ∧
        let blanks := min (2 - 1) line.length
        " x\n ^" = String.ofList (line ++ '\n' :: (List.replicate blanks ' ' ++ ['^'])) ∧
          fitting line (2 - 1) ≤ blanks ∧
          (blanks = fitting line (2 - 1) ↔
            (∀ c ∈ line.take (2 - 1), c.utf8Size = 1) ∨ byteSize line ≤ 2 - 1) := by
  intro text error
  have hone : Spells ['1'] (.number "1") := .number (isNumeral_singleton rfl)
  have htext : text.toList = ['1'] ++ ['\n', ' ', 'x'] := by decide
  have hread : read text.toList = .error (.past .trailingCharacters ['x']) :=
    htext ▸ read_trailing hone (stops_cons.2 rfl) rfl
  have hparse : parse text = .error error :=
    parse_eq_error_iff.2 (.inr ⟨by decide, _, hread, by decide⟩)
  exact ⟨hparse, rfl, rfl, parse_caret text error ⟨2, 2⟩ " x\n ^" hparse rfl rfl⟩

/-- **The caret stands beside the column** behind a character of two bytes: of the line, four
characters lie within the five bytes in front of the column. -/
theorem caret_beside_column :
    let text := "\"é\" x"
    let shown := "\"é\" x\n     ^"
    parse text =
        .error ⟨"Invalid JSON: trailing characters at line 1 column 6", some ⟨1, 6⟩, some shown⟩ ∧
      IsLine text.toList 1 text.toList ∧ fitting text.toList 5 = 4 ∧
      shown ≠ String.ofList (text.toList ++ '\n' ::
        (List.replicate (fitting text.toList 5) ' ' ++ ['^'])) := by
  intro text shown
  have hstring : Spells ['"', 'é', '"'] (.string "é") :=
    .string (.cons (.plain (by decide) (by decide) (by decide)) .nil)
  have htext : text.toList = ['"', 'é', '"'] ++ [' ', 'x'] := by decide
  have hread : read text.toList = .error (.past .trailingCharacters ['x']) :=
    htext ▸ read_trailing hstring (stops_cons.2 rfl) rfl
  exact ⟨parse_eq_error_iff.2 (.inr ⟨by decide, _, hread, by decide⟩),
    .last (by decide) (by decide), by decide, by decide⟩

/-! ### The line -/

/-- Nothing is shown exactly if there is no line of the number. -/
theorem preview_eq_none_iff (h : read cs = .error fault) :
    (ParseError.ofFault cs fault).preview = none ↔
      ¬ ∃ line, IsLine cs (fault.position cs).line line := by
  have hpreview : (ParseError.ofFault cs fault).preview =
      (preview? cs (fault.position cs)).map String.ofList := rfl
  have hline : line? ((fault.position cs).line - 1) cs = none ↔ _ := line?_eq_none_iff
  rw [Nat.sub_add_cancel (one_le_line_of_read h)] at hline
  rw [hpreview, Option.map_eq_none_iff, preview?, Option.map_eq_none_iff, hline]

/-- **A document that has more than blanks is refused with a position**, and a line is shown exactly
if there is one of that number.  In the document itself, there is one at every position but the end
of a document that ends with a line feed. -/
theorem parse_position (text : String) (error : ParseError) (hblank : trim text.toList ≠ [])
    (h : parse text = .error error) :
    ∃ place, error.location = some place ∧ 1 ≤ place.line ∧
      (error.preview = none ↔ ¬ ∃ line, IsLine text.toList place.line line) ∧
      ((∃ n ≤ byteSize text.toList, place = positionOf text.toList n ∧
          (error.preview = none ↔
            n = byteSize text.toList ∧ text.toList.getLast? = some '\n')) ∨
        ∃ digits n, Boxes text.toList digits ∧ n ≤ byteSize digits ∧
          place = positionOf digits n) := by
  obtain ⟨hempty, -⟩ | ⟨-, fault, hread, rfl⟩ := parse_eq_error_iff.1 h
  · exact absurd hempty hblank
  have hlines := preview_eq_none_iff hread
  refine ⟨_, rfl, one_le_line_of_read hread, hlines, ?_⟩
  obtain ⟨n, hn, hposition⟩ | hboxed := position_of_read hread
  · have hne : text.toList ≠ [] := by
      intro hnil
      rw [hnil] at hblank
      exact hblank trim_nil
    have hlast : (∀ c ∈ text.toList.getLast?, c = '\n') ↔ text.toList.getLast? = some '\n' := by
      rw [List.getLast?_eq_some_getLast hne]
      simp
    refine .inl ⟨n, hn, hposition, ?_⟩
    rw [hlines, hposition, exists_isLine_positionOf_iff hn, not_not, hlast]
  · exact .inr hboxed

/-- A document that ends inside of an array, on its only line. -/
theorem parse_position_unended_line :
    let text := "[ "
    let error : ParseError :=
      ⟨"Invalid JSON: EOF while parsing a list at line 1 column 2", some ⟨1, 2⟩, some "[ \n ^"⟩
    trim text.toList ≠ [] ∧ parse text = .error error ∧
      ∃ place, error.location = some place ∧ 1 ≤ place.line ∧
        (error.preview = none ↔ ¬ ∃ line, IsLine text.toList place.line line) ∧
        ((∃ n ≤ byteSize text.toList, place = positionOf text.toList n ∧
            (error.preview = none ↔
              n = byteSize text.toList ∧ text.toList.getLast? = some '\n')) ∨
          ∃ digits n, Boxes text.toList digits ∧ n ≤ byteSize digits ∧
            place = positionOf digits n) := by
  intro text error
  have hblank : trim text.toList ≠ [] := by decide
  have htext : text.toList = ['[', ' '] := by decide
  have hread : read text.toList = .error (.past .endInList []) :=
    htext ▸ read_list_unended (List.forall_mem_singleton.2 rfl)
  have hparse : parse text = .error error :=
    parse_eq_error_iff.2 (.inr ⟨hblank, _, hread, by decide⟩)
  exact ⟨hblank, hparse, parse_position text error hblank hparse⟩

/-- **No line is shown** where a document ends behind a line feed: there is none of that number. -/
theorem unended_list_without_line :
    let text := "[\n"
    trim text.toList ≠ [] ∧
      parse text =
        .error ⟨"Invalid JSON: EOF while parsing a list at line 2 column 0", some ⟨2, 0⟩, none⟩ ∧
      ¬ ∃ line, IsLine text.toList 2 line := by
  intro text
  have hblank : trim text.toList ≠ [] := by decide
  have htext : text.toList = ['[', '\n'] := by decide
  have hread : read text.toList = .error (.past .endInList []) :=
    htext ▸ read_list_unended (List.forall_mem_singleton.2 rfl)
  exact ⟨hblank, parse_eq_error_iff.2 (.inr ⟨hblank, _, hread, by decide⟩),
    line?_eq_none_iff.1 (by decide)⟩

end Json

end ObjectInitializer
