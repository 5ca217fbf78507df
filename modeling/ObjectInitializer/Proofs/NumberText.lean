/-
**Numbers keep their text.**

A number in a document is written into the statement as it is spelled, wherever it stands and
however it is spelled; `-0`, which is read as `0`, is the only one that is not.  What is written in
front of it and behind it depends on what stands around it, but not on the number.

The step is one `Json.Surround`: the emitter comes to the value, in front of which it has written
the key or nothing on the line, and what it does after the value only appends.  The run goes from
the document to the number in its middle.

A member whose key comes again has no value in the document, so that a number in it is not written
at all.

Main definitions:

* `Spot` — what is written in front of a value on its line, and what ends the value;
* `Spot.inside` — the spot of a value in the middle of its surroundings.

Main results:

* `Emitter.emit_surround` — the step: the emitter on its way to the value and back;
* `Emitter.emit_number_inside` — the run: **what is written around a number does not depend on it**;
* `render_number_text` — **a number is written as it is spelled**, but for `-0`;
* `minus_zero_loses_its_sign` — the integer `-0` is written as `0`.
-/

import ObjectInitializer.Proofs.Appending
import ObjectInitializer.Proofs.Json.Compact
import ObjectInitializer.Proofs.Json.Surroundings

set_option relaxedAutoImplicit false
set_option autoImplicit false

namespace ObjectInitializer

open Json

/-! ### Spots -/

/-- What is written in front of a value on its line, and what ends the value. -/
structure Spot where
  label : String
  terminator : Terminator

/-- The spot of the value of a document. -/
def Settings.spot (settings : Settings) : Spot :=
  ⟨settings.className ++ " instance = ", .semicolon⟩

namespace Spot

/-- The spot of a value in what stands directly around it, if that is at the given spot. -/
def enter (spot : Spot) : Surround → Spot
  | .blanks _ _ => spot
  | .items _ _ _ => ⟨"", .comma⟩
  | .members _ _ key _ _ => ⟨key ++ " = ", .comma⟩

/-- The spot of a value in the middle of its surroundings. -/
def inside (spot : Spot) (around : List Surround) : Spot :=
  around.foldl enter spot

end Spot

/-- What is written next stands behind the label. -/
def Writer.Behind (label : String) (w : Writer) : Prop :=
  ∃ above, w.text ++ w.indentText = above ++ label

theorem Writer.behind_empty (w : Writer) : w.Behind "" :=
  ⟨w.text ++ w.indentText, by simp⟩

theorem Writer.behind_write (w : Writer) (label : String) : (w.write label).Behind label := by
  refine ⟨w.text ++ w.indentText, ?_⟩
  rw [indentText_write, write_eq, String.append_empty]

/-! ### Trees of surroundings -/

namespace Json

theorem isNull_surround_value (surround : Surround) {v : Json} (hv : ¬ v.toTree.isNull = true) :
    ¬ (surround.value v).toTree.isNull = true := by
  cases surround with
  | blanks _ _ => exact hv
  | items _ _ _ => simp [Surround.value, toTree]
  | members _ _ _ _ _ => simp [Surround.value, toTree]

theorem isNull_surroundValue (around : List Surround) {v : Json} (hv : ¬ v.toTree.isNull = true) :
    ¬ (surroundValue around v).toTree.isNull = true := by
  induction around with
  | nil => exact hv
  | cons surround around ih => exact isNull_surround_value surround ih

/-- A member that is not lost is at one place of the tree. -/
theorem toTree_members_around {members : List (String × Json)} {key : String}
    (done : List (String × Json)) (hlast : key ∉ members.map Prod.fst) :
    ∃ before after, ∀ v,
      (Json.object (setMembers done ((key, v) :: members))).toTree =
        .object (before ++ (key, v.toTree) :: after) := by
  obtain ⟨before, after, -, hset⟩ := setMembers_around done members hlast
  refine ⟨toTreeMembers before, toTreeMembers after, fun v => ?_⟩
  simp only [hset, toTree, toTreeMembers_eq_map, List.map_append, List.map_cons]

end Json

/-! ### On the way to a value -/

namespace Emitter

/-- Steps after a value that only append to what is there. -/
def Appends (rest : Emitter → Emitter) : Prop :=
  ∀ {e f : Emitter} {front : String}, e.writer = f.writer.inFront front →
    (rest e).writer = (rest f).writer.inFront front

/-- **The step.**  The emitter comes to the value in what stands around it, stands behind its label
there, and only appends after it. -/
theorem emit_surround {surround : Surround} (hkey : ∀ key ∈ surround.key?, ¬ Tree.isMeta key = true)
    (hkept : ¬ surround.Loses) (spot : Spot) (e : Emitter) (he : e.writer.Behind spot.label) :
    ∃ (inner : Emitter) (rest : Emitter → Emitter),
      inner.writer.Behind (spot.enter surround).label ∧
        inner.writer.lineEnding = e.writer.lineEnding ∧ Appends rest ∧
        ∀ v : Json, ¬ v.toTree.isNull = true →
          e.emit spot.terminator (surround.value v).toTree =
            rest (inner.emit (spot.enter surround).terminator v.toTree) := by
  have hending := Writer.kept_lineEnding e.writer.lineEnding
  cases surround with
  | blanks _ _ => exact ⟨e, id, he, rfl, id, fun v _ => rfl⟩
  | items before after gap =>
      let items : List Tree := toTreeItems (before.map Prod.snd)
      let more : List Tree := toTreeItems (after.map Prod.snd)
      refine ⟨e.openArray.emitItems items,
        fun e => (e.emitItems more).closeArray spot.terminator, Writer.behind_empty _, ?_, ?_, ?_⟩
      · exact emitItems_kept hending (f := e) (openArray_kept hending (f := e) rfl) items
      · intro e f front h
        have hfront := Writer.kept_inFront front
        exact closeArray_kept hfront (emitItems_kept hfront h more) spot.terminator
      · intro v hv
        have htree : ((Surround.items before after gap).value v).toTree =
            .array (items ++ v.toTree :: more) := by
          simp only [Surround.value, toTree, toTreeItems_eq_map, List.map_append, List.map_cons,
            items, more]
        rw [htree, emit_array_around _ _ _ _ hv]
        rfl
  | members before keyText key after gap =>
      have hlast : key ∉ (after.map MemberText.member).map Prod.fst := by
        rw [List.map_map]
        exact hkept
      obtain ⟨entries, more, htree⟩ :=
        toTree_members_around (setMembers [] (before.map MemberText.member)) hlast
      refine ⟨(e.openObject.emitEntries entries).openProperty key,
        fun e => (e.emitEntries more).closeObject spot.terminator,
        Writer.behind_write _ _, ?_, ?_, ?_⟩
      · refine openProperty_kept hending (f := e) ?_ key
        exact emitEntries_kept hending (f := e) (openObject_kept hending (f := e) rfl) entries
      · intro e f front h
        have hfront := Writer.kept_inFront front
        exact closeObject_kept hfront (emitEntries_kept hfront h more) spot.terminator
      · intro v _
        rw [Surround.value, setMembers_append, htree,
          emit_object_around _ _ _ _ (hkey key rfl)]
        rfl

/-- **The run.**  What is written in front of a number and behind it does not depend on it. -/
theorem emit_number_inside {around : List Surround}
    (hkeys : ∀ surround ∈ around, ∀ key ∈ surround.key?, ¬ Tree.isMeta key = true)
    (hkept : ∀ surround ∈ around, ¬ surround.Loses) (spot : Spot) (e : Emitter)
    (he : e.writer.Behind spot.label) :
    ∃ (lead : String) (after : Writer), ∀ n,
      (e.emit spot.terminator (surroundValue around (.number n)).toTree).writer =
        after.inFront (lead ++ (spot.inside around).label ++ n ++
          (spot.inside around).terminator.text ++ e.writer.lineEnding.text) := by
  induction around generalizing spot e with
  | nil =>
      obtain ⟨lead, hlead⟩ := he
      refine ⟨lead, { e.writer with text := "", pending := true }, fun n => ?_⟩
      show (e.putScalar n spot.terminator).writer = _
      rw [putScalar_writer]
      simp only [Writer.endLines, Writer.inFront, Spot.inside, List.foldl_nil, ← hlead,
        String.append_empty, String.append_assoc]
      rfl
  | cons surround around ih =>
      obtain ⟨hkey, hkeys⟩ := List.forall_mem_cons.1 hkeys
      obtain ⟨hfirst, hkept⟩ := List.forall_mem_cons.1 hkept
      obtain ⟨inner, rest, hinner, hending, hrest, hemit⟩ := emit_surround hkey hfirst spot e he
      obtain ⟨lead, after, hnumber⟩ := ih hkeys hkept (spot.enter surround) inner hinner
      refine ⟨lead, (rest (.new after)).writer, fun n => ?_⟩
      have hvalue : surroundValue (surround :: around) (.number n) =
          surround.value (surroundValue around (.number n)) := rfl
      have hsome : ¬ (surroundValue around (.number n)).toTree.isNull = true :=
        isNull_surroundValue around (by simp [toTree])
      rw [hvalue, hemit _ hsome, ← hending]
      exact hrest (hnumber n)

end Emitter

/-! ### Renderings -/

/-- **A number is written as it is spelled**, but for the integer `-0`, which is written as `0`.
Wherever it stands in a document, it is on a line behind its key, if it has one, and in front of a
comma, or of a semicolon if it is the whole document; all else of the statement is the same for any
number.  A number in a member whose key comes again is not in the document. -/
theorem render_number_text (settings : Settings) {around : List Surround}
    (haround : ∀ surround ∈ around, surround.WellFormed)
    (hkeys : ∀ surround ∈ around, ∀ key ∈ surround.key?, ¬ Tree.isMeta key = true) :
    ((∀ surround ∈ around, ¬ surround.Loses) →
      ∃ lead rest, ∀ digits, IsNumeral digits →
        ∃ v, parse (String.ofList (surroundText around digits)) = .ok v ∧
          (render settings v.toTree).content =
            lead ++ (settings.spot.inside around).label ++
              (if digits = ['-', '0'] then "0" else String.ofList digits) ++
              (settings.spot.inside around).terminator.text ++ settings.lineEnding.text ++ rest) ∧
    ((∃ surround ∈ around, surround.Loses) →
      ∃ v, ∀ digits, IsNumeral digits →
        parse (String.ofList (surroundText around digits)) = .ok v) := by
  have hparse {digits : List Char} (hdigits : IsNumeral digits) :
      parse (String.ofList (surroundText around digits)) =
        .ok (surroundValue around (.number (String.ofList (numberText digits)))) := by
    rw [parse_eq_ok_iff, String.toList_ofList]
    exact spells_surround haround (.number hdigits)
  constructor
  · intro hkept
    let e : Emitter :=
      (Emitter.new settings.writer).put fun w =>
        w.beginIndented.write (settings.className ++ " instance = ")
    have he : e.writer.Behind settings.spot.label := Writer.behind_write _ _
    have hending : e.writer.lineEnding = settings.lineEnding := by
      show (settings.writer.beginIndented.write _).lineEnding = _
      rw [Writer.write_eq]
      rfl
    obtain ⟨lead, after, hnumber⟩ := Emitter.emit_number_inside hkeys hkept settings.spot e he
    refine ⟨lead, after.text, fun digits hdigits => ⟨_, hparse hdigits, ?_⟩⟩
    have htext : String.ofList (numberText digits) =
        if digits = ['-', '0'] then "0" else String.ofList digits := by
      rw [numberText]
      split <;> rfl
    have hwriter := congrArg Writer.text (hnumber (String.ofList (numberText digits)))
    rw [Writer.text_inFront, hending] at hwriter
    rw [← htext]
    exact hwriter
  · intro hlost
    refine ⟨surroundValue around .null, fun digits hdigits => ?_⟩
    rw [hparse hdigits, surroundValue_lost hlost _ .null]

/-- A number in an object in an array, spelled with digits that say nothing. -/
theorem render_number_text_trailing_zeros :
    let around : List Surround :=
      [.items [(['1'], .number "1")] [] [],
        .members [] (stringText "a" ++ [':']) "a" [] []]
    (∀ surround ∈ around, surround.WellFormed) ∧
      (∀ surround ∈ around, ∀ key ∈ surround.key?, ¬ Tree.isMeta key = true) ∧
      ∃ lead rest v, parse "[1,\x7b\"a\":1.50E+02\x7d]" = .ok v ∧
        (render .standard v.toTree).content =
          lead ++ "a = " ++ "1.50E+02" ++ "," ++ "\n" ++ rest := by
  intro around
  have haround : ∀ surround ∈ around, surround.WellFormed := by
    refine List.forall_mem_cons.2 ⟨⟨?_, isSpaces_nil⟩, List.forall_mem_singleton.2 ?_⟩
    · exact List.forall_mem_singleton.2 (.number (isNumeral_singleton rfl))
    · exact ⟨by simp, spellsKey_stringText "a", by decide, isSpaces_nil⟩
  have hkeys : ∀ surround ∈ around, ∀ key ∈ surround.key?, ¬ Tree.isMeta key = true := by decide
  have hkept : ∀ surround ∈ around, ¬ surround.Loses := by
    simp [around, Surround.Loses]
  obtain ⟨lead, rest, hnumber⟩ := (render_number_text .standard haround hkeys).1 hkept
  have hdigits : IsNumeral "1.50E+02".toList :=
    ⟨[], ['1'], ['.', '5', '0'], ['E', '+', '0', '2'], Or.inl rfl,
      Or.inr ⟨⟨by simp, by simp⟩, by simp⟩, Or.inr ⟨['5', '0'], ⟨by simp, by simp⟩, rfl⟩,
      Or.inr ⟨'E', ['+'], ['0', '2'], by simp, by simp, ⟨by simp, by simp⟩, rfl⟩, rfl⟩
  obtain ⟨v, hparse, hcontent⟩ := hnumber _ hdigits
  exact ⟨haround, hkeys, lead, rest, v, hparse, hcontent⟩

/-- **The integer `-0` loses its sign.**  Its text is not that of the document. -/
theorem minus_zero_loses_its_sign :
    IsNumeral "-0".toList ∧
      ∃ v, parse "-0" = .ok v ∧ renderClass "MyObject" v.toTree = "MyObject instance = 0;\n" := by
  have hdigits : IsNumeral ['-', '0'] :=
    ⟨['-'], ['0'], [], [], Or.inr rfl, Or.inl rfl, Or.inl rfl, Or.inl rfl, rfl⟩
  exact ⟨hdigits, _, parse_eq_ok_iff.2 (.number hdigits), by decide⟩

end ObjectInitializer
