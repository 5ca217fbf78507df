/-
**Renderings in sequence.**

An emitter may render any number of values before the statement that it is made for.  A value leaves
behind the depth and the nesting that it found, and the indent of the next line pending, so that the
values do not get in each other's way: each has the text that it has by itself, with the indent in
front of it unless it is the first, and the counts are merged.  The statement indents its first line
itself, whether that is pending or not, and so does not indent it twice.

Main definitions:

* `Emitter.emitAll` — values emitted one after the other;
* `Tally.mergeAll` — the counts of several renderings merged.

Main results:

* `Emitter.emitAll_writer`, `Emitter.emitAll_counted` — what values in sequence write and count;
* `Tally.mergeAll_eq` — merged counts, each by itself;
* `statement_after_renderings` — **a statement behind other renderings on one emitter**.
-/

import ObjectInitializer.Proofs.Counts
import ObjectInitializer.Proofs.Writing

set_option relaxedAutoImplicit false
set_option autoImplicit false

namespace ObjectInitializer

/-! ### Merged counts -/

namespace Tally

/-- The counts of several renderings merged. -/
def mergeAll (ts : List Tally) : Tally :=
  ts.foldr merge empty

theorem mergeAll_cons (t : Tally) (ts : List Tally) : mergeAll (t :: ts) = t.merge (mergeAll ts) :=
  rfl

theorem mergeAll_concat (ts : List Tally) (t : Tally) :
    mergeAll (ts ++ [t]) = (mergeAll ts).merge t := by
  induction ts with
  | nil => exact (merge_empty t).trans (empty_merge t).symm
  | cons u ts ih => rw [List.cons_append, mergeAll_cons, mergeAll_cons, ih, merge_assoc]

/-- **Merged counts, each by itself**: the sums of all, but for the depth, which is the greatest. -/
theorem mergeAll_eq (ts : List Tally) :
    mergeAll ts =
      { objects := (ts.map objects).sum
        arrays := (ts.map arrays).sum
        properties := (ts.map properties).sum
        skippedMetaProperties := (ts.map skippedMetaProperties).sum
        skippedNullElements := (ts.map skippedNullElements).sum
        unsupportedValues := (ts.map unsupportedValues).sum
        maxDepth := (ts.map maxDepth).foldr max 0 } := by
  induction ts with
  | nil => rfl
  | cons t ts ih =>
      rw [mergeAll_cons, ih]
      rfl

end Tally

/-- Texts with another one between them are the first, and each further one behind that. -/
theorem intercalate_cons_eq (between s : String) (texts : List String) :
    between.intercalate (s :: texts) = s ++ String.join (texts.map (between ++ ·)) := by
  induction texts generalizing s with
  | nil => simp
  | cons r texts ih =>
      rw [String.intercalate_cons_cons, ih, List.map_cons, String.join_cons]
      simp only [String.append_assoc]

/-! ### Values in sequence -/

namespace Emitter

open Writer

/-- Emits values one after the other, each with what ends it. -/
def emitAll (e : Emitter) : List (Tree × Terminator) → Emitter
  | [] => e
  | (v, t) :: parts => (e.emit t v).emitAll parts

/-- Behind the end of a line, **values are written one after the other**, each behind the indent. -/
theorem emitAll_writer (e : Emitter) (parts : List (Tree × Terminator))
    (hp : e.writer.pending = true)
    (hd : ∀ p ∈ parts, e.writer.depth + p.1.depth < depthModulus) :
    (e.emitAll parts).writer =
      e.writer.endLines (String.join (parts.map fun p =>
        e.writer.layout.indent e.writer.depth ++
          e.writer.layout.value e.writer.depth p.2 p.1)) := by
  induction parts generalizing e with
  | nil => exact (endLines_empty hp).symm
  | cons p parts ih =>
      obtain ⟨v, t⟩ := p
      obtain ⟨hv, hparts⟩ := List.forall_mem_cons.1 hd
      have hwriter := emit_writer v e t hv
      have hindent : e.writer.indentText = e.writer.layout.indent e.writer.depth := by
        simp [indentText, hp]
      -- the next value finds the depth and the layout as this one did
      rw [emitAll, ih _ (by rw [hwriter]; rfl) (by simpa [hwriter] using hparts), hwriter,
        endLines_endLines, List.map_cons, String.join_cons, hindent]
      rfl

/-- **Values are counted one after the other**, and the nesting is restored. -/
theorem emitAll_counted (e : Emitter) (parts : List (Tree × Terminator)) :
    (e.emitAll parts).nesting = e.nesting ∧
      (e.emitAll parts).tally =
        e.tally.merge (.mergeAll (parts.map fun p => .total (p.1.nodesAt e.nesting false))) := by
  induction parts generalizing e with
  | nil => exact ⟨rfl, (Tally.merge_empty e.tally).symm⟩
  | cons p parts ih =>
      obtain ⟨v, t⟩ := p
      obtain ⟨hnesting, htally⟩ := emit_counted v e t false
      obtain ⟨hnestings, htallies⟩ := ih (e.emit t v)
      rw [emitAll, List.map_cons, Tally.mergeAll_cons, ← Tally.merge_assoc, ← htally, ← hnesting]
      exact ⟨hnestings, htallies⟩

/-! ### Fresh emitters -/

/-- An emitter that has written nothing, at a depth of a layout. -/
def fresh (layout : Layout) (base : Nat) : Emitter :=
  .new (.atDepth base layout.indentUnit layout.lineEnding)

variable (layout : Layout) {base : Nat}

theorem fresh_emit_writer {v : Tree} (hd : base + v.depth < depthModulus) (t : Terminator) :
    ((fresh layout base).emit t v).writer =
      (fresh layout base).writer.endLines (layout.value base t v) := by
  have hwriter := emit_writer v (fresh layout base) t hd
  have hindent : (fresh layout base).writer.indentText = "" := rfl
  rwa [hindent, String.empty_append] at hwriter

theorem fresh_emit_text {v : Tree} (hd : base + v.depth < depthModulus) (t : Terminator) :
    ((fresh layout base).emit t v).writer.text = layout.value base t v := by
  rw [fresh_emit_writer layout hd]
  exact String.empty_append ..

theorem fresh_emit_tally (v : Tree) (t : Terminator) :
    ((fresh layout base).emit t v).tally = .total v.nodes := by
  have htally := (emit_counted v (fresh layout base) t false).2
  exact htally.trans (Tally.empty_merge _)

/-- **Values in sequence on a fresh emitter** have the indent between them. -/
theorem fresh_emitAll_writer {parts : List (Tree × Terminator)}
    (hparts : ∀ p ∈ parts, base + p.1.depth < depthModulus) :
    ((fresh layout base).emitAll parts).writer =
      { (fresh layout base).writer with
        text := (layout.indent base).intercalate
          (parts.map fun p => layout.value base p.2 p.1)
        pending := !parts.isEmpty } := by
  cases parts with
  | nil => rfl
  | cons p parts =>
      -- no indent is pending in front of the first value, but one is behind it
      obtain ⟨v, t⟩ := p
      obtain ⟨hv, hparts⟩ := List.forall_mem_cons.1 hparts
      have hfirst := fresh_emit_writer layout hv t
      have hdepth : ((fresh layout base).emit t v).writer.depth = base := by
        rw [hfirst]
        rfl
      have hlayout : ((fresh layout base).emit t v).writer.layout = layout := by
        rw [hfirst]
        rfl
      rw [emitAll, emitAll_writer _ parts (by rw [hfirst]; rfl) (by rwa [hdepth]), hdepth, hlayout,
        hfirst, endLines_endLines, List.map_cons, intercalate_cons_eq, List.map_map]
      simp [endLines, fresh, Function.comp_def]
      rfl

end Emitter

/-! ### The statement -/

/-- **A statement behind other renderings on one emitter.**  The texts are those that the values
have by themselves, with the indent in front of each but the first, and in front of the statement.
The counts are those of the values by themselves: their sums, but for the depth, which is the
greatest. -/
theorem statement_after_renderings (layout : Layout) (base : Nat) (className : String)
    (parts : List (Tree × Terminator)) (v : Tree)
    (hparts : ∀ p ∈ parts, base + p.1.depth < depthModulus)
    (hd : base + v.depth < depthModulus) :
    let alone (p : Tree × Terminator) := ((Emitter.fresh layout base).emit p.2 p.1).rendering
    let tallies := (parts ++ [(v, Terminator.semicolon)]).map fun p => (alone p).tally
    let done := (((Emitter.fresh layout base).emitAll parts).statement className v).rendering
    (done.content =
        (layout.indent base).intercalate (parts.map fun p => (alone p).content) ++
          layout.indent base ++ className ++ " instance = " ++ (alone (v, .semicolon)).content) ∧
      done.tally =
        { objects := (tallies.map Tally.objects).sum
          arrays := (tallies.map Tally.arrays).sum
          properties := (tallies.map Tally.properties).sum
          skippedMetaProperties := (tallies.map Tally.skippedMetaProperties).sum
          skippedNullElements := (tallies.map Tally.skippedNullElements).sum
          unsupportedValues := (tallies.map Tally.unsupportedValues).sum
          maxDepth := (tallies.map Tally.maxDepth).foldr max 0 } := by
  intro alone tallies done
  have hwriter := Emitter.fresh_emitAll_writer layout hparts
  refine ⟨?_, ?_⟩
  · have htexts : (parts.map fun p => (alone p).content) =
        parts.map fun p => layout.value base p.2 p.1 :=
      List.map_congr_left fun p hp => Emitter.fresh_emit_text layout (hparts p hp) p.2
    have htext : (alone (v, .semicolon)).content = layout.value base .semicolon v :=
      Emitter.fresh_emit_text layout hd .semicolon
    have hdepth : ((Emitter.fresh layout base).emitAll parts).writer.depth = base := by
      rw [hwriter]
      rfl
    show (((Emitter.fresh layout base).emitAll parts).statement className v).writer.text = _
    rw [Emitter.statement_writer _ _ _ (by rwa [hdepth]), hdepth, hwriter, htexts, htext,
      Writer.text_endLines, Layout.statement]
    simp only [String.append_assoc]
    rfl
  · obtain ⟨hnesting, htally⟩ := Emitter.emitAll_counted (Emitter.fresh layout base) parts
    have htallies : tallies =
        (parts.map fun p => Tally.total p.1.nodes) ++ [Tally.total v.nodes] := by
      simp only [tallies, alone, Emitter.rendering, Emitter.fresh_emit_tally, List.map_append,
        List.map_cons, List.map_nil]
    have hempty : (Emitter.fresh layout base).tally = .empty := rfl
    have hzero : (Emitter.fresh layout base).nesting = 0 := rfl
    show (((Emitter.fresh layout base).emitAll parts).statement className v).tally = _
    rw [Emitter.statement_tally, hnesting, htally, hempty, hzero, Tally.empty_merge,
      ← Tally.mergeAll_eq, htallies, Tally.mergeAll_concat]
    rfl

/-- A collection in a collection, then a block of metadata only, in front of a statement. -/
theorem statement_after_renderings_two :
    let layout : Layout := ⟨"  ", .crlf⟩
    let parts : List (Tree × Terminator) :=
      [(.array [.array [.null]], .comma), (.object [("$id", .bool true)], .semicolon)]
    let v : Tree := .unsupported
    let done := (((Emitter.fresh layout 1).emitAll parts).statement "MyObject" v).rendering
    (∀ p ∈ parts, 1 + p.1.depth < depthModulus) ∧ 1 + v.depth < depthModulus ∧
      done.content =
        "\r\n  [\r\n    \r\n    [\r\n    ],\r\n  ],\r\n" ++
          "  new()\r\n  \x7b\r\n  \x7d;\r\n" ++
          "  MyObject instance = default /* unsupported type */;\r\n" ∧
      done.tally = ⟨1, 2, 0, 1, 1, 1, 2⟩ := by
  intro layout parts v done
  have hparts : ∀ p ∈ parts, 1 + p.1.depth < depthModulus := by decide
  have hd : 1 + v.depth < depthModulus := by decide
  obtain ⟨hcontent, htally⟩ := statement_after_renderings layout 1 "MyObject" parts v hparts hd
  exact ⟨hparts, hd, hcontent.trans (by decide), htally.trans (by decide)⟩

end ObjectInitializer
