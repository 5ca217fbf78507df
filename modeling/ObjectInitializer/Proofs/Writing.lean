/-
**What the emitter writes is the layout.**

The emitter never sees a line.  It drives a writer, whose indent is pending after the end of a line
and is written by whatever comes next, at the depth that the writer has by then; and the depth goes
up and down with the blocks and collections around.  `Layout` gives the text of a statement outright
instead, and this module proves the two equal.

The invariant is about whole values.  Wherever a value is emitted, be it behind `key = ` with no
indent pending or as an item with its indent pending, the writer *ends lines*: it gets the text of
the value at its depth, behind the indent if that is pending, is at the same depth again, and leaves
the indent of the next line pending.  `Writer.endLines` is that change of a writer, and
`Tree.WrittenAsLaidOut` says of a value that emitting it is nothing else.

Main definitions:

* `Writer.indentText` — the indent that the next piece of text brings along;
* `Writer.endLines` — text added up to the end of a line;
* `Tree.WrittenAsLaidOut` — **the invariant** that is carried through the recursion.

Main results:

* `Writer.close_indent_endLines` — closing what was opened leaves the depth as it was;
* `Emitter.emit_writer` — a value is written as it is laid out, in every state of the writer;
* `Emitter.statement_writer` — so is a statement;
* `render_content` — **the content of a rendering is the layout of its statement**.
-/

import ObjectInitializer.Layout
import ObjectInitializer.Proofs.Tree

set_option relaxedAutoImplicit false
set_option autoImplicit false

namespace ObjectInitializer

/-! ### Lines of a writer -/

namespace Writer

/-- The layout that a writer follows. -/
def layout (w : Writer) : Layout :=
  { indentUnit := w.indentUnit, lineEnding := w.lineEnding }

/-- The indent that the next piece of text brings along. -/
def indentText (w : Writer) : String :=
  if w.pending then w.layout.indent w.depth else ""

/-- Adds a text that ends with the end of a line. -/
def endLines (w : Writer) (s : String) : Writer :=
  { w with text := w.text ++ s, pending := true }

theorem repeatOnto_eq (layout : Layout) (out : String) (n : Nat) :
    repeatOnto out layout.indentUnit n = out ++ layout.indent n := by
  induction n generalizing out with
  | zero => simp [repeatOnto, Layout.indent]
  | succ n ih => rw [repeatOnto, ih, Layout.indent, String.append_assoc]

theorem beginIndented_eq (w : Writer) :
    w.beginIndented =
      { w with text := w.text ++ w.layout.indent w.depth, pending := false } := by
  have h : repeatOnto w.text w.indentUnit w.depth = w.text ++ w.layout.indent w.depth :=
    repeatOnto_eq w.layout w.text w.depth
  rw [beginIndented, h]

theorem indentIfPending_eq (w : Writer) :
    w.indentIfPending = { w with text := w.text ++ w.indentText, pending := false } := by
  unfold indentIfPending indentText
  cases hp : w.pending with
  | false =>
      obtain ⟨text, depth, unit, ending, pending⟩ := w
      simp_all
  | true => exact beginIndented_eq w

theorem write_eq (w : Writer) (s : String) :
    w.write s = { w with text := w.text ++ w.indentText ++ s, pending := false } := by
  rw [write, indentIfPending_eq]
  rfl

theorem writeLine_eq (w : Writer) (s : String) :
    w.writeLine s = w.endLines (w.indentText ++ s ++ w.layout.newline) := by
  simp only [writeLine, write_eq, append, markPending, endLines, String.append_assoc]
  rfl

/-! ### How the changes combine -/

@[simp] theorem layout_endLines (w : Writer) (s : String) : (w.endLines s).layout = w.layout := rfl

@[simp] theorem depth_endLines (w : Writer) (s : String) : (w.endLines s).depth = w.depth := rfl

@[simp] theorem text_endLines (w : Writer) (s : String) : (w.endLines s).text = w.text ++ s := rfl

@[simp] theorem layout_indent (w : Writer) : w.indent.layout = w.layout := rfl

@[simp] theorem layout_write (w : Writer) (s : String) : (w.write s).layout = w.layout := by
  rw [write_eq]
  rfl

@[simp] theorem indentText_endLines (w : Writer) (s : String) :
    (w.endLines s).indentText = w.layout.indent w.depth := rfl

@[simp] theorem indentText_write (w : Writer) (s : String) : (w.write s).indentText = "" := by
  rw [write_eq]
  rfl

@[simp] theorem endLines_endLines (w : Writer) (s r : String) :
    (w.endLines s).endLines r = w.endLines (s ++ r) := by
  simp [endLines, String.append_assoc]

/-- Nothing more than the pending indent is left behind by the end of a line. -/
theorem endLines_empty {w : Writer} (hp : w.pending = true) : w.endLines "" = w := by
  obtain ⟨text, depth, unit, ending, pending⟩ := w
  simp_all [endLines]

@[simp] theorem write_endLines (w : Writer) (s r : String) :
    (w.write s).endLines r = w.endLines (w.indentText ++ s ++ r) := by
  simp [write_eq, endLines, String.append_assoc]

/-- A line in two pieces is a line. -/
theorem write_writeLine (w : Writer) (s r : String) :
    (w.write s).writeLine r = w.endLines (w.indentText ++ s ++ r ++ w.layout.newline) := by
  rw [writeLine_eq, write_endLines, indentText_write, layout_write]
  simp [String.append_assoc]

/-- **Closing is the inverse of opening.**  Whatever lines were ended one level further in, the
closer stands at the depth of the opener and the writer is back at it. -/
theorem close_indent_endLines (w : Writer) (s r closer : String)
    (hd : w.depth + 1 < depthModulus) :
    ((w.endLines s).indent.endLines r).close closer =
      w.endLines (s ++ r ++ (w.layout.indent w.depth ++ closer ++ w.layout.newline)) := by
  have hdepth : ((w.endLines s).indent.endLines r).outdent = w.endLines (s ++ r) := by
    simp [outdent, indent, endLines, Nat.mod_eq_of_lt hd, String.append_assoc]
  rw [close, hdepth, writeLine_eq, endLines_endLines]
  rfl

end Writer

/-! ### Pieces of a value -/

namespace Emitter

open Writer

theorem putScalar_writer (e : Emitter) (literal : String) (t : Terminator) :
    (e.putScalar literal t).writer =
      e.writer.endLines (e.writer.indentText ++ literal ++ t.text ++ e.writer.layout.newline) := by
  cases t with
  | comma => exact write_writeLine e.writer literal ","
  | semicolon => exact write_writeLine e.writer literal ";"

theorem openObject_writer (e : Emitter) :
    e.openObject.writer =
      (e.writer.endLines (e.writer.indentText ++ "new()" ++ e.writer.layout.newline ++
        (e.writer.layout.indent e.writer.depth ++ "\x7b" ++ e.writer.layout.newline))).indent := by
  show (e.writer.writeLine "new()").startBlock = _
  rw [startBlock, writeLine_eq, writeLine_eq, endLines_endLines]
  rfl

theorem openArray_writer (e : Emitter) :
    e.openArray.writer =
      (e.writer.endLines (e.writer.indentText ++ e.writer.layout.newline ++
        (e.writer.layout.indent e.writer.depth ++ "[" ++ e.writer.layout.newline))).indent := by
  show e.writer.startCollection = _
  rw [startCollection, writeLine_eq, writeLine_eq, endLines_endLines, String.append_empty]
  rfl

theorem closeObject_writer (e : Emitter) (t : Terminator) :
    (e.closeObject t).writer = e.writer.close ("\x7d" ++ t.text) := by
  cases t <;> rfl

theorem closeArray_writer (e : Emitter) (t : Terminator) :
    (e.closeArray t).writer = e.writer.close ("]" ++ t.text) := by
  cases t <;> rfl

@[simp] theorem countScalar_writer (e : Emitter) (v : Tree) :
    (e.countScalar v).writer = e.writer := by
  cases v <;> rfl

end Emitter

/-! ### Values -/

/-- **The invariant of emitting.**  Wherever the depths fit into a word, emitting the tree ends its
lines: the text of its layout, and nothing else, is new. -/
def Tree.WrittenAsLaidOut (v : Tree) : Prop :=
  ∀ (e : Emitter) (t : Terminator), e.writer.depth + v.depth < depthModulus →
    (e.emit t v).writer =
      e.writer.endLines
        (e.writer.indentText ++ e.writer.layout.value e.writer.depth t v)

namespace Layout

theorem value_scalar (layout : Layout) (depth : Nat) (t : Terminator) {v : Tree} {literal : String}
    (hv : v.literal? = some literal) :
    layout.value depth t v = literal ++ t.text ++ layout.newline := by
  cases v with
  | bool b => cases b <;> simp_all [Tree.literal?, value]
  | array items => simp [Tree.literal?] at hv
  | object entries => simp [Tree.literal?] at hv
  | _ => simp_all [Tree.literal?, value]

end Layout

namespace Emitter

open Writer

/-- Entries are written as they are laid out, if their values are.  They start at the front of a
line and end at the front of one, so that no entries at all change nothing. -/
theorem emitEntries_writer {entries : List (String × Tree)}
    (h : ∀ m ∈ entries, m.2.WrittenAsLaidOut) (e : Emitter) (hp : e.writer.pending = true)
    (hd : ∀ m ∈ entries, e.writer.depth + m.2.depth < depthModulus) :
    (e.emitEntries entries).writer =
      e.writer.endLines (e.writer.layout.entries e.writer.depth entries) := by
  induction entries generalizing e with
  | nil => simp [emitEntries, Layout.entries, endLines_empty hp]
  | cons m entries ih =>
      obtain ⟨key, v⟩ := m
      have hrest : ∀ m ∈ entries, m.2.WrittenAsLaidOut :=
        fun m hm => h m (List.mem_cons_of_mem _ hm)
      have hdrest : ∀ m ∈ entries, e.writer.depth + m.2.depth < depthModulus :=
        fun m hm => hd m (List.mem_cons_of_mem _ hm)
      by_cases hk : Tree.isMeta key = true
      · -- nothing but a count changes
        rw [emitEntries, if_pos hk, ih hrest (e.count .addMeta) hp hdrest, Layout.entries,
          if_pos hk, String.empty_append]
        rfl
      · -- the key takes the pending indent, so that the value starts with none
        have hw : (e.openProperty key).writer = e.writer.write (key ++ " = ") := rfl
        have hv : ((e.openProperty key).emit .comma v).writer =
            e.writer.endLines (e.writer.indentText ++ (key ++ " = ") ++
              e.writer.layout.value e.writer.depth .comma v) := by
          rw [h (key, v) (List.mem_cons_self ..) (e.openProperty key) .comma
            (by simpa [hw] using hd (key, v) (List.mem_cons_self ..)), hw]
          simp
        have hi : e.writer.indentText = e.writer.layout.indent e.writer.depth := by
          simp [indentText, hp]
        rw [emitEntries, if_neg hk, ih hrest _ (by rw [hv]; rfl) (by simpa [hv] using hdrest), hv,
          endLines_endLines, Layout.entries, if_neg hk, hi]
        simp [String.append_assoc]

/-- Items are written as they are laid out, if their values are. -/
theorem emitItems_writer {items : List Tree} (h : ∀ v ∈ items, v.WrittenAsLaidOut) (e : Emitter)
    (hp : e.writer.pending = true)
    (hd : ∀ v ∈ items, e.writer.depth + v.depth < depthModulus) :
    (e.emitItems items).writer =
      e.writer.endLines (e.writer.layout.items e.writer.depth items) := by
  induction items generalizing e with
  | nil => simp [emitItems, Layout.items, endLines_empty hp]
  | cons v items ih =>
      have hrest : ∀ v ∈ items, v.WrittenAsLaidOut := fun v hv => h v (List.mem_cons_of_mem _ hv)
      have hdrest : ∀ v ∈ items, e.writer.depth + v.depth < depthModulus :=
        fun v hv => hd v (List.mem_cons_of_mem _ hv)
      by_cases hn : v.isNull = true
      · rw [emitItems, if_pos hn, ih hrest (e.count .addNull) hp hdrest, Layout.items, if_pos hn,
          String.empty_append]
        rfl
      · -- here the value itself takes it
        have hv := h v (List.mem_cons_self ..) e .comma (hd v (List.mem_cons_self ..))
        have hi : e.writer.indentText = e.writer.layout.indent e.writer.depth := by
          simp [indentText, hp]
        rw [emitItems, if_neg hn, ih hrest _ (by rw [hv]; rfl) (by simpa [hv] using hdrest), hv,
          endLines_endLines, Layout.items, if_neg hn, hi]
        rfl

/-- **Every value is written as it is laid out.** -/
theorem emit_writer (v : Tree) : v.WrittenAsLaidOut := by
  induction v with
  | scalar v literal hv =>
      intro e t _
      rw [emit_scalar hv, putScalar_writer, countScalar_writer, Layout.value_scalar _ _ _ hv]
      simp [String.append_assoc]
  | array items ih =>
      intro e t hd
      cases items with
      | nil =>
          rw [emit, putScalar_writer]
          simp [Layout.value, count, String.append_assoc]
      | cons v vs =>
          -- the depth does not wrap around, so that the closer stands where the opener does
          have hfits : e.writer.depth + 1 < depthModulus := by
            simp only [Tree.depth] at hd
            omega
          have hdepth : e.openArray.writer.depth = e.writer.depth + 1 := by
            rw [openArray_writer]
            exact Nat.mod_eq_of_lt hfits
          have hpending : e.openArray.writer.pending = true := by
            rw [openArray_writer]
            rfl
          have hitems := emitItems_writer ih e.openArray hpending fun u hu => by
            have := Tree.depth_lt_of_mem_items hu
            omega
          rw [emit, closeArray_writer, hitems, hdepth, openArray_writer, layout_indent,
            layout_endLines, close_indent_endLines _ _ _ _ hfits, Layout.value]
          simp [String.append_assoc]
  | object entries ih =>
      intro e t hd
      have hfits : e.writer.depth + 1 < depthModulus := by
        simp only [Tree.depth] at hd
        omega
      have hdepth : e.openObject.writer.depth = e.writer.depth + 1 := by
        rw [openObject_writer]
        exact Nat.mod_eq_of_lt hfits
      have hpending : e.openObject.writer.pending = true := by
        rw [openObject_writer]
        rfl
      have hentries := emitEntries_writer ih e.openObject hpending fun m hm => by
        have := Tree.depth_lt_of_mem_entries hm
        omega
      rw [emit, closeObject_writer, hentries, hdepth, openObject_writer, layout_indent,
        layout_endLines, close_indent_endLines _ _ _ _ hfits, Layout.value]
      simp [String.append_assoc]

/-- A statement is written as it is laid out; its first line is indented at once, pending or not. -/
theorem statement_writer (e : Emitter) (className : String) (v : Tree)
    (hd : e.writer.depth + v.depth < depthModulus) :
    (e.statement className v).writer =
      e.writer.endLines (e.writer.layout.statement e.writer.depth className v) := by
  -- the lead is indented whether or not that is pending, and the value starts with none
  have hw : (e.put fun w => w.beginIndented.write (className ++ " instance = ")).writer =
      { e.writer with
        text := e.writer.text ++ e.writer.layout.indent e.writer.depth ++
          (className ++ " instance = ")
        pending := false } := by
    show e.writer.beginIndented.write _ = _
    rw [write_eq, beginIndented_eq]
    simp [indentText]
  rw [statement, emit_writer v _ _ (by simpa [hw] using hd), hw, Layout.statement]
  simp [endLines, indentText, layout, String.append_assoc]

end Emitter

/-! ### Renderings -/

/-- **The content of a rendering is the layout of its statement**, as long as no line is indented
further than a word of 64 bits can count. -/
theorem render_content (settings : Settings) (v : Tree)
    (hd : settings.baseIndent + v.depth < depthModulus) :
    (render settings v).content =
      settings.layout.statement settings.baseIndent settings.className v := by
  show ((Emitter.new settings.writer).statement settings.className v).writer.text = _
  rw [Emitter.statement_writer _ _ _ hd, Writer.text_endLines]
  exact String.empty_append ..

/-- A collection directly in a collection, which breaks an indented line, and one whose only item is
dropped. -/
theorem render_content_nested_collections :
    let settings :=
      { Settings.standard with indent := .spaces 2, lineEnding := .crlf, baseIndent := 1 }
    let v : Tree :=
      .object [("$id", .object []), ("a", .array [.array [.null], .null, .unsupported]),
        ("b", .array [])]
    settings.baseIndent + v.depth < depthModulus ∧
      (render settings v).content =
        "  MyObject instance = new()\r\n  \x7b\r\n    a = \r\n    [\r\n      \r\n      [\r\n" ++
          "      ],\r\n      default /* unsupported type */,\r\n    ],\r\n" ++
          "    b = [],\r\n  \x7d;\r\n" :=
  ⟨by decide, (render_content _ _ (by decide)).trans (by rfl)⟩

end ObjectInitializer
