/-
**The emitter only appends.**

The text that is written for a value does not depend on the text that is there already, but only on
the depth, on the layout and on whether an indent is pending.  So the lists of items and entries
may be emitted piece by piece, and what a piece writes can be told from what stands in front of it.

All of this comes from one simulation.  The emitter reaches its writer by four operations only, and
a relation between writers that each of them keeps is kept by emitting a value.  That text in front
of a writer stays in front of it is one such relation; that the line ending stays is another.

Main definitions:

* `Writer.inFront` — a writer with more text in front of its own;
* `Writer.Kept` — **relations that every operation of a writer keeps**.

Main results:

* `Emitter.emit_kept` — **emitting a value keeps what the operations of a writer keep**;
* `Emitter.emit_inFront`, `Emitter.emit_lineEnding` — text in front stays in front, and the line
  ending stays as it is;
* `Emitter.emit_array_around`, `Emitter.emit_object_around` — an array and an object are emitted
  up to one of their values, then the value, then the rest.
-/

import ObjectInitializer.Proofs.Writing

set_option relaxedAutoImplicit false
set_option autoImplicit false

namespace ObjectInitializer

/-! ### Relations between writers -/

namespace Writer

/-- The writer with a text in front of its own. -/
def inFront (front : String) (w : Writer) : Writer :=
  { w with text := front ++ w.text }

@[simp] theorem text_inFront (front : String) (w : Writer) :
    (w.inFront front).text = front ++ w.text := rfl

theorem indentText_inFront (front : String) (w : Writer) :
    (w.inFront front).indentText = w.indentText := rfl

/-- **A relation between writers that each of their operations keeps.** -/
structure Kept (R : Writer → Writer → Prop) : Prop where
  write : ∀ {w x : Writer}, R w x → ∀ s, R (w.write s) (x.write s)
  writeLine : ∀ {w x : Writer}, R w x → ∀ s, R (w.writeLine s) (x.writeLine s)
  indent : ∀ {w x : Writer}, R w x → R w.indent x.indent
  outdent : ∀ {w x : Writer}, R w x → R w.outdent x.outdent

/-- Text in front stays in front. -/
theorem kept_inFront (front : String) : Kept fun w x => w = x.inFront front where
  write := by
    rintro _ x rfl s
    rw [write_eq, write_eq, indentText_inFront]
    simp [inFront, String.append_assoc]
  writeLine := by
    rintro _ x rfl s
    rw [writeLine_eq, writeLine_eq, indentText_inFront]
    simp [inFront, endLines, layout, String.append_assoc]
  indent := by
    rintro _ x rfl
    rfl
  outdent := by
    rintro _ x rfl
    rfl

/-- The line ending stays as it is. -/
theorem kept_lineEnding (ending : LineEnding) : Kept fun w _ => w.lineEnding = ending where
  write := by
    intro w x h s
    rw [write_eq]
    exact h
  writeLine := by
    intro w x h s
    rw [writeLine_eq]
    exact h
  indent := fun h => h
  outdent := fun h => h

end Writer

/-! ### Emitting -/

namespace Emitter

variable {R : Writer → Writer → Prop} {e f : Emitter}

theorem openProperty_kept (hR : Writer.Kept R) (h : R e.writer f.writer) (key : String) :
    R (e.openProperty key).writer (f.openProperty key).writer :=
  hR.write h (key ++ " = ")

theorem openObject_kept (hR : Writer.Kept R) (h : R e.writer f.writer) :
    R e.openObject.writer f.openObject.writer :=
  hR.indent (hR.writeLine (hR.writeLine h "new()") "\x7b")

theorem openArray_kept (hR : Writer.Kept R) (h : R e.writer f.writer) :
    R e.openArray.writer f.openArray.writer :=
  hR.indent (hR.writeLine (hR.writeLine h "") "[")

theorem closeObject_kept (hR : Writer.Kept R) (h : R e.writer f.writer) (t : Terminator) :
    R (e.closeObject t).writer (f.closeObject t).writer := by
  rw [closeObject_writer, closeObject_writer]
  exact hR.writeLine (hR.outdent h) _

theorem closeArray_kept (hR : Writer.Kept R) (h : R e.writer f.writer) (t : Terminator) :
    R (e.closeArray t).writer (f.closeArray t).writer := by
  rw [closeArray_writer, closeArray_writer]
  exact hR.writeLine (hR.outdent h) _

theorem putScalar_kept (hR : Writer.Kept R) (h : R e.writer f.writer) (literal : String)
    (t : Terminator) : R (e.putScalar literal t).writer (f.putScalar literal t).writer := by
  cases t with
  | comma => exact hR.writeLine (hR.write h literal) ","
  | semicolon => exact hR.writeLine (hR.write h literal) ";"

/-- What emitting the tree keeps. -/
def Keeps (R : Writer → Writer → Prop) (v : Tree) : Prop :=
  ∀ {e f : Emitter}, R e.writer f.writer → ∀ t, R (e.emit t v).writer (f.emit t v).writer

theorem emitItems_keeps {items : List Tree} (hitems : ∀ v ∈ items, Keeps R v)
    (h : R e.writer f.writer) : R (e.emitItems items).writer (f.emitItems items).writer := by
  induction items generalizing e f with
  | nil => exact h
  | cons v vs ih =>
      obtain ⟨hv, hvs⟩ := List.forall_mem_cons.1 hitems
      rw [emitItems, emitItems]
      split
      · exact ih hvs h
      · exact ih hvs (hv h .comma)

theorem emitEntries_keeps (hR : Writer.Kept R) {entries : List (String × Tree)}
    (hentries : ∀ m ∈ entries, Keeps R m.2) (h : R e.writer f.writer) :
    R (e.emitEntries entries).writer (f.emitEntries entries).writer := by
  induction entries generalizing e f with
  | nil => exact h
  | cons m ms ih =>
      obtain ⟨key, v⟩ := m
      obtain ⟨hv, hms⟩ := List.forall_mem_cons.1 hentries
      rw [emitEntries, emitEntries]
      split
      · exact ih hms h
      · exact ih hms (hv (openProperty_kept hR h key) .comma)

/-- **Emitting a value keeps what the operations of a writer keep.** -/
theorem emit_kept (hR : Writer.Kept R) (v : Tree) : Keeps R v := by
  induction v with
  | scalar v literal hv =>
      intro e f h t
      rw [emit_scalar hv, emit_scalar hv]
      refine putScalar_kept hR ?_ literal t
      rwa [countScalar_writer, countScalar_writer]
  | array items ih =>
      intro e f h t
      cases items with
      | nil =>
          rw [emit, emit]
          refine putScalar_kept hR ?_ "[]" t
          exact h
      | cons v vs =>
          rw [emit, emit]
          exact closeArray_kept hR (emitItems_keeps ih (openArray_kept hR h)) t
  | object entries ih =>
      intro e f h t
      rw [emit, emit]
      exact closeObject_kept hR (emitEntries_keeps hR ih (openObject_kept hR h)) t

/-- Emitting items keeps it as well. -/
theorem emitItems_kept (hR : Writer.Kept R) (h : R e.writer f.writer) (items : List Tree) :
    R (e.emitItems items).writer (f.emitItems items).writer :=
  emitItems_keeps (fun v _ => emit_kept hR v) h

/-- So does emitting entries. -/
theorem emitEntries_kept (hR : Writer.Kept R) (h : R e.writer f.writer)
    (entries : List (String × Tree)) :
    R (e.emitEntries entries).writer (f.emitEntries entries).writer :=
  emitEntries_keeps hR (fun m _ => emit_kept hR m.2) h

/-! ### Values among others -/

theorem emitItems_append (e : Emitter) (items more : List Tree) :
    e.emitItems (items ++ more) = (e.emitItems items).emitItems more := by
  induction items generalizing e with
  | nil => rfl
  | cons v vs ih =>
      rw [List.cons_append, emitItems, emitItems]
      split
      · exact ih _
      · exact ih _

theorem emitEntries_append (e : Emitter) (entries more : List (String × Tree)) :
    e.emitEntries (entries ++ more) = (e.emitEntries entries).emitEntries more := by
  induction entries generalizing e with
  | nil => rfl
  | cons m ms ih =>
      obtain ⟨key, v⟩ := m
      rw [List.cons_append, emitEntries, emitEntries]
      split
      · exact ih _
      · exact ih _

/-- **An array up to one of its items**, the item, and the rest. -/
theorem emit_array_around (e : Emitter) (t : Terminator) (before after : List Tree) {v : Tree}
    (hv : ¬ v.isNull = true) :
    e.emit t (.array (before ++ v :: after)) =
      ((((e.openArray.emitItems before).emit .comma v).emitItems after).closeArray t) := by
  rw [emit_array e t (by simp), emitItems_append, emitItems, if_neg hv]

/-- **An object up to one of its entries**, the entry, and the rest. -/
theorem emit_object_around (e : Emitter) (t : Terminator) (before after : List (String × Tree))
    {key : String} (hkey : ¬ Tree.isMeta key = true) (v : Tree) :
    e.emit t (.object (before ++ (key, v) :: after)) =
      (((((e.openObject.emitEntries before).openProperty key).emit .comma v).emitEntries
        after).closeObject t) := by
  rw [emit, emitEntries_append, emitEntries, if_neg hkey]

end Emitter

end ObjectInitializer
