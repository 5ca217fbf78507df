/-
**The lines of a statement.**

A rendering is a list of lines, each with a level and a text, and the lines do not depend on how
they are laid out: the indent unit, the line ending and the depth that the statement starts at only
decide what stands in front of and behind the text of a line.  A value adds its *head* to the line
that it starts on, which is its literal, `new()`, `[]` or nothing; its *body* is the lines of its
block or collection, if it has one.

Main definitions:

* `Line` — a level, counted from that of the statement, and a text;
* `Tree.head`, `Tree.body`, `Tree.lines` — the lines of a value;
* `Tree.statementLines` — **the lines of a statement**;
* `Layout.line`, `Layout.unlines` — lines as they are laid out.

Main results:

* `Tree.entryLines_eq`, `Tree.itemLines_eq` — the lines of entries and items are those of the ones
  that are kept, one after the other;
* `content_eq_unlines` — **the content of a rendering is its lines, laid out**.
-/

import ObjectInitializer.Proofs.Writing

set_option relaxedAutoImplicit false
set_option autoImplicit false

namespace ObjectInitializer

/-! ### Lines -/

/-- A line of a statement: its level, counted from that of the statement, and its text behind the
indent. -/
structure Line where
  level : Nat
  text : String
  deriving Repr, DecidableEq

namespace Tree

/-- What a value adds to the line that it starts on. -/
def head (t : Terminator) : Tree → String
  | .array [] => "[]" ++ t.text
  | .array (_ :: _) => ""
  | .object _ => "new()"
  | v => v.literal?.getD "" ++ t.text

mutual

/-- The lines of a value under the one that it starts on. -/
def body (level : Nat) (t : Terminator) : Tree → List Line
  | .array [] => []
  | .array (item :: rest) =>
    ⟨level, "["⟩ :: (itemLines (level + 1) (item :: rest) ++ [⟨level, "]" ++ t.text⟩])
  | .object entries =>
    ⟨level, "\x7b"⟩ :: (entryLines (level + 1) entries ++ [⟨level, "\x7d" ++ t.text⟩])
  | _ => []

/-- The lines of the entries of an object, less the metadata. -/
def entryLines (level : Nat) : List (String × Tree) → List Line
  | [] => []
  | (key, v) :: rest =>
    if isMeta key then entryLines level rest
    else ⟨level, key ++ " = " ++ v.head .comma⟩ :: (body level .comma v ++ entryLines level rest)

/-- The lines of the items of an array, less the nulls. -/
def itemLines (level : Nat) : List Tree → List Line
  | [] => []
  | v :: rest =>
    if v.isNull then itemLines level rest
    else ⟨level, v.head .comma⟩ :: (body level .comma v ++ itemLines level rest)

end

/-- The lines of a value behind the text `lead`. -/
def lines (level : Nat) (lead : String) (t : Terminator) (v : Tree) : List Line :=
  ⟨level, lead ++ v.head t⟩ :: v.body level t

/-- The lines of the statement that gives `instance` of the class the value. -/
def statementLines (className : String) (v : Tree) : List Line :=
  v.lines 0 (className ++ " instance = ") .semicolon

theorem head_scalar {v : Tree} {literal : String} (hv : v.literal? = some literal)
    (t : Terminator) : v.head t = literal ++ t.text := by
  cases v with
  | array items => simp [literal?] at hv
  | object entries => simp [literal?] at hv
  | _ => simp [head, hv]

theorem body_scalar {v : Tree} {literal : String} (hv : v.literal? = some literal) (level : Nat)
    (t : Terminator) : v.body level t = [] := by
  cases v with
  | array items => simp [literal?] at hv
  | object entries => simp [literal?] at hv
  | _ => simp [body]

/-- The lines of entries are those of the entries that are no metadata, one after the other. -/
theorem entryLines_eq (level : Nat) (entries : List (String × Tree)) :
    entryLines level entries =
      (entries.filter fun e => !isMeta e.1).flatMap fun e =>
        e.2.lines level (e.1 ++ " = ") .comma := by
  induction entries with
  | nil => simp [entryLines]
  | cons e es ih =>
      obtain ⟨key, v⟩ := e
      by_cases hk : isMeta key = true
      · simp [entryLines, hk, ih]
      · simp [entryLines, hk, ih, lines]

/-- The lines of items are those of the items other than nulls, one after the other. -/
theorem itemLines_eq (level : Nat) (items : List Tree) :
    itemLines level items =
      (items.filter fun v => !v.isNull).flatMap fun v => v.lines level "" .comma := by
  induction items with
  | nil => simp [itemLines]
  | cons v vs ih =>
      by_cases hn : v.isNull = true
      · simp only [itemLines, hn, if_true, ih, Bool.not_true, Bool.false_eq_true,
          not_false_eq_true, List.filter_cons_of_neg]
      · simp only [itemLines, hn, ih, lines, Bool.not_false, List.filter_cons_of_pos,
          Bool.false_eq_true, if_false, List.flatMap_cons, String.empty_append, List.cons_append]

end Tree

/-! ### Lines as they are laid out -/

namespace Layout

/-- A line of a statement that starts at the depth `base`. -/
def line (layout : Layout) (base : Nat) (l : Line) : String :=
  layout.indent (base + l.level) ++ l.text

/-- Lines of a statement that starts at the depth `base`, with their ends. -/
def unlines (layout : Layout) (base : Nat) : List Line → String
  | [] => ""
  | l :: ls => layout.line base l ++ layout.newline ++ layout.unlines base ls

theorem unlines_append (layout : Layout) (base : Nat) (ls ms : List Line) :
    layout.unlines base (ls ++ ms) = layout.unlines base ls ++ layout.unlines base ms := by
  induction ls with
  | nil => simp [unlines]
  | cons l ls ih => simp [unlines, ih, String.append_assoc]

/-- A tree is laid out in its lines, wherever it stands. -/
def LaysOutInLines (layout : Layout) (v : Tree) : Prop :=
  ∀ (base level : Nat) (t : Terminator),
    layout.value (base + level) t v =
      v.head t ++ layout.newline ++ layout.unlines base (v.body level t)

theorem entries_eq_unlines {layout : Layout} {entries : List (String × Tree)}
    (h : ∀ e ∈ entries, layout.LaysOutInLines e.2) (base level : Nat) :
    layout.entries (base + level) entries =
      layout.unlines base (Tree.entryLines level entries) := by
  induction entries with
  | nil => simp [Layout.entries, Tree.entryLines, unlines]
  | cons e es ih =>
      obtain ⟨key, v⟩ := e
      rw [Layout.entries, Tree.entryLines, ih fun e he => h e (List.mem_cons_of_mem _ he)]
      by_cases hk : Tree.isMeta key = true
      · rw [if_pos hk, if_pos hk, String.empty_append]
      · -- the head ends the line of the key, and the body stands below it
        rw [if_neg hk, if_neg hk, unlines, unlines_append,
          h (key, v) (List.mem_cons_self ..) base level .comma, line]
        simp [String.append_assoc]

theorem items_eq_unlines {layout : Layout} {items : List Tree}
    (h : ∀ v ∈ items, layout.LaysOutInLines v) (base level : Nat) :
    layout.items (base + level) items =
      layout.unlines base (Tree.itemLines level items) := by
  induction items with
  | nil => simp [Layout.items, Tree.itemLines, unlines]
  | cons v vs ih =>
      rw [Layout.items, Tree.itemLines, ih fun v hv => h v (List.mem_cons_of_mem _ hv)]
      by_cases hn : v.isNull = true
      · rw [if_pos hn, if_pos hn, String.empty_append]
      · rw [if_neg hn, if_neg hn, unlines, unlines_append,
          h v (List.mem_cons_self ..) base level .comma, line]
        simp [String.append_assoc]

/-- **A value is laid out in its lines**: its head ends the line that it starts on, and the lines of
its body follow. -/
theorem value_eq_unlines (layout : Layout) (v : Tree) : layout.LaysOutInLines v := by
  induction v with
  | scalar v literal hv =>
      intro base level t
      rw [value_scalar _ _ _ hv, Tree.head_scalar hv, Tree.body_scalar hv, unlines,
        String.append_empty]
  | array items ih =>
      intro base level t
      cases items with
      | nil => simp [value, Tree.head, Tree.body, unlines]
      | cons v vs =>
          -- the head is empty, so that the line ends where the value starts
          rw [value, Nat.add_assoc, items_eq_unlines ih, Tree.head, Tree.body, unlines,
            unlines_append, unlines, unlines, line, line]
          simp [String.append_assoc]
  | object entries ih =>
      intro base level t
      rw [value, Nat.add_assoc, entries_eq_unlines ih, Tree.head, Tree.body, unlines,
        unlines_append, unlines, unlines, line, line]
      simp [String.append_assoc]

theorem statement_eq_unlines (layout : Layout) (base : Nat) (className : String) (v : Tree) :
    layout.statement base className v = layout.unlines base (v.statementLines className) := by
  rw [statement, show base = base + 0 from rfl, value_eq_unlines layout v base 0 .semicolon,
    Tree.statementLines, Tree.lines, unlines, line]
  simp [String.append_assoc]

end Layout

/-- **The content of a rendering is its lines, laid out.** -/
theorem content_eq_unlines (settings : Settings) (v : Tree)
    (hd : settings.baseIndent + v.depth < depthModulus) :
    (render settings v).content =
      settings.layout.unlines settings.baseIndent (v.statementLines settings.className) := by
  show ((Emitter.new settings.writer).statement settings.className v).writer.text = _
  rw [Emitter.statement_writer _ _ _ hd, Layout.statement_eq_unlines, Writer.text_endLines]
  exact String.empty_append ..

end ObjectInitializer
