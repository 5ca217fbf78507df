/-
**Counting on the lines.**

A rendering comes with counts, and nothing in the emitter says that they count anything of the
text: a line is written in one place, and a count is raised in another.  This module recounts from
the text alone.  A content is cut at its line endings, and the indent of each line is taken off;
then objects are the lines that are an opening brace, arrays are the lines that are an opening
bracket or end with `[]` and a terminator, and properties are the lines that stand directly inside
of a block.

A key or a text may be a bracket, end with `[]`, or look like a property, so that it has to be shown
of every value which of the lines that it is written with are of a kind (`LineKind`): the line that
it starts on, and those of its brackets.  Each value has at most one line of a kind, and from there
the lines of a kind are counted through the tree once for all kinds (`Tree.countP_lines`).

Main definitions:

* `Layout.Reads` — the lines of a content, less their indents;
* `insideBlocks` — the lines that stand directly inside of a block;
* `Tree.properties` — the properties of a tree, in the order of the document;
* `LineKind` — a kind of lines, and the values that have one.

Main results:

* `Layout.Reads.unique` — a content has no more than one reading;
* `Tree.countP_lines` — **lines of a kind are nodes that have one**;
* `Tree.insideBlocks_body` — **the lines inside of blocks are the properties**;
* `render_line_counts` — **the counts of a rendering are counts of its lines**.
-/

import ObjectInitializer.Proofs.Faithful
import ObjectInitializer.Proofs.Relayout

set_option relaxedAutoImplicit false
set_option autoImplicit false

namespace ObjectInitializer

/-! ### Reading the lines of a content -/

/-- **The lines of a content, less their indents.**  Cut at its line endings, the content is the
lines, each behind an indent of its level, counted from the base; and the level of a line is the
number of openers less the number of closers in front of it, less one if it is a closer itself. -/
structure Layout.Reads (layout : Layout) (base : Nat) (content : String) (ls : List Line) :
    Prop where
  cut : layout.lineEnding.cut content = ls.map (layout.line base) ++ [""]
  level : ∀ (i : Nat) (hi : i < ls.length),
    (ls[i].level : Int) = (ls.take i).countP Line.isOpener - (ls.take i).countP Line.isCloser -
      if ls[i].isCloser then 1 else 0

/-- A closer starts with its bracket. -/
theorem Line.head?_of_isCloser {l : Line} (h : l.isCloser = true) :
    l.text.toList.head? = some '\x7d' ∨ l.text.toList.head? = some ']' := by
  rw [isCloser] at h
  cases hmark : mark l.text with
  | closer b t =>
      rw [eq_closer_of_mark_eq hmark]
      cases b with
      | brace => exact Or.inl (by simp [Bracket.closer])
      | square => exact Or.inr (by simp [Bracket.closer])
  | opener b => rw [hmark] at h; cases h
  | none => rw [hmark] at h; cases h

namespace Layout

variable {layout : Layout} {base : Nat}

/-- A closer is not another line with one indent more in front. -/
theorem line_ne_of_isCloser (hl : layout.IsBlank) {l m : Line} (hcloser : m.isCloser = true)
    (hlevel : l.level = m.level + 1) : layout.line base l ≠ layout.line base m := by
  obtain ⟨level, x⟩ := l
  obtain rfl : level = m.level + 1 := hlevel
  rcases Line.head?_of_isCloser hcloser with hhead | hhead
  · exact line_ne_of_bracket hl m.level x _ hhead (by decide) (by decide)
  · exact line_ne_of_bracket hl m.level x _ hhead (by decide) (by decide)

/-- Lines that are laid out alike are the same, if the same brackets are open in front of them. -/
theorem eq_of_line_eq (hl : layout.IsBlank) {l m : Line} {opened : Int}
    (hlevel : (l.level : Int) = opened - if l.isCloser then 1 else 0)
    (hlevel' : (m.level : Int) = opened - if m.isCloser then 1 else 0)
    (h : layout.line base l = layout.line base m) : l = m := by
  by_cases hclosers : l.isCloser = m.isCloser
  · have hsame : l.level = m.level := by
      rw [hclosers] at hlevel
      omega
    obtain ⟨level, x⟩ := l
    obtain ⟨level', y⟩ := m
    obtain rfl : level = level' := hsame
    rw [text_eq_of_line_eq h]
  · cases hcloser : l.isCloser with
    | true =>
        have hother : m.isCloser = false := by simpa [hcloser] using hclosers
        rw [if_pos hcloser] at hlevel
        rw [hother] at hlevel'
        exact absurd h.symm (line_ne_of_isCloser hl hcloser (by simp at hlevel'; omega))
    | false =>
        have hother : m.isCloser = true := by simpa [hcloser] using hclosers
        rw [hcloser] at hlevel
        rw [if_pos hother] at hlevel'
        exact absurd h (line_ne_of_isCloser hl hother (by simp at hlevel; omega))

/-- **A content has no more than one reading.** -/
theorem Reads.unique (hl : layout.IsBlank) {content : String} {ls ms : List Line}
    (hls : layout.Reads base content ls) (hms : layout.Reads base content ms) : ls = ms := by
  have hmap : ls.map (layout.line base) = ms.map (layout.line base) :=
    List.append_cancel_right (hls.cut.symm.trans hms.cut)
  have hlength : ls.length = ms.length := by simpa using congrArg List.length hmap
  -- the lines in front decide which brackets are open, so that the readings agree line by line
  have htake (n : Nat) (hn : n ≤ ls.length) : ls.take n = ms.take n := by
    induction n with
    | zero => rw [List.take_zero, List.take_zero]
    | succ n ih =>
        have hfront := ih (by omega)
        have hi : n < ls.length := by omega
        have hi' : n < ms.length := by omega
        have hline : layout.line base ls[n] = layout.line base ms[n] := by
          simpa [hi, hi'] using congrArg (fun xs => xs[n]?) hmap
        have hlevel := hls.level n hi
        rw [hfront] at hlevel
        rw [List.take_succ_eq_append_getElem hi, List.take_succ_eq_append_getElem hi', hfront,
          eq_of_line_eq hl hlevel (hms.level n hi') hline]
  have hall := htake ls.length (Nat.le_refl _)
  rwa [List.take_length, hlength, List.take_length] at hall

end Layout

/-! ### Lines inside of blocks -/

/-- **The lines that stand directly inside of a block**: neither openers nor closers, and a brace is
the innermost bracket that is open in front of them. -/
def insideBlocks (stack : List Bracket) : List String → List String
  | [] => []
  | x :: xs =>
    match mark x with
    | .opener b => insideBlocks (b :: stack) xs
    | .closer _ _ => insideBlocks stack.tail xs
    | .none =>
      if stack.head? = some .brace then x :: insideBlocks stack xs else insideBlocks stack xs

/-- Lines that can be followed are looked at one part after the other. -/
theorem Walk.insideBlocks_append {stack out : List Bracket} {ls : List Line}
    (h : Walk stack ls out) (xs : List String) :
    insideBlocks stack (ls.map Line.text ++ xs) =
      insideBlocks stack (ls.map Line.text) ++ insideBlocks out xs := by
  induction h with
  | done stack => rfl
  | @plain stack out l ls _ hmark _ ih =>
      rw [List.map_cons, List.cons_append, insideBlocks, insideBlocks, hmark]
      dsimp only
      rw [ih]
      split
      · rfl
      · rfl
  | opener _ hmark _ ih =>
      rw [List.map_cons, List.cons_append, insideBlocks, insideBlocks, hmark]
      exact ih
  | closer _ hmark _ ih =>
      rw [List.map_cons, List.cons_append, insideBlocks, insideBlocks, hmark]
      exact ih

/-- Brackets that stand around lines are not counted among them. -/
theorem insideBlocks_block {stack : List Bracket} {b : Bracket} {t : Terminator} {level : Nat}
    {ls : List Line} (h : Walk (b :: stack) ls (b :: stack)) :
    insideBlocks stack
        ((⟨level, b.opener⟩ :: (ls ++ [⟨level, b.closer t⟩]) : List Line).map Line.text) =
      insideBlocks (b :: stack) (ls.map Line.text) := by
  rw [List.map_cons, List.map_append, insideBlocks, mark_opener]
  dsimp only
  rw [h.insideBlocks_append, List.map_singleton, insideBlocks, mark_closer]
  exact List.append_nil _

/-- Parts that leave the stack as it is are looked at one after the other. -/
theorem insideBlocks_flatMap {α : Type} {stack : List Bracket} {lines : α → List Line}
    {inside : α → List String} {xs : List α} (hwalk : ∀ x ∈ xs, Walk stack (lines x) stack)
    (h : ∀ x ∈ xs, insideBlocks stack ((lines x).map Line.text) = inside x) :
    insideBlocks stack ((xs.flatMap lines).map Line.text) = xs.flatMap inside := by
  induction xs with
  | nil => rfl
  | cons x xs ih =>
      obtain ⟨hx, hxs⟩ := List.forall_mem_cons.1 hwalk
      obtain ⟨hin, hins⟩ := List.forall_mem_cons.1 h
      rw [List.flatMap_cons, List.flatMap_cons, List.map_append, hx.insideBlocks_append, hin,
        ih hxs hins]

/-! ### Properties -/

namespace Tree

mutual

/-- **The properties of a tree**, in the order of the document: the entries of its objects that are
no metadata, and do not lie under metadata. -/
def properties : Tree → List (String × Tree)
  | .array items => itemProperties items
  | .object entries => entryProperties entries
  | _ => []

/-- The properties of the items of an array. -/
def itemProperties : List Tree → List (String × Tree)
  | [] => []
  | v :: vs => properties v ++ itemProperties vs

/-- The entries that are no metadata, each in front of the properties of its value. -/
def entryProperties : List (String × Tree) → List (String × Tree)
  | [] => []
  | (key, v) :: es =>
    if isMeta key then entryProperties es else (key, v) :: (properties v ++ entryProperties es)

end

theorem properties_scalar {v : Tree} {literal : String} (hv : v.literal? = some literal) :
    v.properties = [] := by
  cases v with
  | array items => simp [literal?] at hv
  | object entries => simp [literal?] at hv
  | _ => rfl

/-- Nulls have no properties, so that it does not matter that arrays drop them. -/
theorem itemProperties_eq (items : List Tree) :
    itemProperties items = (items.filter fun v => !v.isNull).flatMap properties := by
  induction items with
  | nil => rfl
  | cons v vs ih =>
      by_cases hn : v.isNull = true
      · rw [itemProperties, ih, (isNull_eq_true_iff v).1 hn]
        rfl
      · rw [itemProperties, ih, List.filter_cons_of_pos (by simp [hn]), List.flatMap_cons]

theorem entryProperties_eq (entries : List (String × Tree)) :
    entryProperties entries =
      (entries.filter fun e => !isMeta e.1).flatMap fun e => e :: e.2.properties := by
  induction entries with
  | nil => rfl
  | cons e es ih =>
      obtain ⟨key, v⟩ := e
      by_cases hk : isMeta key = true
      · rw [entryProperties, if_pos hk, ih, List.filter_cons_of_neg (by simp [hk])]
      · rw [entryProperties, if_neg hk, ih, List.filter_cons_of_pos (by simp [hk]),
          List.flatMap_cons, List.cons_append]

/-- The line that a property starts on. -/
def propertyLine (e : String × Tree) : String :=
  e.1 ++ " = " ++ e.2.head .comma

/-- The lines below a value that stand inside of a block are those that its properties start on. -/
def BodyLists (v : Tree) : Prop :=
  v.WrittenIn Inline → ∀ (stack : List Bracket) (t : Terminator),
    insideBlocks stack ((v.body stack.length t).map Line.text) = v.properties.map propertyLine

/-- So it is with all lines of a value, but for the first, which is inside of a block if the value
is. -/
theorem BodyLists.lines {v : Tree} (hv : v.BodyLists) (hw : v.WrittenIn Inline)
    (stack : List Bracket) {lead : String} {t : Terminator}
    (hmark : mark (lead ++ v.head t) = .none) :
    insideBlocks stack ((v.lines stack.length lead t).map Line.text) =
      (if stack.head? = some .brace then [lead ++ v.head t] else []) ++
        v.properties.map propertyLine := by
  simp only [Tree.lines, List.map_cons, insideBlocks, hmark, hv hw stack t]
  split
  · rfl
  · rfl

/-- **The lines inside of blocks are the properties**, in the order of the document. -/
theorem insideBlocks_body (v : Tree) : v.BodyLists := by
  induction v with
  | scalar v literal hv =>
      intro _ stack t
      rw [body_scalar hv, properties_scalar hv]
      rfl
  | array items ih =>
      intro hw stack t
      cases items with
      | nil => rw [body]; rfl
      | cons v vs =>
          -- items stand inside of a bracket, whatever block is around it
          have hitem (u : Tree) (hu : u ∈ (v :: vs).filter fun u => !u.isNull) :
              Walk (.square :: stack) (u.lines (stack.length + 1) "" .comma) (.square :: stack) ∧
                insideBlocks (.square :: stack)
                    ((u.lines (stack.length + 1) "" .comma).map Line.text) =
                  u.properties.map propertyLine := by
            have hmem := (List.mem_filter.1 hu).1
            have hwritten := writtenIn_array.1 hw u hmem
            have hmark : mark ("" ++ u.head .comma) = .none := by
              rw [String.empty_append]
              exact mark_head hwritten
            exact ⟨(walk_body u).lines hwritten _ hmark, (ih u hmem).lines hwritten _ hmark⟩
          have hwalk := Walk.flatMap fun u hu => (hitem u hu).1
          rw [body, properties, itemProperties_eq, itemLines_eq, List.map_flatMap]
          exact (insideBlocks_block hwalk).trans
            (insideBlocks_flatMap (fun u hu => (hitem u hu).1) fun u hu => (hitem u hu).2)
  | object entries ih =>
      intro hw stack t
      have hentry (e : String × Tree) (he : e ∈ entries.filter fun e => !isMeta e.1) :
          Walk (.brace :: stack) (e.2.lines (stack.length + 1) (e.1 ++ " = ") .comma)
              (.brace :: stack) ∧
            insideBlocks (.brace :: stack)
                ((e.2.lines (stack.length + 1) (e.1 ++ " = ") .comma).map Line.text) =
              (e :: e.2.properties).map propertyLine := by
        have hmem := (List.mem_filter.1 he).1
        have hwritten := (writtenIn_object.1 hw e hmem).2
        have hmark := mark_key_head e.1 e.2 .comma
        exact ⟨(walk_body e.2).lines hwritten _ hmark, (ih e hmem).lines hwritten _ hmark⟩
      have hwalk := Walk.flatMap fun e he => (hentry e he).1
      rw [body, properties, entryProperties_eq, entryLines_eq, List.map_flatMap]
      exact (insideBlocks_block hwalk).trans
        (insideBlocks_flatMap (fun e he => (hentry e he).1) fun e he => (hentry e he).2)

/-- There are as many properties as the nodes have entries that are no metadata. -/
theorem length_properties (v : Tree) (level : Nat) (isItem : Bool) :
    v.properties.length =
      ((v.nodesAt level isItem).map fun n => n.tree.entries.countP fun e => !isMeta e.1).sum := by
  induction v generalizing level isItem with
  | scalar v literal hv =>
      have hentries : v.entries = [] := by
        cases v with
        | object entries => simp [literal?] at hv
        | _ => rfl
      rw [properties_scalar hv, nodesAt_scalar hv]
      simp [hentries]
  | array items ih =>
      have hitems : (itemProperties items).length =
          ((itemNodes (level + 1) items).map fun n =>
            n.tree.entries.countP fun e => !isMeta e.1).sum := by
        induction items with
        | nil => rfl
        | cons v vs ihs =>
            obtain ⟨hv, hvs⟩ := List.forall_mem_cons.1 ih
            rw [itemProperties, itemNodes, List.length_append, List.map_append, List.sum_append,
              hv (level + 1) true, ihs hvs]
      rw [properties, nodesAt, List.map_cons, List.sum_cons, hitems]
      exact (Nat.zero_add _).symm
  | object entries ih =>
      have hentries : (entryProperties entries).length =
          (entries.countP fun e => !isMeta e.1) + ((entryNodes (level + 1) entries).map fun n =>
            n.tree.entries.countP fun e => !isMeta e.1).sum := by
        induction entries with
        | nil => rfl
        | cons e es ihs =>
            obtain ⟨key, v⟩ := e
            obtain ⟨hv, hes⟩ := List.forall_mem_cons.1 ih
            by_cases hk : isMeta key = true
            · rw [entryProperties, entryNodes, if_pos hk, if_pos hk,
                List.countP_cons_of_neg (by simp [hk]), ihs hes]
            · rw [entryProperties, entryNodes, if_neg hk, if_neg hk,
                List.countP_cons_of_pos (by simp [hk]), List.length_cons, List.length_append,
                List.map_append, List.sum_append, hv (level + 1) false, ihs hes]
              dsimp only
              omega
      rw [properties, nodesAt, List.map_cons, List.sum_cons, hentries]
      rfl

end Tree

/-! ### Lines of a kind -/

/-- What can stand in front of a value on the line that it starts on: nothing for an item, and a
name with an equals sign otherwise. -/
inductive Lead : String → Terminator → Prop where
  | item : Lead "" .comma
  | named (name : String) (t : Terminator) : Lead (name ++ " = ") t

theorem Lead.mark_head {lead : String} {t : Terminator} (h : Lead lead t) {v : Tree}
    (hw : v.WrittenIn Inline) : mark (lead ++ v.head t) = .none := by
  cases h with
  | item =>
      rw [String.empty_append]
      exact Tree.mark_head hw
  | named name t => exact Tree.mark_key_head name v t

/-- The bracket that a value is written with, if it has one. -/
def Tree.bracket? : Tree → Option Bracket
  | .array (_ :: _) => some .square
  | .object _ => some .brace
  | _ => none

/-- The lines of the bracket that a value is written with. -/
def Tree.brackets (t : Terminator) (v : Tree) : List String :=
  match v.bracket? with
  | some b => [b.opener, b.closer t]
  | none => []

theorem Tree.bracket?_scalar {v : Tree} {literal : String} (hv : v.literal? = some literal) :
    v.bracket? = none := by
  cases v with
  | array items => simp [literal?] at hv
  | object entries => simp [literal?] at hv
  | _ => rfl

/-- **A kind of lines, and the values that have one**: among the line that a value starts on and the
lines of its brackets, one is of the kind if the value has one, and none otherwise. -/
def LineKind (p : String → Bool) (own : Tree → Bool) : Prop :=
  ∀ (v : Tree) (lead : String) (t : Terminator), v.WrittenIn Inline → Lead lead t →
    (p (lead ++ v.head t)).toNat + (v.brackets t).countP p = (own v).toNat

namespace Tree

variable {p : String → Bool} {own : Tree → Bool}

/-- The lines of a kind among those of the value are its nodes that have one. -/
def CountsLines (p : String → Bool) (own : Tree → Bool) (v : Tree) : Prop :=
  v.WrittenIn Inline → ∀ (level : Nat) (lead : String) (t : Terminator), Lead lead t →
    ∀ (place : Nat) (isItem : Bool), ((v.lines level lead t).countP fun l => p l.text) =
      (v.nodesAt place isItem).countP fun n => own n.tree

theorem countP_itemLines (hnull : own .null = false) {items : List Tree}
    (h : ∀ v ∈ items, v.CountsLines p own) (hw : ∀ v ∈ items, v.WrittenIn Inline)
    (level place : Nat) :
    ((itemLines level items).countP fun l => p l.text) =
      (itemNodes place items).countP fun n => own n.tree := by
  induction items with
  | nil => rfl
  | cons v vs ih =>
      obtain ⟨hv, hvs⟩ := List.forall_mem_cons.1 h
      obtain ⟨hwv, hwvs⟩ := List.forall_mem_cons.1 hw
      rw [itemNodes, List.countP_append, ← ih hvs hwvs]
      by_cases hn : v.isNull = true
      · -- a null is a node, but not of the kind
        obtain rfl := (isNull_eq_true_iff v).1 hn
        rw [itemLines, if_pos hn, nodesAt_scalar rfl, List.countP_cons_of_neg (by simp [hnull]),
          List.countP_nil, Nat.zero_add]
      · have hlines := hv hwv level "" .comma .item place true
        rw [Tree.lines, String.empty_append] at hlines
        rw [itemLines, if_neg hn, ← List.cons_append, List.countP_append, hlines]

theorem countP_entryLines {entries : List (String × Tree)}
    (h : ∀ e ∈ entries, e.2.CountsLines p own) (hw : ∀ e ∈ entries, e.2.WrittenIn Inline)
    (level place : Nat) :
    ((entryLines level entries).countP fun l => p l.text) =
      (entryNodes place entries).countP fun n => own n.tree := by
  induction entries with
  | nil => rfl
  | cons e es ih =>
      obtain ⟨key, v⟩ := e
      obtain ⟨hv, hes⟩ := List.forall_mem_cons.1 h
      obtain ⟨hwv, hwes⟩ := List.forall_mem_cons.1 hw
      by_cases hk : isMeta key = true
      · rw [entryLines, entryNodes, if_pos hk, if_pos hk, ih hes hwes]
      · have hlines := hv hwv level (key ++ " = ") .comma (.named key .comma) place false
        rw [Tree.lines] at hlines
        rw [entryLines, entryNodes, if_neg hk, if_neg hk, List.countP_append, ← ih hes hwes,
          ← List.cons_append, List.countP_append, hlines]

/-- A value and its brackets are counted where the value is, around what is inside. -/
theorem countP_around (hkind : LineKind p own) {v : Tree} (hw : v.WrittenIn Inline) {lead : String}
    {t : Terminator} (hlead : Lead lead t) {level level' : Nat} {b : Bracket}
    (hbrackets : v.brackets t = [b.opener, b.closer t]) (inner : List Line) {inside : List Node}
    (hinner : (inner.countP fun l => p l.text) = inside.countP fun n => own n.tree) (n : Node)
    (hn : n.tree = v) :
    ((⟨level, lead ++ v.head t⟩ :: ⟨level', b.opener⟩ :: (inner ++ [⟨level', b.closer t⟩]) :
        List Line).countP fun l => p l.text) =
      (n :: inside).countP fun n => own n.tree := by
  have hown := hkind v lead t hw hlead
  rw [hbrackets, countP_cons_toNat, countP_cons_toNat, List.countP_nil] at hown
  rw [countP_cons_toNat, countP_cons_toNat, List.countP_append, hinner, countP_cons_toNat,
    List.countP_nil, countP_cons_toNat, hn]
  dsimp only
  omega

/-- **Lines of a kind are nodes that have one.** -/
theorem countP_lines (hkind : LineKind p own) (hnull : own .null = false) (v : Tree) :
    v.CountsLines p own := by
  induction v with
  | scalar v literal hv =>
      intro hw level lead t hlead place isItem
      have hown := hkind v lead t hw hlead
      rw [brackets, bracket?_scalar hv, List.countP_nil, Nat.add_zero] at hown
      rw [Tree.lines, body_scalar hv, nodesAt_scalar hv, countP_cons_toNat, countP_cons_toNat, hown]
      rfl
  | array items ih =>
      intro hw level lead t hlead place isItem
      cases items with
      | nil =>
          have hown : (p (lead ++ head t (.array []))).toNat = (own (.array [])).toNat :=
            hkind (.array []) lead t hw hlead
          rw [Tree.lines, body, nodesAt, itemNodes, countP_cons_toNat, countP_cons_toNat, hown]
          rfl
      | cons v vs =>
          have hitems := countP_itemLines hnull ih (writtenIn_array.1 hw) (level + 1) (place + 1)
          rw [Tree.lines, body, nodesAt]
          exact countP_around hkind hw hlead (b := .square) rfl _ hitems _ rfl
  | object entries ih =>
      intro hw level lead t hlead place isItem
      have hentries := countP_entryLines ih (fun e he => (writtenIn_object.1 hw e he).2) (level + 1)
        (place + 1)
      rw [Tree.lines, body, nodesAt]
      exact countP_around hkind hw hlead (b := .brace) rfl _ hentries _ rfl

/-- The lines of a kind in a statement are the nodes of the value that have one. -/
theorem countP_statementLines (hkind : LineKind p own) (hnull : own .null = false) {v : Tree}
    (hw : v.WrittenIn Inline) (className : String) :
    (((v.statementLines className).map Line.text).countP p) =
      v.nodes.countP fun n => own n.tree := by
  have hlead : Lead (className ++ " instance = ") .semicolon := by
    have h := Lead.named (className ++ " instance") .semicolon
    rwa [String.append_assoc] at h
  rw [List.countP_map]
  exact countP_lines hkind hnull v hw 0 _ .semicolon hlead 0 false

end Tree

/-! ### The kinds that are counted -/

/-- Whether the value is written with the bracket. -/
def Tree.isIn (b : Bracket) (v : Tree) : Bool :=
  v.bracket? == some b

/-- A kind of lines that are marks belongs to a bracket, if either of its lines is of the kind, and
none of the other bracket. -/
theorem lineKind_of_bracket {p : String → Bool} {b : Bracket}
    (hmark : ∀ x, mark x = .none → p x = false)
    (hbracket : ∀ (b' : Bracket) (t : Terminator),
      [b'.opener, b'.closer t].countP p = (b' == b).toNat) : LineKind p (Tree.isIn b) := by
  intro v lead t hw hlead
  rw [hmark _ (hlead.mark_head hw), Tree.isIn, Tree.brackets]
  cases v.bracket? with
  | none => rfl
  | some b' => exact (Nat.zero_add _).trans (hbracket b' t)

/-- The line opens the bracket. -/
theorem lineKind_opener (b : Bracket) : LineKind (· == b.opener) (Tree.isIn b) := by
  refine lineKind_of_bracket (fun x hx => ?_) fun b' t => ?_
  · rw [beq_eq_false_iff_ne]
    rintro rfl
    rw [mark_opener] at hx
    cases hx
  · cases b <;> cases b' <;> cases t <;> decide

/-- The line closes the bracket, whatever terminator stands behind. -/
theorem lineKind_closer (b : Bracket) :
    LineKind (fun x => x == b.closer .comma || x == b.closer .semicolon) (Tree.isIn b) := by
  refine lineKind_of_bracket (fun x hx => ?_) fun b' t => ?_
  · have hne (t : Terminator) : (x == b.closer t) = false := by
      rw [beq_eq_false_iff_ne]
      rintro rfl
      rw [mark_closer] at hx
      cases hx
    rw [hne, hne]
    rfl
  · cases b <;> cases b' <;> cases t <;> decide

/-- The line ends with `[]` and a terminator. -/
def endsEmptyArray (x : String) : Bool :=
  "[],".toList.isSuffixOf x.toList || "[];".toList.isSuffixOf x.toList

/-- Read from behind, such a line starts with a terminator and a closing bracket. -/
theorem reverse_of_endsEmptyArray {x : String} (h : endsEmptyArray x = true) :
    ∃ c rest, x.toList.reverse = c :: ']' :: rest ∧ (c = ',' ∨ c = ';') := by
  rw [endsEmptyArray, Bool.or_eq_true, List.isSuffixOf_iff_suffix, List.isSuffixOf_iff_suffix] at h
  rcases h with ⟨front, hx⟩ | ⟨front, hx⟩
  · exact ⟨',', '[' :: front.reverse, by rw [← hx]; simp, Or.inl rfl⟩
  · exact ⟨';', '[' :: front.reverse, by rw [← hx]; simp, Or.inr rfl⟩

/-- Literals do not end with a closing bracket. -/
theorem Tree.exists_literal_eq {v : Tree} {literal : String} (hw : v.WrittenIn Inline)
    (hv : v.literal? = some literal) :
    ∃ front last, literal.toList = front ++ [last] ∧ last ≠ ']' := by
  cases v with
  | null => cases hv; exact ⟨['n', 'u', 'l'], 'l', rfl, by decide⟩
  | bool b =>
      cases b with
      | true => cases hv; exact ⟨['t', 'r', 'u'], 'e', rfl, by decide⟩
      | false => cases hv; exact ⟨['f', 'a', 'l', 's'], 'e', rfl, by decide⟩
  | unsupported => cases hv; exact ⟨unsupportedLiteral.toList.dropLast, '/', by decide, by decide⟩
  | number text =>
      obtain rfl : text = literal := Option.some.inj hv
      rw [WrittenIn] at hw
      obtain ⟨c, rest, htext, -⟩ := hw.starts
      obtain ⟨front, last, hlast⟩ := List.eq_nil_or_concat' text.toList |>.resolve_left
        (by rw [htext]; exact List.cons_ne_nil _ _)
      refine ⟨front, last, hlast, ?_⟩
      rintro rfl
      have hmem : ']' ∈ text.toList := by rw [hlast]; exact List.mem_append_right _ (.head _)
      exact absurd (hw.chars _ hmem) (by decide)
  | string text =>
      obtain rfl : stringLiteral text = literal := Option.some.inj hv
      exact ⟨'"' :: text.toList, '"', by simp [stringLiteral], by decide⟩
  | array items => simp [literal?] at hv
  | object entries => simp [literal?] at hv

/-- Whether the value is an array without items. -/
def Tree.isEmptyArray : Tree → Bool
  | .array [] => true
  | _ => false

theorem Tree.isEmptyArray_scalar {v : Tree} {literal : String} (hv : v.literal? = some literal) :
    v.isEmptyArray = false := by
  cases v with
  | array items => simp [literal?] at hv
  | _ => rfl

/-- The line ends with the brackets of an array without items. -/
theorem lineKind_endsEmptyArray : LineKind endsEmptyArray Tree.isEmptyArray := by
  intro v lead t hw hlead
  -- a line that ends with neither a comma nor a semicolon is not of the kind
  have hother (c : Char) (rest : List Char) {x : String} (hx : x.toList.reverse = c :: rest)
      (hc : c ≠ ',' ∧ c ≠ ';') : endsEmptyArray x = false := by
    rw [Bool.eq_false_iff]
    intro hends
    obtain ⟨c', rest', hx', hc'⟩ := reverse_of_endsEmptyArray hends
    rw [hx] at hx'
    obtain rfl := (List.cons.inj hx').1
    rcases hc' with rfl | rfl
    · exact hc.1 rfl
    · exact hc.2 rfl
  have hbracket (b : Bracket) : [b.opener, b.closer t].countP endsEmptyArray = 0 := by
    cases b <;> cases t <;> decide
  cases hv : v.literal? with
  | some literal =>
      obtain ⟨front, last, hliteral, hlast⟩ := Tree.exists_literal_eq hw hv
      have hends : endsEmptyArray (lead ++ v.head t) = false := by
        rw [Bool.eq_false_iff]
        intro hends
        obtain ⟨c, rest, hx, -⟩ := reverse_of_endsEmptyArray hends
        rw [Tree.head_scalar hv] at hx
        cases t with
        | comma => simp [hliteral, Terminator.text, hlast] at hx
        | semicolon => simp [hliteral, Terminator.text, hlast] at hx
      rw [hends, Tree.brackets, Tree.bracket?_scalar hv, Tree.isEmptyArray_scalar hv]
      rfl
  | none =>
      cases v with
      | array items =>
          cases items with
          | nil =>
              have hends : endsEmptyArray (lead ++ "[]" ++ t.text) = true := by
                cases t <;> simp [endsEmptyArray, Terminator.text]
              rw [Tree.head, ← String.append_assoc, hends]
              rfl
          | cons v vs =>
              have hends : endsEmptyArray lead = false := by
                cases hlead with
                | item => decide
                | named name t =>
                    exact hother ' ' ('=' :: ' ' :: name.toList.reverse) (by simp) (by decide)
              rw [Tree.head, String.append_empty, hends]
              exact (Nat.zero_add _).trans (hbracket .square)
      | object entries =>
          have hends : endsEmptyArray (lead ++ "new()") = false :=
            hother ')' ('(' :: 'w' :: 'e' :: 'n' :: lead.toList.reverse) (by simp) (by decide)
          rw [Tree.head, hends]
          exact (Nat.zero_add _).trans (hbracket .brace)
      | bool b => cases b <;> cases hv
      | _ => cases hv

/-! ### Renderings -/

theorem Tree.isObject_eq (v : Tree) : v.isObject = v.isIn .brace := by
  cases v with
  | array items => cases items <;> rfl
  | _ => rfl

/-- Arrays are counted as those that have items and those that have none. -/
theorem Tree.countP_isArray (ns : List Node) :
    (ns.countP fun n => n.tree.isArray) =
      (ns.countP fun n => n.tree.isIn .square) + ns.countP fun n => n.tree.isEmptyArray := by
  induction ns with
  | nil => rfl
  | cons n ns ih =>
      have hone : n.tree.isArray.toNat =
          (n.tree.isIn .square).toNat + n.tree.isEmptyArray.toNat := by
        cases n.tree with
        | array items => cases items <;> rfl
        | _ => rfl
      rw [countP_cons_toNat, countP_cons_toNat, countP_cons_toNat, ih, hone]
      omega

/-- What can be counted on the lines of a statement, given by their texts. -/
structure LineCounts (texts : List String) (tally : Tally) (entries : List (String × Tree)) :
    Prop where
  objects : texts.count "\x7b" = tally.objects
  /-- Every object is closed, by a brace and a terminator on a line of its own. -/
  closers : (texts.countP fun x => x == "\x7d," || x == "\x7d;") = tally.objects
  arrays : texts.count "[" + texts.countP endsEmptyArray = tally.arrays
  properties : (insideBlocks [] texts).length = tally.properties
  /-- The lines directly inside of blocks start with the keys of the entries, in their order. -/
  keys : List.Forall₂ (fun x key => ∃ rest, x = key ++ " = " ++ rest) (insideBlocks [] texts)
    (entries.map Prod.fst)

/-- The lines of a statement that stand inside of a block are the properties of the value. -/
theorem insideBlocks_statementLines {v : Tree} (hv : v.WrittenIn Inline) (className : String) :
    insideBlocks [] ((v.statementLines className).map Line.text) =
      v.properties.map Tree.propertyLine := by
  have hmark : mark (className ++ " instance = " ++ v.head .semicolon) = .none :=
    mark_eq_none_of_mem (by simp)
  exact (Tree.insideBlocks_body v).lines hv [] hmark

theorem lineCounts_statementLines (settings : Settings) {v : Tree} (hv : v.WrittenIn Inline) :
    LineCounts ((v.statementLines settings.className).map Line.text) (render settings v).tally
      v.properties := by
  have htally := (render_tally settings v).trans (Tally.total_eq v.nodes)
  have hinside := insideBlocks_statementLines hv settings.className
  have hcount {p : String → Bool} {own : Tree → Bool} (hkind : LineKind p own)
      (hnull : own .null = false) := Tree.countP_statementLines hkind hnull hv settings.className
  have hobjects :
      (v.nodes.countP fun n => n.tree.isIn .brace) = (render settings v).tally.objects := by
    rw [htally]
    exact List.countP_congr fun n _ => by rw [Tree.isObject_eq]
  refine ⟨?_, ?_, ?_, ?_, ?_⟩
  · exact (hcount (lineKind_opener .brace) rfl).trans hobjects
  · exact (hcount (lineKind_closer .brace) rfl).trans hobjects
  · rw [htally]
    dsimp only
    rw [Tree.countP_isArray, ← hcount (lineKind_opener .square) rfl,
      ← hcount lineKind_endsEmptyArray rfl]
    rfl
  · rw [hinside, List.length_map, htally]
    exact Tree.length_properties v 0 false
  · rw [hinside, List.forall₂_map_left_iff, List.forall₂_map_right_iff, List.forall₂_same]
    exact fun e _ => ⟨e.2.head .comma, rfl⟩

/-- **The counts of a rendering are counts of its lines.**  The content has one reading, and in that
reading objects, arrays and properties are found again, the properties with their keys. -/
theorem render_line_counts (settings : Settings) (hs : settings.validate = .ok ()) (v : Tree)
    (hv : v.WrittenIn Inline) (hd : settings.baseIndent + v.depth < depthModulus) :
    ∃ ls : List Line,
      settings.layout.Reads settings.baseIndent (render settings v).content ls ∧
      (∀ ms, settings.layout.Reads settings.baseIndent (render settings v).content ms → ms = ls) ∧
      LineCounts (ls.map Line.text) (render settings v).tally v.properties := by
  have hreads : settings.layout.Reads settings.baseIndent (render settings v).content
      (v.statementLines settings.className) := by
    refine ⟨cut_content hs hv hd, fun i hi => ?_⟩
    simpa using (Tree.walk_statementLines hv settings.className).level_eq i hi
  have hblank := Settings.isBlank_layout hs
  exact ⟨_, hreads, fun ms hms => hms.unique hblank hreads, lineCounts_statementLines settings hv⟩

/-- Keys and texts that are brackets, end with brackets or look like properties, metadata with
properties in it, and arrays with and without items. -/
theorem render_line_counts_brackets_in_texts :
    let settings : Settings :=
      { Settings.standard with indent := .spaces 2, lineEnding := .crlf, baseIndent := 1 }
    let v : Tree := .object
      [("\x7b", .string "[],"), ("$id", .object [("a", .null)]), ("[]", .array []),
        ("\x7d,", .array [.string "b = []", .array [], .null, .object [("[", .number "1")]])]
    settings.validate = .ok () ∧ v.WrittenIn Inline ∧
      settings.baseIndent + v.depth < depthModulus ∧
      v.properties.map Prod.fst = ["\x7b", "[]", "\x7d,", "["] ∧
      ∃ ls : List Line,
        settings.layout.Reads settings.baseIndent (render settings v).content ls ∧
        (∀ ms, settings.layout.Reads settings.baseIndent (render settings v).content ms →
          ms = ls) ∧
        LineCounts (ls.map Line.text) (render settings v).tally v.properties := by
  intro settings v
  have hv : v.WrittenIn Inline := by
    simp [v, Tree.WrittenIn, Tree.EntriesWrittenIn, Tree.ItemsWrittenIn, Inline,
      Json.isNumeral_singleton (c := '1') rfl]
  have hs : settings.validate = .ok () := (Settings.validate_eq_ok_iff settings).2 (by decide)
  exact ⟨hs, hv, by decide, by decide, render_line_counts settings hs v hv (by decide)⟩

end ObjectInitializer
