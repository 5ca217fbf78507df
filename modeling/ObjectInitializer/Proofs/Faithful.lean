/-
**A rendering loses nothing but what it leaves out.**

Nothing is escaped in a rendering, so that a key may read `a = new()` or start with an indent, and a
text may look like the end of a block.  Still the value can be told from the content, as far as
quotes and line breaks are kept out of its texts: `Tree.visible` is what can be told, and two trees
have the same content exactly when they agree in it.

The content is cut into lines first (`Layout.map_line_eq_of_unlines_eq`).  What the lines mean is
then read from the top, at known levels.  The head of a value says whether a block, a collection or
nothing follows (`Tree.eq_or_both_of_head_eq`).  A line inside a block or collection has one indent
more than its closer, and no closer starts with a blank, so that the closer is recognised before the
texts are looked at.  A key and the head behind it are separated by the first quote of the line if
it has one, for keys have none, and otherwise by the last equals sign, for no other head has one
(`Tree.key_and_head_eq`).

Main definitions:

* `Tree.visible` — **what of a tree can be seen**: no metadata, and no nulls in arrays, save for one
  that stands for the items of an array that has only nulls;
* `Unquoted` — the characters that texts are made of here;
* `Tree.ToldByLines` — the induction hypothesis: head and body determine what is visible, and where
  the body ends.

Main results:

* `Tree.statementLines_visible` — what is left out is not in the lines;
* `Layout.toldByLines` — **the lines of a value determine what is visible of it**, and where they
  end;
* `render_content_eq_iff` — **two trees have the same content exactly when the same is visible of
  them**.
-/

import ObjectInitializer.Proofs.Cutting

set_option relaxedAutoImplicit false
set_option autoImplicit false

namespace ObjectInitializer

namespace Tree

/-! ### What is visible of a tree -/

/-- The items that are left of an array, or a null in their place if there were items and none is
left. -/
def orNull (items left : List Tree) : List Tree :=
  if left.isEmpty && !items.isEmpty then [.null] else left

mutual

/-- What can be seen of a tree: neither metadata nor nulls in arrays, but whether an array had
items. -/
def visible : Tree → Tree
  | .array items => .array (orNull items (visibleItems items))
  | .object entries => .object (visibleEntries entries)
  | v => v

/-- What can be seen of the items of an array. -/
def visibleItems : List Tree → List Tree
  | [] => []
  | v :: vs => if v.isNull then visibleItems vs else visible v :: visibleItems vs

/-- What can be seen of the entries of an object. -/
def visibleEntries : List (String × Tree) → List (String × Tree)
  | [] => []
  | (key, v) :: es =>
    if isMeta key then visibleEntries es else (key, visible v) :: visibleEntries es

end

theorem visibleItems_eq (items : List Tree) :
    visibleItems items = (items.filter fun v => !v.isNull).map visible := by
  induction items with
  | nil => rfl
  | cons v vs ih =>
      by_cases hn : v.isNull = true
      · rw [visibleItems, if_pos hn, ih, List.filter_cons_of_neg (by simp [hn])]
      · rw [visibleItems, if_neg hn, ih, List.filter_cons_of_pos (by simp [hn]), List.map_cons]

theorem visibleEntries_eq (entries : List (String × Tree)) :
    visibleEntries entries =
      (entries.filter fun e => !isMeta e.1).map fun e => (e.1, visible e.2) := by
  induction entries with
  | nil => rfl
  | cons e es ih =>
      obtain ⟨key, v⟩ := e
      by_cases hk : isMeta key = true
      · rw [visibleEntries, if_pos hk, ih, List.filter_cons_of_neg (by simp [hk])]
      · rw [visibleEntries, if_neg hk, ih, List.filter_cons_of_pos (by simp [hk]), List.map_cons]

theorem visible_scalar {v : Tree} {literal : String} (hv : v.literal? = some literal) :
    v.visible = v := by
  cases v with
  | array items => simp [literal?] at hv
  | object entries => simp [literal?] at hv
  | _ => rfl

@[simp] theorem isNull_visible (v : Tree) : v.visible.isNull = v.isNull := by
  cases v <;> rfl

/-! ### What is left out is not in the lines -/

theorem head_visible (v : Tree) (t : Terminator) : v.visible.head t = v.head t := by
  cases v with
  | array items =>
      cases items with
      | nil => rfl
      | cons v vs =>
          -- the null in the place of the items makes the array open a collection, as they do
          rw [visible, orNull, head]
          cases hleft : visibleItems (v :: vs) with
          | nil => rfl
          | cons u us => rfl
  | _ => rfl

/-- The lines below a tree are those below what is visible of it. -/
def BodyVisible (v : Tree) : Prop :=
  ∀ (level : Nat) (t : Terminator), v.visible.body level t = v.body level t

theorem itemLines_visibleItems {items : List Tree} (h : ∀ v ∈ items, v.BodyVisible)
    (level : Nat) : itemLines level (visibleItems items) = itemLines level items := by
  induction items with
  | nil => rfl
  | cons v vs ih =>
      have hvs := ih fun v hv => h v (List.mem_cons_of_mem _ hv)
      by_cases hn : v.isNull = true
      · rw [visibleItems, if_pos hn, itemLines, if_pos hn, hvs]
      · rw [visibleItems, if_neg hn, itemLines, if_neg (by rwa [isNull_visible]), itemLines,
          if_neg hn, head_visible, h v (List.mem_cons_self ..), hvs]

theorem entryLines_visibleEntries {entries : List (String × Tree)}
    (h : ∀ e ∈ entries, e.2.BodyVisible) (level : Nat) :
    entryLines level (visibleEntries entries) = entryLines level entries := by
  induction entries with
  | nil => rfl
  | cons e es ih =>
      obtain ⟨key, v⟩ := e
      have hes := ih fun e he => h e (List.mem_cons_of_mem _ he)
      by_cases hk : isMeta key = true
      · rw [visibleEntries, if_pos hk, entryLines, if_pos hk, hes]
      · rw [visibleEntries, if_neg hk, entryLines, if_neg hk, entryLines, if_neg hk,
          head_visible, h (key, v) (List.mem_cons_self ..), hes]

/-- The null that stands for dropped items is dropped itself. -/
theorem itemLines_orNull (level : Nat) (items left : List Tree) :
    itemLines level (orNull items left) = itemLines level left := by
  unfold orNull
  split
  · rename_i hempty
    simp only [Bool.and_eq_true, List.isEmpty_iff] at hempty
    rw [hempty.1]
    rfl
  · rfl

theorem body_visible (v : Tree) : v.BodyVisible := by
  induction v with
  | scalar v literal hv =>
      intro level t
      rw [visible_scalar hv]
  | array items ih =>
      intro level t
      cases items with
      | nil => rfl
      | cons v vs =>
          -- some item is left on either side, so that both have brackets
          have hne : orNull (v :: vs) (visibleItems (v :: vs)) ≠ [] := by
            cases hleft : visibleItems (v :: vs) <;> simp [orNull]
          have hlines : itemLines (level + 1) (orNull (v :: vs) (visibleItems (v :: vs))) =
              itemLines (level + 1) (v :: vs) := by
            rw [itemLines_orNull, itemLines_visibleItems ih]
          obtain ⟨u, us, hu⟩ := List.exists_cons_of_ne_nil hne
          rw [visible, hu, body, ← hu, hlines, body]
  | object entries ih =>
      intro level t
      rw [visible, body, entryLines_visibleEntries ih, body]

/-- **What is left out is not in the lines of a statement.** -/
theorem statementLines_visible (className : String) (v : Tree) :
    v.visible.statementLines className = v.statementLines className := by
  rw [statementLines, lines, head_visible, body_visible, statementLines, lines]

end Tree

/-! ### Heads -/

/-- The character is no quote and breaks no line. -/
def Unquoted (c : Char) : Prop :=
  c ≠ '"' ∧ Inline c

instance (c : Char) : Decidable (Unquoted c) :=
  inferInstanceAs (Decidable (c ≠ '"' ∧ Inline c))

namespace Tree

/-- What a head tells of a value: the whole value, or that it is an object, or that it is an array
with items. -/
def outline : Tree → Tree
  | .array (_ :: _) => .array [.null]
  | .object _ => .object []
  | v => v

/-- The outline of the value that has the head. -/
def ofHead : List Char → Tree
  | [] => .array [.null]
  | '[' :: _ => .array []
  -- behind the text stand its closing quote and the terminator
  | '"' :: cs => .string (String.ofList cs.dropLast.dropLast)
  | 'd' :: _ => .unsupported
  | 'f' :: _ => .bool false
  | 't' :: _ => .bool true
  | 'n' :: 'e' :: _ => .object []
  | 'n' :: _ => .null
  | cs => .number (String.ofList cs.dropLast)

/-- A number is read by exclusion: its first character starts no other head. -/
theorem ofHead_number {c : Char} (hc : Json.startsNumber c = true) (cs : List Char) :
    ofHead (c :: cs) = .number (String.ofList (c :: cs).dropLast) := by
  unfold ofHead
  split <;> simp_all [Json.startsNumber]

theorem ofHead_head {allowed : Char → Prop} {v : Tree} (hw : v.WrittenIn allowed)
    (t : Terminator) : ofHead (v.head t).toList = v.outline := by
  cases v with
  | null => cases t <;> rfl
  | bool b => cases b <;> cases t <;> rfl
  | unsupported => cases t <;> rfl
  | object entries => simp [head, ofHead, outline]
  | array items => cases items <;> cases t <;> rfl
  | string text =>
      have hhead : (Tree.string text).head t = stringLiteral text ++ t.text := head_scalar rfl t
      rw [hhead, stringLiteral]
      cases t <;> simp [Terminator.text, ofHead, outline, String.ofList_toList]
  | number text =>
      rw [WrittenIn] at hw
      obtain ⟨c, rest, hcs, hc⟩ := hw.starts
      have hhead : (Tree.number text).head t = text ++ t.text := head_scalar rfl t
      rw [hhead, String.toList_append, hcs, List.cons_append, ofHead_number hc,
        ← List.cons_append, ← hcs]
      cases t <;> simp [Terminator.text, outline]

/-- **A head tells the outline of its value.** -/
theorem outline_eq_of_head_eq {allowed : Char → Prop} {v w : Tree} (hv : v.WrittenIn allowed)
    (hw : w.WrittenIn allowed) {t : Terminator} (h : v.head t = w.head t) :
    v.outline = w.outline := by
  rw [← ofHead_head hv t, h, ofHead_head hw t]

/-- **Values whose heads agree** are the same, or both objects, or both arrays with items. -/
theorem eq_or_both_of_head_eq {allowed : Char → Prop} {v w : Tree} (hv : v.WrittenIn allowed)
    (hw : w.WrittenIn allowed) {t : Terminator} (h : v.head t = w.head t) :
    v = w ∨ (∃ entries entries', v = .object entries ∧ w = .object entries') ∨
      (∃ x xs y ys, v = .array (x :: xs) ∧ w = .array (y :: ys)) := by
  have hout := outline_eq_of_head_eq hv hw h
  cases v with
  | object entries =>
      cases w with
      | object entries' => exact Or.inr (Or.inl ⟨entries, entries', rfl, rfl⟩)
      | array items => cases items <;> simp [outline] at hout
      | _ => simp [outline] at hout
  | array items =>
      cases items with
      | nil =>
          cases w with
          | array items' =>
              cases items' with
              | nil => exact Or.inl rfl
              | cons y ys => simp [outline] at hout
          | _ => simp [outline] at hout
      | cons x xs =>
          cases w with
          | array items' =>
              cases items' with
              | nil => simp [outline] at hout
              | cons y ys => exact Or.inr (Or.inr ⟨x, xs, y, ys, rfl, rfl⟩)
          | _ => simp [outline] at hout
  | _ =>
      cases w with
      | array items => cases items <;> simp [outline] at hout
      | object entries => simp [outline] at hout
      | _ => exact Or.inl hout

/-- The head of a text holds quotes, and no other head holds a quote or an equals sign. -/
theorem string_or_not_mem_head {allowed : Char → Prop} {v : Tree} (hw : v.WrittenIn allowed)
    (t : Terminator) :
    (∃ text, v = .string text) ∨ '"' ∉ (v.head t).toList ∧ '=' ∉ (v.head t).toList := by
  cases v with
  | string text => exact Or.inl ⟨text, rfl⟩
  | number text =>
      rw [WrittenIn] at hw
      have hhead : (Tree.number text).head t = text ++ t.text := head_scalar rfl t
      rw [hhead]
      have hnot {c : Char} (hc : Json.isNumeralChar c = false) : c ∉ text.toList :=
        fun hmem => absurd (hw.chars c hmem) (by simp [hc])
      refine Or.inr ⟨?_, ?_⟩
      · rw [String.toList_append, List.mem_append, not_or]
        exact ⟨hnot (by decide), by cases t <;> decide⟩
      · rw [String.toList_append, List.mem_append, not_or]
        exact ⟨hnot (by decide), by cases t <;> decide⟩
  | array items =>
      cases items with
      | nil => cases t <;> exact Or.inr (by decide)
      | cons v vs => exact Or.inr (by simp [head])
  | object entries => exact Or.inr (by simp [head])
  | bool b => cases b <;> cases t <;> exact Or.inr (by decide)
  | _ => cases t <;> exact Or.inr (by decide)

theorem quote_not_mem_key {key : String} (hkey : ∀ c ∈ key.toList, Unquoted c) :
    '"' ∉ (key ++ " = ").toList := by
  rw [String.toList_append, List.mem_append, not_or]
  exact ⟨fun hmem => (hkey _ hmem).1 rfl, by decide⟩

/-- A key and a head hold a quote exactly if the head is that of a text. -/
theorem quote_mem_iff {v : Tree} (hv : v.WrittenIn Unquoted) {key : String}
    (hkey : ∀ c ∈ key.toList, Unquoted c) (t : Terminator) :
    '"' ∈ (key ++ " = " ++ v.head t).toList ↔ ∃ text, v = .string text := by
  rw [String.toList_append, List.mem_append]
  constructor
  · intro hmem
    rcases string_or_not_mem_head hv t with htext | ⟨hquote, -⟩
    · exact htext
    · exact absurd hmem (not_or.2 ⟨quote_not_mem_key hkey, hquote⟩)
  · rintro ⟨text, rfl⟩
    exact Or.inr (by simp [head, literal?, stringLiteral])

/-- No key has quotes, so the first quote opens the text. -/
theorem key_and_string_eq {key key' text text' : String} (hkey : ∀ c ∈ key.toList, Unquoted c)
    (hkey' : ∀ c ∈ key'.toList, Unquoted c) {t : Terminator}
    (h : key ++ " = " ++ (Tree.string text).head t = key' ++ " = " ++ (Tree.string text').head t) :
    key = key' ∧ (Tree.string text).head t = (Tree.string text').head t := by
  have hhead (s : String) : (Tree.string s).head t = "\"" ++ (s ++ "\"" ++ t.text) := by
    simp [head, literal?, stringLiteral, String.append_assoc]
  have hsplit (k s : String) : (k ++ " = " ++ (Tree.string s).head t).toList =
      (k ++ " = ").toList ++ '"' :: (s ++ "\"" ++ t.text).toList := by
    rw [hhead]
    simp
  have hlists := congrArg String.toList h
  rw [hsplit, hsplit] at hlists
  obtain ⟨hkeys, htails⟩ := cut_first (quote_not_mem_key hkey) (quote_not_mem_key hkey') hlists
  refine ⟨(String.append_left_inj " = ").1 (String.toList_inj.1 hkeys), ?_⟩
  rw [hhead, hhead, String.toList_inj.1 htails]

/-- Keys may have equals signs, so that it is the last one that ends the key. -/
theorem key_and_eq_of_not_mem {key key' head head' : String} (hhead : '=' ∉ head.toList)
    (hhead' : '=' ∉ head'.toList) (h : key ++ " = " ++ head = key' ++ " = " ++ head') :
    key = key' ∧ head = head' := by
  have hsplit (k s : String) : (k ++ " = " ++ s).toList =
      (k ++ " ").toList ++ '=' :: (" " ++ s).toList := by
    simp
  have hspace {s : String} (hs : '=' ∉ s.toList) : '=' ∉ (" " ++ s).toList := by
    rw [String.toList_append, List.mem_append, not_or]
    exact ⟨by decide, hs⟩
  have hlists := congrArg String.toList h
  rw [hsplit, hsplit] at hlists
  obtain ⟨hkeys, htails⟩ := cut_last (hspace hhead) (hspace hhead') hlists
  exact ⟨(String.append_left_inj " ").1 (String.toList_inj.1 hkeys),
    (String.append_right_inj " ").1 (String.toList_inj.1 htails)⟩

/-- **A key and the head behind it can be told apart**: by the first quote, if there is one, and by
the last equals sign otherwise. -/
theorem key_and_head_eq {v w : Tree} (hv : v.WrittenIn Unquoted) (hw : w.WrittenIn Unquoted)
    {key key' : String} (hkey : ∀ c ∈ key.toList, Unquoted c)
    (hkey' : ∀ c ∈ key'.toList, Unquoted c) {t : Terminator}
    (h : key ++ " = " ++ v.head t = key' ++ " = " ++ w.head t) :
    key = key' ∧ v.head t = w.head t := by
  have hquotes : (∃ text, v = .string text) ↔ ∃ text, w = .string text := by
    rw [← quote_mem_iff hv hkey t, h, quote_mem_iff hw hkey' t]
  rcases string_or_not_mem_head hv t with htext | ⟨hvquote, hveq⟩
  · obtain ⟨text', rfl⟩ := hquotes.1 htext
    obtain ⟨text, rfl⟩ := htext
    exact key_and_string_eq hkey hkey' h
  · rcases string_or_not_mem_head hw t with htext | ⟨-, hweq⟩
    · obtain ⟨text, rfl⟩ := hquotes.2 htext
      exact absurd (by simp [head, literal?, stringLiteral]) hvquote
    · exact key_and_eq_of_not_mem hveq hweq h

end Tree

/-! ### Blocks -/

/-- A sequence of parts, each of which can be told from what stands behind it, can be told itself if
a mark that starts no part ends it. -/
theorem map_eq_of_flatMap_eq {α β γ : Type} {lines : α → List γ} {shown : α → β} {stop : γ}
    {xs ys : List α} {r s : List γ}
    (hpart : ∀ x ∈ xs, ∀ y ∈ ys, ∀ r s, lines x ++ r = lines y ++ s → shown x = shown y ∧ r = s)
    (hstop : ∀ x r s, lines x ++ r ≠ stop :: s)
    (h : xs.flatMap lines ++ stop :: r = ys.flatMap lines ++ stop :: s) :
    xs.map shown = ys.map shown ∧ r = s := by
  induction xs generalizing ys with
  | nil =>
      cases ys with
      | nil => exact ⟨rfl, (List.cons.inj h).2⟩
      | cons y ys =>
          -- the mark on one side would be the start of a part on the other
          rw [List.flatMap_cons, List.append_assoc] at h
          exact absurd h.symm (hstop y _ _)
  | cons x xs ih =>
      cases ys with
      | nil =>
          rw [List.flatMap_cons, List.append_assoc] at h
          exact absurd h (hstop x _ _)
      | cons y ys =>
          rw [List.flatMap_cons, List.flatMap_cons, List.append_assoc, List.append_assoc] at h
          obtain ⟨hxy, htail⟩ :=
            hpart x (List.mem_cons_self ..) y (List.mem_cons_self ..) _ _ h
          obtain ⟨hmap, hrs⟩ := ih (fun x hx y hy => hpart x (List.mem_cons_of_mem _ hx) y
            (List.mem_cons_of_mem _ hy)) htail
          exact ⟨by rw [List.map_cons, List.map_cons, hxy, hmap], hrs⟩

namespace Layout

variable {layout : Layout} {base : Nat}

theorem indent_succ (layout : Layout) (n : Nat) :
    layout.indent (n + 1) = layout.indent n ++ layout.indentUnit := by
  induction n with
  | zero => simp [indent]
  | succ n ih =>
      show layout.indentUnit ++ layout.indent (n + 1) =
        (layout.indentUnit ++ layout.indent n) ++ layout.indentUnit
      rw [ih, String.append_assoc]

theorem text_eq_of_line_eq {level : Nat} {x y : String}
    (h : layout.line base ⟨level, x⟩ = layout.line base ⟨level, y⟩) : x = y :=
  (String.append_right_inj _).1 h

/-- A line with one indent more is no line that starts with a bracket. -/
theorem line_ne_of_bracket (hl : layout.IsBlank) (level : Nat) (x : String) {stop : String}
    (bracket : Char) (hstop : stop.toList.head? = some bracket) (htab : bracket ≠ '\t')
    (hspace : bracket ≠ ' ') :
    layout.line base ⟨level + 1, x⟩ ≠ layout.line base ⟨level, stop⟩ := by
  intro h
  rw [line, line, ← Nat.add_assoc, indent_succ, String.append_assoc] at h
  have htext := congrArg String.toList ((String.append_right_inj _).1 h)
  obtain ⟨c, unit, hunit⟩ := List.exists_cons_of_ne_nil hl.ne_nil
  have hc : c = bracket := by
    rw [← htext, String.toList_append, hunit] at hstop
    exact Option.some.inj hstop
  rcases hl.blank c (by rw [hunit]; exact List.mem_cons_self ..) with rfl | rfl
  · exact htab hc.symm
  · exact hspace hc.symm

/-- Values behind texts whose lines agree agree in the text of the first and in the others. -/
theorem of_lines_eq {v w : Tree} {level : Nat} {lead lead' : String} {t : Terminator}
    {r s : List String}
    (h : (v.lines level lead t).map (layout.line base) ++ r =
      (w.lines level lead' t).map (layout.line base) ++ s) :
    lead ++ v.head t = lead' ++ w.head t ∧
      (v.body level t).map (layout.line base) ++ r =
        (w.body level t).map (layout.line base) ++ s := by
  rw [Tree.lines, Tree.lines, List.map_cons, List.map_cons, List.cons_append,
    List.cons_append] at h
  exact ⟨text_eq_of_line_eq (List.cons.inj h).1, (List.cons.inj h).2⟩

/-- The head and the lines below it determine what is visible of a value, and where the lines
end. -/
def ToldByLines (layout : Layout) (v : Tree) : Prop :=
  ∀ (w : Tree) (base level : Nat) (t : Terminator) (r s : List String),
    v.WrittenIn Unquoted → w.WrittenIn Unquoted → v.head t = w.head t →
      (v.body level t).map (layout.line base) ++ r =
        (w.body level t).map (layout.line base) ++ s →
      v.visible = w.visible ∧ r = s

theorem items_told (hl : layout.IsBlank) {xs ys : List Tree}
    (ih : ∀ v ∈ xs, layout.ToldByLines v) (hx : ∀ v ∈ xs, v.WrittenIn Unquoted)
    (hy : ∀ v ∈ ys, v.WrittenIn Unquoted) {level : Nat} {t : Terminator} {r s : List String}
    (h : (Tree.itemLines (level + 1) xs).map (layout.line base) ++
        layout.line base ⟨level, "]" ++ t.text⟩ :: r =
      (Tree.itemLines (level + 1) ys).map (layout.line base) ++
        layout.line base ⟨level, "]" ++ t.text⟩ :: s) :
    Tree.visibleItems xs = Tree.visibleItems ys ∧ r = s := by
  rw [Tree.itemLines_eq, Tree.itemLines_eq, List.map_flatMap, List.map_flatMap] at h
  rw [Tree.visibleItems_eq, Tree.visibleItems_eq]
  -- the items that are kept are parts, each told by its head and body, and the closer is the mark
  refine map_eq_of_flatMap_eq ?_ ?_ h
  · intro v hv w hw r s hlines
    have hvx := (List.mem_filter.1 hv).1
    have hwy := (List.mem_filter.1 hw).1
    obtain ⟨hhead, hbody⟩ := of_lines_eq hlines
    exact ih v hvx w base (level + 1) .comma r s (hx v hvx) (hy w hwy)
      ((String.append_right_inj _).1 hhead) hbody
  · intro v r s hlines
    exact line_ne_of_bracket hl level _ ']' (by simp) (by decide) (by decide)
      (List.cons.inj hlines).1

theorem entries_told (hl : layout.IsBlank) {xs ys : List (String × Tree)}
    (ih : ∀ e ∈ xs, layout.ToldByLines e.2)
    (hx : ∀ e ∈ xs, (∀ c ∈ e.1.toList, Unquoted c) ∧ e.2.WrittenIn Unquoted)
    (hy : ∀ e ∈ ys, (∀ c ∈ e.1.toList, Unquoted c) ∧ e.2.WrittenIn Unquoted)
    {level : Nat} {t : Terminator} {r s : List String}
    (h : (Tree.entryLines (level + 1) xs).map (layout.line base) ++
        layout.line base ⟨level, "\x7d" ++ t.text⟩ :: r =
      (Tree.entryLines (level + 1) ys).map (layout.line base) ++
        layout.line base ⟨level, "\x7d" ++ t.text⟩ :: s) :
    Tree.visibleEntries xs = Tree.visibleEntries ys ∧ r = s := by
  rw [Tree.entryLines_eq, Tree.entryLines_eq, List.map_flatMap, List.map_flatMap] at h
  rw [Tree.visibleEntries_eq, Tree.visibleEntries_eq]
  refine map_eq_of_flatMap_eq ?_ ?_ h
  · intro e he f hf r s hlines
    have hex := (List.mem_filter.1 he).1
    have hfy := (List.mem_filter.1 hf).1
    obtain ⟨htext, hbody⟩ := of_lines_eq hlines
    obtain ⟨hkey, hhead⟩ :=
      Tree.key_and_head_eq (hx e hex).2 (hy f hfy).2 (hx e hex).1 (hy f hfy).1 htext
    obtain ⟨hvisible, hrs⟩ := ih e hex f.2 base (level + 1) .comma r s (hx e hex).2 (hy f hfy).2
      hhead hbody
    exact ⟨by rw [hkey, hvisible], hrs⟩
  · intro e r s hlines
    exact line_ne_of_bracket hl level _ '\x7d' (by simp) (by decide) (by decide)
      (List.cons.inj hlines).1

/-- **The lines of a value determine what is visible of it**, and where they end. -/
theorem toldByLines (hl : layout.IsBlank) (v : Tree) : layout.ToldByLines v := by
  induction v with
  | scalar v literal hv =>
      intro w base level t r s hvu hwu hhead hlines
      rcases Tree.eq_or_both_of_head_eq hvu hwu hhead with rfl | hobjects | harrays
      · exact ⟨rfl, List.append_cancel_left hlines⟩
      · obtain ⟨entries, -, rfl, -⟩ := hobjects
        simp [Tree.literal?] at hv
      · obtain ⟨x, xs, -, -, rfl, -⟩ := harrays
        simp [Tree.literal?] at hv
  | array items ih =>
      intro w base level t r s hvu hwu hhead hlines
      rcases Tree.eq_or_both_of_head_eq hvu hwu hhead with rfl | hobjects | harrays
      · exact ⟨rfl, List.append_cancel_left hlines⟩
      · obtain ⟨entries, -, hv, -⟩ := hobjects
        cases hv
      · -- behind the openers, the items are read up to the closers
        obtain ⟨x, xs, y, ys, hv, rfl⟩ := harrays
        cases hv
        rw [Tree.body, Tree.body] at hlines
        simp only [List.map_cons, List.map_append, List.map_nil, List.cons_append,
          List.append_assoc, List.nil_append] at hlines
        obtain ⟨hitems, hrs⟩ := items_told hl ih (Tree.writtenIn_array.1 hvu)
          (Tree.writtenIn_array.1 hwu) (List.cons.inj hlines).2
        exact ⟨by rw [Tree.visible, Tree.visible, hitems]; rfl, hrs⟩
  | object entries ih =>
      intro w base level t r s hvu hwu hhead hlines
      rcases Tree.eq_or_both_of_head_eq hvu hwu hhead with rfl | hobjects | harrays
      · exact ⟨rfl, List.append_cancel_left hlines⟩
      · -- the same for entries
        obtain ⟨es, fs, hv, rfl⟩ := hobjects
        cases hv
        rw [Tree.body, Tree.body] at hlines
        simp only [List.map_cons, List.map_append, List.map_nil, List.cons_append,
          List.append_assoc, List.nil_append] at hlines
        obtain ⟨hentries, hrs⟩ := entries_told hl ih (Tree.writtenIn_object.1 hvu)
          (Tree.writtenIn_object.1 hwu) (List.cons.inj hlines).2
        exact ⟨by rw [Tree.visible, Tree.visible, hentries], hrs⟩
      · obtain ⟨x, xs, -, -, hv, -⟩ := harrays
        cases hv

end Layout

/-! ### Renderings -/

/-- **Two trees have the same content exactly when the same is visible of them**, if the settings
are valid and neither quotes nor line breaks stand in the texts. -/
theorem render_content_eq_iff (settings : Settings) (hs : settings.validate = .ok ()) (v w : Tree)
    (hv : v.WrittenIn Unquoted) (hw : w.WrittenIn Unquoted)
    (hdv : settings.baseIndent + v.depth < depthModulus)
    (hdw : settings.baseIndent + w.depth < depthModulus) :
    (render settings v).content = (render settings w).content ↔ v.visible = w.visible := by
  rw [content_eq_unlines settings v hdv, content_eq_unlines settings w hdw]
  constructor
  · intro h
    have hl := Settings.isBlank_layout hs
    have hlead : OneLine (settings.className ++ " instance = ") :=
      oneLine_append.2 ⟨Settings.oneLine_className hs, by decide⟩
    have hallowed : ∀ c, Unquoted c → Inline c := fun _ hc => hc.2
    have hlines := Layout.map_line_eq_of_unlines_eq hl settings.baseIndent
      (Tree.oneLine_lines hallowed hv 0 hlead .semicolon)
      (Tree.oneLine_lines hallowed hw 0 hlead .semicolon) h
    obtain ⟨hhead, hbody⟩ := Layout.of_lines_eq (r := []) (s := []) (by simpa using hlines)
    exact (Layout.toldByLines hl v w settings.baseIndent 0 .semicolon [] [] hv hw
      ((String.append_right_inj _).1 hhead) hbody).1
  · intro h
    rw [← Tree.statementLines_visible, h, Tree.statementLines_visible]

/-- An array of nulls is told from an empty one, behind a key that imitates an indented property and
in front of one that imitates the end of its block. -/
theorem render_content_ne_of_no_items :
    let rest : List (String × Tree) := [("\x7d;", .number "-1"), ("$id", .null)]
    let v : Tree := .object (("\ta = new()", .array [.null]) :: rest)
    let w : Tree := .object (("\ta = new()", .array []) :: rest)
    Settings.standard.validate = .ok () ∧ v.WrittenIn Unquoted ∧ w.WrittenIn Unquoted ∧
      Settings.standard.baseIndent + v.depth < depthModulus ∧
      Settings.standard.baseIndent + w.depth < depthModulus ∧
      (render Settings.standard v).content ≠ (render Settings.standard w).content := by
  intro rest v w
  have hone : Json.IsNumeral "-1".toList :=
    ⟨['-'], ['1'], [], [], Or.inr rfl, Or.inr ⟨⟨by simp, by simp⟩, by simp⟩, Or.inl rfl,
      Or.inl rfl, rfl⟩
  have hrest : ∀ e ∈ rest, (∀ c ∈ e.1.toList, Unquoted c) ∧ e.2.WrittenIn Unquoted := by
    simp only [rest, List.forall_mem_cons]
    exact ⟨⟨by simp [Unquoted, Inline], by rwa [Tree.WrittenIn]⟩,
      ⟨by simp [Unquoted, Inline], by simp [Tree.WrittenIn]⟩, by simp⟩
  have hkey : ∀ c ∈ "\ta = new()".toList, Unquoted c := by simp [Unquoted, Inline]
  have hv : v.WrittenIn Unquoted := Tree.writtenIn_object.2 <|
    List.forall_mem_cons.2 ⟨⟨hkey, Tree.writtenIn_array.2 (by simp [Tree.WrittenIn])⟩, hrest⟩
  have hw : w.WrittenIn Unquoted := Tree.writtenIn_object.2 <|
    List.forall_mem_cons.2 ⟨⟨hkey, Tree.writtenIn_array.2 (by simp)⟩, hrest⟩
  refine ⟨rfl, hv, hw, by decide, by decide, fun h => ?_⟩
  have hvisible := (render_content_eq_iff _ rfl v w hv hw (by decide) (by decide)).1 h
  simp [v, w, Tree.visible, Tree.visibleEntries, Tree.visibleItems, Tree.orNull, Tree.isMeta,
    Tree.isNull] at hvisible

end ObjectInitializer
