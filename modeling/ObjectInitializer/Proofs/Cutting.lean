/-
**Cutting a statement into its lines.**

Texts stand in a statement as they are, so that one with a line break in it makes a line of its own.
As long as the keys and texts of a tree have no line breaks, the content of a rendering has a line
break only where a line ends, and can be cut there: the lines are the only ones that are laid out to
that content.

Main definitions:

* `OneLine` — a text without line breaks;
* `Tree.WrittenIn` — a tree whose keys and texts are made of given characters, and whose numbers are
  numerals;
* `Layout.IsBlank` — a layout that indents by tabs and spaces.

Main results:

* `Tree.oneLine_lines` — the lines of a value have no line breaks if its texts have none;
* `Settings.isBlank_layout`, `Settings.oneLine_className` — valid settings indent by tabs and
  spaces, and their class name has no line breaks;
* `Layout.map_line_eq_of_unlines_eq` — **a content can be cut into lines in one way only**.
-/

import ObjectInitializer.Proofs.Json.Numeral
import ObjectInitializer.Proofs.Lines

set_option relaxedAutoImplicit false
set_option autoImplicit false

namespace ObjectInitializer

/-! ### Texts without line breaks -/

/-- The character breaks no line. -/
def Inline (c : Char) : Prop :=
  c ≠ '\n' ∧ c ≠ '\r'

/-- The text has no line breaks. -/
def OneLine (s : String) : Prop :=
  ∀ c ∈ s.toList, Inline c

instance (c : Char) : Decidable (Inline c) :=
  inferInstanceAs (Decidable (c ≠ '\n' ∧ c ≠ '\r'))

instance (s : String) : Decidable (OneLine s) :=
  List.decidableBAll Inline s.toList

@[simp] theorem oneLine_append {s r : String} : OneLine (s ++ r) ↔ OneLine s ∧ OneLine r := by
  simp [OneLine, or_imp, forall_and]

theorem oneLine_empty : OneLine "" :=
  fun _ hc => absurd hc List.not_mem_nil

theorem oneLine_terminator (t : Terminator) : OneLine t.text := by
  cases t <;> decide

theorem inline_of_isNumeralChar {c : Char} (h : Json.isNumeralChar c = true) : Inline c := by
  constructor
  · rintro rfl
    exact absurd h (by decide)
  · rintro rfl
    exact absurd h (by decide)

/-! ### Trees of given characters -/

namespace Tree

mutual

/-- Keys and texts are made of the allowed characters, and numbers are numerals, at every level of
the tree. -/
def WrittenIn (allowed : Char → Prop) : Tree → Prop
  | .number text => Json.IsNumeral text.toList
  | .string text => ∀ c ∈ text.toList, allowed c
  | .array items => ItemsWrittenIn allowed items
  | .object entries => EntriesWrittenIn allowed entries
  | _ => True

/-- All items are written in the allowed characters. -/
def ItemsWrittenIn (allowed : Char → Prop) : List Tree → Prop
  | [] => True
  | v :: vs => WrittenIn allowed v ∧ ItemsWrittenIn allowed vs

/-- All keys and values are written in the allowed characters. -/
def EntriesWrittenIn (allowed : Char → Prop) : List (String × Tree) → Prop
  | [] => True
  | (key, v) :: es =>
    (∀ c ∈ key.toList, allowed c) ∧ WrittenIn allowed v ∧ EntriesWrittenIn allowed es

end

variable {allowed : Char → Prop}

theorem writtenIn_array {items : List Tree} :
    (Tree.array items).WrittenIn allowed ↔ ∀ v ∈ items, v.WrittenIn allowed := by
  rw [WrittenIn]
  induction items with
  | nil => simp [ItemsWrittenIn]
  | cons v vs ih => simp [ItemsWrittenIn, ih]

theorem writtenIn_object {entries : List (String × Tree)} :
    (Tree.object entries).WrittenIn allowed ↔
      ∀ e ∈ entries, (∀ c ∈ e.1.toList, allowed c) ∧ e.2.WrittenIn allowed := by
  rw [WrittenIn]
  induction entries with
  | nil => simp [EntriesWrittenIn]
  | cons e es ih =>
      obtain ⟨key, v⟩ := e
      simp [EntriesWrittenIn, ih, and_assoc]

/-- The literal of a scalar has no line breaks if its text has none. -/
theorem oneLine_literal (hallowed : ∀ c, allowed c → Inline c) {v : Tree} {literal : String}
    (hv : v.literal? = some literal) (hw : v.WrittenIn allowed) : OneLine literal := by
  cases v with
  | null => cases hv; decide
  | bool b => cases b <;> cases hv <;> decide
  | unsupported => cases hv; decide
  | number text =>
      cases hv
      rw [WrittenIn] at hw
      exact fun c hc => inline_of_isNumeralChar (hw.chars c hc)
  | string text =>
      cases hv
      rw [WrittenIn] at hw
      have ht : OneLine text := fun c hc => hallowed c (hw c hc)
      simp only [stringLiteral, oneLine_append, ht]
      decide
  | array items => simp [literal?] at hv
  | object entries => simp [literal?] at hv

theorem oneLine_head (hallowed : ∀ c, allowed c → Inline c) {v : Tree}
    (hw : v.WrittenIn allowed) (t : Terminator) : OneLine (v.head t) := by
  cases hv : v.literal? with
  | some literal =>
      rw [head_scalar hv, oneLine_append]
      exact ⟨oneLine_literal hallowed hv hw, oneLine_terminator t⟩
  | none =>
      cases v with
      | array items =>
          cases items with
          | nil =>
              rw [head, oneLine_append]
              exact ⟨by decide, oneLine_terminator t⟩
          | cons v vs => rw [head]; decide
      | object entries => rw [head]; decide
      | bool b => cases b <;> simp [literal?] at hv
      | _ => simp [literal?] at hv

/-- The lines below a value have no line breaks if its texts have none. -/
def BodyOneLine (allowed : Char → Prop) (v : Tree) : Prop :=
  v.WrittenIn allowed → ∀ (level : Nat) (t : Terminator), ∀ l ∈ v.body level t, OneLine l.text

/-- The lines of a value behind a text without line breaks have none, if its body has none. -/
theorem BodyOneLine.lines (hallowed : ∀ c, allowed c → Inline c) {v : Tree}
    (hv : v.BodyOneLine allowed) (hw : v.WrittenIn allowed) (level : Nat) {lead : String}
    (hlead : OneLine lead) (t : Terminator) : ∀ l ∈ v.lines level lead t, OneLine l.text := by
  intro l hl
  rcases List.mem_cons.1 hl with rfl | hl
  · exact oneLine_append.2 ⟨hlead, oneLine_head hallowed hw t⟩
  · exact hv hw level t l hl

theorem oneLine_body (hallowed : ∀ c, allowed c → Inline c) (v : Tree) :
    v.BodyOneLine allowed := by
  induction v with
  | scalar v literal hv =>
      intro _ level t l hl
      rw [body_scalar hv] at hl
      exact absurd hl (List.not_mem_nil)
  | array items ih =>
      intro hw level t l hl
      cases items with
      | nil => simp [body] at hl
      | cons v vs =>
          rw [body] at hl
          simp only [List.mem_cons, List.mem_append, List.not_mem_nil, or_false] at hl
          rcases hl with rfl | hl | rfl
          · show OneLine "["
            decide
          · rw [itemLines_eq] at hl
            obtain ⟨u, hu, hl⟩ := List.mem_flatMap.1 hl
            have hmem := (List.mem_filter.1 hu).1
            exact (ih u hmem).lines hallowed (writtenIn_array.1 hw u hmem) (level + 1) (by decide)
              .comma l hl
          · exact oneLine_append.2 ⟨by decide, oneLine_terminator t⟩
  | object entries ih =>
      intro hw level t l hl
      rw [body] at hl
      simp only [List.mem_cons, List.mem_append, List.not_mem_nil, or_false] at hl
      rcases hl with rfl | hl | rfl
      · show OneLine "\x7b"
        decide
      · rw [entryLines_eq] at hl
        obtain ⟨e, he, hl⟩ := List.mem_flatMap.1 hl
        have hmem := (List.mem_filter.1 he).1
        obtain ⟨hkey, hvalue⟩ := writtenIn_object.1 hw e hmem
        have hlead : OneLine (e.1 ++ " = ") :=
          oneLine_append.2 ⟨fun c hc => hallowed c (hkey c hc), by decide⟩
        exact (ih e hmem).lines hallowed hvalue (level + 1) hlead .comma l hl
      · exact oneLine_append.2 ⟨by decide, oneLine_terminator t⟩

/-- The lines of a value have no line breaks if its texts have none. -/
theorem oneLine_lines (hallowed : ∀ c, allowed c → Inline c) {v : Tree}
    (hw : v.WrittenIn allowed) (level : Nat) {lead : String} (hlead : OneLine lead)
    (t : Terminator) : ∀ l ∈ v.lines level lead t, OneLine l.text :=
  (oneLine_body hallowed v).lines hallowed hw level hlead t

end Tree

/-! ### Valid settings -/

/-- The layout indents by tabs and spaces, and by at least one of them. -/
structure Layout.IsBlank (layout : Layout) : Prop where
  ne_nil : layout.indentUnit.toList ≠ []
  blank : ∀ c ∈ layout.indentUnit.toList, c = '\t' ∨ c = ' '

namespace Settings

variable {settings : Settings}

/-- The class name of valid settings has no blanks, and their indent is acceptable. -/
theorem of_validate (h : settings.validate = .ok ()) :
    settings.className.toList.any Text.isBlank = false ∧
      settings.indent.isAcceptable = true := by
  have hflaw := (validate_eq_ok_iff settings).1 h
  unfold flaw? at hflaw
  split at hflaw
  · simp at hflaw
  · split at hflaw
    · simp at hflaw
    · split at hflaw
      · simp at hflaw
      · simp_all

theorem oneLine_className (h : settings.validate = .ok ()) : OneLine settings.className := by
  intro c hc
  have hblank := List.any_eq_false.1 (of_validate h).1 c hc
  constructor
  · rintro rfl
    exact hblank (by decide)
  · rintro rfl
    exact hblank (by decide)

theorem isBlank_layout (h : settings.validate = .ok ()) : settings.layout.IsBlank := by
  have hindent := (of_validate h).2
  have hunit : settings.layout.indentUnit = settings.indent.unit := rfl
  cases hs : settings.indent with
  | tab =>
      rw [hs] at hunit
      refine ⟨by rw [hunit]; decide, fun c hc => ?_⟩
      rw [hunit] at hc
      exact Or.inl (List.mem_singleton.1 hc)
  | spaces count =>
      rw [hs] at hindent hunit
      simp only [Indent.isAcceptable, Bool.and_eq_true, decide_eq_true_eq] at hindent
      have hlist : settings.layout.indentUnit.toList = List.replicate count ' ' := by
        rw [hunit, Indent.unit, String.toList_ofList]
      refine ⟨?_, fun c hc => ?_⟩
      · rw [hlist]
        exact fun hnil => by simp_all
      · rw [hlist] at hc
        exact Or.inr (List.eq_of_mem_replicate hc)

end Settings

/-! ### Cutting -/

/-- What stands in front of the first separator, and what stands behind it, can be told from the
whole. -/
theorem cut_first {α : Type} {a : α} {l m r s : List α} (hl : a ∉ l) (hm : a ∉ m)
    (h : l ++ a :: r = m ++ a :: s) : l = m ∧ r = s := by
  induction l generalizing m with
  | nil =>
      cases m with
      | nil => exact ⟨rfl, (List.cons.inj h).2⟩
      | cons c m => exact absurd (List.cons.inj h).1 fun hac => hm (hac ▸ List.mem_cons_self ..)
  | cons b l ih =>
      cases m with
      | nil => exact absurd (List.cons.inj h).1 fun hba => hl (hba ▸ List.mem_cons_self ..)
      | cons c m =>
          obtain ⟨rfl, htail⟩ := List.cons.inj h
          obtain ⟨rfl, hrs⟩ := ih (fun ha => hl (List.mem_cons_of_mem _ ha))
            (fun ha => hm (List.mem_cons_of_mem _ ha)) htail
          exact ⟨rfl, hrs⟩

/-- The same for the last separator. -/
theorem cut_last {α : Type} {a : α} {l m r s : List α} (hr : a ∉ r) (hs : a ∉ s)
    (h : l ++ a :: r = m ++ a :: s) : l = m ∧ r = s := by
  -- the last separator is the first from behind
  have hrev : r.reverse ++ a :: l.reverse = s.reverse ++ a :: m.reverse := by
    simpa using congrArg List.reverse h
  obtain ⟨h₁, h₂⟩ := cut_first (by simpa using hr) (by simpa using hs) hrev
  exact ⟨List.reverse_inj.1 h₂, List.reverse_inj.1 h₁⟩

namespace Layout

variable {layout : Layout}

theorem oneLine_indent_of_unit (hunit : OneLine layout.indentUnit) (n : Nat) :
    OneLine (layout.indent n) := by
  induction n with
  | zero => rw [indent]; decide
  | succ n ih => rw [indent, oneLine_append]; exact ⟨hunit, ih⟩

theorem oneLine_indent (hl : layout.IsBlank) (n : Nat) : OneLine (layout.indent n) := by
  refine oneLine_indent_of_unit (fun c hc => ?_) n
  rcases hl.blank c hc with rfl | rfl <;> decide

/-- Either line ending starts with a character that no line has. -/
theorem exists_newline_cons (layout : Layout) :
    ∃ c rest, ¬ Inline c ∧ layout.lineEnding.text.toList = c :: rest := by
  cases layout.lineEnding with
  | lf => exact ⟨'\n', [], by decide, rfl⟩
  | crlf => exact ⟨'\r', ['\n'], by decide, rfl⟩

/-- A text without line breaks can be told from the end of its line. -/
theorem cut_newline {s r x y : String} (hs : OneLine s) (hr : OneLine r)
    (h : s ++ layout.newline ++ x = r ++ layout.newline ++ y) : s = r ∧ x = y := by
  have hlists := congrArg String.toList h
  obtain ⟨c, rest, hc, hnewline⟩ := layout.exists_newline_cons
  simp only [String.toList_append, newline, hnewline, List.append_assoc, List.cons_append] at hlists
  obtain ⟨h₁, h₂⟩ := cut_first (fun hmem => hc (hs c hmem)) (fun hmem => hc (hr c hmem)) hlists
  exact ⟨String.toList_inj.1 h₁, String.toList_inj.1 (List.append_cancel_left h₂)⟩

theorem newline_ne_empty : layout.newline ≠ "" := by
  unfold newline
  cases layout.lineEnding <;> decide

/-- **A content can be cut into lines in one way only**, if no line has a line break in its text. -/
theorem map_line_eq_of_unlines_eq (hl : layout.IsBlank) (base : Nat) {ls ms : List Line}
    (hls : ∀ l ∈ ls, OneLine l.text) (hms : ∀ l ∈ ms, OneLine l.text)
    (h : layout.unlines base ls = layout.unlines base ms) :
    ls.map (layout.line base) = ms.map (layout.line base) := by
  have hline {l : Line} (ht : OneLine l.text) : OneLine (layout.line base l) :=
    oneLine_append.2 ⟨oneLine_indent hl _, ht⟩
  induction ls generalizing ms with
  | nil =>
      cases ms with
      | nil => rfl
      | cons m ms =>
          -- even an empty line has an end
          simp [unlines, newline_ne_empty] at h
  | cons l ls ih =>
      cases ms with
      | nil => simp [unlines, newline_ne_empty] at h
      | cons m ms =>
          obtain ⟨h₁, h₂⟩ := cut_newline (hline (hls l (List.mem_cons_self ..)))
            (hline (hms m (List.mem_cons_self ..))) h
          rw [List.map_cons, List.map_cons, h₁, ih (fun l hl => hls l (List.mem_cons_of_mem _ hl))
            (fun l hl => hms l (List.mem_cons_of_mem _ hl)) h₂]

end Layout

end ObjectInitializer
