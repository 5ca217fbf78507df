/-
**The shape of a statement.**

Seen as text, a statement is a column of lines, some of which are a bracket and nothing else.  This
module says how the lines are indented and ended in terms of the text alone, without the value that
was written: a line is indented by the brackets that are open there, the brackets are well matched,
and a semicolon ends the last line only.

The lines are followed from the top with the stack of the brackets that are open (`Walk`).  A key
may look like a bracket, and a text may end in a semicolon, so that it has to be shown of every line
which of the marks it bears (`Tree.mark_head`, `Tree.mark_key_head`).  The lines below a value leave
the stack as they found it, at every level of the tree (`Tree.walk_body`), which is the induction;
what holds of the indents is then read off the stack.

Main definitions:

* `Text.cutAt`, `LineEnding.cut` — a text cut at its line endings;
* `Mark`, `mark` — what a line is in the column: an opener, a closer, or neither;
* `unclosed` — the brackets that are open at the end of a text, unless they do not match;
* `Walk` — **lines that are indented by the brackets open there**, from one stack to another;
* `WellShaped` — the shape of a text, with its lines.

Main results:

* `Layout.cut_unlines` — cutting lines that were laid out gives them back;
* `Tree.walk_statementLines` — the lines of a statement open and close their brackets in turn;
* `Walk.level_eq`, `Walk.unclosed_eq` — indents count the open brackets, which match;
* `render_wellShaped` — **a rendering is well shaped**.
-/

import ObjectInitializer.Proofs.Cutting

set_option relaxedAutoImplicit false
set_option autoImplicit false

namespace ObjectInitializer

/-! ### Cutting a text at its line endings -/

namespace Text

/-- Cuts a text at a separator, of which a piece has been passed already, its last character
first. -/
def cutAfter (separator piece : List Char) : List Char → List (List Char)
  | [] => [piece.reverse]
  | c :: cs =>
    if separator.isPrefixOf (c :: cs) then
      piece.reverse :: cutAfter separator [] (cs.drop (separator.length - 1))
    else cutAfter separator (c :: piece) cs
termination_by cs => cs.length

/-- The pieces of a text in front of, between and behind the separators. -/
def cutAt (separator : List Char) (cs : List Char) : List (List Char) :=
  cutAfter separator [] cs

theorem cutAfter_append {c : Char} {separator piece cs : List Char} (h : c ∉ cs)
    (rest : List Char) :
    cutAfter (c :: separator) piece (cs ++ (c :: separator ++ rest)) =
      (piece.reverse ++ cs) :: cutAt (c :: separator) rest := by
  induction cs generalizing piece with
  | nil =>
      rw [List.nil_append, List.cons_append, cutAfter, if_pos (by simp [List.isPrefixOf])]
      simp [cutAt]
  | cons d cs ih =>
      obtain ⟨hd, hcs⟩ := not_or.1 (fun hor => h (List.mem_cons.2 hor))
      have hprefix : ¬ (c :: separator).isPrefixOf (d :: (cs ++ (c :: separator ++ rest))) := by
        simp [List.isPrefixOf, hd]
      rw [List.cons_append, cutAfter, if_neg hprefix, ih hcs, List.reverse_cons, List.append_assoc]
      rfl

/-- A piece without the first character of the separator is cut off as a whole. -/
theorem cutAt_append {c : Char} {separator piece : List Char} (h : c ∉ piece) (rest : List Char) :
    cutAt (c :: separator) (piece ++ (c :: separator ++ rest)) =
      piece :: cutAt (c :: separator) rest :=
  cutAfter_append h rest

theorem cutAfter_of_not_mem {c : Char} {separator piece cs : List Char} (h : c ∉ cs) :
    cutAfter (c :: separator) piece cs = [piece.reverse ++ cs] := by
  induction cs generalizing piece with
  | nil => rw [cutAfter, List.append_nil]
  | cons d cs ih =>
      obtain ⟨hd, hcs⟩ := not_or.1 (fun hor => h (List.mem_cons.2 hor))
      have hprefix : ¬ (c :: separator).isPrefixOf (d :: cs) := by simp [List.isPrefixOf, hd]
      rw [cutAfter, if_neg hprefix, ih hcs, List.reverse_cons, List.append_assoc]
      rfl

/-- A text without the first character of the separator is not cut. -/
theorem cutAt_of_not_mem {c : Char} {separator piece : List Char} (h : c ∉ piece) :
    cutAt (c :: separator) piece = [piece] :=
  cutAfter_of_not_mem h

end Text

/-- The pieces of a text in front of, between and behind its line endings.  The last piece is empty
exactly if the text ends with a line ending. -/
def LineEnding.cut (lineEnding : LineEnding) (text : String) : List String :=
  (Text.cutAt lineEnding.text.toList text.toList).map String.ofList

namespace Layout

variable {layout : Layout}

theorem cut_append {s : String} (hs : OneLine s) (rest : String) :
    layout.lineEnding.cut (s ++ layout.newline ++ rest) = s :: layout.lineEnding.cut rest := by
  obtain ⟨c, more, hc, hending⟩ := layout.exists_newline_cons
  have hmem : c ∉ s.toList := fun hmem => hc (hs c hmem)
  rw [LineEnding.cut, LineEnding.cut, newline, String.toList_append, String.toList_append,
    hending, List.append_assoc, Text.cutAt_append hmem, List.map_cons, String.ofList_toList]

theorem cut_of_oneLine {s : String} (hs : OneLine s) : layout.lineEnding.cut s = [s] := by
  obtain ⟨c, more, hc, hending⟩ := layout.exists_newline_cons
  have hmem : c ∉ s.toList := fun hmem => hc (hs c hmem)
  rw [LineEnding.cut, hending, Text.cutAt_of_not_mem hmem, List.map_singleton,
    String.ofList_toList]

/-- **Cutting lines that were laid out gives them back**, with nothing behind the last one. -/
theorem cut_unlines (hl : layout.IsBlank) (base : Nat) {ls : List Line}
    (hls : ∀ l ∈ ls, OneLine l.text) :
    layout.lineEnding.cut (layout.unlines base ls) = ls.map (layout.line base) ++ [""] := by
  induction ls with
  | nil => simp [unlines, LineEnding.cut, Text.cutAt, Text.cutAfter]
  | cons l ls ih =>
      obtain ⟨hl₁, hls⟩ := List.forall_mem_cons.1 hls
      have hline : OneLine (layout.line base l) := oneLine_append.2 ⟨oneLine_indent hl _, hl₁⟩
      rw [unlines, cut_append hline, ih hls, List.map_cons, List.cons_append]

end Layout

/-! ### Openers and closers -/

/-- The two kinds of brackets. -/
inductive Bracket where
  | brace
  | square
  deriving Repr, DecidableEq

namespace Bracket

/-- The line that opens a bracket. -/
def opener : Bracket → String
  | brace => "\x7b"
  | square => "["

/-- The line that closes a bracket, with a terminator behind. -/
def closer (b : Bracket) (t : Terminator) : String :=
  match b with
  | brace => "\x7d" ++ t.text
  | square => "]" ++ t.text

end Bracket

/-- What a line is in the column of lines. -/
inductive Mark where
  | opener (b : Bracket)
  | closer (b : Bracket) (t : Terminator)
  /-- A line of another kind. -/
  | none
  deriving Repr, DecidableEq

/-- Whether the line opens a bracket. -/
def Mark.isOpener : Mark → Bool
  | opener _ => true
  | _ => false

/-- Whether the line closes a bracket. -/
def Mark.isCloser : Mark → Bool
  | closer _ _ => true
  | _ => false

/-- The mark that the text of a line is: an opening bracket and nothing else, a closing bracket and
its terminator and nothing else, or none. -/
def mark (x : String) : Mark :=
  if x = "\x7b" then .opener .brace
  else if x = "[" then .opener .square
  else if x = "\x7d," then .closer .brace .comma
  else if x = "\x7d;" then .closer .brace .semicolon
  else if x = "]," then .closer .square .comma
  else if x = "];" then .closer .square .semicolon
  else .none

@[simp] theorem mark_opener (b : Bracket) : mark b.opener = .opener b := by
  cases b <;> decide

@[simp] theorem mark_closer (b : Bracket) (t : Terminator) : mark (b.closer t) = .closer b t := by
  cases b <;> cases t <;> decide

/-- Only six texts are marks. -/
theorem mark_eq_none {x : String} (hopener : ∀ b : Bracket, x ≠ b.opener)
    (hcloser : ∀ (b : Bracket) (t : Terminator), x ≠ b.closer t) : mark x = .none := by
  have h₁ : x ≠ "\x7b" := hopener .brace
  have h₂ : x ≠ "[" := hopener .square
  have h₃ : x ≠ "\x7d," := hcloser .brace .comma
  have h₄ : x ≠ "\x7d;" := hcloser .brace .semicolon
  have h₅ : x ≠ "]," := hcloser .square .comma
  have h₆ : x ≠ "];" := hcloser .square .semicolon
  rw [mark, if_neg h₁, if_neg h₂, if_neg h₃, if_neg h₄, if_neg h₅, if_neg h₆]

/-- A text with an equals sign is no mark. -/
theorem mark_eq_none_of_mem {x : String} (h : '=' ∈ x.toList) : mark x = .none := by
  refine mark_eq_none ?_ ?_
  · rintro b rfl
    cases b <;> exact absurd h (by decide)
  · rintro b t rfl
    cases b <;> cases t <;> exact absurd h (by decide)

/-- A text that starts with no bracket is no mark. -/
theorem mark_eq_none_of_head {x : String} {c : Char} {cs : List Char} (hx : x.toList = c :: cs)
    (hc : c ∉ ['\x7b', '[', '\x7d', ']']) : mark x = .none := by
  refine mark_eq_none ?_ ?_
  · rintro b rfl
    cases b <;> (obtain ⟨rfl, -⟩ := List.cons.inj hx; exact hc (by decide))
  · rintro b t rfl
    cases b <;> cases t <;> (obtain ⟨rfl, -⟩ := List.cons.inj hx; exact hc (by decide))

/-- The brackets that are open at the end of a column, innermost first, if `stack` was open at its
start.  There is no such thing if a closer meets another bracket than its own, or none. -/
def unclosed (stack : List Bracket) : List String → Option (List Bracket)
  | [] => some stack
  | x :: xs =>
    match mark x, stack with
    | .none, stack => unclosed stack xs
    | .opener b, stack => unclosed (b :: stack) xs
    | .closer b _, top :: stack => if top = b then unclosed stack xs else none
    | .closer _ _, [] => none

/-! ### Following the lines -/

/-- **Lines that are indented by the brackets open there**, from the brackets open in front of the
first line to those open behind the last.  A closer stands at the level of its opener. -/
inductive Walk : List Bracket → List Line → List Bracket → Prop where
  | done (stack : List Bracket) : Walk stack [] stack
  | plain {stack out : List Bracket} {l : Line} {ls : List Line}
      (hlevel : l.level = stack.length) (hmark : mark l.text = .none) (hls : Walk stack ls out) :
      Walk stack (l :: ls) out
  | opener {stack out : List Bracket} {l : Line} {ls : List Line} {b : Bracket}
      (hlevel : l.level = stack.length) (hmark : mark l.text = .opener b)
      (hls : Walk (b :: stack) ls out) : Walk stack (l :: ls) out
  | closer {stack out : List Bracket} {l : Line} {ls : List Line} {b : Bracket} {t : Terminator}
      (hlevel : l.level = stack.length) (hmark : mark l.text = .closer b t)
      (hls : Walk stack ls out) : Walk (b :: stack) (l :: ls) out

namespace Walk

variable {stack mid out : List Bracket} {ls ms : List Line}

theorem append (hls : Walk stack ls mid) (hms : Walk mid ms out) : Walk stack (ls ++ ms) out := by
  induction hls with
  | done stack => exact hms
  | plain hlevel hmark _ ih => exact .plain hlevel hmark (ih hms)
  | opener hlevel hmark _ ih => exact .opener hlevel hmark (ih hms)
  | closer hlevel hmark _ ih => exact .closer hlevel hmark (ih hms)

/-- Parts that leave the stack as it is leave it so together. -/
theorem flatMap {α : Type} {lines : α → List Line} {xs : List α}
    (h : ∀ x ∈ xs, Walk stack (lines x) stack) : Walk stack (xs.flatMap lines) stack := by
  induction xs with
  | nil => exact .done stack
  | cons x xs ih =>
      rw [List.flatMap_cons]
      exact (h x (List.mem_cons_self ..)).append (ih fun y hy => h y (List.mem_cons_of_mem _ hy))

/-- What stands between an opener and its closer is one level further in. -/
theorem block {b : Bracket} {t : Terminator} (hls : Walk (b :: stack) ls (b :: stack)) :
    Walk stack (⟨stack.length, b.opener⟩ :: (ls ++ [⟨stack.length, b.closer t⟩])) stack :=
  .opener rfl (mark_opener b) (hls.append (.closer rfl (mark_closer b t) (.done stack)))

/-- Lines that can be followed have brackets that match. -/
theorem unclosed_eq (h : Walk stack ls out) : unclosed stack (ls.map Line.text) = some out := by
  induction h with
  | done stack => rfl
  | plain _ hmark _ ih => simpa only [List.map_cons, unclosed, hmark] using ih
  | opener _ hmark _ ih => simpa only [List.map_cons, unclosed, hmark] using ih
  | closer _ hmark _ ih => simpa only [List.map_cons, unclosed, hmark, if_true] using ih

end Walk

/-- The line opens a bracket. -/
def Line.isOpener (l : Line) : Bool := (mark l.text).isOpener

/-- The line closes a bracket. -/
def Line.isCloser (l : Line) : Bool := (mark l.text).isCloser

/-- **A line is indented by the brackets that are open there**: those opened in front of it, less
those closed in front of it, less the one that it closes itself. -/
theorem Walk.level_eq {stack out : List Bracket} {ls : List Line} (h : Walk stack ls out) (i : Nat)
    (hi : i < ls.length) :
    (ls[i].level : Int) =
      stack.length + (ls.take i).countP Line.isOpener - (ls.take i).countP Line.isCloser -
        if ls[i].isCloser then 1 else 0 := by
  induction h generalizing i with
  | done stack => exact absurd hi (Nat.not_lt_zero i)
  | plain hlevel hmark _ ih =>
      cases i with
      | zero => simp [Line.isCloser, hmark, Mark.isCloser, hlevel]
      | succ i =>
          have htail := ih i (Nat.lt_of_succ_lt_succ hi)
          simpa [Line.isOpener, Line.isCloser, hmark, Mark.isOpener, Mark.isCloser] using htail
  | opener hlevel hmark _ ih =>
      cases i with
      | zero => simp [Line.isCloser, hmark, Mark.isCloser, hlevel]
      | succ i =>
          -- the bracket is on the stack of the lines that follow, and counted here
          have htail := ih i (Nat.lt_of_succ_lt_succ hi)
          simp only [List.getElem_cons_succ, List.take_succ_cons, List.length_cons] at htail ⊢
          rw [htail, List.countP_cons_of_pos, List.countP_cons_of_neg]
          · push_cast
            omega
          · simp [Line.isCloser, hmark, Mark.isCloser]
          · simp [Line.isOpener, hmark, Mark.isOpener]
  | closer hlevel hmark _ ih =>
      cases i with
      | zero => simp [Line.isCloser, hmark, Mark.isCloser, hlevel]
      | succ i =>
          have htail := ih i (Nat.lt_of_succ_lt_succ hi)
          simp only [List.getElem_cons_succ, List.take_succ_cons, List.length_cons] at htail ⊢
          rw [htail, List.countP_cons_of_neg, List.countP_cons_of_pos]
          · push_cast
            omega
          · simp [Line.isCloser, hmark, Mark.isCloser]
          · simp [Line.isOpener, hmark, Mark.isOpener]

/-! ### The marks of a value -/

namespace Tree

variable {allowed : Char → Prop}

/-- The head of a value is no mark, wherever a comma ends it: a bracket of its own is the head of no
value. -/
theorem mark_head {v : Tree} (hw : v.WrittenIn allowed) : mark (v.head .comma) = .none := by
  cases v with
  | number text =>
      rw [WrittenIn] at hw
      obtain ⟨c, rest, htext, hc⟩ := hw.starts
      refine mark_eq_none_of_head (?_ : _ = c :: (rest ++ [','])) ?_
      · simp [head, literal?, Terminator.text, htext]
      · intro hmem
        rcases List.mem_cons.1 hmem with rfl | hmem
        · exact absurd hc (by decide)
        · simp only [List.mem_cons, List.not_mem_nil, or_false] at hmem
          rcases hmem with rfl | rfl | rfl <;> exact absurd hc (by decide)
  | string text =>
      refine mark_eq_none_of_head (?_ : _ = '"' :: (text.toList ++ ['"', ','])) (by decide)
      simp [head, literal?, stringLiteral, Terminator.text]
  | array items =>
      cases items with
      | nil => show mark "[]," = .none; decide
      | cons v vs => show mark "" = .none; decide
  | object entries => show mark "new()" = .none; decide
  | bool b => cases b <;> decide
  | _ => decide

/-- Nor is the head behind a key. -/
theorem mark_key_head (key : String) (v : Tree) (t : Terminator) :
    mark (key ++ " = " ++ v.head t) = .none :=
  mark_eq_none_of_mem (by simp)

/-- The lines below a value can be followed, and leave the stack as it was. -/
def BodyWalks (allowed : Char → Prop) (v : Tree) : Prop :=
  v.WrittenIn allowed → ∀ (stack : List Bracket) (t : Terminator),
    Walk stack (v.body stack.length t) stack

/-- So can those of a value, if its first line is no mark. -/
theorem BodyWalks.lines {v : Tree} (hv : v.BodyWalks allowed) (hw : v.WrittenIn allowed)
    (stack : List Bracket) {lead : String} {t : Terminator}
    (hmark : mark (lead ++ v.head t) = .none) : Walk stack (v.lines stack.length lead t) stack :=
  .plain rfl hmark (hv hw stack t)

/-- **The lines below a value open and close their brackets in turn**, whatever brackets are open
around them. -/
theorem walk_body (v : Tree) : v.BodyWalks allowed := by
  induction v with
  | scalar v literal hv =>
      intro _ stack t
      rw [body_scalar hv]
      exact .done stack
  | array items ih =>
      intro hw stack t
      cases items with
      | nil => rw [body]; exact .done stack
      | cons v vs =>
          -- the items stand one level further in, inside of the bracket
          have hitems : Walk (.square :: stack) (itemLines (stack.length + 1) (v :: vs))
              (.square :: stack) := by
            rw [itemLines_eq]
            refine Walk.flatMap fun u hu => ?_
            have hmem := (List.mem_filter.1 hu).1
            have hwritten := writtenIn_array.1 hw u hmem
            exact (ih u hmem).lines hwritten (.square :: stack)
              (by rw [String.empty_append]; exact mark_head hwritten)
          rw [body]
          exact Walk.block hitems
  | object entries ih =>
      intro hw stack t
      have hentries : Walk (.brace :: stack) (entryLines (stack.length + 1) entries)
          (.brace :: stack) := by
        rw [entryLines_eq]
        refine Walk.flatMap fun e he => ?_
        have hmem := (List.mem_filter.1 he).1
        exact (ih e hmem).lines (writtenIn_object.1 hw e hmem).2 (.brace :: stack)
          (mark_key_head e.1 e.2 .comma)
      rw [body]
      exact Walk.block hentries

/-- **The lines of a statement open and close their brackets in turn**, and none is left open. -/
theorem walk_statementLines {v : Tree} (hw : v.WrittenIn allowed) (className : String) :
    Walk [] (v.statementLines className) [] :=
  (walk_body v).lines hw [] (mark_eq_none_of_mem (by simp))

end Tree

/-! ### The end of the statement -/

/-- The text ends with a semicolon. -/
def EndsStatement (x : String) : Prop :=
  x.toList.getLast? = some ';'

instance (x : String) : Decidable (EndsStatement x) :=
  inferInstanceAs (Decidable (_ = _))

/-- A text ends as the second of its two parts does, unless that is empty. -/
theorem endsStatement_append {x y : String} :
    EndsStatement (x ++ y) ↔ EndsStatement y ∨ y = "" ∧ EndsStatement x := by
  unfold EndsStatement
  rw [String.toList_append, List.getLast?_append]
  cases hy : y.toList.getLast? with
  | none => simp [String.toList_eq_nil_iff.1 (List.getLast?_eq_none_iff.1 hy)]
  | some c =>
      have hne : y ≠ "" := by
        rintro rfl
        simp at hy
      simp [hne]

/-- A bracket with its terminator is the text of the line that it is the mark of. -/
theorem eq_closer_of_mark_eq {x : String} {b : Bracket} {t : Terminator}
    (h : mark x = .closer b t) : x = b.closer t := by
  by_cases hcloser : ∃ (b' : Bracket) (t' : Terminator), x = b'.closer t'
  · obtain ⟨b', t', rfl⟩ := hcloser
    rw [mark_closer] at h
    cases h
    rfl
  · by_cases hopener : ∃ b' : Bracket, x = b'.opener
    · obtain ⟨b', rfl⟩ := hopener
      rw [mark_opener] at h
      cases h
    · have hnone : mark x = .none := mark_eq_none (fun b' hb => hopener ⟨b', hb⟩)
        fun b' t' hb => hcloser ⟨b', t', hb⟩
      rw [hnone] at h
      cases h

namespace Tree

/-- A value ends the statement on the line that it starts on only if it is told to, and is no block
or collection. -/
theorem endsStatement_head {v : Tree} {t : Terminator} (level : Nat) :
    EndsStatement (v.head t) ↔ t = .semicolon ∧ v.body level t = [] := by
  have hterminator (s : String) : EndsStatement (s ++ t.text) ↔ t = .semicolon := by
    rw [endsStatement_append]
    cases t <;> simp [EndsStatement, Terminator.text]
  cases hv : v.literal? with
  | some literal => simp [head_scalar hv, hterminator, body_scalar hv]
  | none =>
      cases v with
      | array items =>
          cases items with
          | nil => simp [head, hterminator, body]
          | cons v vs => simp [head, body, EndsStatement]
      | object entries => simp [head, body, EndsStatement]
      | bool b => cases b <;> simp [literal?] at hv
      | _ => simp [literal?] at hv

/-- A value has no lines below the one that it starts on, or a closer ends them. -/
theorem body_eq_or (v : Tree) (level : Nat) :
    (∀ t, v.body level t = []) ∨
      ∃ (b : Bracket) (inner : List Line),
        ∀ t, v.body level t = inner ++ [⟨level, b.closer t⟩] := by
  cases hv : v.literal? with
  | some literal => exact Or.inl fun t => body_scalar hv level t
  | none =>
      cases v with
      | array items =>
          cases items with
          | nil => exact Or.inl fun t => by rw [body]
          | cons v vs =>
              exact Or.inr ⟨.square, ⟨level, "["⟩ :: itemLines (level + 1) (v :: vs), fun t => by
                rw [body, List.cons_append]; rfl⟩
      | object entries =>
          exact Or.inr ⟨.brace, ⟨level, "\x7b"⟩ :: entryLines (level + 1) entries, fun t => by
            rw [body, List.cons_append]; rfl⟩
      | bool b => cases b <;> simp [literal?] at hv
      | _ => simp [literal?] at hv

/-- No line below the value ends the statement, if a comma ends the value. -/
def BodyContinues (v : Tree) : Prop :=
  ∀ level : Nat, ∀ l ∈ v.body level .comma, ¬ EndsStatement l.text

/-- Nor does any line of the value, if none does below it. -/
theorem BodyContinues.lines {v : Tree} (hv : v.BodyContinues) (level : Nat) {lead : String}
    (hlead : ¬ EndsStatement lead) : ∀ l ∈ v.lines level lead .comma, ¬ EndsStatement l.text := by
  intro l hl
  rcases List.mem_cons.1 hl with rfl | hl
  · rw [endsStatement_append, endsStatement_head level]
    rintro (⟨ht, -⟩ | ⟨-, hends⟩)
    · cases ht
    · exact hlead hends
  · exact hv level l hl

/-- What stands in front of a value on its line does not end the statement. -/
theorem not_endsStatement_lead (s : String) {lead : String} (hne : lead ≠ "")
    (hlead : ¬ EndsStatement lead) : ¬ EndsStatement (s ++ lead) := by
  rw [endsStatement_append]
  exact not_or.2 ⟨hlead, fun h => hne h.1⟩

/-- **No line below a value ends the statement**, if a comma ends the value. -/
theorem bodyContinues (v : Tree) : v.BodyContinues := by
  induction v with
  | scalar v literal hv =>
      intro level l hl
      rw [body_scalar hv] at hl
      exact absurd hl List.not_mem_nil
  | array items ih =>
      intro level l hl
      cases items with
      | nil => simp [body] at hl
      | cons v vs =>
          rw [body] at hl
          simp only [List.mem_cons, List.mem_append, List.not_mem_nil, or_false] at hl
          rcases hl with rfl | hl | rfl
          · show ¬ EndsStatement "["
            decide
          · rw [itemLines_eq] at hl
            obtain ⟨u, hu, hl⟩ := List.mem_flatMap.1 hl
            exact (ih u (List.mem_filter.1 hu).1).lines (level + 1) (by decide) l hl
          · show ¬ EndsStatement "],"
            decide
  | object entries ih =>
      intro level l hl
      rw [body] at hl
      simp only [List.mem_cons, List.mem_append, List.not_mem_nil, or_false] at hl
      rcases hl with rfl | hl | rfl
      · show ¬ EndsStatement "\x7b"
        decide
      · rw [entryLines_eq] at hl
        obtain ⟨e, he, hl⟩ := List.mem_flatMap.1 hl
        exact (ih e (List.mem_filter.1 he).1).lines (level + 1)
          (not_endsStatement_lead e.1 (by decide) (by decide)) l hl
      · show ¬ EndsStatement "\x7d,"
        decide

/-- **The last line of a statement ends it, and no other line does.**  The last line stands at the
level of the first. -/
theorem statementLines_eq_concat (className : String) (v : Tree) :
    ∃ (ls : List Line) (last : Line), v.statementLines className = ls ++ [last] ∧
      (∀ l ∈ ls, ¬ EndsStatement l.text) ∧ EndsStatement last.text ∧ last.level = 0 := by
  rcases body_eq_or v 0 with hbody | ⟨b, inner, hbody⟩
  · -- the first line is the last one
    refine ⟨[], ⟨0, className ++ " instance = " ++ v.head .semicolon⟩, ?_, ?_, ?_, rfl⟩
    · rw [statementLines, lines, hbody .semicolon, List.nil_append]
    · exact fun l hl => absurd hl List.not_mem_nil
    · exact endsStatement_append.2 (Or.inl ((endsStatement_head 0).2 ⟨rfl, hbody _⟩))
  · refine ⟨⟨0, className ++ " instance = " ++ v.head .semicolon⟩ :: inner,
      ⟨0, b.closer .semicolon⟩, ?_, ?_, ?_, rfl⟩
    · rw [statementLines, lines, hbody .semicolon, List.cons_append]
    · intro l hl
      rcases List.mem_cons.1 hl with rfl | hl
      · rw [endsStatement_append, endsStatement_head 0, hbody]
        rintro (⟨-, hnil⟩ | ⟨-, hends⟩)
        · simp at hnil
        · exact not_endsStatement_lead className (by decide) (by decide) hends
      · exact bodyContinues v 0 l (by rw [hbody .comma]; exact List.mem_append_left _ hl)
    · cases b <;> decide

end Tree

theorem Layout.not_endsStatement_indent {layout : Layout} (hl : layout.IsBlank) (n : Nat) :
    ¬ EndsStatement (layout.indent n) := by
  intro h
  have hmem : ';' ∈ (layout.indent n).toList := List.mem_of_getLast? h
  clear h
  induction n with
  | zero => exact absurd hmem (by rw [indent]; decide)
  | succ n ih =>
      rw [indent, String.toList_append, List.mem_append] at hmem
      rcases hmem with hmem | hmem
      · rcases hl.blank _ hmem with h | h <;> exact absurd h (by decide)
      · exact ih hmem

/-- An indent does not change how a line ends. -/
theorem Layout.endsStatement_line {layout : Layout} (hl : layout.IsBlank) (base : Nat) (l : Line) :
    EndsStatement (layout.line base l) ↔ EndsStatement l.text := by
  rw [line, endsStatement_append]
  exact or_iff_left fun h => not_endsStatement_indent hl _ h.2

/-! ### Shape -/

/-- The shape of a content, with its lines: each has a level and a text behind the indent. -/
structure WellShaped (layout : Layout) (base : Nat) (content : String) (ls : List Line) : Prop where
  nonempty : ls ≠ []
  ends : ∃ front : String, content = front ++ layout.lineEnding.text
  /-- Cut at its line endings, the content is the lines, each behind an indent of its level, counted
  from the base, and nothing stands behind the last line ending. -/
  cut : layout.lineEnding.cut content =
    ls.map (fun l => layout.indent (base + l.level) ++ l.text) ++ [""]
  /-- The level of a line is the number of openers less the number of closers in front of it, less
  one if it is a closer itself. -/
  level : ∀ (i : Nat) (hi : i < ls.length),
    (ls[i].level : Int) = (ls.take i).countP Line.isOpener - (ls.take i).countP Line.isCloser -
      if ls[i].isCloser then 1 else 0
  /-- The brackets match, and none is left open. -/
  matched : unclosed [] (ls.map Line.text) = some []
  /-- A comma stands behind every closer but the outermost. -/
  closers : ∀ l ∈ ls, ∀ (b : Bracket) (t : Terminator), mark l.text = .closer b t →
    t = .comma ∨ l.level = 0
  /-- A semicolon ends the last line, and no other. -/
  semicolon : ∀ (i : Nat) (hi : i < ls.length),
    EndsStatement (layout.indent (base + ls[i].level) ++ ls[i].text) ↔ i + 1 = ls.length

/-- **A rendering is well shaped**, if the settings are valid and no line breaks stand in the
texts. -/
theorem render_wellShaped (settings : Settings) (hs : settings.validate = .ok ()) (v : Tree)
    (hv : v.WrittenIn Inline) (hd : settings.baseIndent + v.depth < depthModulus) :
    ∃ ls : List Line,
      WellShaped settings.layout settings.baseIndent (render settings v).content ls := by
  have hl := Settings.isBlank_layout hs
  have hlead : OneLine (settings.className ++ " instance = ") :=
    oneLine_append.2 ⟨Settings.oneLine_className hs, by decide⟩
  have hlines := Tree.oneLine_lines (fun _ hc => hc) hv 0 hlead .semicolon
  have hwalk := Tree.walk_statementLines hv settings.className
  obtain ⟨ls, last, hconcat, hinner, hlast, hlevel⟩ :=
    Tree.statementLines_eq_concat settings.className v
  refine ⟨v.statementLines settings.className, ?_, ?_, ?_, ?_, hwalk.unclosed_eq, ?_, ?_⟩
  · rw [hconcat]
    exact List.append_ne_nil_of_right_ne_nil _ (List.cons_ne_nil _ _)
  · -- the last line has a line ending behind it, as all lines have
    refine ⟨settings.layout.unlines settings.baseIndent ls ++
      settings.layout.line settings.baseIndent last, ?_⟩
    rw [content_eq_unlines settings v hd, hconcat, Layout.unlines_append, Layout.unlines,
      Layout.unlines, String.append_empty, String.append_assoc]
    rfl
  · rw [content_eq_unlines settings v hd]
    exact Layout.cut_unlines hl settings.baseIndent hlines
  · intro i hi
    simpa using hwalk.level_eq i hi
  · -- a closer with a semicolon behind would end the statement
    intro l hmem b t hmark
    rw [hconcat, List.mem_append, List.mem_singleton] at hmem
    rcases hmem with hmem | rfl
    · cases t with
      | comma => exact Or.inl rfl
      | semicolon =>
          have hends : EndsStatement l.text := by
            rw [eq_closer_of_mark_eq hmark]
            cases b <;> decide
          exact absurd hends (hinner l hmem)
    · exact Or.inr hlevel
  · intro i hi
    rw [show _ ++ _ = settings.layout.line settings.baseIndent _ from rfl,
      Layout.endsStatement_line hl]
    simp only [hconcat] at hi ⊢
    rw [List.length_append, List.length_singleton] at hi ⊢
    rcases Nat.lt_or_eq_of_le (Nat.le_of_lt_succ hi) with hlt | rfl
    · rw [List.getElem_append_left hlt]
      constructor
      · exact fun h => absurd h (hinner _ (List.getElem_mem hlt))
      · omega
    · simpa using hlast

/-- Keys that look like brackets and end statements, texts that do, a block of metadata only, and an
array in an array, which has a blank line in front of it. -/
theorem render_wellShaped_brackets_in_texts :
    let settings : Settings :=
      { Settings.standard with indent := .spaces 2, lineEnding := .crlf, baseIndent := 1 }
    let v : Tree := .object
      [("\x7b", .array [.array [.string "];", .number "-1"], .null]), ("\x7d;", .string "\x7d;"),
        (";", .object [("$id", .unsupported)])]
    settings.validate = .ok () ∧ v.WrittenIn Inline ∧
      settings.baseIndent + v.depth < depthModulus ∧
      ∃ ls : List Line,
        WellShaped settings.layout settings.baseIndent (render settings v).content ls := by
  intro settings v
  have hone : Json.IsNumeral "-1".toList :=
    ⟨['-'], ['1'], [], [], Or.inr rfl, Or.inr ⟨⟨by simp, by simp⟩, by simp⟩, Or.inl rfl,
      Or.inl rfl, rfl⟩
  have hv : v.WrittenIn Inline := by
    simp only [v, Tree.WrittenIn, Tree.EntriesWrittenIn, Tree.ItemsWrittenIn]
    exact ⟨by simp [Inline], ⟨⟨by simp [Inline], hone, trivial⟩, trivial, trivial⟩,
      by simp [Inline], by simp [Inline], by simp [Inline], ⟨by simp [Inline], trivial, trivial⟩,
      trivial⟩
  have hs : settings.validate = .ok () := (Settings.validate_eq_ok_iff settings).2 (by decide)
  exact ⟨hs, hv, by decide, render_wellShaped settings hs v hv (by decide)⟩

end ObjectInitializer
