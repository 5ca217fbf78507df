/-
**Lines and positions, piece by piece.**

A text is either a piece without a line feed, or such a piece, a line feed and a further text; what
is computed of lines and positions follows these pieces.  A position in front of the first line feed
is on the first line, and any other is one line below a position of the further text; the lines
behind the first one are those of the further text.

The two do not agree at the very end: a text that ends with a line feed has no line behind it, but
its end has a position there.  Everywhere else there is a line at a position
(`Text.exists_isLine_positionOf_iff`).

Main definitions:

* `Text.IsLine` — the lines of a text, by number;
* `Text.Position.below` — a position some lines further down;
* `Text.fitting` — the characters that lie within some bytes.

Main results:

* `Text.byLines` — induction on a text, one piece at a time;
* `Text.line?_eq_some_iff` — what is found under a number is the line of that number;
* `Text.positionOf_of_le`, `Text.positionOf_newline` — positions in front of the first line feed and
  behind it;
* `Text.positionOf_newlines`, `Text.line?_newlines` — line feeds in front move positions and lines
  down;
* `Text.exists_isLine_positionOf_iff` — **where there is no line at a position**;
* `Text.le_fitting_iff`, `Text.min_eq_fitting_iff` — how many characters lie within some bytes, and
  when they are as many as the bytes.
-/

import ObjectInitializer.Text.Position

set_option relaxedAutoImplicit false
set_option autoImplicit false

namespace ObjectInitializer.Text

variable {cs piece rest line : List Char} {n : Nat}

/-- **Induction on a text**, one piece at a time. -/
theorem byLines {motive : List Char → Prop} (last : ∀ piece, '\n' ∉ piece → motive piece)
    (ended : ∀ piece rest, '\n' ∉ piece → motive rest → motive (piece ++ '\n' :: rest))
    (cs : List Char) : motive cs := by
  by_cases h : '\n' ∈ cs
  · obtain ⟨piece, rest, hcs, hpiece⟩ := List.eq_append_cons_of_mem h
    exact hcs ▸ ended piece rest hpiece (byLines last ended rest)
  · exact last cs h
termination_by cs.length
decreasing_by
  rw [hcs, List.length_append, List.length_cons]
  omega

/-! ### Lines -/

/-- **The lines of a text**, by number, counted from one.  A carriage return belongs to the line
break in front of a line feed only, and behind the last line feed there is a line only if there is
anything. -/
inductive IsLine : List Char → Nat → List Char → Prop where
  | last {piece : List Char} (hpiece : '\n' ∉ piece) (hne : piece ≠ []) : IsLine piece 1 piece
  | first {piece : List Char} (hpiece : '\n' ∉ piece) (rest : List Char) :
      IsLine (piece ++ '\n' :: rest) 1 (dropReturn piece)
  | next {piece rest line : List Char} {number : Nat} (hpiece : '\n' ∉ piece)
      (h : IsLine rest number line) : IsLine (piece ++ '\n' :: rest) (number + 1) line

theorem bne_newline_of_mem (hpiece : '\n' ∉ piece) : ∀ c ∈ piece, (c != '\n') = true :=
  fun _ hc => bne_iff_ne.2 (ne_of_mem_of_not_mem hc hpiece)

theorem takeWhile_piece (hpiece : '\n' ∉ piece) (rest : List Char) :
    (piece ++ '\n' :: rest).takeWhile (· != '\n') = piece := by
  rw [List.takeWhile_append_of_pos (bne_newline_of_mem hpiece),
    List.takeWhile_cons_of_neg (by decide), List.append_nil]

theorem dropWhile_piece (hpiece : '\n' ∉ piece) (rest : List Char) :
    (piece ++ '\n' :: rest).dropWhile (· != '\n') = '\n' :: rest := by
  rw [List.dropWhile_append_of_pos (bne_newline_of_mem hpiece),
    List.dropWhile_cons_of_neg (by decide)]

theorem dropWhile_last (hpiece : '\n' ∉ piece) : piece.dropWhile (· != '\n') = [] := by
  have h : (piece ++ []).dropWhile (· != '\n') = [] :=
    List.dropWhile_append_of_pos (bne_newline_of_mem hpiece)
  rwa [List.append_nil] at h

theorem line?_zero_last (hpiece : '\n' ∉ piece) (hne : piece ≠ []) :
    line? 0 piece = some piece := by
  cases piece with
  | nil => exact absurd rfl hne
  | cons c cs => rw [line?, dropWhile_last hpiece]; exact hne

theorem line?_succ_last (hpiece : '\n' ∉ piece) (n : Nat) : line? (n + 1) piece = none := by
  cases piece with
  | nil => rfl
  | cons c cs => rw [line?, dropWhile_last hpiece, List.drop_nil, line?_nil]; simp

theorem line?_zero_newline (hpiece : '\n' ∉ piece) (rest : List Char) :
    line? 0 (piece ++ '\n' :: rest) = some (dropReturn piece) := by
  rw [line?, dropWhile_piece hpiece, takeWhile_piece hpiece]
  simp

theorem line?_succ_newline (hpiece : '\n' ∉ piece) (rest : List Char) (n : Nat) :
    line? (n + 1) (piece ++ '\n' :: rest) = line? n rest := by
  rw [line?, dropWhile_piece hpiece]
  · rfl
  · simp

/-- **What is found under a number is the line of that number.** -/
theorem line?_eq_some_iff : line? n cs = some line ↔ IsLine cs (n + 1) line := by
  constructor
  · intro h
    induction cs using byLines generalizing n with
    | last piece hpiece =>
        cases n with
        | zero =>
            by_cases hne : piece = []
            · rw [hne, line?_nil] at h
              cases h
            · rw [line?_zero_last hpiece hne] at h
              cases h
              exact .last hpiece hne
        | succ n =>
            rw [line?_succ_last hpiece] at h
            cases h
    | ended piece rest hpiece ih =>
        cases n with
        | zero =>
            rw [line?_zero_newline hpiece] at h
            cases h
            exact .first hpiece rest
        | succ n =>
            rw [line?_succ_newline hpiece] at h
            exact .next hpiece (ih h)
  · intro h
    generalize hnumber : n + 1 = number at h
    induction h generalizing n with
    | last hpiece hne =>
        cases hnumber
        exact line?_zero_last hpiece hne
    | first hpiece rest =>
        cases hnumber
        exact line?_zero_newline hpiece rest
    | @next piece rest line number hpiece h ih =>
        cases hnumber
        cases number with
        | zero => nomatch h
        | succ n => rw [line?_succ_newline hpiece, ih rfl]

theorem line?_eq_none_iff : line? n cs = none ↔ ¬ ∃ line, IsLine cs (n + 1) line := by
  simp only [← line?_eq_some_iff, ← Option.ne_none_iff_exists', ne_eq, Decidable.not_not]

/-! ### Positions -/

/-- The position as many lines further down. -/
def Position.below (k : Nat) (p : Position) : Position :=
  { p with line := p.line + k }

theorem Position.advance_below (k : Nat) (start : Position) (cs : List Char) (n : Nat) :
    advance (start.below k) cs n = (advance start cs n).below k := by
  induction cs generalizing start n with
  | nil => rfl
  | cons c cs ih =>
      rw [advance, advance]
      split
      · rfl
      · split
        · have hline : start.line + k + 1 = start.line + 1 + k := by omega
          rw [← ih]
          simp [below, hline]
        · rw [← ih]
          rfl

theorem Position.line_le_advance (start : Position) (cs : List Char) (n : Nat) :
    start.line ≤ (advance start cs n).line := by
  induction cs generalizing start n with
  | nil => exact Nat.le_refl _
  | cons c cs ih =>
      rw [advance]
      split
      · exact Nat.le_refl _
      · split
        · exact Nat.le_trans (Nat.le_add_right _ 1) (ih ⟨start.line + 1, 0⟩ _)
        · exact ih { start with column := start.column + c.utf8Size } _

theorem Position.advance_of_le (hpiece : '\n' ∉ piece) (hn : n ≤ byteSize piece) (start : Position)
    (rest : List Char) :
    advance start (piece ++ rest) n = { start with column := start.column + n } := by
  induction piece generalizing start n with
  | nil =>
      obtain rfl := Nat.le_zero.1 hn
      cases rest with
      | nil => rfl
      | cons c cs => rw [List.nil_append, advance, if_pos c.utf8Size_pos]
  | cons c cs ih =>
      obtain ⟨hc, hcs⟩ := List.ne_and_not_mem_of_not_mem_cons hpiece
      rw [byteSize_cons] at hn
      rw [List.cons_append, advance]
      split
      · rfl
      · rw [if_neg (Ne.symm hc), ih hcs (by omega), Nat.add_assoc, Nat.add_sub_cancel' (by omega)]

theorem Position.advance_newline (hpiece : '\n' ∉ piece) (start : Position) (rest : List Char)
    (n : Nat) :
    advance start (piece ++ '\n' :: rest) (byteSize piece + (n + 1)) =
      advance ⟨start.line + 1, 0⟩ rest n := by
  induction piece generalizing start with
  | nil =>
      have hsize : '\n'.utf8Size = 1 := by decide
      rw [List.nil_append, advance, if_neg (by rw [hsize]; omega), if_pos rfl, hsize]
      simp
  | cons c cs ih =>
      obtain ⟨hc, hcs⟩ := List.ne_and_not_mem_of_not_mem_cons hpiece
      have hn : byteSize (c :: cs) + (n + 1) - c.utf8Size = byteSize cs + (n + 1) := by
        rw [byteSize_cons]
        omega
      rw [List.cons_append, advance, if_neg (by rw [byteSize_cons]; omega), if_neg (Ne.symm hc), hn,
        ih hcs]

theorem one_le_line_positionOf (cs : List Char) (n : Nat) : 1 ≤ (positionOf cs n).line :=
  Position.line_le_advance ⟨1, 0⟩ cs n

/-- In front of the first line feed, the column is the place. -/
theorem positionOf_of_le (hpiece : '\n' ∉ piece) (hn : n ≤ byteSize piece) (rest : List Char) :
    positionOf (piece ++ rest) n = ⟨1, n⟩ := by
  rw [positionOf, Position.advance_of_le hpiece hn, Nat.zero_add]

/-- Behind the first line feed, a position is one line below that in the further text. -/
theorem positionOf_newline (hpiece : '\n' ∉ piece) (rest : List Char) (n : Nat) :
    positionOf (piece ++ '\n' :: rest) (byteSize piece + (n + 1)) =
      (positionOf rest n).below 1 := by
  rw [positionOf, Position.advance_newline hpiece]
  exact Position.advance_below 1 ⟨1, 0⟩ rest n

/-! ### Line feeds in front -/

@[simp] theorem Position.below_zero (p : Position) : p.below 0 = p := rfl

theorem Position.below_below (p : Position) (j k : Nat) :
    (p.below j).below k = p.below (j + k) := by
  simp [below, Nat.add_assoc]

@[simp] theorem byteSize_newlines (k : Nat) : byteSize (List.replicate k '\n') = k := by
  have hsize : '\n'.utf8Size = 1 := by decide
  induction k with
  | zero => rfl
  | succ k ih => rw [List.replicate_succ, byteSize_cons, ih, hsize, Nat.add_comm]

/-- **Line feeds in front of a text move its positions down**, and leave their columns. -/
theorem positionOf_newlines (k : Nat) (cs : List Char) (n : Nat) :
    positionOf (List.replicate k '\n' ++ cs) (k + n) = (positionOf cs n).below k := by
  induction k with
  | zero => rw [Nat.zero_add, Position.below_zero, List.replicate_zero, List.nil_append]
  | succ k ih =>
      have hfirst := positionOf_newline List.not_mem_nil (List.replicate k '\n' ++ cs) (k + n)
      rw [byteSize_nil, Nat.zero_add, List.nil_append, ih, Position.below_below] at hfirst
      rw [List.replicate_succ, List.cons_append, Nat.add_right_comm]
      exact hfirst

/-- They move its lines down as well. -/
theorem line?_newlines (k n : Nat) (cs : List Char) :
    line? (n + k) (List.replicate k '\n' ++ cs) = line? n cs := by
  induction k with
  | zero => rfl
  | succ k ih =>
      rw [List.replicate_succ, List.cons_append, ← ih, ← Nat.add_assoc]
      exact line?_succ_newline List.not_mem_nil _ _

/-! ### Where there is a line -/

/-- There is something behind the last line feed exactly if there is in the further text. -/
theorem getLast?_newline (piece rest : List Char) :
    (∀ c ∈ (piece ++ '\n' :: rest).getLast?, c = '\n') ↔ ∀ c ∈ rest.getLast?, c = '\n' := by
  rw [List.getLast?_append, List.getLast?_cons, Option.some_or]
  cases rest.getLast? <;> simp

/-- **There is a line at every position but the end of a text** that has nothing behind its last
line feed. -/
theorem exists_isLine_positionOf_iff (hn : n ≤ byteSize cs) :
    (∃ line, IsLine cs (positionOf cs n).line line) ↔
      ¬ (n = byteSize cs ∧ ∀ c ∈ cs.getLast?, c = '\n') := by
  induction cs using byLines generalizing n with
  | last piece hpiece =>
      have hposition := positionOf_of_le hpiece hn []
      rw [List.append_nil] at hposition
      rw [hposition]
      by_cases hne : piece = []
      · subst hne
        simp only [← line?_eq_some_iff (n := 0), line?_nil]
        simpa using hn
      · have hlast : ¬ ∀ c ∈ piece.getLast?, c = '\n' := fun h =>
          hpiece (h _ (List.getLast?_eq_some_getLast hne) ▸ List.getLast_mem hne)
        exact iff_of_true ⟨piece, .last hpiece hne⟩ fun h => hlast h.2
  | ended piece rest hpiece ih =>
      have hsize : '\n'.utf8Size = 1 := by decide
      rw [byteSize_append, byteSize_cons, hsize] at hn ⊢
      rw [getLast?_newline]
      by_cases hfront : n ≤ byteSize piece
      · rw [positionOf_of_le hpiece hfront]
        exact iff_of_true ⟨_, .first hpiece rest⟩ (by omega)
      · obtain ⟨m, rfl⟩ : ∃ m, n = byteSize piece + (m + 1) := ⟨n - byteSize piece - 1, by omega⟩
        have hm : byteSize piece + (m + 1) = byteSize piece + (1 + byteSize rest) ↔
            m = byteSize rest := by omega
        obtain ⟨number, hnumber⟩ := Nat.exists_eq_add_of_le' (one_le_line_positionOf rest m)
        have hline : (∃ line, IsLine (piece ++ '\n' :: rest) (number + 1 + 1) line) ↔
            ∃ line, IsLine rest (number + 1) line := by
          simp only [← line?_eq_some_iff, line?_succ_newline hpiece]
        rw [positionOf_newline hpiece, hm, ← ih (by omega), Position.below, hnumber, hline]

/-! ### Characters and bytes -/

theorem byteSize_le_of_suffix (h : rest <:+ cs) : byteSize rest ≤ byteSize cs := by
  obtain ⟨front, rfl⟩ := h
  rw [byteSize_append]
  exact Nat.le_add_left ..

theorem length_le_byteSize (cs : List Char) : cs.length ≤ byteSize cs := by
  induction cs with
  | nil => exact Nat.le_refl 0
  | cons c cs ih =>
      have := c.utf8Size_pos
      rw [List.length_cons, byteSize_cons]
      omega

/-- The number of characters that lie entirely within the first bytes. -/
def fitting : List Char → Nat → Nat
  | [], _ => 0
  | c :: cs, n => if c.utf8Size ≤ n then fitting cs (n - c.utf8Size) + 1 else 0

theorem fitting_le_length (cs : List Char) (n : Nat) : fitting cs n ≤ cs.length := by
  induction cs generalizing n with
  | nil => exact Nat.le_refl 0
  | cons c cs ih =>
      rw [fitting]
      split
      · exact Nat.succ_le_succ (ih _)
      · exact Nat.zero_le _

/-- **The characters within some bytes** are as many as have no more bytes. -/
theorem le_fitting_iff {k : Nat} (hk : k ≤ cs.length) :
    k ≤ fitting cs n ↔ byteSize (cs.take k) ≤ n := by
  induction cs generalizing k n with
  | nil => simp [Nat.le_zero.1 hk]
  | cons c cs ih =>
      cases k with
      | zero => simp
      | succ k =>
          rw [List.length_cons] at hk
          rw [fitting, List.take_succ_cons, byteSize_cons]
          split
          · have := ih (k := k) (n := n - c.utf8Size) (by omega)
            omega
          · omega

/-- There are no more characters than bytes. -/
theorem fitting_le_min (cs : List Char) (n : Nat) : fitting cs n ≤ min n cs.length := by
  have hlength := fitting_le_length cs n
  have hbytes := (le_fitting_iff hlength).1 (Nat.le_refl _)
  have hchars := length_le_byteSize (cs.take (fitting cs n))
  rw [List.length_take, Nat.min_eq_left hlength] at hchars
  exact Nat.le_min.2 ⟨Nat.le_trans hchars hbytes, hlength⟩

/-- A text has as many bytes as characters exactly if each has one. -/
theorem byteSize_le_length_iff : byteSize cs ≤ cs.length ↔ ∀ c ∈ cs, c.utf8Size = 1 := by
  induction cs with
  | nil => simp
  | cons c cs ih =>
      have hc := c.utf8Size_pos
      have hcs := length_le_byteSize cs
      rw [byteSize_cons, List.length_cons, List.forall_mem_cons, ← ih]
      omega

/-- **There are as many characters as bytes**, where each has one byte, or as many as there are at
all, where none is beyond. -/
theorem min_eq_fitting_iff :
    min n cs.length = fitting cs n ↔ (∀ c ∈ cs.take n, c.utf8Size = 1) ∨ byteSize cs ≤ n := by
  have hle := fitting_le_min cs n
  have hfits : min n cs.length ≤ fitting cs n ↔ byteSize (cs.take (min n cs.length)) ≤ n :=
    le_fitting_iff (Nat.min_le_right n cs.length)
  have hmin : min n cs.length = fitting cs n ↔ byteSize (cs.take (min n cs.length)) ≤ n := by
    rw [← hfits]
    omega
  rw [hmin, ← byteSize_le_length_iff, List.length_take]
  rcases Nat.le_total n cs.length with hn | hn
  · -- the bytes do not reach beyond the text, unless all its characters have one
    have hall : byteSize cs ≤ n → byteSize (cs.take n) ≤ n := fun h => by
      have := byteSize_append (cs.take n) (cs.drop n)
      rw [List.take_append_drop] at this
      omega
    rw [Nat.min_eq_left hn]
    exact ⟨.inl, fun h => h.elim id hall⟩
  · rw [Nat.min_eq_right hn, List.take_length, List.take_of_length_le hn]
    omega

end ObjectInitializer.Text
