/-
**A writer that starts further in.**

The indent of a line is written late, by whatever comes first on it, at the depth that the writer
has by then.  Any calls may stand in between, an empty text is enough to bring the indent along, and
a line on which nothing is ever put has none.  This module says what that amounts to for calls of
any kind in any order: a writer that starts further in writes the same text, with its own indent in
front of every line on which something is put, except the first.

Calls are made of four *acts*: putting a text, ending the line, and going one level in or out.  What
acts write is told by their *draft*, the lines with their levels, which is read off the acts alone
and does not depend on the depth that the writer starts at.  An act writes what is next in the draft
and leaves the rest of it (`Writer.Act.text_run`), and a run of acts writes all of it.  The acts of
calls never go further out than they started, if no calls close more than was opened before
(`Writer.fit_calls`).

The indent unit may be any text, and even break lines.  If it does not, the lines of a draft are
those of the text cut at its line endings.

Main definitions:

* `Writer.Call`, `Writer.runCalls` — calls in sequence;
* `Writer.Act` — what calls are made of;
* `Writer.Draft`, `Writer.draftOf` — the lines that calls write;
* `Writer.Act.Fit` — acts that stay within the levels;
* `Layout.draftText` — a draft, laid out.

Main results:

* `Writer.text_runActs` — **acts write their draft**, in every state of the writer;
* `Writer.runCalls_atDepth` — so do calls, and their level counts what is open;
* `Layout.cut_intercalate` — lines are found again by cutting at the line ending;
* `Writer.runCalls_shift` — **further in, every line but the first has more of an indent**.
-/

import Mathlib.Data.List.Infix
import ObjectInitializer.Proofs.Relayout
import ObjectInitializer.Proofs.Sequence

set_option relaxedAutoImplicit false
set_option autoImplicit false

namespace ObjectInitializer

namespace Writer

/-! ### Calls -/

/-- What a writer is told in one go, other than to indent at once. -/
inductive Call where
  | write (s : String)
  | writeLine (s : String)
  | writeWithComma (s : String)
  | writeLineWithComma (s : String)
  | writeLineWithSemicolon (s : String)
  | startBlock
  | endBlock
  | endBlockWithComma
  | endBlockWithSemicolon
  | startCollection
  | endCollection
  | endCollectionWithComma
  | endCollectionWithSemicolon
  deriving Repr, DecidableEq

namespace Call

/-- The writer behind a call. -/
def run (w : Writer) : Call → Writer
  | write s => w.write s
  | writeLine s => w.writeLine s
  | writeWithComma s => w.writeWithComma s
  | writeLineWithComma s => w.writeLineWithComma s
  | writeLineWithSemicolon s => w.writeLineWithSemicolon s
  | startBlock => w.startBlock
  | endBlock => w.endBlock
  | endBlockWithComma => w.endBlockWithComma
  | endBlockWithSemicolon => w.endBlockWithSemicolon
  | startCollection => w.startCollection
  | endCollection => w.endCollection
  | endCollectionWithComma => w.endCollectionWithComma
  | endCollectionWithSemicolon => w.endCollectionWithSemicolon

/-- The text that a call is given. -/
def text? : Call → Option String
  | write s | writeLine s | writeWithComma s | writeLineWithComma s
  | writeLineWithSemicolon s => some s
  | _ => none

/-- Whether a call opens a block or collection. -/
def opens : Call → Bool
  | startBlock | startCollection => true
  | _ => false

/-- Whether a call closes a block or collection. -/
def closes : Call → Bool
  | endBlock | endBlockWithComma | endBlockWithSemicolon
  | endCollection | endCollectionWithComma | endCollectionWithSemicolon => true
  | _ => false

end Call

/-- Carries out calls one after the other. -/
def runCalls (w : Writer) (calls : List Call) : Writer :=
  calls.foldl Call.run w

/-! ### Acts -/

/-- The acts that all calls are made of. -/
inductive Act where
  | put (s : String)
  | endLine
  | goIn
  | goOut

/-- The acts of a call. -/
def Call.acts : Call → List Act
  | write s => [.put s]
  | writeLine s => [.put s, .endLine]
  | writeWithComma s => [.put s, .put ","]
  | writeLineWithComma s => [.put s, .put ",", .endLine]
  | writeLineWithSemicolon s => [.put s, .put ";", .endLine]
  | startBlock => [.put "\x7b", .endLine, .goIn]
  | endBlock => [.goOut, .put "\x7d", .endLine]
  | endBlockWithComma => [.goOut, .put "\x7d,", .endLine]
  | endBlockWithSemicolon => [.goOut, .put "\x7d;", .endLine]
  | startCollection => [.put "", .endLine, .put "[", .endLine, .goIn]
  | endCollection => [.goOut, .put "]", .endLine]
  | endCollectionWithComma => [.goOut, .put "],", .endLine]
  | endCollectionWithSemicolon => [.goOut, .put "];", .endLine]

namespace Act

/-- The writer behind an act. -/
def run (w : Writer) : Act → Writer
  | put s => w.write s
  | endLine => (w.append w.lineEnding.text).markPending
  | goIn => w.indent
  | goOut => w.outdent

/-- The level behind an act. -/
def level (n : Nat) : Act → Nat
  | goIn => n + 1
  | goOut => n - 1
  | _ => n

/-- From the level `n` above `base` on, acts go neither further out than `base` nor further in than
a word can count. -/
def Fit (base n : Nat) : List Act → Prop
  | [] => True
  | put _ :: acts => Fit base n acts
  | endLine :: acts => Fit base n acts
  | goIn :: acts => base + n + 1 < depthModulus ∧ Fit base (n + 1) acts
  | goOut :: acts => 0 < n ∧ Fit base (n - 1) acts

end Act

theorem run_put_endLine (w : Writer) (s : String) :
    Act.run (Act.run w (.put s)) .endLine = w.writeLine s := by
  have hending : (w.write s).lineEnding = w.lineEnding :=
    congrArg Layout.lineEnding (layout_write w s)
  show ((w.write s).append (w.write s).lineEnding.text).markPending = _
  rw [hending]
  rfl

/-- To carry out a call is to carry out its acts. -/
theorem Call.run_eq (w : Writer) (call : Call) : call.run w = call.acts.foldl Act.run w := by
  cases call <;> simp only [acts, List.foldl_cons, List.foldl_nil, run_put_endLine] <;> rfl

theorem runCalls_eq (w : Writer) (calls : List Call) :
    w.runCalls calls = (calls.flatMap Call.acts).foldl Act.run w := by
  rw [runCalls, List.foldl_flatMap]
  exact congrArg (calls.foldl · w) (funext fun w => funext fun call => call.run_eq w)

/-! ### Drafts -/

/-- The lines that acts write, from the one that they start on.  A line is `none` if nothing has
been put on it, not even the empty text; else it has the level of what was put on it first. -/
structure Draft where
  first : Option Line
  rest : List (Option Line)
  deriving Repr, DecidableEq

namespace Draft

/-- The text of the first line. -/
def firstText (d : Draft) : String :=
  (d.first.map Line.text).getD ""

/-- Text in front of the first line, put there at the level `n`. -/
def behind (d : Draft) (n : Nat) (s : String) : Draft :=
  { d with first := some ⟨n, s ++ d.firstText⟩ }

end Draft

/-- The draft of acts that start at the level `n`. -/
def Act.draft (n : Nat) : List Act → Draft
  | [] => ⟨none, []⟩
  | put s :: acts => (draft n acts).behind n s
  | endLine :: acts => ⟨none, (draft n acts).first :: (draft n acts).rest⟩
  | goIn :: acts => draft (n + 1) acts
  | goOut :: acts => draft (n - 1) acts

/-- The draft of calls. -/
def draftOf (calls : List Call) : Draft :=
  Act.draft 0 (calls.flatMap Call.acts)

end Writer

namespace Layout

variable (layout : Layout) (base : Nat)

/-- A line of a draft, laid out from the depth `base` on; a line that nothing has been put on is not
indented. -/
def draftLine : Option Line → String
  | none => ""
  | some l => layout.line base l

/-- A draft, laid out from the depth `base` on, with the first line indented or not. -/
def draftText (indented : Bool) (d : Writer.Draft) : String :=
  (if indented then layout.draftLine base d.first else d.firstText) ++
    String.join (d.rest.map fun l => layout.newline ++ layout.draftLine base l)

theorem draftText_nil (indented : Bool) : layout.draftText base indented ⟨none, []⟩ = "" := by
  cases indented <;> rfl

theorem draftText_behind (indented : Bool) (d : Writer.Draft) (n : Nat) (s : String) :
    layout.draftText base indented (d.behind n s) =
      (if indented then layout.indent (base + n) else "") ++ s ++
        layout.draftText base false d := by
  cases indented with
  | true =>
      show layout.indent (base + n) ++ (s ++ d.firstText) ++ _ = _ ++ (d.firstText ++ _)
      simp only [String.append_assoc]
      rfl
  | false =>
      show s ++ d.firstText ++ _ = "" ++ s ++ (d.firstText ++ _)
      rw [String.empty_append, String.append_assoc]
      rfl

theorem draftText_endLine (indented : Bool) (d : Writer.Draft) :
    layout.draftText base indented ⟨none, d.first :: d.rest⟩ =
      layout.newline ++ layout.draftText base true d := by
  have hempty : (if indented then layout.draftLine base none
      else Writer.Draft.firstText ⟨none, d.first :: d.rest⟩) = "" := by
    cases indented <;> rfl
  rw [draftText, hempty, String.empty_append, List.map_cons, String.join_cons, String.append_assoc]
  rfl

/-- A draft is laid out line by line. -/
theorem draftText_false (d : Writer.Draft) :
    layout.draftText base false d =
      layout.newline.intercalate (d.firstText :: d.rest.map (layout.draftLine base)) := by
  rw [intercalate_cons_eq, List.map_map]
  rfl

end Layout

namespace Writer

variable {w : Writer} {base n : Nat} {acts : List Act}

/-- An act moves the depth with the level. -/
theorem Act.depth_run {act : Act} (hd : w.depth = base + n) (hfit : Act.Fit base n (act :: acts)) :
    (act.run w).depth = base + act.level n ∧ Act.Fit base (act.level n) acts := by
  cases act with
  | put s => exact ⟨(write_depth w s).trans hd, hfit⟩
  | endLine => exact ⟨hd, hfit⟩
  | goIn =>
      have hmod : (w.depth + 1) % depthModulus = w.depth + 1 :=
        Nat.mod_eq_of_lt (by rw [hd]; exact hfit.1)
      exact ⟨hmod.trans (by rw [hd]; rfl), hfit.2⟩
  | goOut =>
      have hpos : 0 < n := hfit.1
      refine ⟨?_, hfit.2⟩
      show w.depth - 1 = base + (n - 1)
      omega

/-- An act writes what is next in the draft. -/
theorem Act.text_run {act : Act} (hd : w.depth = base + n) :
    (act.run w).text ++
        (act.run w).layout.draftText base (act.run w).pending (Act.draft (act.level n) acts) =
      w.text ++ w.layout.draftText base w.pending (Act.draft n (act :: acts)) := by
  cases act with
  | put s =>
      have hindent : w.indentText = if w.pending then w.layout.indent (base + n) else "" := by
        rw [indentText, hd]
      show (w.write s).text ++ (w.write s).layout.draftText base (w.write s).pending _ = _
      rw [Act.draft, Layout.draftText_behind, ← hindent, layout_write, write_pending, write_eq]
      simp only [String.append_assoc]
      rfl
  | endLine =>
      rw [Act.draft, Layout.draftText_endLine, ← String.append_assoc]
      rfl
  | goIn => rfl
  | goOut => rfl

theorem depth_runActs (hd : w.depth = base + n) (hfit : Act.Fit base n acts) :
    (acts.foldl Act.run w).depth = base + acts.foldl Act.level n := by
  induction acts generalizing w n with
  | nil => exact hd
  | cons act acts ih =>
      obtain ⟨hd, hfit⟩ := Act.depth_run hd hfit
      exact ih hd hfit

/-- **Acts write their draft**, wherever they start. -/
theorem text_runActs (hd : w.depth = base + n) (hfit : Act.Fit base n acts) :
    (acts.foldl Act.run w).text =
      w.text ++ w.layout.draftText base w.pending (Act.draft n acts) := by
  induction acts generalizing w n with
  | nil =>
      rw [Act.draft, Layout.draftText_nil, String.append_empty]
      rfl
  | cons act acts ih =>
      obtain ⟨hd', hfit'⟩ := Act.depth_run hd hfit
      exact (ih hd' hfit').trans (Act.text_run hd)

/-! ### Levels of calls -/

theorem Call.fit_append (call : Call) :
    Act.Fit base n (call.acts ++ acts) ↔
      (call.opens = true → base + n + 1 < depthModulus) ∧ (call.closes = true → 0 < n) ∧
        Act.Fit base (call.acts.foldl Act.level n) acts := by
  cases call <;> simp [Call.acts, Act.Fit, Act.level, Call.opens, Call.closes]

theorem Call.level_acts {call : Call} (h : call.closes = true → 0 < n) :
    call.acts.foldl Act.level n + call.closes.toNat = n + call.opens.toNat := by
  cases call with
  | startBlock => rfl
  | startCollection => rfl
  | write s => rfl
  | writeLine s => rfl
  | writeWithComma s => rfl
  | writeLineWithComma s => rfl
  | writeLineWithSemicolon s => rfl
  | _ => exact Nat.sub_add_cancel (h rfl)

/-- Calls that never close more than is open stay within the levels, and their level counts what is
open. -/
theorem fit_calls (base : Nat) {calls : List Call}
    (hnested : ∀ before, before <+: calls →
      before.countP Call.closes ≤ n + before.countP Call.opens)
    (hroom : base + n + calls.countP Call.opens < depthModulus) :
    Act.Fit base n (calls.flatMap Call.acts) ∧
      (calls.flatMap Call.acts).foldl Act.level n + calls.countP Call.closes =
        n + calls.countP Call.opens := by
  induction calls generalizing n with
  | nil => exact ⟨trivial, rfl⟩
  | cons call calls ih =>
      rw [countP_cons_toNat] at hroom
      have hcloses : call.closes = true → 0 < n := by
        intro hc
        have hfirst := hnested [call] (by simp)
        have hopens : call.opens = false := by cases call <;> simp_all [Call.opens, Call.closes]
        simpa [hc, hopens, Nat.one_le_iff_ne_zero, Nat.pos_iff_ne_zero] using hfirst
      have hopens : call.opens = true → base + n + 1 < depthModulus := by
        intro ho
        rw [ho, Bool.toNat_true] at hroom
        omega
      have hlevel := Call.level_acts hcloses
      -- what the call opens or closes is in the level that the others start at
      have hnested' : ∀ before, before <+: calls → before.countP Call.closes ≤
          call.acts.foldl Act.level n + before.countP Call.opens := by
        intro before hb
        have hbefore := hnested (call :: before) (by simpa using hb)
        rw [countP_cons_toNat, countP_cons_toNat] at hbefore
        omega
      obtain ⟨hfit, hrest⟩ := ih hnested' (by omega)
      rw [List.flatMap_cons, List.foldl_append, countP_cons_toNat, countP_cons_toNat]
      exact ⟨call.fit_append.2 ⟨hopens, hcloses, hfit⟩, by omega⟩

/-! ### Drafts without line breaks -/

/-- Nothing is put that has a line break. -/
def Act.IsOneLine : Act → Prop
  | put s => OneLine s
  | _ => True

theorem Call.oneLine_acts {call : Call} (h : ∀ s ∈ call.text?, OneLine s) :
    ∀ act ∈ call.acts, act.IsOneLine := by
  -- what a call puts besides its text
  have hpunctuation : OneLine "" ∧ OneLine "," ∧ OneLine ";" := by decide
  have hopeners : OneLine "\x7b" ∧ OneLine "[" := by decide
  have hclosers : OneLine "\x7d" ∧ OneLine "\x7d," ∧ OneLine "\x7d;" ∧ OneLine "]" ∧
      OneLine "]," ∧ OneLine "];" := by decide
  cases call <;> simp_all [Call.acts, Call.text?, Act.IsOneLine]

/-- No line of a draft has a line break if nothing is put that has one. -/
theorem oneLine_draft (h : ∀ act ∈ acts, act.IsOneLine) :
    OneLine (Act.draft n acts).firstText ∧
      ∀ l, some l ∈ (Act.draft n acts).first :: (Act.draft n acts).rest → OneLine l.text := by
  induction acts generalizing n with
  | nil => exact ⟨oneLine_empty, by simp [Act.draft]⟩
  | cons act acts ih =>
      obtain ⟨hact, hacts⟩ := List.forall_mem_cons.1 h
      cases act with
      | put s =>
          obtain ⟨hfirst, hlines⟩ := ih (n := n) hacts
          have htext : OneLine (s ++ (Act.draft n acts).firstText) :=
            oneLine_append.2 ⟨hact, hfirst⟩
          refine ⟨htext, fun l hl => ?_⟩
          rcases List.mem_cons.1 hl with hl | hl
          · cases hl
            exact htext
          · exact hlines l (List.mem_cons_of_mem _ hl)
      | endLine =>
          obtain ⟨-, hlines⟩ := ih (n := n) hacts
          refine ⟨oneLine_empty, fun l hl => ?_⟩
          rcases List.mem_cons.1 hl with hl | hl
          · cases hl
          · exact hlines l hl
      | goIn => exact ih hacts
      | goOut => exact ih hacts

end Writer

namespace Layout

variable {layout : Layout}

theorem oneLine_draftLine (hunit : OneLine layout.indentUnit) (base : Nat) {l : Option Line}
    (hl : ∀ m, l = some m → OneLine m.text) : OneLine (layout.draftLine base l) := by
  cases l with
  | none => exact oneLine_empty
  | some l => exact oneLine_append.2 ⟨oneLine_indent_of_unit hunit _, hl l rfl⟩

/-- Lines with the line ending between them are found again by cutting there. -/
theorem cut_intercalate {s : String} {ss : List String} (hs : OneLine s)
    (hss : ∀ r ∈ ss, OneLine r) :
    layout.lineEnding.cut (layout.newline.intercalate (s :: ss)) = s :: ss := by
  induction ss generalizing s with
  | nil => rw [String.intercalate_singleton, cut_of_oneLine hs]
  | cons r ss ih =>
      obtain ⟨hr, hss⟩ := List.forall_mem_cons.1 hss
      rw [String.intercalate_cons_cons, cut_append hs, ih hr hss]

/-- A line further in has the indent in front, if anything has been put on it. -/
theorem draftLine_eq_indent (layout : Layout) (base : Nat) (l : Option Line) :
    layout.draftLine base l =
      (if l.isSome then layout.indent base else "") ++ layout.draftLine 0 l := by
  cases l with
  | none => rfl
  | some l => exact layout.line_eq_indent base l

end Layout

namespace Writer

/-- A fresh writer writes the draft of its calls and ends at their level. -/
theorem runCalls_atDepth (layout : Layout) {base : Nat} {calls : List Call}
    (hnested : ∀ before, before <+: calls →
      before.countP Call.closes ≤ before.countP Call.opens)
    (hroom : base + calls.countP Call.opens < depthModulus) :
    let w := (atDepth base layout.indentUnit layout.lineEnding).runCalls calls
    w.depth + calls.countP Call.closes = base + calls.countP Call.opens ∧
      w.text = layout.draftText base false (draftOf calls) := by
  intro w
  obtain ⟨hfit, hlevel⟩ := fit_calls (n := 0) base
    (fun before hb => (hnested before hb).trans_eq (Nat.zero_add _).symm) hroom
  have hdepth := depth_runActs (w := atDepth base layout.indentUnit layout.lineEnding) rfl hfit
  have htext := text_runActs (w := atDepth base layout.indentUnit layout.lineEnding) rfl hfit
  rw [← runCalls_eq] at hdepth htext
  refine ⟨?_, htext.trans (String.empty_append ..)⟩
  show w.depth + _ = _
  rw [hdepth]
  omega

/-- **Further in, every line but the first has more of an indent.**  Calls without line breaks, none
of which closes more than was opened before, are carried out at depth zero and `base` levels further
in.  After every call, the one writer is `base` levels deeper than the other, and its text has the
indent of these levels in front of every line on which something has been put, except the first; the
lines are those of the text, if the indent unit does not break lines itself.  Calls that close all
they open end where they started.  And indenting at once takes the place of an indent that is
pending. -/
theorem runCalls_shift (layout : Layout) (base : Nat) (calls : List Call)
    (htexts : ∀ call ∈ calls, ∀ s ∈ call.text?, OneLine s)
    (hnested : ∀ before, before <+: calls →
      before.countP Call.closes ≤ before.countP Call.opens)
    (hroom : base + calls.countP Call.opens < depthModulus) :
    (∀ before, before <+: calls →
      let flat := (atDepth 0 layout.indentUnit layout.lineEnding).runCalls before
      let shifted := (atDepth base layout.indentUnit layout.lineEnding).runCalls before
      let draft := draftOf before
      shifted.depth = base + flat.depth ∧
        flat.text =
          layout.newline.intercalate (draft.firstText :: draft.rest.map (layout.draftLine 0)) ∧
        shifted.text =
          layout.newline.intercalate (draft.firstText :: draft.rest.map fun l =>
            (if l.isSome then layout.indent base else "") ++ layout.draftLine 0 l) ∧
        (OneLine layout.indentUnit →
          layout.lineEnding.cut flat.text =
            draft.firstText :: draft.rest.map (layout.draftLine 0))) ∧
      (calls.countP Call.closes = calls.countP Call.opens →
        ((atDepth base layout.indentUnit layout.lineEnding).runCalls calls).depth = base) ∧
      ∀ (w : Writer) (s : String), w.pending = true →
        w.beginIndented.write s = w.write s := by
  refine ⟨fun before hb => ?_, fun hbalanced => ?_, fun w s hp => ?_⟩
  · intro flat shifted draft
    have hnested' : ∀ first, first <+: before →
        first.countP Call.closes ≤ first.countP Call.opens :=
      fun first hfirst => hnested first (hfirst.trans hb)
    have hopens : before.countP Call.opens ≤ calls.countP Call.opens := hb.sublist.countP_le
    have hacts : ∀ act ∈ before.flatMap Call.acts, act.IsOneLine := by
      intro act hact
      obtain ⟨call, hcall, hact⟩ := List.mem_flatMap.1 hact
      exact Call.oneLine_acts (htexts call (hb.subset hcall)) act hact
    have hroom₀ : 0 + before.countP Call.opens < depthModulus := by omega
    have hroom' : base + before.countP Call.opens < depthModulus := by omega
    obtain ⟨hdepth₀, htext₀⟩ := runCalls_atDepth layout hnested' hroom₀
    obtain ⟨hdepth, htext⟩ := runCalls_atDepth layout hnested' hroom'
    rw [Layout.draftText_false] at htext₀ htext
    refine ⟨?_, htext₀, ?_, fun hunit => ?_⟩
    · show ((atDepth base _ _).runCalls before).depth =
        base + ((atDepth 0 _ _).runCalls before).depth
      omega
    · rw [htext, List.map_congr_left fun l _ => layout.draftLine_eq_indent base l]
    · rw [htext₀]
      obtain ⟨hfirst, hlines⟩ := oneLine_draft (n := 0) hacts
      refine Layout.cut_intercalate hfirst fun r hr => ?_
      obtain ⟨l, hl, rfl⟩ := List.mem_map.1 hr
      exact Layout.oneLine_draftLine hunit 0 fun m hm =>
        hlines m (List.mem_cons_of_mem _ (hm ▸ hl))
  · obtain ⟨hdepth, -⟩ := runCalls_atDepth layout hnested hroom
    omega
  · rw [write, write, indentIfPending, indentIfPending, hp]
    rfl

/-- The last line has nothing but an empty text, and is indented all the same. -/
theorem runCalls_shift_empty_line :
    let layout : Layout := ⟨"  ", .crlf⟩
    let calls : List Call :=
      [.write "a = ", .startCollection, .writeLine "", .writeLineWithComma "1",
        .endCollectionWithSemicolon, .write ""]
    let flat := (atDepth 0 layout.indentUnit layout.lineEnding).runCalls calls
    let shifted := (atDepth 2 layout.indentUnit layout.lineEnding).runCalls calls
    (∀ call ∈ calls, ∀ s ∈ call.text?, OneLine s) ∧
      (∀ before, before <+: calls →
        before.countP Call.closes ≤ before.countP Call.opens) ∧
      2 + calls.countP Call.opens < depthModulus ∧
      OneLine layout.indentUnit ∧
      layout.lineEnding.cut flat.text = ["a = ", "[", "  ", "  1,", "];", ""] ∧
      shifted.text = "a = \r\n    [\r\n      \r\n      1,\r\n    ];\r\n    " ∧
      shifted.depth = 2 := by
  intro layout calls flat shifted
  have htexts : ∀ call ∈ calls, ∀ s ∈ call.text?, OneLine s := by decide
  have hnested : ∀ before, before <+: calls →
      before.countP Call.closes ≤ before.countP Call.opens := by
    intro before hb
    have hinits : ∀ before ∈ calls.inits,
        before.countP Call.closes ≤ before.countP Call.opens := by
      decide
    exact hinits before ((List.mem_inits before calls).2 hb)
  have hroom : 2 + calls.countP Call.opens < depthModulus := by decide
  have hunit : OneLine layout.indentUnit := by decide
  obtain ⟨hruns, hdepth, -⟩ := runCalls_shift layout 2 calls htexts hnested hroom
  obtain ⟨-, -, hshifted, hlines⟩ := hruns calls List.prefix_rfl
  exact ⟨htexts, hnested, hroom, hunit, (hlines hunit).trans (by decide),
    hshifted.trans (by decide), hdepth (by decide)⟩

end Writer

end ObjectInitializer
