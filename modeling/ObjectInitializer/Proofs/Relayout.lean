/-
**The same lines, laid out otherwise.**

The indent unit, the line ending and the depth that a statement starts at are a matter of layout.
None of them decides what the lines of a statement are: two renderings of a value that differ in
nothing else have the same lines, and each line has its own indent in front of the same text.

The lines are laid out by two mechanisms, since the first is indented outright and every other by
what is left pending behind the one above; that both come to the same was shown of the writer
(`content_eq_unlines`), and holds of blank lines as well.  What is left to do here is to cut a
content at its own line ending, which brings back the lines and not only their text.

Main definitions:

* `withCarriageReturns` — a text with a carriage return in front of every line feed.

Main results:

* `cut_content` — a content cut at its line ending is the lines of the statement, each indented;
* `Layout.unlines_crlf` — a carriage return in front of every line feed ends the lines otherwise;
* `render_same_lines` — **the layout changes nothing but indents and line endings**.
-/

import ObjectInitializer.Proofs.Counts
import ObjectInitializer.Proofs.Nesting

set_option relaxedAutoImplicit false
set_option autoImplicit false

namespace ObjectInitializer

/-! ### Cutting a content -/

/-- The lines of a statement have no line breaks if the texts of the value have none. -/
theorem oneLine_statementLines {className : String} (hc : OneLine className) {v : Tree}
    (hv : v.WrittenIn Inline) : ∀ l ∈ v.statementLines className, OneLine l.text :=
  Tree.oneLine_lines (fun _ hc => hc) hv 0 (oneLine_append.2 ⟨hc, by decide⟩) .semicolon

/-- **A content cut at its line ending is the lines of the statement**, each behind its indent. -/
theorem cut_content {settings : Settings} (hs : settings.validate = .ok ()) {v : Tree}
    (hv : v.WrittenIn Inline) (hd : settings.baseIndent + v.depth < depthModulus) :
    settings.lineEnding.cut (render settings v).content =
      (v.statementLines settings.className).map (settings.layout.line settings.baseIndent) ++
        [""] := by
  rw [content_eq_unlines settings v hd]
  exact Layout.cut_unlines (Settings.isBlank_layout hs) settings.baseIndent
    (oneLine_statementLines (Settings.oneLine_className hs) hv)

/-! ### Indents -/

namespace Layout

theorem indent_add (layout : Layout) (m n : Nat) :
    layout.indent (m + n) = layout.indent m ++ layout.indent n := by
  induction m with
  | zero => simp [indent]
  | succ m ih => rw [Nat.succ_add, indent, indent, ih, String.append_assoc]

/-- A line that starts further in has the indent in front, and is the same otherwise. -/
theorem line_eq_indent (layout : Layout) (base : Nat) (l : Line) :
    layout.line base l = layout.indent base ++ layout.line 0 l := by
  rw [line, line, indent_add, Nat.zero_add, String.append_assoc]

end Layout

/-! ### Line endings -/

/-- A text with a carriage return in front of every line feed. -/
def withCarriageReturns (s : String) : String :=
  String.ofList (s.toList.flatMap fun c => if c = '\n' then ['\r', '\n'] else [c])

theorem withCarriageReturns_append (s r : String) :
    withCarriageReturns (s ++ r) = withCarriageReturns s ++ withCarriageReturns r := by
  simp [withCarriageReturns, String.ofList_append]

theorem withCarriageReturns_of_oneLine {s : String} (hs : OneLine s) :
    withCarriageReturns s = s := by
  have hchars : s.toList.flatMap (fun c => if c = '\n' then ['\r', '\n'] else [c]) =
      s.toList.flatMap fun c => [c] :=
    List.flatMap_congr fun c hc => if_neg (hs c hc).1
  rw [withCarriageReturns, hchars, List.flatMap_singleton', String.ofList_toList]

/-- **A carriage return in front of every line feed** is the other line ending behind every line,
since the lines have no line feeds of their own. -/
theorem Layout.unlines_crlf {unit : String} (hl : IsBlank ⟨unit, .lf⟩) (base : Nat)
    {ls : List Line} (hls : ∀ l ∈ ls, OneLine l.text) :
    unlines ⟨unit, .crlf⟩ base ls = withCarriageReturns (unlines ⟨unit, .lf⟩ base ls) := by
  have hindent (n : Nat) : indent ⟨unit, .crlf⟩ n = indent ⟨unit, .lf⟩ n := by
    induction n with
    | zero => rfl
    | succ n ih => rw [indent, indent, ih]
  have hnewline : withCarriageReturns (newline ⟨unit, .lf⟩) = newline ⟨unit, .crlf⟩ := by
    show withCarriageReturns "\n" = "\r\n"
    decide
  induction ls with
  | nil => rfl
  | cons l ls ih =>
      obtain ⟨hl₁, hls⟩ := List.forall_mem_cons.1 hls
      have hline : OneLine (line ⟨unit, .lf⟩ base l) :=
        oneLine_append.2 ⟨oneLine_indent hl _, hl₁⟩
      rw [unlines, unlines, withCarriageReturns_append, withCarriageReturns_append, hnewline,
        withCarriageReturns_of_oneLine hline, ih hls, line, line, hindent]

/-! ### Renderings -/

/-- **The layout changes nothing but indents and line endings.**  Two valid settings for the same
class give the same lines, those of the statement with their levels, and the same counts.  A
statement that starts further in has as much indent in front of every line, and one whose lines end
with a carriage return and a line feed is the one whose lines end with a line feed, with the
carriage returns put in. -/
theorem render_same_lines (settings other : Settings) (hs : settings.validate = .ok ())
    (ho : other.validate = .ok ()) (hclass : other.className = settings.className) (v : Tree)
    (hv : v.WrittenIn Inline) (hds : settings.baseIndent + v.depth < depthModulus)
    (hdo : other.baseIndent + v.depth < depthModulus) :
    let ls := v.statementLines settings.className
    let atMargin : Settings := { settings with baseIndent := 0 }
    let withLf : Settings := { settings with lineEnding := .lf }
    let withCrlf : Settings := { settings with lineEnding := .crlf }
    (settings.lineEnding.cut (render settings v).content =
        (ls.map fun l => settings.layout.indent (settings.baseIndent + l.level) ++ l.text) ++
          [""]) ∧
      (other.lineEnding.cut (render other v).content =
        (ls.map fun l => other.layout.indent (other.baseIndent + l.level) ++ l.text) ++ [""]) ∧
      (render settings v).tally = (render other v).tally ∧
      (∃ texts : List String,
        settings.lineEnding.cut (render atMargin v).content = texts ++ [""] ∧
          settings.lineEnding.cut (render settings v).content =
            texts.map (settings.layout.indent settings.baseIndent ++ ·) ++ [""]) ∧
      (render withCrlf v).content = withCarriageReturns (render withLf v).content := by
  intro ls atMargin withLf withCrlf
  have hone := oneLine_statementLines (Settings.oneLine_className hs) hv
  refine ⟨cut_content hs hv hds, ?_, ?_, ?_, ?_⟩
  · show _ = (v.statementLines settings.className).map (other.layout.line other.baseIndent) ++ [""]
    rw [← hclass]
    exact cut_content ho hv hdo
  · rw [render_tally, render_tally]
  · -- settings are no less valid for the depth that they start at, nor for the ends of their lines
    have hmargin : atMargin.validate = .ok () := hs
    have hdm : atMargin.baseIndent + v.depth < depthModulus :=
      Nat.lt_of_le_of_lt (Nat.add_le_add_right (Nat.zero_le _) _) hds
    refine ⟨_, cut_content hmargin hv hdm, ?_⟩
    rw [cut_content hs hv hds, List.map_map]
    congr 1
    exact List.map_congr_left fun l _ => settings.layout.line_eq_indent settings.baseIndent l
  · have hblank : Layout.IsBlank ⟨settings.indent.unit, .lf⟩ :=
      @Settings.isBlank_layout withLf hs
    rw [content_eq_unlines withCrlf v hds, content_eq_unlines withLf v hds]
    exact Layout.unlines_crlf hblank settings.baseIndent hone

/-- Two spaces, carriage returns and a depth to start at, against the standard settings; an array in
an array has a blank line in front of it. -/
theorem render_same_lines_blank :
    let settings : Settings :=
      { Settings.standard with indent := .spaces 2, lineEnding := .crlf, baseIndent := 1 }
    let v : Tree := .object [("$id", .null), ("Ids", .array [.array [.string "1"], .null])]
    let ls : List Line :=
      [⟨0, "MyObject instance = new()"⟩, ⟨0, "\x7b"⟩, ⟨1, "Ids = "⟩, ⟨1, "["⟩, ⟨2, ""⟩, ⟨2, "["⟩,
        ⟨3, "\"1\","⟩, ⟨2, "],"⟩, ⟨1, "],"⟩, ⟨0, "\x7d;"⟩]
    (settings.validate = .ok () ∧ Settings.standard.validate = .ok () ∧ v.WrittenIn Inline ∧
      settings.baseIndent + v.depth < depthModulus ∧
        Settings.standard.baseIndent + v.depth < depthModulus) ∧
      (LineEnding.crlf.cut (render settings v).content =
        (ls.map fun l => settings.layout.indent (1 + l.level) ++ l.text) ++ [""]) ∧
      (LineEnding.lf.cut (render .standard v).content =
        (ls.map fun l => Settings.standard.layout.indent (0 + l.level) ++ l.text) ++ [""]) ∧
      (render settings v).tally = (render .standard v).tally := by
  intro settings v ls
  have hs : settings.validate = .ok () := (Settings.validate_eq_ok_iff settings).2 (by decide)
  have ho : Settings.standard.validate = .ok () :=
    (Settings.validate_eq_ok_iff _).2 Settings.flaw?_standard
  have hv : v.WrittenIn Inline := by
    simp [v, Tree.WrittenIn, Tree.EntriesWrittenIn, Tree.ItemsWrittenIn, Inline]
  have hds : settings.baseIndent + v.depth < depthModulus := by decide
  have hdo : Settings.standard.baseIndent + v.depth < depthModulus := by decide
  have hls : v.statementLines settings.className = ls := by decide
  obtain ⟨hlines, hother, htally, -⟩ :=
    render_same_lines settings .standard hs ho rfl v hv hds hdo
  rw [hls] at hlines hother
  exact ⟨⟨hs, ho, hv, hds, hdo⟩, hlines, hother, htally⟩

end ObjectInitializer
