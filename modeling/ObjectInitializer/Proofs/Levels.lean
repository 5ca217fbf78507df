/-
**Levels.**

An emitter has two levels, the depth of its writer and its nesting.  Opening a block or collection
takes both up by one and closing it takes both down again.  The way down stops at zero and the way
up wraps around, so that a closer or an opener too many would fail nowhere: the lines behind it
would be indented wrongly, and that is all.  That it does not happen is a property of the recursion
as a whole, since the recursion for the members stands between each opener and its closer.

To speak about what happens in between, emitting a value is cut into its steps: `Tree.steps` lists
what the emitter is told, opener by opener and closer by closer, and to run these steps is to emit
the value.  Steps are *balanced* if they end at the levels that they start at and are strictly
further in wherever they close something.  Balanced steps one after the other are balanced, and so
are balanced steps between an opener and a closer; and there is nothing else to a value.

Main definitions:

* `Levels`, `Emitter.levels` — the two levels of an emitter;
* `Step`, `Tree.steps` — the steps of emitting a value;
* `Emitter.trace` — the steps of a run, each with the emitter that takes it;
* `Emitter.runChecked` — a run that fails where a level would wrap around or stop at zero;
* `Balanced` — **the invariant** of the steps of a value.

Main results:

* `Emitter.run_steps` — to run the steps of a value is to emit it;
* `Emitter.runChecked_eq_some` — checks make no difference where every step of a run passes them;
* `Balanced.between` — what stands between an opener and a closer may be any balanced steps;
* `Tree.balanced_steps` — the steps of a value are balanced;
* `Emitter.emit_levels` — **a value leaves the levels as it finds them**, with or without checks.
-/

import Mathlib.Data.Nat.PSub
import ObjectInitializer.Proofs.Counts
import ObjectInitializer.Proofs.Writing

set_option relaxedAutoImplicit false
set_option autoImplicit false

namespace ObjectInitializer

/-! ### Levels -/

/-- The levels of an emitter: the depth of its writer, and its nesting. -/
structure Levels where
  depth : Nat
  nesting : Nat
  deriving Repr, DecidableEq

/-- The levels that an emitter is at. -/
def Emitter.levels (e : Emitter) : Levels :=
  ⟨e.writer.depth, e.nesting⟩

namespace Levels

/-- Both levels one up. -/
def up (l : Levels) : Levels :=
  ⟨l.depth + 1, l.nesting + 1⟩

/-- Both levels one down, but not below zero. -/
def down (l : Levels) : Levels :=
  ⟨l.depth - 1, l.nesting - 1⟩

/-- There is room for `n` levels further up. -/
structure Fit (l : Levels) (n : Nat) : Prop where
  depth : l.depth + n < depthModulus
  nesting : l.nesting + n < depthModulus

/-- Both levels are further in than others. -/
structure IsInside (l before : Levels) : Prop where
  depth : before.depth < l.depth
  nesting : before.nesting < l.nesting

variable {l before : Levels} {m n : Nat}

@[simp] theorem down_up (l : Levels) : l.up.down = l := rfl

theorem Fit.mono (h : l.Fit n) (hmn : m ≤ n) : l.Fit m :=
  ⟨Nat.lt_of_le_of_lt (Nat.add_le_add_left hmn _) h.depth,
    Nat.lt_of_le_of_lt (Nat.add_le_add_left hmn _) h.nesting⟩

theorem Fit.up (h : l.Fit (n + 1)) : l.up.Fit n := by
  obtain ⟨hdepth, hnesting⟩ := h
  exact ⟨by simp only [Levels.up]; omega, by simp only [Levels.up]; omega⟩

theorem isInside_up (l : Levels) : l.up.IsInside l :=
  ⟨Nat.lt_succ_self _, Nat.lt_succ_self _⟩

theorem IsInside.of_up (h : l.IsInside before.up) : l.IsInside before :=
  ⟨Nat.lt_of_succ_lt h.depth, Nat.lt_of_succ_lt h.nesting⟩

theorem IsInside.pos (h : l.IsInside before) : 0 < l.depth ∧ 0 < l.nesting :=
  ⟨Nat.zero_lt_of_lt h.depth, Nat.zero_lt_of_lt h.nesting⟩

end Levels

/-! ### Steps -/

/-- What an emitter is told in one go. -/
inductive Step where
  | count (add : Tally → Tally)
  | put (literal : String) (terminator : Terminator)
  | startProperty (key : String)
  | openObject
  | openArray
  | closeObject (terminator : Terminator)
  | closeArray (terminator : Terminator)

namespace Step

/-- The emitter behind a step. -/
def run (e : Emitter) : Step → Emitter
  | count add => e.count add
  | put literal terminator => e.putScalar literal terminator
  | startProperty key => e.openProperty key
  | openObject => e.openObject
  | openArray => e.openArray
  | closeObject terminator => e.closeObject terminator
  | closeArray terminator => e.closeArray terminator

/-- Whether a step opens a block or collection. -/
def opens : Step → Bool
  | openObject | openArray => true
  | _ => false

/-- Whether a step closes a block or collection. -/
def closes : Step → Bool
  | closeObject _ | closeArray _ => true
  | _ => false

theorem closes_of_opens {step : Step} (h : step.opens = true) : step.closes = false := by
  cases step <;> simp_all [opens, closes]

theorem opens_of_closes {step : Step} (h : step.closes = true) : step.opens = false := by
  cases step <;> simp_all [opens, closes]

end Step

namespace Tree

mutual

/-- The steps of emitting a value. -/
def steps (terminator : Terminator) : Tree → List Step
  | .null => [.put "null" terminator]
  | .bool true => [.put "true" terminator]
  | .bool false => [.put "false" terminator]
  | .number text => [.put text terminator]
  | .string text => [.put (stringLiteral text) terminator]
  | .unsupported => [.count .addUnsupported, .put unsupportedLiteral terminator]
  | .object entries => .openObject :: (entrySteps entries ++ [.closeObject terminator])
  | .array [] => [.count .addArray, .put "[]" terminator]
  | .array (item :: items) =>
    .openArray :: (itemSteps (item :: items) ++ [.closeArray terminator])

/-- The steps of emitting the entries of an object. -/
def entrySteps : List (String × Tree) → List Step
  | [] => []
  | (key, value) :: entries =>
    if isMeta key then .count .addMeta :: entrySteps entries
    else .startProperty key :: (steps .comma value ++ entrySteps entries)

/-- The steps of emitting the items of an array. -/
def itemSteps : List Tree → List Step
  | [] => []
  | item :: items =>
    if item.isNull then .count .addNull :: itemSteps items
    else steps .comma item ++ itemSteps items

end

end Tree

/-! ### Runs -/

namespace Emitter

/-- Takes steps one after the other. -/
def run (e : Emitter) (steps : List Step) : Emitter :=
  steps.foldl Step.run e

/-- The steps of a run, each with the emitter that takes it. -/
def trace (e : Emitter) : List Step → List (Step × Emitter)
  | [] => []
  | step :: steps => (step, e) :: trace (step.run e) steps

theorem run_cons (e : Emitter) (step : Step) (steps : List Step) :
    e.run (step :: steps) = (step.run e).run steps := rfl

theorem run_append (e : Emitter) (xs ys : List Step) : e.run (xs ++ ys) = (e.run xs).run ys :=
  List.foldl_append

theorem trace_append (e : Emitter) (xs ys : List Step) :
    e.trace (xs ++ ys) = e.trace xs ++ (e.run xs).trace ys := by
  induction xs generalizing e with
  | nil => rfl
  | cons step xs ih => rw [List.cons_append, trace, trace, run_cons, ih, List.cons_append]

theorem run_steps_scalar {v : Tree} {literal : String} (hv : v.literal? = some literal)
    (e : Emitter) (t : Terminator) : e.run (v.steps t) = (e.countScalar v).putScalar literal t := by
  cases v with
  | bool b => cases b <;> simp_all [Tree.literal?, Tree.steps, run, Step.run, countScalar]
  | array items => simp [Tree.literal?] at hv
  | object entries => simp [Tree.literal?] at hv
  | _ => simp_all [Tree.literal?, Tree.steps, run, Step.run, countScalar]

/-- Items are emitted by their steps, if each is. -/
theorem run_itemSteps {items : List Tree}
    (h : ∀ v ∈ items, ∀ (e : Emitter) (t : Terminator), e.run (v.steps t) = e.emit t v)
    (e : Emitter) : e.run (Tree.itemSteps items) = e.emitItems items := by
  induction items generalizing e with
  | nil => simp [Tree.itemSteps, emitItems, run]
  | cons v items ih =>
      obtain ⟨hv, hitems⟩ := List.forall_mem_cons.1 h
      by_cases hn : v.isNull = true
      · rw [Tree.itemSteps, if_pos hn, run_cons, ih hitems, emitItems, if_pos hn]
        rfl
      · rw [Tree.itemSteps, if_neg hn, run_append, hv, ih hitems, emitItems, if_neg hn]

/-- Entries are emitted by their steps, if each value is. -/
theorem run_entrySteps {entries : List (String × Tree)}
    (h : ∀ m ∈ entries, ∀ (e : Emitter) (t : Terminator), e.run (m.2.steps t) = e.emit t m.2)
    (e : Emitter) : e.run (Tree.entrySteps entries) = e.emitEntries entries := by
  induction entries generalizing e with
  | nil => simp [Tree.entrySteps, emitEntries, run]
  | cons m entries ih =>
      obtain ⟨key, v⟩ := m
      obtain ⟨hv, hentries⟩ := List.forall_mem_cons.1 h
      by_cases hk : Tree.isMeta key = true
      · rw [Tree.entrySteps, if_pos hk, run_cons, ih hentries, emitEntries, if_pos hk]
        rfl
      · rw [Tree.entrySteps, if_neg hk, run_cons, run_append, hv, ih hentries, emitEntries,
          if_neg hk]
        rfl

/-- **To run the steps of a value is to emit it.** -/
theorem run_steps (v : Tree) (e : Emitter) (t : Terminator) : e.run (v.steps t) = e.emit t v := by
  induction v generalizing e t with
  | scalar v literal hv => rw [run_steps_scalar hv, emit_scalar hv]
  | array items ih =>
      cases items with
      | nil =>
          rw [Tree.steps, emit]
          rfl
      | cons v items =>
          rw [Tree.steps, run_cons, run_append, run_itemSteps ih, emit]
          rfl
  | object entries ih =>
      rw [Tree.steps, run_cons, run_append, run_entrySteps ih, emit]
      rfl

end Emitter

/-! ### Checks -/

/-- A level one up, if a word can count that far. -/
def levelUp? (n : Nat) : Option Nat :=
  if n + 1 < depthModulus then some (n + 1) else none

namespace Writer

/-- Goes one level in, if a word can count that far. -/
def indent? (w : Writer) : Option Writer :=
  (levelUp? w.depth).map fun depth => { w with depth }

/-- Closes a block or collection, if there is a level to leave. -/
def close? (w : Writer) (closer : String) : Option Writer :=
  w.depth.ppred.map fun depth => { w with depth }.writeLine closer

theorem indent?_eq_some {w : Writer} (h : w.depth + 1 < depthModulus) :
    w.indent? = some w.indent := by
  rw [indent?, levelUp?, if_pos h, indent, Nat.mod_eq_of_lt h]
  rfl

theorem close?_eq_some {w : Writer} (h : 0 < w.depth) (closer : String) :
    w.close? closer = some (w.close closer) := by
  have hpred : w.depth.ppred = some (w.depth - 1) :=
    Nat.ppred_eq_some.2 (Nat.sub_add_cancel h)
  rw [close?, hpred]
  rfl

end Writer

namespace Emitter

/-- Writes with the writer, if that succeeds. -/
def put? (e : Emitter) (act : Writer → Option Writer) : Option Emitter :=
  (act e.writer).map fun writer => { e with writer }

/-- Enters a block or collection, if a word can count that far. -/
def enter? (e : Emitter) : Option Emitter :=
  (levelUp? e.nesting).map fun nesting => { e with nesting, tally := e.tally.reach nesting }

/-- Leaves a block or collection, if there is one to leave. -/
def leave? (e : Emitter) : Option Emitter :=
  e.nesting.ppred.map fun nesting => { e with nesting }

/-- Starts an object or array, if a word can count that far. -/
def start? (e : Emitter) (add : Tally → Tally) (lead bracket : String) : Option Emitter :=
  ((e.count add).put? fun w => ((w.writeLine lead).writeLine bracket).indent?).bind enter?

/-- Ends an object or array, if there is one to end. -/
def finish? (e : Emitter) (closer : String) : Option Emitter :=
  e.leave?.bind fun e => e.put? fun w => w.close? closer

theorem enter?_eq_some {e : Emitter} (h : e.nesting + 1 < depthModulus) :
    e.enter? = some e.enter := by
  rw [enter?, levelUp?, if_pos h]
  rfl

theorem leave?_eq_some {e : Emitter} (h : 0 < e.nesting) : e.leave? = some e.leave := by
  have hpred : e.nesting.ppred = some (e.nesting - 1) :=
    Nat.ppred_eq_some.2 (Nat.sub_add_cancel h)
  rw [leave?, hpred]
  rfl

theorem start?_eq_some {e : Emitter} (h : e.levels.Fit 1) (add : Tally → Tally)
    (lead bracket : String) :
    e.start? add lead bracket =
      some ((e.count add).put fun w => ((w.writeLine lead).writeLine bracket).indent).enter := by
  have hd : ((e.writer.writeLine lead).writeLine bracket).depth + 1 < depthModulus := by
    rw [Writer.writeLine_depth, Writer.writeLine_depth]
    exact h.depth
  simp only [start?, put?, count, Writer.indent?_eq_some hd]
  exact enter?_eq_some h.nesting

theorem finish?_eq_some {e : Emitter} (hd : 0 < e.levels.depth) (hn : 0 < e.levels.nesting)
    (closer : String) : e.finish? closer = some (e.leave.put fun w => w.close closer) := by
  have hd : 0 < e.leave.writer.depth := hd
  rw [finish?, leave?_eq_some hn, Option.bind_some, put?, Writer.close?_eq_some hd]
  rfl

end Emitter

/-- The emitter behind a step, if no level would wrap around or stop at zero. -/
def Step.run? (e : Emitter) : Step → Option Emitter
  | openObject => e.start? .addObject "new()" "\x7b"
  | openArray => e.start? .addArray "" "["
  | closeObject terminator => e.finish? ("\x7d" ++ terminator.text)
  | closeArray terminator => e.finish? ("]" ++ terminator.text)
  | step => some (step.run e)

/-- A step that has room up and down passes its checks and does what it does without. -/
theorem Step.run?_eq_some {step : Step} {e : Emitter}
    (hopens : step.opens = true → e.levels.Fit 1)
    (hcloses : step.closes = true → 0 < e.levels.depth ∧ 0 < e.levels.nesting) :
    step.run? e = some (step.run e) := by
  cases step with
  | openObject => exact Emitter.start?_eq_some (hopens rfl) .addObject "new()" "\x7b"
  | openArray => exact Emitter.start?_eq_some (hopens rfl) .addArray "" "["
  | closeObject t =>
      obtain ⟨hd, hn⟩ := hcloses rfl
      rw [run?, Emitter.finish?_eq_some hd hn]
      cases t <;> rfl
  | closeArray t =>
      obtain ⟨hd, hn⟩ := hcloses rfl
      rw [run?, Emitter.finish?_eq_some hd hn]
      cases t <;> rfl
  | _ => rfl

/-- Takes steps one after the other, as long as no level would wrap around or stop at zero. -/
def Emitter.runChecked (e : Emitter) (steps : List Step) : Option Emitter :=
  steps.foldlM Step.run? e

/-- **Checks make no difference** where every step of a run has room up and down. -/
theorem Emitter.runChecked_eq_some {e : Emitter} {steps : List Step}
    (hopens : ∀ p ∈ e.trace steps, p.1.opens = true → p.2.levels.Fit 1)
    (hcloses : ∀ p ∈ e.trace steps,
      p.1.closes = true → 0 < p.2.levels.depth ∧ 0 < p.2.levels.nesting) :
    e.runChecked steps = some (e.run steps) := by
  induction steps generalizing e with
  | nil => rfl
  | cons step steps ih =>
      rw [trace, List.forall_mem_cons] at hopens hcloses
      rw [runChecked, List.foldlM_cons, Step.run?_eq_some hopens.1 hcloses.1]
      exact ih hopens.2 hcloses.2

/-! ### What a step does to the levels -/

theorem Writer.close_depth (w : Writer) (closer : String) :
    (w.close closer).depth = w.depth - 1 :=
  writeLine_depth w.outdent closer

namespace Step

open Emitter

variable {step : Step}

theorem levels_flat (ho : step.opens = false) (hc : step.closes = false) (e : Emitter) :
    (step.run e).levels = e.levels := by
  cases step with
  | count add => rfl
  | put literal t =>
      rw [levels, run, putScalar_writer, nesting_putScalar]
      rfl
  | startProperty key => exact congrArg (Levels.mk · e.nesting) (Writer.write_depth ..)
  | openObject => simp [opens] at ho
  | openArray => simp [opens] at ho
  | closeObject t => simp [closes] at hc
  | closeArray t => simp [closes] at hc

theorem levels_opens (ho : step.opens = true) {e : Emitter} (he : e.levels.Fit 1) :
    (step.run e).levels = e.levels.up := by
  have hmod : (e.writer.depth + 1) % depthModulus = e.writer.depth + 1 :=
    Nat.mod_eq_of_lt he.depth
  cases step with
  | openObject =>
      rw [levels, run, openObject_writer]
      exact congrArg (Levels.mk · (e.nesting + 1)) hmod
  | openArray =>
      rw [levels, run, openArray_writer]
      exact congrArg (Levels.mk · (e.nesting + 1)) hmod
  | _ => simp [opens] at ho

theorem levels_closes (hc : step.closes = true) (e : Emitter) :
    (step.run e).levels = e.levels.down := by
  cases step with
  | closeObject t =>
      rw [levels, run, closeObject_writer, Writer.close_depth, nesting_closeObject]
      rfl
  | closeArray t =>
      rw [levels, run, closeArray_writer, Writer.close_depth, nesting_closeArray]
      rfl
  | _ => simp [closes] at hc

end Step

/-! ### Balanced steps -/

/-- **The invariant of steps** that go no more than `n` levels in. -/
structure Balanced (steps : List Step) (n : Nat) : Prop where
  /-- There is room for whatever is opened. -/
  room : ∀ e : Emitter, e.levels.Fit n →
    ∀ p ∈ e.trace steps, p.1.opens = true → p.2.levels.Fit 1
  /-- Whatever is closed was opened since. -/
  inside : ∀ e : Emitter, e.levels.Fit n →
    ∀ p ∈ e.trace steps, p.1.closes = true → p.2.levels.IsInside e.levels
  /-- The levels are as they were. -/
  restored : ∀ e : Emitter, e.levels.Fit n → (e.run steps).levels = e.levels

namespace Balanced

variable {xs ys : List Step} {m n : Nat}

theorem mono (h : Balanced xs m) (hmn : m ≤ n) : Balanced xs n where
  room e he := h.room e (he.mono hmn)
  inside e he := h.inside e (he.mono hmn)
  restored e he := h.restored e (he.mono hmn)

theorem nil (n : Nat) : Balanced [] n where
  room _ _ _ hp := absurd hp List.not_mem_nil
  inside _ _ _ hp := absurd hp List.not_mem_nil
  restored _ _ := rfl

/-- Balanced steps **one after the other**: the second ones start where the first ones did. -/
theorem append (hx : Balanced xs n) (hy : Balanced ys n) : Balanced (xs ++ ys) n := by
  have hfit (e : Emitter) (he : e.levels.Fit n) : (e.run xs).levels.Fit n := by
    rwa [hx.restored e he]
  refine ⟨fun e he p hp ho => ?_, fun e he p hp hc => ?_, fun e he => ?_⟩
  · rw [Emitter.trace_append, List.mem_append] at hp
    exact hp.elim (fun hp => hx.room e he p hp ho) fun hp => hy.room _ (hfit e he) p hp ho
  · rw [Emitter.trace_append, List.mem_append] at hp
    rcases hp with hp | hp
    · exact hx.inside e he p hp hc
    · have hinside := hy.inside _ (hfit e he) p hp hc
      rwa [hx.restored e he] at hinside
  · rw [Emitter.run_append, hy.restored _ (hfit e he), hx.restored e he]

/-- A step that neither opens nor closes anything, in front of balanced ones. -/
theorem cons {step : Step} (ho : step.opens = false) (hc : step.closes = false)
    (h : Balanced xs n) : Balanced (step :: xs) n := by
  have hstep : Balanced [step] n := by
    refine ⟨fun e _ p hp hopens => ?_, fun e _ p hp hcloses => ?_,
      fun e _ => Step.levels_flat ho hc e⟩
    · rw [List.mem_singleton.1 hp, ho] at hopens
      contradiction
    · rw [List.mem_singleton.1 hp, hc] at hcloses
      contradiction
  exact hstep.append h

/-- Balanced steps **between an opener and a closer**: one level further in they are balanced
there, and the closer takes back what the opener did. -/
theorem between {opener closer : Step} (ho : opener.opens = true) (hc : closer.closes = true)
    (h : Balanced xs n) : Balanced (opener :: (xs ++ [closer])) (n + 1) := by
  have hopened (e : Emitter) (he : e.levels.Fit (n + 1)) : (opener.run e).levels = e.levels.up :=
    Step.levels_opens ho (he.mono (Nat.le_add_left 1 n))
  have hfit (e : Emitter) (he : e.levels.Fit (n + 1)) : (opener.run e).levels.Fit n := by
    rw [hopened e he]
    exact he.up
  have hclosing (e : Emitter) (he : e.levels.Fit (n + 1)) :
      ((opener.run e).run xs).levels = e.levels.up := by
    rw [h.restored _ (hfit e he), hopened e he]
  have htrace (e : Emitter) : e.trace (opener :: (xs ++ [closer])) =
      (opener, e) :: ((opener.run e).trace xs ++ [(closer, (opener.run e).run xs)]) := by
    rw [Emitter.trace, Emitter.trace_append]
    rfl
  refine ⟨fun e he p hp hopens => ?_, fun e he p hp hcloses => ?_, fun e he => ?_⟩
  · rw [htrace, List.mem_cons, List.mem_append, List.mem_singleton] at hp
    rcases hp with rfl | hp | rfl
    · exact he.mono (Nat.le_add_left 1 n)
    · exact h.room _ (hfit e he) p hp hopens
    · rw [Step.opens_of_closes hc] at hopens
      contradiction
  · rw [htrace, List.mem_cons, List.mem_append, List.mem_singleton] at hp
    rcases hp with rfl | hp | rfl
    · rw [Step.closes_of_opens ho] at hcloses
      contradiction
    · have hinside := h.inside _ (hfit e he) p hp hcloses
      rw [hopened e he] at hinside
      exact hinside.of_up
    · show ((opener.run e).run xs).levels.IsInside e.levels
      rw [hclosing e he]
      exact e.levels.isInside_up
  · rw [Emitter.run_cons, Emitter.run_append]
    show (closer.run ((opener.run e).run xs)).levels = e.levels
    rw [Step.levels_closes hc, hclosing e he, Levels.down_up]

end Balanced

/-! ### Values -/

namespace Tree

theorem balanced_steps_scalar {v : Tree} {literal : String} (hv : v.literal? = some literal)
    (t : Terminator) : Balanced (v.steps t) v.depth := by
  have hput (literal : String) (n : Nat) : Balanced [.put literal t] n :=
    (Balanced.nil n).cons rfl rfl
  cases v with
  | bool b => cases b <;> exact hput _ _
  | unsupported => exact (hput _ _).cons rfl rfl
  | array items => simp [literal?] at hv
  | object entries => simp [literal?] at hv
  | _ => exact hput _ _

theorem balanced_itemSteps {items : List Tree} {n : Nat}
    (h : ∀ v ∈ items, Balanced (v.steps .comma) n) : Balanced (itemSteps items) n := by
  induction items with
  | nil => exact .nil n
  | cons v items ih =>
      obtain ⟨hv, hitems⟩ := List.forall_mem_cons.1 h
      rw [itemSteps]
      split
      · exact (ih hitems).cons rfl rfl
      · exact hv.append (ih hitems)

theorem balanced_entrySteps {entries : List (String × Tree)} {n : Nat}
    (h : ∀ m ∈ entries, Balanced (m.2.steps .comma) n) : Balanced (entrySteps entries) n := by
  induction entries with
  | nil => exact .nil n
  | cons m entries ih =>
      obtain ⟨key, v⟩ := m
      obtain ⟨hv, hentries⟩ := List.forall_mem_cons.1 h
      rw [entrySteps]
      split
      · exact (ih hentries).cons rfl rfl
      · exact (hv.append (ih hentries)).cons rfl rfl

/-- **The steps of a value are balanced**, and go no further in than it is nested. -/
theorem balanced_steps (v : Tree) (t : Terminator) : Balanced (v.steps t) v.depth := by
  induction v generalizing t with
  | scalar v literal hv => exact balanced_steps_scalar hv t
  | array items ih =>
      cases items with
      | nil => exact ((Balanced.nil _).cons rfl rfl).cons rfl rfl
      | cons v items =>
          have hle := depthItems_le_iff.1 (Nat.le_refl (depthItems (v :: items)))
          have hitems := balanced_itemSteps fun u hu => (ih u hu .comma).mono (hle u hu)
          exact hitems.between rfl rfl
  | object entries ih =>
      have hle := depthEntries_le_iff.1 (Nat.le_refl (depthEntries entries))
      have hentries := balanced_entrySteps fun m hm => (ih m hm .comma).mono (hle m hm)
      exact hentries.between rfl rfl

end Tree

/-- **A value leaves the levels as it finds them.**  Whatever is closed in between is closed
further in, by both levels, than where the value starts, so that no level stops at zero; nor does
one wrap around, and the same run with checks gives the same emitter.  Behind it the indent is
pending, and what was written before is still there, in front. -/
theorem Emitter.emit_levels (e : Emitter) (t : Terminator) (v : Tree)
    (hd : e.writer.depth + v.depth < depthModulus) (hn : e.nesting + v.depth < depthModulus) :
    e.run (v.steps t) = e.emit t v ∧
      (∀ p ∈ e.trace (v.steps t), p.1.closes = true →
        e.writer.depth + 1 ≤ p.2.writer.depth ∧ e.nesting + 1 ≤ p.2.nesting) ∧
      e.runChecked (v.steps t) = some (e.emit t v) ∧
      (e.emit t v).writer.depth = e.writer.depth ∧
      (e.emit t v).nesting = e.nesting ∧
      (e.emit t v).writer.pending = true ∧
      ∃ more, (e.emit t v).writer.text = e.writer.text ++ more := by
  have hrun := run_steps v e t
  have hbalanced := v.balanced_steps t
  have hfit : e.levels.Fit v.depth := ⟨hd, hn⟩
  have hwriter := emit_writer v e t hd
  have hlevels : (e.emit t v).levels = e.levels := hrun ▸ hbalanced.restored e hfit
  refine ⟨hrun, fun p hp hc => ?_, ?_, congrArg Levels.depth hlevels,
    congrArg Levels.nesting hlevels, ?_, ?_⟩
  · have hinside := hbalanced.inside e hfit p hp hc
    exact ⟨hinside.depth, hinside.nesting⟩
  · rw [← hrun]
    exact runChecked_eq_some (hbalanced.room e hfit) fun p hp hc =>
      (hbalanced.inside e hfit p hp hc).pos
  · rw [hwriter]
    rfl
  · rw [hwriter]
    exact ⟨_, rfl⟩

/-- A property is under way; what follows opens and closes three levels. -/
theorem Emitter.emit_levels_three :
    let e : Emitter :=
      { writer := ⟨"\t\tItems = ", 2, "\t", .lf, false⟩, tally := .empty, nesting := 5 }
    let v : Tree := .array [.array [], .object [("$id", .null), ("Ids", .array [.null])]]
    (e.writer.depth + v.depth < depthModulus ∧ e.nesting + v.depth < depthModulus) ∧
      ((e.trace (v.steps .comma)).filter (·.1.closes)).map
        (fun p => (p.2.writer.depth, p.2.nesting)) = [(5, 8), (4, 7), (3, 6)] ∧
      e.runChecked (v.steps .comma) = some (e.emit .comma v) ∧
      (e.emit .comma v).writer.depth = 2 ∧
      (e.emit .comma v).nesting = 5 := by
  intro e v
  have hd : e.writer.depth + v.depth < depthModulus := by decide
  have hn : e.nesting + v.depth < depthModulus := by decide
  obtain ⟨-, -, hchecked, hdepth, hnesting, -⟩ := e.emit_levels .comma v hd hn
  exact ⟨⟨hd, hn⟩, by decide, hchecked, hdepth, hnesting⟩

end ObjectInitializer
