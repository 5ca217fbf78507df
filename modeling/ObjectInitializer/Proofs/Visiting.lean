/-
**Visiting a work list in any order.**

The depth of a value is measured with a list of the values that are still to visit, and it is left
open here which of them comes next and where the values inside of it are put.  None of that matters.
What the list reaches, taken together with what was met before, stays the same with every turn,
since a container reaches as far as the values inside of it with the container itself; and the
values on the list, with all that is inside of them, become one less.

So a visit can neither end early nor go on for ever: it takes as many turns as there are values,
whatever the order, and what it has met then is the depth of the recursion.  The length of the list
itself tells nothing, as it grows with every container.

Main definitions:

* `Limits.Work` — a work list, and the greatest depth met so far;
* `Limits.Turn` — **a turn**, with any value of the list and any order of what is left;
* `Limits.Turns` — a number of turns, one after the other.

Main results:

* `Limits.Turn.outcome_eq` — a turn keeps the depth that the work comes to;
* `Limits.Turn.size_eq` — a turn takes one value from the work;
* `Limits.turns_deepestOf` — the measurement is one of the ways to go through the work;
* `Limits.nestingDepth_any_order` — **every visit ends, and meets the depth of the recursion**.
-/

import ObjectInitializer.Proofs.Limits

set_option relaxedAutoImplicit false
set_option autoImplicit false

namespace ObjectInitializer.Limits

open Json

/-! ### The depth of the recursion -/

/-- The depth of items is the greatest of their depths. -/
theorem depthItems_eq_foldr (vs : List Json) : depthItems vs = (vs.map depth).foldr max 0 := by
  induction vs with
  | nil => rfl
  | cons v vs ih => rw [depthItems, ih, List.map_cons, List.foldr_cons]

/-- A scalar has no depth, and a container is one deeper than the deepest value inside. -/
theorem depth_eq (v : Json) :
    v.depth = if v.isContainer then 1 + (v.children.map depth).foldr max 0 else 0 := by
  by_cases hv : v.isContainer = true
  · rw [if_pos hv, depth_of_isContainer hv, depthItems_eq_foldr, Nat.add_comm]
  · rw [if_neg hv, depth_of_not_isContainer hv]

/-! ### Values that are left -/

/-- A value is itself and what is inside of it. -/
theorem nodeCount_eq (v : Json) : v.nodeCount = nodeCountItems v.children + 1 := by
  cases v with
  | object members => rw [nodeCount, children, nodeCountItems_values]
  | _ => rfl

theorem workSize_perm {work other : List (Json × Nat)} (h : work.Perm other) :
    workSize work = workSize other := by
  induction h with
  | nil => rfl
  | cons entry _ ih => rw [workSize, workSize, ih]
  | swap entry entry' work =>
      rw [workSize, workSize, workSize, workSize]
      omega
  | trans _ _ ih ih' => exact ih.trans ih'

theorem reach_perm {work other : List (Json × Nat)} (h : work.Perm other) :
    reach work = reach other := by
  induction h with
  | nil => rfl
  | cons entry _ ih => rw [reach, reach, ih]
  | swap entry entry' work =>
      rw [reach, reach, reach, reach]
      omega
  | trans _ _ ih ih' => exact ih.trans ih'

/-! ### Turns -/

/-- The values that are still to visit, each with the number of containers around it, and the
greatest depth that was met. -/
structure Work where
  deepest : Nat
  pending : List (Json × Nat)

namespace Work

/-- All the work there is for a value. -/
def start (v : Json) : Work := ⟨0, [(v, 0)]⟩

/-- The depth that the work comes to: what was met, or what is still reached. -/
def outcome (work : Work) : Nat :=
  max work.deepest (reach work.pending)

/-- The number of values that are left, those inside of others included. -/
def size (work : Work) : Nat :=
  workSize work.pending

theorem outcome_start (v : Json) : (start v).outcome = v.depth := by
  have h := nestingDepth_eq v
  rwa [nestingDepth, deepestOf_eq_max] at h

theorem size_start (v : Json) : (start v).size = v.nodeCount := by
  rw [size, start, workSize, workSize, Nat.add_zero]

end Work

/-- **A turn.**  Any value is taken from the work.  A scalar is done with; a container is met, and
the values inside of it are put back, each below one container more, in any place and order. -/
inductive Turn : Work → Work → Prop where
  | scalar {deepest depth : Nat} {pending rest next : List (Json × Nat)} {v : Json}
      (hv : ¬ v.isContainer = true) (htake : pending.Perm ((v, depth) :: rest))
      (hput : next.Perm rest) : Turn ⟨deepest, pending⟩ ⟨deepest, next⟩
  | container {deepest depth : Nat} {pending rest next : List (Json × Nat)} {v : Json}
      (hv : v.isContainer = true) (htake : pending.Perm ((v, depth) :: rest))
      (hput : next.Perm (v.children.map (fun child => (child, depth + 1)) ++ rest)) :
      Turn ⟨deepest, pending⟩ ⟨max deepest (depth + 1), next⟩

/-- Turns, one after the other. -/
inductive Turns : Nat → Work → Work → Prop where
  | none (work : Work) : Turns 0 work work
  | more {n : Nat} {work next last : Work} (hturn : Turn work next) (hturns : Turns n next last) :
      Turns (n + 1) work last

/-- **A turn keeps the depth that the work comes to.** -/
theorem Turn.outcome_eq {work next : Work} (h : Turn work next) : next.outcome = work.outcome := by
  cases h with
  | scalar hv htake hput =>
      rw [Work.outcome, Work.outcome, reach_perm htake, reach_perm hput, reach, if_neg hv,
        Nat.zero_max]
  | @container deepest depth pending rest next v hv htake hput =>
      -- the container is replaced by what is inside of it, which reaches just as far
      have hchildren := max_reach_children v.children (depth + 1)
      have hdepth := depth_of_isContainer hv
      rw [Work.outcome, Work.outcome, reach_perm htake, reach_perm hput, reach, if_pos hv,
        reach_append]
      dsimp only
      omega

/-- **A turn takes one value from the work**: what is inside of it was counted before. -/
theorem Turn.size_eq {work next : Work} (h : Turn work next) : work.size = next.size + 1 := by
  cases h with
  | @scalar deepest depth pending rest next v hv htake hput =>
      have hchildren : v.children = [] := by
        cases v with
        | array items => exact absurd rfl hv
        | object members => exact absurd rfl hv
        | _ => rfl
      rw [Work.size, Work.size, workSize_perm htake, workSize_perm hput, workSize, nodeCount_eq,
        hchildren, nodeCountItems]
      omega
  | @container deepest depth pending rest next v hv htake hput =>
      rw [Work.size, Work.size, workSize_perm htake, workSize_perm hput, workSize, nodeCount_eq,
        workSize_append, workSize_items]
      omega

/-- There is a turn to make as long as a value is left. -/
theorem Work.exists_turn {work : Work} (h : work.pending ≠ []) : ∃ next, Turn work next := by
  obtain ⟨deepest, pending⟩ := work
  cases pending with
  | nil => exact absurd rfl h
  | cons entry rest =>
      obtain ⟨v, depth⟩ := entry
      by_cases hv : v.isContainer = true
      · exact ⟨_, .container hv (.refl _) (.refl _)⟩
      · exact ⟨_, .scalar hv (.refl _) (.refl _)⟩

/-- Work without values is done. -/
theorem Work.size_eq_zero_iff {work : Work} : work.size = 0 ↔ work.pending = [] := by
  obtain ⟨deepest, pending⟩ := work
  cases pending with
  | nil => exact iff_of_true rfl rfl
  | cons entry rest =>
      obtain ⟨v, depth⟩ := entry
      have hpos := nodeCount_pos v
      refine iff_of_false (fun hzero => ?_) (List.cons_ne_nil _ _)
      rw [Work.size, workSize] at hzero
      omega

namespace Turns

variable {n : Nat} {work last : Work}

/-- **Turns keep the depth that the work comes to.** -/
theorem outcome_eq (h : Turns n work last) : last.outcome = work.outcome := by
  induction h with
  | none work => rfl
  | more hturn _ ih => exact ih.trans hturn.outcome_eq

/-- **Turns take as many values from the work as they are.** -/
theorem size_eq (h : Turns n work last) : work.size = last.size + n := by
  induction h with
  | none work => rfl
  | more hturn _ ih => rw [hturn.size_eq, ih, Nat.add_assoc]

/-- When nothing is left, the depth that the work came to has been met. -/
theorem deepest_eq (h : Turns n work last) (hdone : last.pending = []) :
    last.deepest = work.outcome := by
  rw [← h.outcome_eq, Work.outcome, hdone, reach, Nat.max_zero]

end Turns

/-- The measurement takes the first value of the list at every turn, and puts what is inside of it
in front. -/
theorem turns_deepestOf (deepest : Nat) (pending : List (Json × Nat)) :
    Turns (workSize pending) ⟨deepest, pending⟩ ⟨deepestOf deepest pending, []⟩ := by
  -- the number of the turns is settled in the end, when nothing is left
  suffices h : ∃ n, Turns n ⟨deepest, pending⟩ ⟨deepestOf deepest pending, []⟩ by
    obtain ⟨n, hturns⟩ := h
    have hsize : workSize pending = 0 + n := hturns.size_eq
    rwa [hsize, Nat.zero_add]
  induction deepest, pending using deepestOf.induct with
  | case1 deepest => exact ⟨0, by rw [deepestOf]; exact .none _⟩
  | case2 deepest v depth rest hv ih =>
      obtain ⟨n, hturns⟩ := ih
      rw [deepestOf, if_pos hv]
      exact ⟨n + 1, .more (.container hv (.refl _) (.refl _)) hturns⟩
  | case3 deepest v depth rest hv ih =>
      obtain ⟨n, hturns⟩ := ih
      rw [deepestOf, if_neg hv]
      exact ⟨n + 1, .more (.scalar hv (.refl _) (.refl _)) hturns⟩

/-! ### Every order -/

/-- **Every visit ends, and meets the depth of the recursion.**

* The measurement is a visit with a turn for every value in the value, and its result is the depth,
  which is none for a scalar, and for a container one more than the greatest depth of the values
  directly inside of it.
* Whichever values are taken first, and wherever those inside of them are put: there is a next turn
  until nothing is left, nothing is left after exactly so many turns, and what has been met then is
  the same depth.
* The limit refuses exactly the values that are deeper, and says how deep they are. -/
theorem nestingDepth_any_order (v : Json) :
    (nestingDepth v = v.depth ∧
      v.depth = if v.isContainer then 1 + (v.children.map depth).foldr max 0 else 0) ∧
    Turns v.nodeCount (.start v) ⟨nestingDepth v, []⟩ ∧
    (∀ (n : Nat) (work : Work), Turns n (.start v) work →
      n ≤ v.nodeCount ∧ (work.pending = [] ↔ n = v.nodeCount) ∧
        (work.pending ≠ [] → ∃ next, Turn work next) ∧
        (work.pending = [] → work.deepest = v.depth)) ∧
    ∀ (settings : Settings) (failure : Failure),
      checkDepth settings v = .error failure ↔
        ∃ limit, settings.maxDepth = some limit ∧ limit < v.depth ∧
          failure = .ofKind (.nestingTooDeep v.depth limit) := by
  refine ⟨⟨nestingDepth_eq v, depth_eq v⟩, ?_, ?_, fun settings failure => checkDepth_eq_error_iff⟩
  · have hturns := turns_deepestOf 0 [(v, 0)]
    rwa [show workSize [(v, 0)] = v.nodeCount from Work.size_start v] at hturns
  · intro n work h
    have hsize := h.size_eq
    rw [Work.size_start] at hsize
    refine ⟨by omega, ?_, fun hleft => Work.exists_turn hleft, fun hdone => ?_⟩
    · rw [← Work.size_eq_zero_iff]
      omega
    · rw [h.deepest_eq hdone, Work.outcome_start]

/-- The last value of the list first, and those inside of it at the end: an object with an array
inside of an array, and a text behind it. -/
theorem nestingDepth_any_order_last_first :
    let v : Json := .object [("a", .array [.array []]), ("b", .string "x")]
    let done : Work := ⟨3, []⟩
    Turns 4 (.start v) done ∧ done.pending = [] ∧ 4 = v.nodeCount ∧ done.deepest = v.depth := by
  intro v done
  have hturns : Turns 4 (.start v) done := by
    have hobject : Turn (.start v) ⟨1, [(.array [.array []], 1), (.string "x", 1)]⟩ :=
      .container rfl (.refl _) (.refl _)
    -- the text behind is taken first
    have htext : Turn ⟨1, [(.array [.array []], 1), (.string "x", 1)]⟩
        ⟨1, [(.array [.array []], 1)]⟩ :=
      .scalar (v := .string "x") (by decide) (.swap ..) (.refl _)
    have harray : Turn ⟨1, [(.array [.array []], 1)]⟩ ⟨2, [(.array [], 2)]⟩ :=
      .container rfl (.refl _) (.refl _)
    have hempty : Turn ⟨2, [(.array [], 2)]⟩ done := .container rfl (.refl _) (.refl _)
    exact .more hobject (.more htext (.more harray (.more hempty (.none done))))
  have hvisit := (nestingDepth_any_order v).2.2.1 4 done hturns
  exact ⟨hturns, rfl, hvisit.2.1.1 rfl, hvisit.2.2.2 rfl⟩

end ObjectInitializer.Limits
