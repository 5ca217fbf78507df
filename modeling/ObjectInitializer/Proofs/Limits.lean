/-
**What the limits refuse.**

Each limit refuses exactly what is above it, and says what it measured.  The depth of a value is
measured with a work list, so that a deep value does not use up the stack.  Whatever is on the
list, the greatest depth met in the end is the greatest that any value on the list reaches, counted
from where it stands; for a value by itself that is its depth.

Main definitions:

* `Limits.reach` — the greatest depth that a work list reaches.

Main results:

* `Limits.deepestOf_eq_max` — **visiting a work list meets the depth that it reaches**;
* `Limits.nestingDepth_eq` — the depth measured is that of the recursion;
* `Limits.checkSize_eq_error_iff`, `Limits.checkDepth_eq_error_iff`,
  `Limits.checkCompactSize_eq_error_iff` — when a limit refuses, and with which failure.
-/

import ObjectInitializer.Limits

set_option relaxedAutoImplicit false
set_option autoImplicit false

namespace ObjectInitializer.Limits

open Json

/-! ### Nesting depth -/

/-- The greatest depth that a work list reaches.  A scalar reaches none, however deep it stands. -/
def reach : List (Json × Nat) → Nat
  | [] => 0
  | (v, depth) :: work => max (if v.isContainer then depth + v.depth else 0) (reach work)

theorem reach_append (work rest : List (Json × Nat)) :
    reach (work ++ rest) = max (reach work) (reach rest) := by
  induction work with
  | nil => simp [reach]
  | cons entry work ih => simp [reach, ih, Nat.max_assoc]

theorem depthMembers_eq (members : List (String × Json)) :
    depthMembers members = depthItems (members.map Prod.snd) := by
  induction members with
  | nil => rfl
  | cons m members ih =>
      obtain ⟨key, v⟩ := m
      simp [depthMembers, depthItems, ih]

/-- A container is one deeper than the deepest value inside. -/
theorem depth_of_isContainer {v : Json} (hv : v.isContainer = true) :
    v.depth = depthItems v.children + 1 := by
  cases v with
  | array items => rfl
  | object members => rw [depth, children, depthMembers_eq]
  | _ => simp [isContainer] at hv

theorem depth_of_not_isContainer {v : Json} (hv : ¬ v.isContainer = true) : v.depth = 0 := by
  cases v with
  | array items => simp [isContainer] at hv
  | object members => simp [isContainer] at hv
  | _ => rfl

/-- The values inside of a container at depth `n`, with the container itself, reach what it
reaches. -/
theorem max_reach_children (vs : List Json) (n : Nat) :
    max n (reach (vs.map fun v => (v, n))) = n + depthItems vs := by
  induction vs with
  | nil => simp [reach, depthItems]
  | cons v vs ih =>
      rw [List.map_cons, reach, depthItems]
      by_cases hv : v.isContainer = true
      · rw [if_pos hv]
        omega
      · -- a scalar is no deeper than the container around it, which is counted already
        rw [if_neg hv, depth_of_not_isContainer hv]
        omega

/-- **Visiting a work list meets the depth that it reaches**, unless what was met before is
deeper. -/
theorem deepestOf_eq_max (deepest : Nat) (work : List (Json × Nat)) :
    deepestOf deepest work = max deepest (reach work) := by
  induction deepest, work using deepestOf.induct with
  | case1 deepest => rw [deepestOf, reach, Nat.max_zero]
  | case2 deepest v depth work hv ih =>
      -- the container is replaced by what is inside of it, which reaches just as far
      have hchildren := max_reach_children v.children (depth + 1)
      rw [deepestOf, if_pos hv, ih, reach_append, reach, if_pos hv, depth_of_isContainer hv]
      omega
  | case3 deepest v depth work hv ih =>
      rw [deepestOf, if_neg hv, ih, reach, if_neg hv]
      omega

/-- **The depth measured is that of the recursion.** -/
theorem nestingDepth_eq (v : Json) : nestingDepth v = v.depth := by
  rw [nestingDepth, deepestOf_eq_max, reach, reach]
  by_cases hv : v.isContainer = true
  · rw [if_pos hv]
    omega
  · rw [if_neg hv, depth_of_not_isContainer hv]
    rfl

/-! ### Refusals -/

variable {settings : Settings} {failure : Failure}

theorem checkSize_eq_error_iff {size? : Option Nat} :
    checkSize settings size? = .error failure ↔
      ∃ size, size? = some size ∧ settings.memoryLimit < size ∧
        failure = .ofKind (.jsonTooLarge size settings.memoryLimit) := by
  cases size? with
  | none => simp [checkSize]
  | some size =>
      by_cases hsize : settings.memoryLimit < size
      · simp [checkSize, hsize, eq_comm]
      · simp [checkSize, hsize]

theorem checkDepth_eq_error_iff {v : Json} :
    checkDepth settings v = .error failure ↔
      ∃ limit, settings.maxDepth = some limit ∧ limit < v.depth ∧
        failure = .ofKind (.nestingTooDeep v.depth limit) := by
  rw [checkDepth, nestingDepth_eq]
  cases settings.maxDepth with
  | none => simp
  | some limit =>
      by_cases hdepth : limit < v.depth
      · simp [hdepth, eq_comm]
      · simp [hdepth]

theorem checkCompactSize_eq_error_iff {v : Json} :
    checkCompactSize settings v = .error failure ↔
      settings.memoryLimit < v.compactSize ∧
        failure = .ofKind (.memoryLimitExceeded v.compactSize settings.memoryLimit) := by
  rw [checkCompactSize]
  by_cases hsize : settings.memoryLimit < v.compactSize
  · simp [hsize, eq_comm]
  · simp [hsize]

end ObjectInitializer.Limits
