/-
**Limits on the input.**

What is measured of an input, and when it is too much.  The nesting depth is measured with a list
of the values still to visit, so that no nesting is too deep to be measured.

Main definitions:

* `Limits.checkSize` — the size of the input, if it is known before reading;
* `Limits.nestingDepth`, `Limits.checkDepth` — the nesting depth;
* `Limits.checkCompactSize` — the size of the compact form.
-/

import ObjectInitializer.Failure
import ObjectInitializer.Json.Compact
import ObjectInitializer.Settings

set_option relaxedAutoImplicit false
set_option autoImplicit false

namespace ObjectInitializer.Limits

open Json

/-! ### Size before reading -/

/-- Refuses an input that is known to be larger than the memory limit. -/
def checkSize (settings : Settings) (size : Option Nat) : Except Failure Unit :=
  match size with
  | some size =>
    if settings.memoryLimit < size then .error (.ofKind (.jsonTooLarge size settings.memoryLimit))
    else .ok ()
  | none => .ok ()

/-! ### Nesting depth -/

/-- The number of values that are still to visit. -/
def workSize : List (Json × Nat) → Nat
  | [] => 0
  | (v, _) :: work => v.nodeCount + workSize work

theorem workSize_append (as bs : List (Json × Nat)) :
    workSize (as ++ bs) = workSize as + workSize bs := by
  induction as with
  | nil => simp [workSize]
  | cons a as ih => obtain ⟨v, d⟩ := a; simp [workSize, ih, Nat.add_assoc]

theorem workSize_items (vs : List Json) (d : Nat) :
    workSize (vs.map fun v => (v, d)) = nodeCountItems vs := by
  induction vs with
  | nil => simp [workSize, nodeCountItems]
  | cons v vs ih => simp [workSize, nodeCountItems, ih]

theorem nodeCountItems_values (ms : List (String × Json)) :
    nodeCountItems (ms.map Prod.snd) = nodeCountMembers ms := by
  induction ms with
  | nil => simp [nodeCountItems, nodeCountMembers]
  | cons m ms ih => obtain ⟨k, v⟩ := m; simp [nodeCountItems, nodeCountMembers, ih]

/-- What is inside of a value has less values than the value. -/
theorem nodeCountItems_children_lt (v : Json) : nodeCountItems v.children < v.nodeCount := by
  cases v <;> simp [children, nodeCount, nodeCountItems, nodeCountItems_values]

/-- Visits the values of the work list, each with the number of containers around it, and all that
is inside of them; the answer is the greatest depth met, and at least `deepest`. -/
def deepestOf (deepest : Nat) : List (Json × Nat) → Nat
  | [] => deepest
  | (v, depth) :: work =>
    if v.isContainer then
      deepestOf (max deepest (depth + 1)) (v.children.map (fun child => (child, depth + 1)) ++ work)
    else deepestOf deepest work
termination_by work => workSize work
decreasing_by
  · rw [workSize_append, workSize_items, workSize]
    have := nodeCountItems_children_lt v
    omega
  · rw [workSize]
    have := nodeCount_pos v
    omega

/-- The nesting depth of a value. -/
def nestingDepth (v : Json) : Nat :=
  deepestOf 0 [(v, 0)]

/-- Refuses a value that is nested deeper than the settings allow. -/
def checkDepth (settings : Settings) (v : Json) : Except Failure Unit :=
  match settings.maxDepth with
  | some limit =>
    let depth := nestingDepth v
    if limit < depth then .error (.ofKind (.nestingTooDeep depth limit)) else .ok ()
  | none => .ok ()

/-! ### Size of the compact form -/

/-- Refuses a value whose compact form is larger than the memory limit. -/
def checkCompactSize (settings : Settings) (v : Json) : Except Failure Unit :=
  let size := v.compactSize
  if settings.memoryLimit < size then
    .error (.ofKind (.memoryLimitExceeded size settings.memoryLimit))
  else .ok ()

end ObjectInitializer.Limits
