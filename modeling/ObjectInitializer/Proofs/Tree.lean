/-
**Theory of value trees.**

Every tree is a scalar, which is written as one literal, an array or an object.  The trees are a
nested type, so that their own recursor has a motive for trees, for lists of trees and for lists of
entries; `Tree.induct` is the induction that proofs want instead, whose hypotheses speak of the
members of the two lists.

Main definitions:

* `Tree.literal?` — the literal of a scalar;
* `Tree.depth` — how deep arrays and objects are nested;
* `Emitter.countScalar` — what the emitter counts of a scalar.

Main results:

* `Tree.induct` — **induction on trees**: scalars, arrays of what is known, objects of what is
  known;
* `Tree.depthItems_le_iff`, `Tree.depthEntries_le_iff` — a list is as deep as its deepest member;
* `Emitter.emit_scalar`, `Emitter.emit_array` — how the emitter takes scalars and arrays.
-/

import ObjectInitializer.Emitter

set_option relaxedAutoImplicit false
set_option autoImplicit false

namespace ObjectInitializer

namespace Tree

/-! ### Scalars -/

/-- The literal of a tree that is neither an array nor an object. -/
def literal? : Tree → Option String
  | .null => some "null"
  | .bool true => some "true"
  | .bool false => some "false"
  | .number text => some text
  | .string text => some (stringLiteral text)
  | .unsupported => some unsupportedLiteral
  | .array _ => none
  | .object _ => none

/-! ### Induction -/

/-- **Induction on trees.**  What holds of the scalars, and of an array or object whenever it holds
of the members, holds of every tree. -/
@[elab_as_elim, induction_eliminator]
theorem induct {motive : Tree → Prop}
    (scalar : ∀ (v : Tree) (literal : String), v.literal? = some literal → motive v)
    (array : ∀ items : List Tree, (∀ v ∈ items, motive v) → motive (.array items))
    (object : ∀ entries : List (String × Tree), (∀ e ∈ entries, motive e.2) →
      motive (.object entries)) :
    ∀ v : Tree, motive v
  | .null => scalar .null "null" rfl
  | .bool true => scalar (.bool true) "true" rfl
  | .bool false => scalar (.bool false) "false" rfl
  | .number text => scalar (.number text) text rfl
  | .string text => scalar (.string text) (stringLiteral text) rfl
  | .unsupported => scalar .unsupported unsupportedLiteral rfl
  | .array items => array items fun v _ => induct scalar array object v
  | .object entries => object entries fun e _ => induct scalar array object e.2
termination_by v => sizeOf v
decreasing_by
  · rename_i hv
    have := List.sizeOf_lt_of_mem hv
    simp only [Tree.array.sizeOf_spec]
    omega
  · rename_i he
    have := List.sizeOf_lt_of_mem he
    obtain ⟨key, v⟩ := e
    simp only [Tree.object.sizeOf_spec, Prod.mk.sizeOf_spec] at this ⊢
    omega

/-! ### Depth -/

mutual

/-- The nesting depth: none for a scalar, and one more than the deepest tree inside for an array
or object. -/
def depth : Tree → Nat
  | .array items => depthItems items + 1
  | .object entries => depthEntries entries + 1
  | _ => 0

/-- The greatest depth among the items of an array. -/
def depthItems : List Tree → Nat
  | [] => 0
  | v :: vs => max (depth v) (depthItems vs)

/-- The greatest depth among the entries of an object. -/
def depthEntries : List (String × Tree) → Nat
  | [] => 0
  | (_, v) :: es => max (depth v) (depthEntries es)

end

theorem depthItems_le_iff {items : List Tree} {n : Nat} :
    depthItems items ≤ n ↔ ∀ v ∈ items, v.depth ≤ n := by
  induction items with
  | nil => simp [depthItems]
  | cons v vs ih => rw [depthItems, Nat.max_le, ih, List.forall_mem_cons]

theorem depthEntries_le_iff {entries : List (String × Tree)} {n : Nat} :
    depthEntries entries ≤ n ↔ ∀ e ∈ entries, e.2.depth ≤ n := by
  induction entries with
  | nil => simp [depthEntries]
  | cons e es ih =>
      obtain ⟨key, v⟩ := e
      rw [depthEntries, Nat.max_le, ih, List.forall_mem_cons]

/-- An item of an array is nested less deep than the array. -/
theorem depth_lt_of_mem_items {items : List Tree} {v : Tree} (hv : v ∈ items) :
    v.depth < (Tree.array items).depth := by
  have := depthItems_le_iff.1 (Nat.le_refl (depthItems items)) v hv
  simp only [depth]
  omega

/-- The value of an entry is nested less deep than the object. -/
theorem depth_lt_of_mem_entries {entries : List (String × Tree)} {e : String × Tree}
    (he : e ∈ entries) : e.2.depth < (Tree.object entries).depth := by
  have := depthEntries_le_iff.1 (Nat.le_refl (depthEntries entries)) e he
  simp only [depth]
  omega

end Tree

/-! ### Scalars and arrays in the emitter -/

namespace Emitter

/-- Counts a scalar, which it does only if it has no counterpart in the generated code. -/
def countScalar (e : Emitter) : Tree → Emitter
  | .unsupported => e.count .addUnsupported
  | _ => e

/-- A scalar is put as its literal, once it is counted. -/
theorem emit_scalar {v : Tree} {literal : String} (hv : v.literal? = some literal) (e : Emitter)
    (t : Terminator) : e.emit t v = (e.countScalar v).putScalar literal t := by
  cases v with
  | bool b => cases b <;> simp_all [Tree.literal?, emit, countScalar]
  | array items => simp [Tree.literal?] at hv
  | object entries => simp [Tree.literal?] at hv
  | _ => simp_all [Tree.literal?, emit, countScalar]

/-- An array that has items is a collection of them. -/
theorem emit_array (e : Emitter) (t : Terminator) {items : List Tree} (h : items ≠ []) :
    e.emit t (.array items) = (e.openArray.emitItems items).closeArray t := by
  cases items with
  | nil => exact absurd rfl h
  | cons v vs => rw [emit]

/-! ### What ends a value leaves the counts -/

theorem tally_putScalar (e : Emitter) (literal : String) (t : Terminator) :
    (e.putScalar literal t).tally = e.tally := by
  cases t <;> rfl

theorem tally_closeArray (e : Emitter) (t : Terminator) : (e.closeArray t).tally = e.tally := by
  cases t <;> rfl

theorem tally_closeObject (e : Emitter) (t : Terminator) :
    (e.closeObject t).tally = e.tally := by
  cases t <;> rfl

end Emitter

end ObjectInitializer
