/-
**Value trees.**

What an initializer is made from: a JSON value, or any other tree of values that may hold kinds
with no counterpart in the generated code, and whose objects may repeat a key.  A key that starts
with `$` is metadata and never rendered.

Main definitions:

* `Tree` — the trees;
* `Tree.isMeta` — whether a key is metadata;
* `Json.toTree` — a JSON value as a tree.
-/

import ObjectInitializer.Json.Basic

set_option relaxedAutoImplicit false
set_option autoImplicit false

namespace ObjectInitializer

/-- A tree of values. -/
inductive Tree where
  | null
  | bool (value : Bool)
  /-- A number, by its text. -/
  | number (text : String)
  | string (text : String)
  | array (items : List Tree)
  /-- An object, by its entries in order; keys may repeat. -/
  | object (entries : List (String × Tree))
  /-- A value with no counterpart in the generated code. -/
  | unsupported
  deriving Repr, Inhabited

namespace Tree

/-- Whether the key is metadata. -/
def isMeta (key : String) : Bool :=
  key.toList.head? == some '$'

/-- Whether the tree is a null. -/
def isNull : Tree → Bool
  | .null => true
  | _ => false

@[simp] theorem isNull_eq_true_iff (t : Tree) : t.isNull = true ↔ t = .null := by
  cases t <;> simp [isNull]

end Tree

namespace Json

mutual

/-- A JSON value as a tree. -/
def toTree : Json → Tree
  | .null => .null
  | .bool value => .bool value
  | .number text => .number text
  | .string text => .string text
  | .array items => .array (toTreeItems items)
  | .object members => .object (toTreeMembers members)

/-- The items of an array as trees. -/
def toTreeItems : List Json → List Tree
  | [] => []
  | v :: vs => toTree v :: toTreeItems vs

/-- The members of an object as entries of a tree. -/
def toTreeMembers : List (String × Json) → List (String × Tree)
  | [] => []
  | (key, v) :: ms => (key, toTree v) :: toTreeMembers ms

end

theorem toTreeItems_eq_map (vs : List Json) : toTreeItems vs = vs.map toTree := by
  induction vs with
  | nil => simp [toTreeItems]
  | cons v vs ih => simp [toTreeItems, ih]

theorem toTreeMembers_eq_map (ms : List (String × Json)) :
    toTreeMembers ms = ms.map fun m => (m.1, toTree m.2) := by
  induction ms with
  | nil => simp [toTreeMembers]
  | cons m ms ih => simp [toTreeMembers, ih]

end Json

end ObjectInitializer
