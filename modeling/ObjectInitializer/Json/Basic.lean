/-
**JSON values.**

A JSON value as it is read from a document: a number keeps its text, and an object keeps its
members in the order in which their keys first appeared.

Main definitions:

* `Json` — the values;
* `Json.setMember` — a member set by its key: the key keeps its place, the last value wins;
* `Json.children`, `Json.nodeCount` — the values directly inside a value, and the number of values in it;
* `Json.depth` — how deep arrays and objects are nested.
-/

set_option relaxedAutoImplicit false
set_option autoImplicit false

namespace ObjectInitializer

/-- A JSON value. -/
inductive Json where
  | null
  | bool (value : Bool)
  /-- A number, by its text. -/
  | number (text : String)
  | string (text : String)
  | array (items : List Json)
  /-- An object, by its members in order. -/
  | object (members : List (String × Json))
  deriving Repr, Inhabited

namespace Json

/-! ### Members -/

/-- Sets the member with the given key: a present key keeps its place and takes the new value, a
new key goes to the end. -/
def setMember {α : Type} (key : String) (value : α) : List (String × α) → List (String × α)
  | [] => [(key, value)]
  | (k, v) :: members =>
    if k = key then (key, value) :: members else (k, v) :: setMember key value members

@[simp] theorem setMember_nil {α : Type} (key : String) (value : α) :
    setMember key value [] = [(key, value)] := rfl

/-- Setting a member puts its key among the keys, behind the others if it is new. -/
theorem keys_setMember {α : Type} (key : String) (value : α) (members : List (String × α)) :
    (setMember key value members).map Prod.fst =
      if key ∈ members.map Prod.fst then members.map Prod.fst
      else members.map Prod.fst ++ [key] := by
  induction members with
  | nil => simp [setMember]
  | cons m members ih =>
    obtain ⟨k, v⟩ := m
    by_cases h : k = key
    · simp [setMember, h]
    · have h' : ¬ key = k := fun e => h e.symm
      simp only [setMember, h, if_false, List.map_cons, List.mem_cons, h', false_or, ih]
      split <;> simp

/-! ### Size and depth -/

/-- The values directly inside an array or object, in order. -/
def children : Json → List Json
  | .array items => items
  | .object members => members.map Prod.snd
  | _ => []

/-- Whether the value is an array or an object. -/
def isContainer : Json → Bool
  | .array _ | .object _ => true
  | _ => false

mutual

/-- The number of values in a value, itself included. -/
def nodeCount : Json → Nat
  | .array items => nodeCountItems items + 1
  | .object members => nodeCountMembers members + 1
  | _ => 1

/-- The number of values in the items of an array. -/
def nodeCountItems : List Json → Nat
  | [] => 0
  | v :: vs => nodeCount v + nodeCountItems vs

/-- The number of values in the members of an object. -/
def nodeCountMembers : List (String × Json) → Nat
  | [] => 0
  | (_, v) :: ms => nodeCount v + nodeCountMembers ms

end

mutual

/-- The nesting depth: none for a scalar, and one more than the deepest value inside for an array
or object. -/
def depth : Json → Nat
  | .array items => depthItems items + 1
  | .object members => depthMembers members + 1
  | _ => 0

/-- The greatest depth among the items of an array. -/
def depthItems : List Json → Nat
  | [] => 0
  | v :: vs => max (depth v) (depthItems vs)

/-- The greatest depth among the members of an object. -/
def depthMembers : List (String × Json) → Nat
  | [] => 0
  | (_, v) :: ms => max (depth v) (depthMembers ms)

end

theorem nodeCount_pos (v : Json) : 0 < v.nodeCount := by
  cases v <;> simp [nodeCount]

end Json

end ObjectInitializer
