/-
**What a rendering counts.**

The counts of a rendering are raised at many places of the emitter: before and after a block is
opened, in front of every exit, and the depth with a nesting that goes up and down on the way.
This module says what they amount to, in terms of the tree alone.  The *nodes* of a tree are the
trees in it that do not lie under metadata, nulls in arrays included; the counts are counts and sums
over the nodes, and a maximum over them.

Counts are merged by addition, and depths by their maximum, which makes a commutative monoid of
them.  The emitter merges its counts with those of the nodes of a value, whatever it counted before
and however deep it is nested (`Tree.Counted`), and is nested as deep again behind the value.

Every node but the root is an item or an entry of another, so that nodes can be counted at their
parents as well (`Tree.countP_nodesAt`); this balances what is written against what it is written
in.

Main definitions:

* `Tree.Node`, `Tree.nodes` — the nodes of a tree;
* `Tally.merge`, `Tally.total` — counts merged, and the counts of some nodes;
* `Tree.Counted` — **the invariant** that is carried through the recursion.

Main results:

* `Tally.total_eq` — the counts of some nodes, each by itself;
* `Tree.countP_nodesAt` — the nodes of a kind are counted at their parents;
* `Emitter.emit_counted` — a value is counted by its nodes, in every state of the emitter;
* `render_tally_nodes` — **the counts of a rendering are counts of nodes**.
-/

import Mathlib.Algebra.BigOperators.Group.List.Basic
import Mathlib.Algebra.Ring.Nat
import ObjectInitializer.Proofs.Tree

set_option relaxedAutoImplicit false
set_option autoImplicit false

namespace ObjectInitializer

/-- One more is counted if it is of the kind. -/
theorem countP_cons_toNat {α : Type} (kind : α → Bool) (x : α) (xs : List α) :
    (x :: xs).countP kind = (kind x).toNat + xs.countP kind := by
  rw [List.countP_cons, Nat.add_comm]
  cases kind x <;> rfl

namespace Tree

/-! ### Nodes -/

/-- A tree that stands in a tree. -/
structure Node where
  tree : Tree
  /-- The number of arrays and objects around it. -/
  level : Nat
  /-- Whether it is an item of an array. -/
  isItem : Bool

mutual

/-- The nodes of a tree that stands at a level, the tree itself first. -/
def nodesAt (level : Nat) (isItem : Bool) : Tree → List Node
  | .array items => ⟨.array items, level, isItem⟩ :: itemNodes (level + 1) items
  | .object entries => ⟨.object entries, level, isItem⟩ :: entryNodes (level + 1) entries
  | v => [⟨v, level, isItem⟩]

/-- The nodes of the items of an array. -/
def itemNodes (level : Nat) : List Tree → List Node
  | [] => []
  | v :: vs => nodesAt level true v ++ itemNodes level vs

/-- The nodes of the entries of an object, less the metadata. -/
def entryNodes (level : Nat) : List (String × Tree) → List Node
  | [] => []
  | (key, v) :: es =>
    if isMeta key then entryNodes level es else nodesAt level false v ++ entryNodes level es

end

/-- **The nodes of a tree**: the trees in it that do not lie under metadata. -/
def nodes (v : Tree) : List Node :=
  v.nodesAt 0 false

/-- The items of an array; other trees have none. -/
def items : Tree → List Tree
  | .array items => items
  | _ => []

/-- The entries of an object, metadata included; other trees have none. -/
def entries : Tree → List (String × Tree)
  | .object entries => entries
  | _ => []

/-- The entries of an object that are no metadata. -/
def keptEntries (v : Tree) : List (String × Tree) :=
  v.entries.filter fun e => !isMeta e.1

@[simp] theorem items_array (items : List Tree) : (Tree.array items).items = items := rfl

@[simp] theorem items_object (entries : List (String × Tree)) : (Tree.object entries).items = [] :=
  rfl

@[simp] theorem keptEntries_array (items : List Tree) : (Tree.array items).keptEntries = [] := rfl

@[simp] theorem keptEntries_object (entries : List (String × Tree)) :
    (Tree.object entries).keptEntries = entries.filter fun e => !isMeta e.1 := rfl

theorem items_scalar {v : Tree} {literal : String} (hv : v.literal? = some literal) :
    v.items = [] := by
  cases v with
  | array items => simp [literal?] at hv
  | _ => rfl

theorem keptEntries_scalar {v : Tree} {literal : String} (hv : v.literal? = some literal) :
    v.keptEntries = [] := by
  cases v with
  | object entries => simp [literal?] at hv
  | _ => rfl

def isObject : Tree → Bool
  | .object _ => true
  | _ => false

def isArray : Tree → Bool
  | .array _ => true
  | _ => false

def isUnsupported : Tree → Bool
  | .unsupported => true
  | _ => false

/-- Whether the tree is written as a block or a collection: an object, or an array with items. -/
def opens : Tree → Bool
  | .object _ => true
  | .array items => !items.isEmpty
  | _ => false

/-- Whether the node is a null that an array drops. -/
def Node.isDropped (n : Node) : Bool :=
  n.isItem && n.tree.isNull

/-- Whether the node is written as a literal. -/
def Node.isWrittenScalar (n : Node) : Bool :=
  n.tree.literal?.isSome && !n.isDropped

theorem nodesAt_scalar {v : Tree} {literal : String} (hv : v.literal? = some literal)
    (level : Nat) (isItem : Bool) : v.nodesAt level isItem = [⟨v, level, isItem⟩] := by
  cases v with
  | array items => simp [literal?] at hv
  | object entries => simp [literal?] at hv
  | _ => rfl

theorem itemNodes_eq (level : Nat) (items : List Tree) :
    itemNodes level items = items.flatMap (nodesAt level true) := by
  induction items with
  | nil => rfl
  | cons v vs ih => rw [itemNodes, ih, List.flatMap_cons]

theorem entryNodes_eq (level : Nat) (entries : List (String × Tree)) :
    entryNodes level entries =
      (entries.filter fun e => !isMeta e.1).flatMap fun e => e.2.nodesAt level false := by
  induction entries with
  | nil => rfl
  | cons e es ih =>
      obtain ⟨key, v⟩ := e
      by_cases hk : isMeta key = true
      · simp [entryNodes, hk, ih]
      · simp [entryNodes, hk, ih]

end Tree

/-! ### Counts of nodes -/

namespace Tally

/-- Counts taken together. -/
def merge (s t : Tally) : Tally where
  objects := s.objects + t.objects
  arrays := s.arrays + t.arrays
  properties := s.properties + t.properties
  skippedMetaProperties := s.skippedMetaProperties + t.skippedMetaProperties
  skippedNullElements := s.skippedNullElements + t.skippedNullElements
  unsupportedValues := s.unsupportedValues + t.unsupportedValues
  maxDepth := max s.maxDepth t.maxDepth

theorem merge_assoc (s t u : Tally) : (s.merge t).merge u = s.merge (t.merge u) := by
  simp [merge, Nat.add_assoc, Nat.max_assoc]

theorem merge_comm (s t : Tally) : s.merge t = t.merge s := by
  simp [merge, Nat.add_comm, Nat.max_comm]

@[simp] theorem merge_empty (t : Tally) : t.merge .empty = t := by
  simp [merge, empty]

@[simp] theorem empty_merge (t : Tally) : merge .empty t = t := by
  rw [merge_comm, merge_empty]

instance : Std.Associative merge := ⟨merge_assoc⟩

instance : Std.Commutative merge := ⟨merge_comm⟩

/-- What is counted of the items of an array besides their own counts. -/
def ofItems (items : List Tree) : Tally :=
  { empty with skippedNullElements := items.countP Tree.isNull }

/-- What is counted of the entries of an object besides the counts of their values. -/
def ofEntries (entries : List (String × Tree)) : Tally :=
  { empty with
    properties := entries.countP fun e => !Tree.isMeta e.1
    skippedMetaProperties := entries.countP fun e => Tree.isMeta e.1 }

theorem addNull_merge {v : Tree} (hv : v.isNull = true) (t : Tally) (vs : List Tree) :
    t.addNull.merge (ofItems vs) = t.merge (ofItems (v :: vs)) := by
  simp [addNull, merge, ofItems, empty, List.countP_cons_of_pos hv, Nat.add_assoc, Nat.add_comm 1]

theorem ofItems_cons {v : Tree} (hv : ¬ v.isNull = true) (vs : List Tree) :
    ofItems (v :: vs) = ofItems vs := by
  rw [ofItems, ofItems, List.countP_cons_of_neg hv]

theorem addMeta_merge {key : String} (hk : Tree.isMeta key = true) (v : Tree) (t : Tally)
    (es : List (String × Tree)) :
    t.addMeta.merge (ofEntries es) = t.merge (ofEntries ((key, v) :: es)) := by
  simp [addMeta, merge, ofEntries, hk, Nat.add_assoc, Nat.add_comm 1]

theorem addProperty_merge {key : String} (hk : ¬ Tree.isMeta key = true) (v : Tree) (t : Tally)
    (es : List (String × Tree)) :
    t.addProperty.merge (ofEntries es) = t.merge (ofEntries ((key, v) :: es)) := by
  simp [addProperty, merge, ofEntries, hk, Nat.add_assoc, Nat.add_comm 1]

/-- The counts of a node by itself. -/
def ofNode (n : Tree.Node) : Tally where
  objects := n.tree.isObject.toNat
  arrays := n.tree.isArray.toNat
  properties := n.tree.entries.countP fun e => !Tree.isMeta e.1
  skippedMetaProperties := n.tree.entries.countP fun e => Tree.isMeta e.1
  skippedNullElements := n.tree.items.countP Tree.isNull
  unsupportedValues := n.tree.isUnsupported.toNat
  maxDepth := if n.tree.opens then n.level + 1 else 0

/-- The counts of some nodes. -/
def total (ns : List Tree.Node) : Tally :=
  (ns.map ofNode).foldr merge empty

theorem total_cons (n : Tree.Node) (ns : List Tree.Node) :
    total (n :: ns) = (ofNode n).merge (total ns) := rfl

theorem total_singleton (n : Tree.Node) : total [n] = ofNode n :=
  merge_empty (ofNode n)

theorem total_append (ns ms : List Tree.Node) :
    total (ns ++ ms) = (total ns).merge (total ms) := by
  induction ns with
  | nil => exact (empty_merge _).symm
  | cons n ns ih => rw [List.cons_append, total_cons, total_cons, ih, merge_assoc]

/-- **The counts of some nodes, each by itself.** -/
theorem total_eq (ns : List Tree.Node) :
    total ns =
      { objects := ns.countP fun n => n.tree.isObject
        arrays := ns.countP fun n => n.tree.isArray
        properties :=
          (ns.map fun n => n.tree.entries.countP fun e => !Tree.isMeta e.1).sum
        skippedMetaProperties :=
          (ns.map fun n => n.tree.entries.countP fun e => Tree.isMeta e.1).sum
        skippedNullElements := (ns.map fun n => n.tree.items.countP Tree.isNull).sum
        unsupportedValues := ns.countP fun n => n.tree.isUnsupported
        maxDepth := ((ns.filter fun n => n.tree.opens).map fun n => n.level + 1).foldr max 0 } := by
  induction ns with
  | nil => rfl
  | cons n ns ih =>
      have hcount (b : Bool) (k : Nat) : b.toNat + k = k + if b = true then 1 else 0 := by
        cases b <;> simp [Nat.add_comm]
      have hdepth : max (if n.tree.opens then n.level + 1 else 0)
          (((ns.filter fun n => n.tree.opens).map fun n => n.level + 1).foldr max 0) =
          (((n :: ns).filter fun n => n.tree.opens).map fun n => n.level + 1).foldr max 0 := by
        by_cases ho : n.tree.opens = true
        · simp [ho]
        · simp [ho]
      rw [total_cons, ih, merge, ofNode]
      simp only [hcount, hdepth, List.countP_cons, List.map_cons, List.sum_cons]

end Tally

/-! ### Counting in the emitter -/

/-- **The invariant of counting.**  Emitting the tree merges the counts of its nodes, and the
nesting is restored. -/
def Tree.Counted (v : Tree) : Prop :=
  ∀ (e : Emitter) (t : Terminator) (isItem : Bool),
    (e.emit t v).nesting = e.nesting ∧
      (e.emit t v).tally = e.tally.merge (.total (v.nodesAt e.nesting isItem))

namespace Emitter

open Tally

/-- Items are counted by their nodes, and by the nulls among them. -/
theorem emitItems_counted {items : List Tree} (h : ∀ v ∈ items, v.Counted) (e : Emitter) :
    (e.emitItems items).nesting = e.nesting ∧
      (e.emitItems items).tally =
        e.tally.merge ((ofItems items).merge (total (Tree.itemNodes e.nesting items))) := by
  induction items generalizing e with
  | nil => exact ⟨rfl, (merge_empty e.tally).symm⟩
  | cons v vs ih =>
      obtain ⟨hv, hvs⟩ := List.forall_mem_cons.1 h
      by_cases hn : v.isNull = true
      · -- the null is a node, but nothing is counted of it by itself
        have hnode : total (v.nodesAt e.nesting true) = .empty := by
          rw [(Tree.isNull_eq_true_iff v).1 hn]
          rfl
        obtain ⟨hnesting, htally⟩ := ih hvs (e.count .addNull)
        rw [emitItems, if_pos hn]
        refine ⟨hnesting, htally.trans ?_⟩
        rw [Tree.itemNodes, total_append, hnode, empty_merge, ← merge_assoc, ← merge_assoc,
          ← addNull_merge hn]
        rfl
      · obtain ⟨hvnesting, hvtally⟩ := hv e .comma true
        obtain ⟨hnesting, htally⟩ := ih hvs (e.emit .comma v)
        rw [emitItems, if_neg hn]
        refine ⟨hnesting.trans hvnesting, htally.trans ?_⟩
        rw [hvnesting, hvtally, Tree.itemNodes, total_append, ofItems_cons hn]
        ac_rfl

/-- Entries are counted by the nodes of those that are kept, and by how many are. -/
theorem emitEntries_counted {entries : List (String × Tree)} (h : ∀ m ∈ entries, m.2.Counted)
    (e : Emitter) :
    (e.emitEntries entries).nesting = e.nesting ∧
      (e.emitEntries entries).tally =
        e.tally.merge ((ofEntries entries).merge (total (Tree.entryNodes e.nesting entries))) := by
  induction entries generalizing e with
  | nil => exact ⟨rfl, (merge_empty e.tally).symm⟩
  | cons m ms ih =>
      obtain ⟨key, v⟩ := m
      obtain ⟨hv, hms⟩ := List.forall_mem_cons.1 h
      by_cases hk : Tree.isMeta key = true
      · obtain ⟨hnesting, htally⟩ := ih hms (e.count .addMeta)
        rw [emitEntries, if_pos hk]
        refine ⟨hnesting, htally.trans ?_⟩
        rw [Tree.entryNodes, if_pos hk, ← merge_assoc, ← merge_assoc, ← addMeta_merge hk v]
        rfl
      · obtain ⟨hvnesting, hvtally⟩ := hv (e.openProperty key) .comma false
        obtain ⟨hnesting, htally⟩ := ih hms ((e.openProperty key).emit .comma v)
        have hopen : (e.openProperty key).tally = e.tally.addProperty := rfl
        rw [emitEntries, if_neg hk]
        refine ⟨hnesting.trans hvnesting, htally.trans ?_⟩
        rw [hvnesting, hvtally, hopen, Tree.entryNodes, if_neg hk, total_append,
          ← merge_assoc e.tally, ← addProperty_merge hk v]
        show (e.tally.addProperty.merge (total (v.nodesAt e.nesting false))).merge
          ((ofEntries ms).merge (total (Tree.entryNodes e.nesting ms))) = _
        ac_rfl

theorem countScalar_counted {v : Tree} {literal : String} (hv : v.literal? = some literal)
    (e : Emitter) (isItem : Bool) :
    (e.countScalar v).nesting = e.nesting ∧
      (e.countScalar v).tally = e.tally.merge (.ofNode ⟨v, e.nesting, isItem⟩) := by
  cases v with
  | array items => simp [Tree.literal?] at hv
  | object entries => simp [Tree.literal?] at hv
  | _ => exact ⟨rfl, by simp [countScalar, count, addUnsupported, merge, ofNode, Tree.isObject,
      Tree.isArray, Tree.entries, Tree.items, Tree.isUnsupported, Tree.opens]⟩

theorem openObject_counted (e : Emitter) (entries : List (String × Tree)) (isItem : Bool) :
    e.openObject.tally.merge (.ofEntries entries) =
      e.tally.merge (.ofNode ⟨.object entries, e.nesting, isItem⟩) := by
  simp [openObject, enter, put, count, addObject, Tally.reach, merge, ofEntries, ofNode,
    Tree.isObject, Tree.isArray, Tree.entries, Tree.items, Tree.isUnsupported, Tree.opens, empty]

theorem openArray_counted (e : Emitter) {items : List Tree} (h : items ≠ []) (isItem : Bool) :
    e.openArray.tally.merge (.ofItems items) =
      e.tally.merge (.ofNode ⟨.array items, e.nesting, isItem⟩) := by
  simp [openArray, enter, put, count, addArray, Tally.reach, merge, ofItems, ofNode,
    Tree.isObject, Tree.isArray, Tree.entries, Tree.items, Tree.isUnsupported, Tree.opens, empty, h]

theorem addArray_eq (t : Tally) (level : Nat) (isItem : Bool) :
    t.addArray = t.merge (.ofNode ⟨.array [], level, isItem⟩) := by
  simp [addArray, merge, ofNode, Tree.isObject, Tree.isArray, Tree.entries, Tree.items,
    Tree.isUnsupported, Tree.opens]

theorem nesting_putScalar (e : Emitter) (literal : String) (t : Terminator) :
    (e.putScalar literal t).nesting = e.nesting := by
  cases t <;> rfl

theorem nesting_closeObject (e : Emitter) (t : Terminator) :
    (e.closeObject t).nesting = e.nesting - 1 := by
  cases t <;> rfl

theorem nesting_closeArray (e : Emitter) (t : Terminator) :
    (e.closeArray t).nesting = e.nesting - 1 := by
  cases t <;> rfl

/-- **A value is counted by its nodes**, in every state of the emitter. -/
theorem emit_counted (v : Tree) : v.Counted := by
  induction v with
  | scalar v literal hv =>
      intro e t isItem
      obtain ⟨hnesting, htally⟩ := countScalar_counted hv e isItem
      rw [emit_scalar hv, Tree.nodesAt_scalar hv, total_singleton, nesting_putScalar,
        tally_putScalar]
      exact ⟨hnesting, htally⟩
  | array items ih =>
      intro e t isItem
      cases items with
      | nil =>
          rw [emit, nesting_putScalar, tally_putScalar]
          refine ⟨rfl, ?_⟩
          show e.tally.addArray = e.tally.merge (total [⟨.array [], e.nesting, isItem⟩])
          rw [total_singleton, addArray_eq]
      | cons v vs =>
          have hne : v :: vs ≠ [] := List.cons_ne_nil v vs
          obtain ⟨hnesting, htally⟩ := emitItems_counted ih e.openArray
          rw [emit, nesting_closeArray, tally_closeArray, hnesting, htally, Tree.nodesAt,
            total_cons, ← merge_assoc, openArray_counted e hne isItem, merge_assoc]
          exact ⟨rfl, rfl⟩
  | object entries ih =>
      intro e t isItem
      obtain ⟨hnesting, htally⟩ := emitEntries_counted ih e.openObject
      rw [emit, nesting_closeObject, tally_closeObject, hnesting, htally, Tree.nodesAt,
        total_cons, ← merge_assoc, openObject_counted e entries isItem, merge_assoc]
      exact ⟨rfl, rfl⟩

/-- A statement counts its value. -/
theorem statement_tally (e : Emitter) (className : String) (v : Tree) :
    (e.statement className v).tally = e.tally.merge (.total (v.nodesAt e.nesting false)) :=
  (emit_counted v (e.put fun w => w.beginIndented.write (className ++ " instance = ")) .semicolon
    false).2

end Emitter

/-! ### Nodes among the items and entries -/

namespace Tree

/-- Nodes are counted list by list. -/
theorem countP_flatMap_nodes {α : Type} (xs : List α) (nodesOf : α → List Node)
    {p : Node → Bool} {own : α → Bool} {inside : Node → Nat}
    (h : ∀ x ∈ xs, (nodesOf x).countP p = (own x).toNat + ((nodesOf x).map inside).sum) :
    (xs.flatMap nodesOf).countP p = xs.countP own + ((xs.flatMap nodesOf).map inside).sum := by
  induction xs with
  | nil => rfl
  | cons x xs ih =>
      obtain ⟨hx, hxs⟩ := List.forall_mem_cons.1 h
      have hown : xs.countP own + (own x).toNat = (x :: xs).countP own := by
        cases hx : own x <;> simp [hx]
      rw [List.flatMap_cons, List.countP_append, hx, ih hxs, List.map_append, List.sum_append,
        ← hown]
      omega

/-- **Every node but the root is an item or an entry of a node**, so that nodes of a kind can be
counted as such. -/
theorem countP_nodesAt (p : Tree → Bool → Bool) (v : Tree) (level : Nat) (isItem : Bool) :
    ((v.nodesAt level isItem).countP fun n => p n.tree n.isItem) =
      (p v isItem).toNat +
        ((v.nodesAt level isItem).map fun n =>
          (n.tree.items.countP fun w => p w true) +
            n.tree.keptEntries.countP fun e => p e.2 false).sum := by
  -- the root is counted by itself, and all others inside of it
  have hroot (k : Nat) (n : Node) : k + (if p n.tree n.isItem = true then 1 else 0) =
      (p n.tree n.isItem).toNat + k := by
    cases p n.tree n.isItem <;> simp [Nat.add_comm]
  induction v generalizing level isItem with
  | scalar v literal hv =>
      rw [nodesAt_scalar hv, List.countP_cons, hroot]
      simp [items_scalar hv, keptEntries_scalar hv]
  | array items ih =>
      have hinside := countP_flatMap_nodes items (nodesAt (level + 1) true)
        fun v hv => ih v hv (level + 1) true
      rw [nodesAt, itemNodes_eq, List.countP_cons, hroot, hinside, List.map_cons, List.sum_cons,
        items_array, keptEntries_array]
      rfl
  | object entries ih =>
      have hinside := countP_flatMap_nodes (entries.filter fun e => !isMeta e.1) _
        fun e he => ih e (List.mem_filter.1 he).1 (level + 1) false
      rw [nodesAt, entryNodes_eq, List.countP_cons, hroot, hinside, List.map_cons, List.sum_cons,
        items_object, keptEntries_object, List.countP_nil, Nat.zero_add]

/-- The nodes besides the root are the items and the entries that are kept. -/
theorem length_nodes (v : Tree) :
    v.nodes.length =
      1 + (v.nodes.map fun n => n.tree.items.length + n.tree.keptEntries.length).sum := by
  simpa [nodes] using countP_nodesAt (fun _ _ => true) v 0 false

/-- The nodes that are dropped are the nulls among the items. -/
theorem countP_isDropped_nodes (v : Tree) :
    v.nodes.countP Node.isDropped = (v.nodes.map fun n => n.tree.items.countP isNull).sum := by
  have h := countP_nodesAt (fun w isItem => isItem && w.isNull) v 0 false
  simp only [Bool.false_and, Bool.true_and, Bool.toNat_false, List.countP_false, Nat.zero_add] at h
  exact h

theorem isSome_literal? (v : Tree) : v.literal?.isSome = !(v.isObject || v.isArray) := by
  cases v with
  | bool b => cases b <;> rfl
  | _ => rfl

/-- A node is an object, an array, written as a literal, or dropped, and only one of these. -/
theorem length_eq_countP (ns : List Node) :
    ns.length =
      (ns.countP fun n => n.tree.isObject) + (ns.countP fun n => n.tree.isArray) +
        ns.countP Node.isWrittenScalar + ns.countP Node.isDropped := by
  induction ns with
  | nil => rfl
  | cons n ns ih =>
      obtain ⟨v, level, isItem⟩ := n
      simp only [List.length_cons, List.countP_cons, Node.isWrittenScalar, Node.isDropped,
        isSome_literal?, ih]
      cases v <;> cases isItem <;> simp [isObject, isArray, isNull] <;> omega

end Tree

/-! ### Renderings -/

theorem render_tally (settings : Settings) (v : Tree) :
    (render settings v).tally = .total v.nodes :=
  (Emitter.statement_tally (Emitter.new settings.writer) settings.className v).trans
    (Tally.empty_merge _)

/-- **The counts of a rendering are counts of nodes.**  Objects, arrays and values with no
counterpart are counted among the nodes; entries, metadata and dropped nulls at the objects and
arrays that have them; and the depth is the greatest level of an object, or of an array with items,
counted from one.  What is written balances: objects, arrays and literals, with the dropped nulls,
are the root, the properties and the items. -/
theorem render_tally_nodes (settings : Settings) (v : Tree) :
    let tally := (render settings v).tally
    (tally.objects = v.nodes.countP fun n => n.tree.isObject) ∧
      (tally.arrays = v.nodes.countP fun n => n.tree.isArray) ∧
      (tally.properties =
        (v.nodes.map fun n => n.tree.entries.countP fun e => !Tree.isMeta e.1).sum) ∧
      (tally.skippedMetaProperties =
        (v.nodes.map fun n => n.tree.entries.countP fun e => Tree.isMeta e.1).sum) ∧
      (tally.skippedNullElements = (v.nodes.map fun n => n.tree.items.countP Tree.isNull).sum) ∧
      (tally.unsupportedValues = v.nodes.countP fun n => n.tree.isUnsupported) ∧
      (tally.maxDepth =
        ((v.nodes.filter fun n => n.tree.opens).map fun n => n.level + 1).foldr max 0) ∧
      tally.objects + tally.arrays + v.nodes.countP Tree.Node.isWrittenScalar +
          tally.skippedNullElements =
        1 + tally.properties + (v.nodes.map fun n => n.tree.items.length).sum := by
  intro tally
  have htally : tally = _ := (render_tally settings v).trans (Tally.total_eq v.nodes)
  rw [htally]
  refine ⟨rfl, rfl, rfl, rfl, rfl, rfl, rfl, ?_⟩
  -- both sides are the number of the nodes
  have hkinds := Tree.length_eq_countP v.nodes
  have hparents := Tree.length_nodes v
  have hdropped := Tree.countP_isDropped_nodes v
  simp only [Tree.keptEntries, ← List.countP_eq_length_filter, List.sum_map_add] at hparents
  dsimp only
  omega

end ObjectInitializer
