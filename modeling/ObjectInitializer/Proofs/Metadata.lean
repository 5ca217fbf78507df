/-
**Metadata in a document.**

A member whose key is metadata may be put anywhere into any object of a document, and the rendering
does not change.  The object has the same members left once its metadata is pruned, and so it has
inside of whatever stands around it: an item stays an item, null or not, and a member that is set,
and set again, is the same member whether its value is pruned before or after.

There is one exception, which the grammar makes.  An object whose first key is `Json.boxKey` is a
boxed number, or no value at all, although the key is metadata; so a member with this key may be
put anywhere but in front.

Main definitions:

* `Json.objectText` — the text of an object, by those of its members.

Main results:

* `Json.prune_surroundValue` — values that are alike when pruned are so inside of a document;
* `render_insert_metadata` — **metadata in a document changes nothing in its rendering**, but for
  a boxed number;
* `boxed_number_is_no_metadata` — what is rendered of a boxed number is not what is rendered of the
  object without it.
-/

import ObjectInitializer.Proofs.Json.Compact
import ObjectInitializer.Proofs.Json.Surroundings
import ObjectInitializer.Proofs.Pruning

set_option relaxedAutoImplicit false
set_option autoImplicit false

namespace ObjectInitializer

/-! ### Pruned lists -/

namespace Tree

theorem pruneItems_eq (items : List Tree) :
    pruneItems items = (items.filter fun v => !v.isNull).map prune := by
  induction items with
  | nil => rfl
  | cons v vs ih =>
      rw [pruneItems]
      cases hn : v.isNull <;> simp [hn, ih]

theorem pruneEntries_eq (entries : List (String × Tree)) :
    pruneEntries entries =
      (entries.filter fun e => !isMeta e.1).map fun e => (e.1, e.2.prune) := by
  induction entries with
  | nil => rfl
  | cons e es ih =>
      obtain ⟨key, v⟩ := e
      rw [pruneEntries]
      cases hk : isMeta key <;> simp [hk, ih]

theorem isNull_eq_of_prune_eq {v w : Tree} (h : v.prune = w.prune) : v.isNull = w.isNull := by
  rw [← isNull_prune v, h, isNull_prune]

end Tree

namespace Json

variable {around : List Surround} {before after members : List MemberText} {gap : List Char}

/-! ### Pruned documents -/

/-- The members of an object are pruned before or after they are set. -/
theorem prune_object (members : List (String × Json)) :
    (Json.object (setMembers [] members)).toTree.prune =
      .object (setMembers []
        ((members.filter fun m => !Tree.isMeta m.1).map fun m => (m.1, m.2.toTree.prune))) := by
  rw [toTree, Tree.prune, Tree.pruneEntries_eq, toTreeMembers_eq_map, List.filter_map, List.map_map]
  have hfilter : (setMembers [] members).filter
      ((fun e => !Tree.isMeta e.1) ∘ fun m => (m.1, m.2.toTree)) =
        setMembers [] (members.filter fun m => !Tree.isMeta m.1) :=
    filter_setMembers (fun key => !Tree.isMeta key) [] members
  rw [hfilter]
  exact congrArg Tree.object (map_setMembers (fun v : Json => v.toTree.prune) [] _)

/-- Items that are alike when pruned are so in an array. -/
theorem prune_items {before after : List Tree} {v w : Tree} (h : v.prune = w.prune) :
    (Tree.array (before ++ v :: after)).prune = (Tree.array (before ++ w :: after)).prune := by
  have hnull : v.isNull = w.isNull := Tree.isNull_eq_of_prune_eq h
  have hall : (before ++ v :: after).all Tree.isNull = (before ++ w :: after).all Tree.isNull := by
    simp only [List.all_append, List.all_cons, hnull]
  rw [Tree.prune, Tree.prune, hall]
  by_cases hnulls : (before ++ w :: after).all Tree.isNull = true
  · -- the array is kept as it is, but then both of the items are null
    have hw : w.isNull = true := List.all_eq_true.1 hnulls w (by simp)
    have hv : v.isNull = true := hnull.trans hw
    rw [(Tree.isNull_eq_true_iff v).1 hv, (Tree.isNull_eq_true_iff w).1 hw]
  · rw [if_neg hnulls, if_neg hnulls, Tree.pruneItems_eq, Tree.pruneItems_eq, List.filter_append,
      List.filter_append, List.filter_cons, List.filter_cons, hnull]
    by_cases hw : w.isNull = true
    · simp [hw]
    · simp [hw, h]

/-- Values that are alike when pruned are so with what stands around them. -/
theorem Surround.prune_value {v w : Json} (h : v.toTree.prune = w.toTree.prune)
    (surround : Surround) :
    (surround.value v).toTree.prune = (surround.value w).toTree.prune := by
  cases surround with
  | blanks _ _ => exact h
  | items before after gap =>
      simp only [value, toTree, toTreeItems_eq_map, List.map_append, List.map_cons]
      exact prune_items h
  | members before keyText key after gap =>
      rw [value, value, prune_object, prune_object]
      cases hk : Tree.isMeta key <;> simp [hk, h]

/-- **Values that are alike when pruned are so inside of a document.** -/
theorem prune_surroundValue {v w : Json} (h : v.toTree.prune = w.toTree.prune)
    (around : List Surround) :
    (surroundValue around v).toTree.prune = (surroundValue around w).toTree.prune := by
  induction around with
  | nil => exact h
  | cons surround around ih => exact surround.prune_value ih

/-! ### Documents with a member more -/

/-- The text of an object, by those of its members and the blanks in front of its end. -/
def objectText (members : List MemberText) (gap : List Char) : List Char :=
  '\x7b' :: (commas (members.map MemberText.text) ++ (gap ++ ['\x7d']))

/-- The value of an object, by its members. -/
def objectValue (members : List MemberText) : Json :=
  .object (setMembers [] (members.map MemberText.member))

/-- A document with an object in it is parsed. -/
theorem parse_object (haround : ∀ surround ∈ around, surround.WellFormed)
    (hmembers : ∀ m ∈ members, SpellsKey m.keyText m.key ∧ Spells m.valueText m.value)
    (hfirst : ∀ m ∈ members.head?, m.key ≠ boxKey) (hgap : IsSpaces gap) :
    parse (String.ofList (surroundText around (objectText members gap))) =
      .ok (surroundValue around (objectValue members)) := by
  rw [parse_eq_ok_iff, String.toList_ofList]
  exact spells_surround haround
    (.object (fun m hm => (hmembers m hm).1) (fun m hm => (hmembers m hm).2) hfirst hgap)

/-- Metadata is not seen in a pruned object. -/
theorem prune_objectValue_insert {m : MemberText} (hmeta : Tree.isMeta m.key = true)
    (before after : List MemberText) :
    (objectValue (before ++ m :: after)).toTree.prune =
      (objectValue (before ++ after)).toTree.prune := by
  rw [objectValue, objectValue, prune_object, prune_object]
  simp [MemberText.member, hmeta]

end Json

open Json

/-- **Metadata in a document changes nothing in its rendering.**  Into an object at any place of a
document, and at any place among its members, a member may be put whose key is metadata: the
document is still parsed, and rendered as before.  Only in front of the other members, the key must
not be that of a boxed number.  The object itself is none, and the value of the member is one that
can be read. -/
theorem render_insert_metadata {around : List Surround} {before after : List MemberText}
    {gap : List Char} {m : MemberText}
    (haround : ∀ surround ∈ around, surround.WellFormed)
    (hmembers : ∀ n ∈ before ++ after, SpellsKey n.keyText n.key ∧ Spells n.valueText n.value)
    (hfirst : ∀ n ∈ (before ++ after).head?, n.key ≠ boxKey) (hgap : IsSpaces gap)
    (hkey : SpellsKey m.keyText m.key) (hvalue : Spells m.valueText m.value)
    (hmeta : Tree.isMeta m.key = true) (hbox : before = [] → m.key ≠ boxKey) :
    ∃ v w,
      parse (String.ofList (surroundText around (objectText (before ++ after) gap))) = .ok v ∧
        parse (String.ofList (surroundText around (objectText (before ++ m :: after) gap))) =
          .ok w ∧
        (∀ settings, (render settings w.toTree).content = (render settings v.toTree).content) ∧
        ∀ className, renderClass className w.toTree = renderClass className v.toTree := by
  have hmore := Surround.forall_mem_around hmembers ⟨hkey, hvalue⟩
  have hhead : ∀ n ∈ (before ++ m :: after).head?, n.key ≠ boxKey := by
    cases before with
    | nil =>
        intro n hn
        cases hn
        exact hbox rfl
    | cons n before => exact hfirst
  have hprune := prune_surroundValue (prune_objectValue_insert hmeta before after) around
  have hsame (settings : Settings) :=
    calc (render settings (surroundValue around (objectValue (before ++ m :: after))).toTree).content
      _ = (render settings (surroundValue around
            (objectValue (before ++ m :: after))).toTree.prune).content :=
          (shown_render_prune settings _).1.symm
      _ = (render settings (surroundValue around
            (objectValue (before ++ after))).toTree.prune).content := by rw [hprune]
      _ = (render settings (surroundValue around (objectValue (before ++ after))).toTree).content :=
          (shown_render_prune settings _).1
  exact ⟨_, _, parse_object haround hmembers hfirst hgap, parse_object haround hmore hhead hgap,
    hsame, fun className => hsame _⟩

/-- The key of a boxed number, behind another member of an object in an array. -/
theorem render_insert_metadata_boxKey_behind :
    let before := "[\x7b\"a\":1\x7d]"
    let after := "[\x7b\"a\":1,\"$serde_json::private::Number\":null\x7d]"
    Tree.isMeta boxKey = true ∧
      ∃ v w, parse before = .ok v ∧ parse after = .ok w ∧
        (∀ settings, (render settings w.toTree).content = (render settings v.toTree).content) ∧
        ∀ className, renderClass className w.toTree = renderClass className v.toTree := by
  let around : List Surround := [.items [] [] []]
  let first : MemberText := ⟨stringText "a" ++ [':'], "a", ['1'], .number "1"⟩
  let m : MemberText := ⟨stringText boxKey ++ [':'], boxKey, ['n', 'u', 'l', 'l'], .null⟩
  have haround : ∀ surround ∈ around, surround.WellFormed :=
    List.forall_mem_singleton.2 ⟨by simp, isSpaces_nil⟩
  have hone : Spells ['1'] (.number "1") := .number (isNumeral_singleton rfl)
  have hfirst : ∀ n ∈ [first] ++ [], SpellsKey n.keyText n.key ∧ Spells n.valueText n.value :=
    List.forall_mem_singleton.2 ⟨spellsKey_stringText "a", hone⟩
  have hinsert := render_insert_metadata haround hfirst (by decide) isSpaces_nil
    (m := m) (spellsKey_stringText boxKey) .null (by decide) (by simp)
  have hbefore : String.ofList (surroundText around (objectText ([first] ++ []) [])) =
      "[\x7b\"a\":1\x7d]" := by decide
  have hafter : String.ofList (surroundText around (objectText ([first] ++ m :: []) [])) =
      "[\x7b\"a\":1,\"$serde_json::private::Number\":null\x7d]" := by decide
  rw [hbefore, hafter] at hinsert
  exact ⟨by decide, hinsert⟩

/-- **A boxed number is no object with metadata.**  The key of its only member starts with `$`, but
what is rendered is a number, and not the object that is left without the member. -/
theorem boxed_number_is_no_metadata :
    Tree.isMeta boxKey = true ∧
      ∃ v w, parse "\x7b\x7d" = .ok v ∧
        parse "\x7b\"$serde_json::private::Number\": \"1\"\x7d" = .ok w ∧
        renderClass "MyObject" v.toTree = "MyObject instance = new()\n\x7b\n\x7d;\n" ∧
        renderClass "MyObject" w.toTree = "MyObject instance = 1;\n" := by
  have hempty : parse "\x7b\x7d" = .ok (.object []) :=
    parse_eq_ok_iff.2 (.emptyObject isSpaces_nil)
  have hspace : IsSpaces [' '] := by
    intro c hc
    rw [List.mem_singleton.1 hc]
    rfl
  have hboxed : parse "\x7b\"$serde_json::private::Number\": \"1\"\x7d" = .ok (.number "1") :=
    parse_eq_ok_iff.2 (.boxed (spellsKey_stringText boxKey) hspace (spellsString_escape ['1'])
      (isNumeral_singleton rfl) isSpaces_nil)
  exact ⟨by decide, _, _, hempty, hboxed, by decide, by decide⟩

end ObjectInitializer
