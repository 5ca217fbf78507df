/-
**The measured depth bounds the rendered depth.**

Two depths are taken of a value.  The guard measures how deep arrays and objects are nested, all of
them; a rendering reports how deep its blocks and collections went.  They differ where something is
an array or object and yet is not entered: the rendering leaves out what lies under metadata, and
writes an array without items on one line.

Both depths are told here from the values that stand inside of the value, each with the number of
arrays and objects around it (`Json.Within`).  All of them are measured; those that are rendered are
nodes of the tree, and if there is no metadata, all of them are.  So the rendered depth is at most
the measured one, and without metadata they differ by one at most: what stands around a deepest
array without items is not empty itself.

Main definitions:

* `Json.Within` — a value inside of a value, with its level;
* `Json.MetaFree` — no object in the value has metadata.

Main results:

* `Json.Within.depth_le`, `Json.exists_deepest` — the depth is that of the deepest array or object;
* `Json.exists_within_of_mem_nodesAt`, `Json.Within.mem_nodesAt` — the nodes are values inside, and
  without metadata all of them;
* `render_depth_bounds` — **the measured depth bounds the rendered depth**, and how far they differ.
-/

import ObjectInitializer.Proofs.Counts
import ObjectInitializer.Proofs.Respelling

set_option relaxedAutoImplicit false
set_option autoImplicit false

namespace ObjectInitializer

namespace Json

/-! ### Values inside of a value -/

/-- A value stands inside of a value, with as many arrays and objects around it as its level
says. -/
inductive Within : Json → Nat → Json → Prop where
  | self (v : Json) : Within v 0 v
  | inside {v child w : Json} {level : Nat} (hchild : child ∈ v.children)
      (h : Within child level w) : Within v (level + 1) w

/-- No object in the value has metadata. -/
def MetaFree (v : Json) : Prop :=
  ∀ (level : Nat) (members : List (String × Json)), Within v level (.object members) →
    ∀ m ∈ members, ¬ Tree.isMeta m.1 = true

theorem MetaFree.child {v child : Json} (h : v.MetaFree) (hchild : child ∈ v.children) :
    child.MetaFree :=
  fun level members hwithin => h (level + 1) members (.inside hchild hwithin)

/-- A value is free of metadata if what stands directly inside of it is, and its own keys are no
metadata. -/
theorem metaFree_of_children {v : Json}
    (hkeys : ∀ members, v = .object members → ∀ m ∈ members, ¬ Tree.isMeta m.1 = true)
    (h : ∀ child ∈ v.children, child.MetaFree) : v.MetaFree := by
  intro level members hwithin
  cases hwithin with
  | self => exact hkeys members rfl
  | @inside _ child _ level hchild hwithin => exact h child hchild level members hwithin

/-- What stands inside, but is not the value itself, stands directly inside of something. -/
theorem Within.exists_parent {v w : Json} {level : Nat} (h : Within v (level + 1) w) :
    ∃ parent, Within v level parent ∧ w ∈ parent.children := by
  generalize hl : level + 1 = l at h
  induction h generalizing level with
  | self v => cases hl
  | @inside v child w l hchild h ih =>
      cases hl
      cases l with
      | zero =>
          cases h
          exact ⟨v, .self v, hchild⟩
      | succ l =>
          obtain ⟨parent, hparent, hw⟩ := ih rfl
          exact ⟨parent, .inside hchild hparent, hw⟩

/-! ### The deepest of them -/

theorem depth_le_depthItems {vs : List Json} {v : Json} (hv : v ∈ vs) :
    v.depth ≤ depthItems vs := by
  induction vs with
  | nil => cases hv
  | cons u us ih =>
      rw [depthItems]
      rcases List.mem_cons.1 hv with rfl | hv
      · exact Nat.le_max_left ..
      · exact Nat.le_trans (ih hv) (Nat.le_max_right ..)

theorem exists_mem_depth_eq {vs : List Json} (h : 0 < depthItems vs) :
    ∃ v ∈ vs, v.depth = depthItems vs := by
  induction vs with
  | nil => exact absurd h (Nat.lt_irrefl 0)
  | cons u us ih =>
      rw [depthItems] at h ⊢
      rcases Nat.le_total (depthItems us) u.depth with hle | hle
      · exact ⟨u, List.mem_cons_self .., by omega⟩
      · obtain ⟨v, hv, hdepth⟩ := ih (by omega)
        exact ⟨v, List.mem_cons_of_mem u hv, by omega⟩

theorem isContainer_of_mem_children {v child : Json} (h : child ∈ v.children) :
    v.isContainer = true := by
  cases v with
  | array items => rfl
  | object members => rfl
  | _ => cases h

theorem isContainer_of_depth_pos {v : Json} (h : 0 < v.depth) : v.isContainer = true := by
  by_cases hv : v.isContainer = true
  · exact hv
  · rw [Limits.depth_of_not_isContainer hv] at h
    cases h

/-- A value inside is nested no deeper than its level leaves. -/
theorem Within.depth_le {v w : Json} {level : Nat} (h : Within v level w) :
    level + w.depth ≤ v.depth := by
  induction h with
  | self v => exact Nat.le_of_eq (Nat.zero_add v.depth)
  | @inside v child w level hchild _ ih =>
      have hv := Limits.depth_of_isContainer (isContainer_of_mem_children hchild)
      have hle := depth_le_depthItems hchild
      omega

/-- **A value that is nested at all has an array or object at its depth.** -/
theorem exists_deepest {v : Json} {n : Nat} (h : v.depth = n + 1) :
    ∃ w, Within v n w ∧ w.isContainer = true := by
  induction n generalizing v with
  | zero => exact ⟨v, .self v, isContainer_of_depth_pos (by omega)⟩
  | succ n ih =>
      have hv := Limits.depth_of_isContainer (isContainer_of_depth_pos (v := v) (by omega))
      have hpos : 0 < depthItems v.children := by omega
      obtain ⟨child, hchild, hdepth⟩ := exists_mem_depth_eq hpos
      obtain ⟨w, hw, hcontainer⟩ := ih (v := child) (by omega)
      exact ⟨w, .inside hchild hw, hcontainer⟩

/-! ### Nodes of the tree -/

theorem nodeCount_le_of_mem {vs : List Json} {v : Json} (hv : v ∈ vs) :
    v.nodeCount ≤ nodeCountItems vs := by
  induction vs with
  | nil => cases hv
  | cons u us ih =>
      rw [nodeCountItems]
      rcases List.mem_cons.1 hv with rfl | hv
      · exact Nat.le_add_right ..
      · exact Nat.le_trans (ih hv) (Nat.le_add_left ..)

/-- **Induction on values**: what holds of a value whenever it holds of all that stand directly
inside of it holds of every value. -/
theorem induct {motive : Json → Prop}
    (value : ∀ v : Json, (∀ child ∈ v.children, motive child) → motive v) (v : Json) : motive v :=
  value v fun child _ => induct value child
termination_by v.nodeCount
decreasing_by
  rename_i hchild
  have := nodeCount_le_of_mem hchild
  have := Limits.nodeCountItems_children_lt v
  omega

/-- **A node of the tree is a value inside**, at the level of the node. -/
theorem exists_within_of_mem_nodesAt {v : Json} {level : Nat} {isItem : Bool} {n : Tree.Node}
    (hn : n ∈ v.toTree.nodesAt level isItem) :
    ∃ k w, Within v k w ∧ n.tree = w.toTree ∧ n.level = level + k := by
  induction v using induct generalizing level isItem with
  | value v ih =>
      -- a node of a value directly inside is one level further in
      have hinside {child : Json} {isItem : Bool} (hchild : child ∈ v.children)
          (hn : n ∈ child.toTree.nodesAt (level + 1) isItem) :
          ∃ k w, Within v k w ∧ n.tree = w.toTree ∧ n.level = level + k := by
        obtain ⟨k, w, hw, htree, hlevel⟩ := ih child hchild hn
        exact ⟨k + 1, w, .inside hchild hw, htree, by omega⟩
      cases v with
      | array items =>
          rw [toTree, Tree.nodesAt, Tree.itemNodes_eq, toTreeItems_eq_map] at hn
          rcases List.mem_cons.1 hn with rfl | hn
          · exact ⟨0, _, .self (.array items), by rw [toTree, toTreeItems_eq_map], rfl⟩
          · obtain ⟨t, ht, hn⟩ := List.mem_flatMap.1 hn
            obtain ⟨child, hchild, rfl⟩ := List.mem_map.1 ht
            exact hinside hchild hn
      | object members =>
          rw [toTree, Tree.nodesAt, Tree.entryNodes_eq, toTreeMembers_eq_map] at hn
          rcases List.mem_cons.1 hn with rfl | hn
          · exact ⟨0, _, .self (.object members), by rw [toTree, toTreeMembers_eq_map], rfl⟩
          · obtain ⟨e, he, hn⟩ := List.mem_flatMap.1 hn
            obtain ⟨m, hm, rfl⟩ := List.mem_map.1 (List.mem_filter.1 he).1
            exact hinside (List.mem_map_of_mem hm) hn
      | _ =>
          obtain rfl := List.mem_singleton.1 hn
          exact ⟨0, _, .self _, rfl, rfl⟩

/-- What stands directly inside of a value without metadata has its nodes among those of the
value. -/
theorem MetaFree.nodesAt_subset {v child : Json} (h : v.MetaFree) (hchild : child ∈ v.children)
    (level : Nat) (isItem : Bool) :
    ∃ isItem', ∀ n ∈ child.toTree.nodesAt (level + 1) isItem',
      n ∈ v.toTree.nodesAt level isItem := by
  cases v with
  | array items =>
      refine ⟨true, fun n hn => ?_⟩
      rw [toTree, Tree.nodesAt, Tree.itemNodes_eq, toTreeItems_eq_map]
      exact List.mem_cons_of_mem _ (List.mem_flatMap.2 ⟨_, List.mem_map_of_mem hchild, hn⟩)
  | object members =>
      obtain ⟨m, hm, rfl⟩ := List.mem_map.1 hchild
      have hkept : (m.1, m.2.toTree) ∈
          (members.map fun m => (m.1, m.2.toTree)).filter fun e => !Tree.isMeta e.1 :=
        List.mem_filter.2 ⟨List.mem_map_of_mem hm, by simp [h 0 members (.self _) m hm]⟩
      refine ⟨false, fun n hn => ?_⟩
      rw [toTree, Tree.nodesAt, Tree.entryNodes_eq, toTreeMembers_eq_map]
      exact List.mem_cons_of_mem _ (List.mem_flatMap.2 ⟨_, hkept, hn⟩)
  | _ => cases hchild

/-- **Without metadata every value inside is a node**, at its level. -/
theorem Within.mem_nodesAt {v w : Json} {k : Nat} (h : Within v k w) (hfree : v.MetaFree)
    (level : Nat) (isItem : Bool) :
    ∃ isItem', ⟨w.toTree, level + k, isItem'⟩ ∈ v.toTree.nodesAt level isItem := by
  induction h generalizing level isItem with
  | self v => exact ⟨isItem, by cases v <;> exact List.mem_cons_self ..⟩
  | @inside v child w k hchild _ ih =>
      obtain ⟨isChild, hsubset⟩ := hfree.nodesAt_subset hchild level isItem
      obtain ⟨isItem', hmem⟩ := ih (hfree.child hchild) (level + 1) isChild
      have hlevel : level + (k + 1) = level + 1 + k := by omega
      exact ⟨isItem', hlevel ▸ hsubset _ hmem⟩

/-- An array or object is written on lines of its own, unless it is an array without items. -/
theorem opens_toTree (v : Json) :
    v.toTree.opens = true ↔ v.isContainer = true ∧ v ≠ .array [] := by
  cases v with
  | array items => cases items <;> simp [toTree, toTreeItems, Tree.opens, isContainer]
  | _ => simp [toTree, Tree.opens, isContainer]

end Json

/-! ### The depth of a rendering -/

theorem Tally.maxDepth_total_le_iff {ns : List Tree.Node} {k : Nat} :
    (total ns).maxDepth ≤ k ↔ ∀ n ∈ ns, n.tree.opens = true → n.level + 1 ≤ k := by
  induction ns with
  | nil => simp [total, empty]
  | cons n ns ih =>
      have hdepth : (total (n :: ns)).maxDepth =
          max (if n.tree.opens then n.level + 1 else 0) (total ns).maxDepth := rfl
      rw [hdepth, Nat.max_le, ih, List.forall_mem_cons]
      by_cases ho : n.tree.opens = true
      · simp [ho]
      · simp [ho]

section

variable {settings : Settings} {v : Json} {k : Nat}

theorem render_maxDepth_le
    (h : ∀ level w, v.Within level w → w.isContainer = true → w ≠ .array [] → level + 1 ≤ k) :
    (render settings v.toTree).tally.maxDepth ≤ k := by
  rw [render_tally, Tally.maxDepth_total_le_iff]
  intro n hn hopens
  obtain ⟨level, w, hw, htree, hlevel⟩ := Json.exists_within_of_mem_nodesAt hn
  obtain ⟨hcontainer, hne⟩ := (Json.opens_toTree w).1 (htree ▸ hopens)
  have := h level w hw hcontainer hne
  omega

theorem le_render_maxDepth (settings : Settings) (hfree : v.MetaFree) {level : Nat} {w : Json}
    (hw : v.Within level w) (hcontainer : w.isContainer = true) (hne : w ≠ .array []) :
    level + 1 ≤ (render settings v.toTree).tally.maxDepth := by
  obtain ⟨isItem, hmem⟩ := hw.mem_nodesAt hfree 0 false
  have hle : 0 + level + 1 ≤ (Tally.total v.toTree.nodes).maxDepth :=
    Tally.maxDepth_total_le_iff.1 (Nat.le_refl _) _ hmem
      ((Json.opens_toTree w).2 ⟨hcontainer, hne⟩)
  rw [render_tally]
  omega

/-- The rendered depth is at most the measured one. -/
theorem render_maxDepth_le_depth (settings : Settings) (v : Json) :
    (render settings v.toTree).tally.maxDepth ≤ v.depth := by
  refine render_maxDepth_le fun level w hw hcontainer _ => ?_
  have hle := hw.depth_le
  have hdepth := Limits.depth_of_isContainer hcontainer
  omega

/-- Without metadata it is less by one at most. -/
theorem depth_le_render_maxDepth (hfree : v.MetaFree) :
    v.depth ≤ (render settings v.toTree).tally.maxDepth + 1 := by
  -- only what stands around the deepest array or object has to be entered
  match hdepth : v.depth with
  | 0 => exact Nat.zero_le _
  | 1 => exact Nat.le_add_left ..
  | n + 2 =>
      obtain ⟨w, hw, -⟩ := Json.exists_deepest hdepth
      obtain ⟨parent, hparent, hchild⟩ := hw.exists_parent
      have hne : parent ≠ .array [] := by
        rintro rfl
        cases hchild
      have := le_render_maxDepth settings hfree hparent
        (Json.isContainer_of_mem_children hchild) hne
      omega

/-- It is less exactly if the deepest arrays and objects are arrays without items. -/
theorem render_maxDepth_ne_depth_iff (hfree : v.MetaFree) (hpos : 0 < v.depth) :
    (render settings v.toTree).tally.maxDepth ≠ v.depth ↔
      ∀ level w, v.Within level w → w.isContainer = true → level + 1 = v.depth → w = .array [] := by
  have hle := render_maxDepth_le_depth settings v
  constructor
  · intro hne level w hw hcontainer hlevel
    by_cases hw' : w = .array []
    · exact hw'
    · have := le_render_maxDepth settings hfree hw hcontainer hw'
      omega
  · intro hempty heq
    have hless : (render settings v.toTree).tally.maxDepth ≤ v.depth - 1 := by
      refine render_maxDepth_le fun level w hw hcontainer hne => ?_
      have hwithin := hw.depth_le
      have hdepth := Limits.depth_of_isContainer hcontainer
      have hlevel : level + 1 ≠ v.depth := fun hlevel => hne (hempty level w hw hcontainer hlevel)
      omega
    omega

end

/-! ### Conversions -/

/-- A value that is converted is nested no deeper than the limit. -/
theorem convert_eq_ok {settings : Settings} {v : Json} {milliseconds : Nat}
    {conversion : Conversion} (h : convert settings v milliseconds = .ok conversion) :
    conversion = .ofValue settings v milliseconds ∧
      ∀ limit, settings.maxDepth = some limit → v.depth ≤ limit := by
  obtain ⟨_, hvalue, h⟩ := Except.bind_eq_ok_iff.1 h
  obtain ⟨_, -, hvalue⟩ := Except.bind_eq_ok_iff.1 hvalue
  obtain ⟨_, hdepth, -⟩ := Except.bind_eq_ok_iff.1 hvalue
  cases h
  refine ⟨rfl, fun limit hlimit => Nat.le_of_not_lt fun hdeep => ?_⟩
  rw [Limits.checkDepth_eq_error_iff.2 ⟨limit, hlimit, hdeep, rfl⟩] at hdepth
  cases hdepth

/-- A document that is converted has a value that is. -/
theorem exists_convert_of_convertInput {settings : Settings} {input : Input} {world : World}
    {conversion : Conversion}
    (h : ((convertInput settings input : StateM World (Except Failure Conversion)).run world).1 =
      .ok conversion) :
    ∃ v milliseconds, convert settings v milliseconds = .ok conversion := by
  rw [convertInput_world, Snapshot.convert_eq] at h
  obtain ⟨v, -, hconvert⟩ := Except.bind_eq_ok_iff.1 h
  exact ⟨v, _, hconvert⟩

/-- **The measured depth bounds the rendered depth.**  So does the limit on the measured depth, if a
value or a document is converted under one.  Without metadata, the rendered depth of an array or
object is the measured one, or less by one; it is less exactly if all arrays and objects at the
deepest level are arrays without items. -/
theorem render_depth_bounds (settings : Settings) (v : Json) :
    let rendered := (render settings v.toTree).tally.maxDepth
    let measured := Limits.nestingDepth v
    rendered ≤ measured ∧
      (∀ limit milliseconds conversion, settings.maxDepth = some limit →
        convert settings v milliseconds = .ok conversion → conversion.tally.maxDepth ≤ limit) ∧
      (∀ limit conversion (input : Input) (world : World), settings.maxDepth = some limit →
        ((convertInput settings input : StateM World (Except Failure Conversion)).run world).1 =
          .ok conversion → conversion.tally.maxDepth ≤ limit) ∧
      (v.MetaFree →
        measured ≤ rendered + 1 ∧
          (0 < measured →
            (rendered ≠ measured ↔
              ∀ level w, v.Within level w → w.isContainer = true → level + 1 = measured →
                w = .array []))) := by
  intro rendered measured
  have hmeasured : measured = v.depth := Limits.nestingDepth_eq v
  have hlimit {limit milliseconds : Nat} {u : Json} {conversion : Conversion}
      (hmax : settings.maxDepth = some limit)
      (h : convert settings u milliseconds = .ok conversion) :
      conversion.tally.maxDepth ≤ limit := by
    obtain ⟨rfl, hdepth⟩ := convert_eq_ok h
    exact Nat.le_trans (render_maxDepth_le_depth settings u) (hdepth limit hmax)
  rw [hmeasured]
  refine ⟨render_maxDepth_le_depth settings v,
    fun limit milliseconds conversion hmax h => hlimit hmax h, ?_, ?_⟩
  · intro limit conversion input world hmax h
    obtain ⟨u, milliseconds, hu⟩ := exists_convert_of_convertInput h
    exact hlimit hmax hu
  · intro hfree
    exact ⟨depth_le_render_maxDepth hfree, render_maxDepth_ne_depth_iff hfree⟩

/-- A document whose deepest arrays have no items. -/
theorem render_depth_bounds_empty_arrays :
    let v : Json := .object [("a", .array [.array [], .array []]), ("b", .array [])]
    let settings := { Settings.standard with maxDepth := some 3 }
    let conversion := Conversion.ofValue settings v 0
    let world := World.ofText ""
    settings.maxDepth = some 3 ∧ convert settings v 0 = .ok conversion ∧
      ((convertInput settings (.text v.compact) :
        StateM World (Except Failure Conversion)).run world).1 = .ok conversion ∧
      v.MetaFree ∧ 0 < Limits.nestingDepth v ∧ conversion.tally.maxDepth ≤ 3 ∧
      ∀ level w, v.Within level w → w.isContainer = true → level + 1 = Limits.nestingDepth v →
        w = .array [] := by
  intro v settings conversion world
  have hdepth : Limits.nestingDepth v = 3 := Limits.nestingDepth_eq v
  have hconvert : convert settings v 0 = .ok conversion := by
    have hcheck : Limits.checkDepth settings v = .ok () := by
      rw [Limits.checkDepth, hdepth]
      rfl
    have hcompact : Limits.checkCompactSize settings v = .ok () := by
      have hsize : v.compactSize = 20 := by decide
      rw [Limits.checkCompactSize, hsize]
      rfl
    have hsettings : checkSettings settings = .ok () := by
      rw [checkSettings, (Settings.validate_eq_ok_iff _).2 (by decide)]
    rw [convert, checkValue, hsettings, hcheck, hcompact]
    rfl
  have hcanonical : v.Canonical := by
    have hempty : (Json.array []).Canonical := .array (by simp)
    have hitems : (Json.array [.array [], .array []]).Canonical := .array (by simp [hempty])
    exact .object (by decide) (by decide) (by simp [hempty, hitems])
  have hparse : Json.parse v.compact = .ok v := by
    rw [Json.parse_eq_ok_iff, Json.toList_compact]
    exact hcanonical.spells
  have hdocument : ((convertInput settings (.text v.compact) :
      StateM World (Except Failure Conversion)).run world).1 = .ok conversion := by
    rw [convertInput_world, Snapshot.convert_text, World.milliseconds_snapshot]
    exact convertText_eq_ok_iff.2 ⟨by decide, v, hparse, hconvert⟩
  have hfree : v.MetaFree := by
    have hempty : (Json.array []).MetaFree :=
      Json.metaFree_of_children (by simp) (by simp [Json.children])
    have hitems : (Json.array [.array [], .array []]).MetaFree :=
      Json.metaFree_of_children (by simp) (by simp [Json.children, hempty])
    refine Json.metaFree_of_children (fun members h => ?_)
      (by simp [v, Json.children, hempty, hitems])
    obtain rfl := Json.object.inj h
    decide
  obtain ⟨-, hlimit, hlimits, hbounds⟩ := render_depth_bounds settings v
  have hpos : 0 < Limits.nestingDepth v := by rw [hdepth]; decide
  have hne : (render settings v.toTree).tally.maxDepth ≠ Limits.nestingDepth v := by
    rw [hdepth]
    decide
  exact ⟨rfl, hconvert, hdocument, hfree, hpos, hlimits 3 conversion _ world rfl hdocument,
    ((hbounds hfree).2 hpos).1 hne⟩

end ObjectInitializer
