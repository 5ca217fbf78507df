/-
**What is left out leaves no trace.**

Metadata is skipped wherever it stands, and nulls are dropped from arrays.  Neither may be noticed
in the rendering: not in its text, not in the indent that the writer holds back, and not in the
counts of what is written.  `Tree.prune` deletes both from a tree beforehand, and this module proves
that the rendering stays the same.

An array is found to be empty before its nulls are dropped, so that `[null]` opens a collection and
`[]` does not; an array that holds nothing but nulls is therefore kept by `Tree.prune` as it is.

The proof runs the emitter on the tree and on the pruned tree side by side.  The two runs are in the
same state at any time, but for the counts of what was left out (`Emitter.shown` forgets these), and
the steps that leave something out change nothing else.

Main definitions:

* `Tree.prune` — the tree without its metadata, and without its nulls in arrays that hold more;
* `Tally.shown`, `Emitter.shown` — counts and emitters, but for what was left out;
* `Tree.PrunedUnseen` — **the simulation**: from alike states to alike states.

Main results:

* `Emitter.shown_emit_prune` — pruning is not seen by the emitter, in any state;
* `Emitter.skipped_emit_prune` — a pruned tree has no metadata left to skip;
* `render_prune` — **pruning changes neither the content of a rendering nor the counts of what is
  written**.
-/

import ObjectInitializer.Proofs.Tree

set_option relaxedAutoImplicit false
set_option autoImplicit false

namespace ObjectInitializer

/-! ### Pruned trees -/

namespace Tree

mutual

/-- The tree without metadata at any level, and without the nulls of every array that holds more
than nulls. -/
def prune : Tree → Tree
  | .array items => .array (if items.all isNull then items else pruneItems items)
  | .object entries => .object (pruneEntries entries)
  | v => v

/-- The items other than nulls, pruned. -/
def pruneItems : List Tree → List Tree
  | [] => []
  | v :: vs => if v.isNull then pruneItems vs else prune v :: pruneItems vs

/-- The entries other than metadata, with their values pruned. -/
def pruneEntries : List (String × Tree) → List (String × Tree)
  | [] => []
  | (key, v) :: es => if isMeta key then pruneEntries es else (key, prune v) :: pruneEntries es

end

theorem prune_scalar {v : Tree} {literal : String} (hv : v.literal? = some literal) :
    v.prune = v := by
  cases v with
  | array items => simp [literal?] at hv
  | object entries => simp [literal?] at hv
  | _ => rfl

@[simp] theorem isNull_prune (v : Tree) : v.prune.isNull = v.isNull := by
  cases v <;> rfl

/-- Items of which not all are nulls do not vanish. -/
theorem pruneItems_ne_nil {items : List Tree} (h : ¬ items.all isNull = true) :
    pruneItems items ≠ [] := by
  induction items with
  | nil => simp at h
  | cons v vs ih =>
      by_cases hn : v.isNull = true
      · rw [pruneItems, if_pos hn]
        exact ih (by simpa [hn] using h)
      · rw [pruneItems, if_neg hn]
        exact List.cons_ne_nil v.prune (pruneItems vs)

end Tree

/-! ### Emitters, but for what was left out -/

/-- The counts of what is written, without those of what is left out. -/
def Tally.shown (t : Tally) : Tally :=
  { t with skippedMetaProperties := 0, skippedNullElements := 0 }

theorem Tally.shown_eq_shown_iff {s t : Tally} :
    s.shown = t.shown ↔
      s.objects = t.objects ∧ s.arrays = t.arrays ∧ s.properties = t.properties ∧
        s.unsupportedValues = t.unsupportedValues ∧ s.maxDepth = t.maxDepth := by
  simp [shown]

namespace Emitter

/-- The emitter without the counts of what was left out. -/
def shown (e : Emitter) : Emitter :=
  { e with tally := e.tally.shown }

theorem shown_count_addNull (e : Emitter) : (e.count .addNull).shown = e.shown := rfl

theorem shown_openProperty (e : Emitter) (key : String) :
    (e.openProperty key).shown = e.shown.openProperty key := rfl

theorem shown_openObject (e : Emitter) : e.openObject.shown = e.shown.openObject := rfl

theorem shown_openArray (e : Emitter) : e.openArray.shown = e.shown.openArray := rfl

theorem shown_closeObject (e : Emitter) (t : Terminator) :
    (e.closeObject t).shown = e.shown.closeObject t := by
  cases t <;> rfl

theorem shown_closeArray (e : Emitter) (t : Terminator) :
    (e.closeArray t).shown = e.shown.closeArray t := by
  cases t <;> rfl

theorem shown_putScalar (e : Emitter) (literal : String) (t : Terminator) :
    (e.putScalar literal t).shown = e.shown.putScalar literal t := by
  cases t <;> rfl

theorem shown_countScalar (e : Emitter) (v : Tree) :
    (e.countScalar v).shown = e.shown.countScalar v := by
  cases v <;> rfl

/-- Items that are nothing but nulls change no more than a count. -/
theorem shown_emitItems_of_all_isNull {items : List Tree} (h : items.all Tree.isNull = true)
    (e : Emitter) : (e.emitItems items).shown = e.shown := by
  induction items generalizing e with
  | nil => rfl
  | cons v vs ih =>
      simp only [List.all_cons, Bool.and_eq_true] at h
      rw [emitItems, if_pos h.1, ih h.2, shown_count_addNull]

end Emitter

/-! ### The simulation -/

/-- **The simulation.**  From states that differ at most in the counts of what was left out, the
tree and the pruned tree lead to states that do. -/
def Tree.PrunedUnseen (v : Tree) : Prop :=
  ∀ (e f : Emitter) (t : Terminator), e.shown = f.shown →
    (e.emit t v).shown = (f.emit t v.prune).shown

namespace Emitter

theorem shown_emitItems_prune {items : List Tree} (h : ∀ v ∈ items, v.PrunedUnseen)
    (e f : Emitter) (hs : e.shown = f.shown) :
    (e.emitItems items).shown = (f.emitItems (Tree.pruneItems items)).shown := by
  induction items generalizing e f with
  | nil => exact hs
  | cons v vs ih =>
      have hrest : ∀ v ∈ vs, v.PrunedUnseen := fun v hv => h v (List.mem_cons_of_mem _ hv)
      by_cases hn : v.isNull = true
      · -- the null is dropped on one side, and was never there on the other
        rw [emitItems, if_pos hn, Tree.pruneItems, if_pos hn]
        exact ih hrest (e.count .addNull) f hs
      · rw [emitItems, if_neg hn, Tree.pruneItems, if_neg hn, emitItems,
          if_neg (by rwa [Tree.isNull_prune])]
        exact ih hrest _ _ (h v (List.mem_cons_self ..) e f .comma hs)

theorem shown_emitEntries_prune {entries : List (String × Tree)}
    (h : ∀ m ∈ entries, m.2.PrunedUnseen) (e f : Emitter) (hs : e.shown = f.shown) :
    (e.emitEntries entries).shown = (f.emitEntries (Tree.pruneEntries entries)).shown := by
  induction entries generalizing e f with
  | nil => exact hs
  | cons m ms ih =>
      obtain ⟨key, v⟩ := m
      have hrest : ∀ m ∈ ms, m.2.PrunedUnseen := fun m hm => h m (List.mem_cons_of_mem _ hm)
      by_cases hk : Tree.isMeta key = true
      · -- the metadata is skipped on one side, and was never there on the other
        rw [emitEntries, if_pos hk, Tree.pruneEntries, if_pos hk]
        exact ih hrest (e.count .addMeta) f hs
      · rw [emitEntries, if_neg hk, Tree.pruneEntries, if_neg hk, emitEntries, if_neg hk]
        refine ih hrest _ _ (h (key, v) (List.mem_cons_self ..) _ _ .comma ?_)
        rw [shown_openProperty, shown_openProperty, hs]

/-- **Pruning is not seen by the emitter**, whatever state it is in. -/
theorem shown_emit_prune (v : Tree) : v.PrunedUnseen := by
  induction v with
  | scalar v literal hv =>
      intro e f t hs
      rw [Tree.prune_scalar hv, emit_scalar hv, emit_scalar hv, shown_putScalar, shown_putScalar,
        shown_countScalar, shown_countScalar, hs]
  | array items ih =>
      intro e f t hs
      by_cases hnull : items.all Tree.isNull = true
      · -- the array stays as it is, empty or not
        rw [Tree.prune, if_pos hnull]
        cases items with
        | nil =>
            rw [emit, emit]
            have hc : (e.count .addArray).shown = (f.count .addArray).shown :=
              congrArg (·.count .addArray) hs
            rw [shown_putScalar, shown_putScalar, hc]
        | cons v vs =>
            rw [emit, emit, shown_closeArray, shown_closeArray, shown_emitItems_of_all_isNull hnull,
              shown_emitItems_of_all_isNull hnull, shown_openArray, shown_openArray, hs]
      · have hne : items ≠ [] := fun he => hnull (by simp [he])
        have hs' : e.openArray.shown = f.openArray.shown := by
          rw [shown_openArray, shown_openArray, hs]
        rw [Tree.prune, if_neg hnull, emit_array _ _ hne,
          emit_array _ _ (Tree.pruneItems_ne_nil hnull), shown_closeArray, shown_closeArray,
          shown_emitItems_prune ih _ _ hs']
  | object entries ih =>
      intro e f t hs
      have hs' : e.openObject.shown = f.openObject.shown := by
        rw [shown_openObject, shown_openObject, hs]
      rw [Tree.prune, emit, emit, shown_closeObject, shown_closeObject,
        shown_emitEntries_prune ih _ _ hs']

end Emitter

/-! ### What is skipped of a pruned tree -/

/-- Emitting the pruned tree skips no metadata. -/
def Tree.PrunedOfMeta (v : Tree) : Prop :=
  ∀ (e : Emitter) (t : Terminator),
    (e.emit t v.prune).tally.skippedMetaProperties = e.tally.skippedMetaProperties

namespace Emitter

theorem skipped_emitItems_prune {items : List Tree} (h : ∀ v ∈ items, v.PrunedOfMeta)
    (e : Emitter) :
    (e.emitItems (Tree.pruneItems items)).tally.skippedMetaProperties =
      e.tally.skippedMetaProperties := by
  induction items generalizing e with
  | nil => rfl
  | cons v vs ih =>
      have hrest : ∀ v ∈ vs, v.PrunedOfMeta := fun v hv => h v (List.mem_cons_of_mem _ hv)
      by_cases hn : v.isNull = true
      · rw [Tree.pruneItems, if_pos hn]
        exact ih hrest e
      · rw [Tree.pruneItems, if_neg hn, emitItems, if_neg (by rwa [Tree.isNull_prune]), ih hrest]
        exact h v (List.mem_cons_self ..) e .comma

theorem skipped_emitEntries_prune {entries : List (String × Tree)}
    (h : ∀ m ∈ entries, m.2.PrunedOfMeta) (e : Emitter) :
    (e.emitEntries (Tree.pruneEntries entries)).tally.skippedMetaProperties =
      e.tally.skippedMetaProperties := by
  induction entries generalizing e with
  | nil => rfl
  | cons m ms ih =>
      obtain ⟨key, v⟩ := m
      have hrest : ∀ m ∈ ms, m.2.PrunedOfMeta := fun m hm => h m (List.mem_cons_of_mem _ hm)
      by_cases hk : Tree.isMeta key = true
      · rw [Tree.pruneEntries, if_pos hk]
        exact ih hrest e
      · rw [Tree.pruneEntries, if_neg hk, emitEntries, if_neg hk, ih hrest]
        exact h (key, v) (List.mem_cons_self ..) (e.openProperty key) .comma

theorem skipped_emitItems_of_all_isNull {items : List Tree} (h : items.all Tree.isNull = true)
    (e : Emitter) :
    (e.emitItems items).tally.skippedMetaProperties = e.tally.skippedMetaProperties := by
  induction items generalizing e with
  | nil => rfl
  | cons v vs ih =>
      simp only [List.all_cons, Bool.and_eq_true] at h
      rw [emitItems, if_pos h.1, ih h.2]
      rfl

/-- **A pruned tree has no metadata left to skip.** -/
theorem skipped_emit_prune (v : Tree) : v.PrunedOfMeta := by
  induction v with
  | scalar v literal hv =>
      intro e t
      rw [Tree.prune_scalar hv, emit_scalar hv, tally_putScalar]
      cases v <;> rfl
  | array items ih =>
      intro e t
      by_cases hnull : items.all Tree.isNull = true
      · rw [Tree.prune, if_pos hnull]
        cases items with
        | nil =>
            rw [emit, tally_putScalar]
            rfl
        | cons v vs =>
            rw [emit, tally_closeArray, skipped_emitItems_of_all_isNull hnull]
            rfl
      · rw [Tree.prune, if_neg hnull, emit_array _ _ (Tree.pruneItems_ne_nil hnull),
          tally_closeArray, skipped_emitItems_prune ih]
        rfl
  | object entries ih =>
      intro e t
      rw [Tree.prune, emit, tally_closeObject, skipped_emitEntries_prune ih]
      rfl

end Emitter

/-! ### Renderings -/

/-- Pruning is not seen in a rendering, but for the counts of what is left out. -/
theorem shown_render_prune (settings : Settings) (v : Tree) :
    (render settings v.prune).content = (render settings v).content ∧
      (render settings v.prune).tally.shown = (render settings v).tally.shown := by
  let e : Emitter :=
    (Emitter.new settings.writer).put fun w =>
      w.beginIndented.write (settings.className ++ " instance = ")
  have h : (e.emit .semicolon v).shown = (e.emit .semicolon v.prune).shown :=
    Emitter.shown_emit_prune v e e .semicolon rfl
  exact ⟨(congrArg (·.writer.text) h).symm, (congrArg Emitter.tally h).symm⟩

/-- **Metadata and dropped nulls never influence a rendering.**  The pruned tree has the same
content and the same counts of what is written, and no metadata is skipped in it; so two trees that
prune to the same tree have the same content. -/
theorem render_prune (settings : Settings) (v : Tree) :
    (render settings v.prune).content = (render settings v).content ∧
      ((render settings v.prune).tally.objects = (render settings v).tally.objects ∧
        (render settings v.prune).tally.arrays = (render settings v).tally.arrays ∧
        (render settings v.prune).tally.properties = (render settings v).tally.properties ∧
        (render settings v.prune).tally.unsupportedValues =
          (render settings v).tally.unsupportedValues ∧
        (render settings v.prune).tally.maxDepth = (render settings v).tally.maxDepth) ∧
      (render settings v.prune).tally.skippedMetaProperties = 0 ∧
      ∀ w : Tree, w.prune = v.prune →
        (render settings w).content = (render settings v).content := by
  obtain ⟨hcontent, htally⟩ := shown_render_prune settings v
  refine ⟨hcontent, Tally.shown_eq_shown_iff.1 htally, ?_, ?_⟩
  · exact Emitter.skipped_emit_prune v _ .semicolon
  · intro w hw
    rw [← hcontent, ← hw]
    exact (shown_render_prune settings w).1.symm

/-- Metadata that moves and changes, and nulls that come and go beside other items; the array of
nothing but a null is in both trees. -/
theorem render_prune_moved_metadata :
    let v : Tree :=
      .object [("$id", .number "1"), ("a", .array [.null, .object [("$id", .null)], .null]),
        ("b", .array [.null])]
    let w : Tree :=
      .object [("a", .array [.object [], .null]), ("$ref", .array []), ("b", .array [.null])]
    w.prune = v.prune ∧
      (render Settings.standard w).content = (render Settings.standard v).content :=
  ⟨by rfl, (render_prune Settings.standard _).2.2.2 _ (by rfl)⟩

end ObjectInitializer
