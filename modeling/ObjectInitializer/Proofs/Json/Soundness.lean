/-
**What is read spells its value.**

The reader goes one step at a time and keeps the arrays and objects around it as frames.
`Finishes` says, for a value that has been read inside of frames, which texts behind it end the
document, and what the value of the document then is.  A step of the reader preserves it, taken
backwards: what the step passed, put in front of a text that may still come, may come itself.  The
last step leaves blanks only, and by induction over the run the whole document spells its value.

Main definitions:

* `Json.Finishes`, `Json.State.Finishes` — **the texts that end a document** from where a reader is.

Main results:

* `Json.Finishes.items`, `Json.Finishes.members` — inside of an array or object, what else is in it
  comes first, and what ends it;
* `Json.finishes_of_step`, `Json.finishes_of_run` — what a step and a run of the reader have passed;
* `Json.spells_of_read` — **what is read as a value spells it**.
-/

import ObjectInitializer.Proofs.Json.Grammar

set_option relaxedAutoImplicit false
set_option autoImplicit false

namespace ObjectInitializer.Json

open Except (map_eq_ok_iff bind_eq_ok_iff)

variable {cs rest text gap : List Char} {key : String} {v r : Json} {frames : List Frame}

/-! ### Parts that are read -/

/-- What is left behind blanks stands behind them. -/
theorem exists_gap_of_skipSpace (h : skipSpace cs = rest) :
    ∃ gap, IsSpaces gap ∧ cs = gap ++ rest := by
  obtain ⟨gap, hgap, hcs, -⟩ := exists_gap cs
  exact ⟨gap, hgap, h ▸ hcs⟩

theorem eq_of_readLiteral {expected : List Char} (h : readLiteral expected cs = .ok rest) :
    cs = expected ++ rest := by
  induction expected generalizing cs with
  | nil => rw [readLiteral] at h; exact Except.ok.inj h
  | cons e es ih =>
      cases cs with
      | nil => cases h
      | cons c cs =>
          rw [readLiteral] at h
          split at h
          · rename_i hc
            rw [hc, ih h, List.cons_append]
          · cases h

/-- **What is read as a scalar spells it.** -/
theorem spells_of_readScalar (h : readScalar cs = .ok (v, rest)) :
    ∃ text, Spells text v ∧ cs = text ++ rest := by
  unfold readScalar at h
  split at h
  · cases h
  · rename_i c cs'
    split at h
    · rename_i hc
      obtain ⟨rest', hread, h⟩ := map_eq_ok_iff.1 h
      cases h
      exact ⟨_, .null, by rw [hc, eq_of_readLiteral hread]; rfl⟩
    split at h
    · rename_i hc
      obtain ⟨rest', hread, h⟩ := map_eq_ok_iff.1 h
      cases h
      exact ⟨_, .boolTrue, by rw [hc, eq_of_readLiteral hread]; rfl⟩
    split at h
    · rename_i hc
      obtain ⟨rest', hread, h⟩ := map_eq_ok_iff.1 h
      cases h
      exact ⟨_, .boolFalse, by rw [hc, eq_of_readLiteral hread]; rfl⟩
    split at h
    · rename_i hc
      obtain ⟨⟨s, rest'⟩, hread, h⟩ := map_eq_ok_iff.1 h
      cases h
      obtain ⟨text, htext, rfl⟩ := spellsString_of_readString hread
      exact ⟨_, .string htext, by simp [hc]⟩
    split at h
    · obtain ⟨⟨digits, rest'⟩, hread, h⟩ := map_eq_ok_iff.1 h
      cases h
      exact ⟨digits, .number (isNumeral_of_scanNumber hread), (scanNumber_eq hread).1⟩
    · cases h

theorem exists_gap_of_readColon (h : readColon cs = .ok rest) :
    ∃ gap, IsSpaces gap ∧ cs = gap ++ ':' :: rest := by
  unfold readColon at h
  split at h
  · cases h
  · rename_i hspace
    split at h
    · rename_i hc
      cases h
      exact exists_gap_of_skipSpace (hc ▸ hspace)
    · cases h

/-- What is read as a key spells it, with the quote and the blanks in front. -/
theorem spellsKey_of_readKey (hgap : IsSpaces gap) (h : readKey cs = .ok (key, rest)) :
    ∃ keyText, SpellsKey keyText key ∧ gap ++ '"' :: cs = keyText ++ rest := by
  obtain ⟨⟨s, rest'⟩, hstring, h⟩ := bind_eq_ok_iff.1 h
  obtain ⟨rest'', hcolon, h⟩ := bind_eq_ok_iff.1 h
  cases h
  obtain ⟨text, htext, rfl⟩ := spellsString_of_readString hstring
  obtain ⟨more, hmore, rfl⟩ := exists_gap_of_readColon hcolon
  exact ⟨_, .intro hgap htext hmore, by simp⟩

theorem exists_gap_of_readBoxEnd (h : readBoxEnd cs = .ok rest) :
    ∃ gap, IsSpaces gap ∧ cs = gap ++ '\x7d' :: rest := by
  unfold readBoxEnd at h
  split at h
  · cases h
  · rename_i hspace
    split at h
    · rename_i hc
      cases h
      exact exists_gap_of_skipSpace (hc ▸ hspace)
    · split at h <;> cases h

/-- What is read as a boxed number spells one, with its key in front. -/
theorem spells_of_readBoxed {keyText : List Char} (hkey : SpellsKey keyText boxKey)
    (h : readBoxed cs = .ok (v, rest)) :
    ∃ text, Spells ('\x7b' :: (keyText ++ text)) v ∧ cs = text ++ rest := by
  unfold readBoxed at h
  split at h
  · rename_i hspace
    obtain ⟨before, hbefore, rfl⟩ := exists_gap_of_skipSpace hspace
    obtain ⟨⟨digits, rest'⟩, hstring, hread⟩ := bind_eq_ok_iff.1 h
    obtain ⟨text, htext, rfl⟩ := spellsString_of_readString hstring
    simp only at hread
    split at hread
    · rename_i hnumber
      obtain ⟨hdigits, rfl⟩ := readBareNumber_eq_ok_iff.1 hnumber
      obtain ⟨rest'', hend, hread⟩ := bind_eq_ok_iff.1 hread
      cases hread
      obtain ⟨after, hafter, rfl⟩ := exists_gap_of_readBoxEnd hend
      exact ⟨_, .boxed hkey hbefore htext hdigits hafter, by simp⟩
    · cases hread
  · cases h

/-! ### What is still to come -/

/-- **The texts that end a document behind a value inside of frames**, and the value of the
document. -/
inductive Finishes : List Frame → Json → List Char → Json → Prop where
  | document {gap : List Char} {v : Json} (hgap : IsSpaces gap) : Finishes [] v gap v
  | item {frames : List Frame} {done : List Json} {gap text rest : List Char} {v w r : Json}
      (hgap : IsSpaces gap) (htext : Spells text w)
      (h : Finishes (.list (v :: done) :: frames) w rest r) :
      Finishes (.list done :: frames) v (gap ++ ',' :: (text ++ rest)) r
  | endList {frames : List Frame} {done : List Json} {gap rest : List Char} {v r : Json}
      (hgap : IsSpaces gap) (h : Finishes frames (.array (v :: done).reverse) rest r) :
      Finishes (.list done :: frames) v (gap ++ ']' :: rest) r
  | member {frames : List Frame} {done : List (String × Json)} {key nextKey : String}
      {gap keyText text rest : List Char} {v w r : Json} (hgap : IsSpaces gap)
      (hkey : SpellsKey keyText nextKey) (htext : Spells text w)
      (h : Finishes (.members (setMember key v done) nextKey :: frames) w rest r) :
      Finishes (.members done key :: frames) v (gap ++ ',' :: (keyText ++ (text ++ rest))) r
  | endMembers {frames : List Frame} {done : List (String × Json)} {key : String}
      {gap rest : List Char} {v r : Json} (hgap : IsSpaces gap)
      (h : Finishes frames (.object (setMember key v done)) rest r) :
      Finishes (.members done key :: frames) v (gap ++ '\x7d' :: rest) r

/-- The texts that end a document from a state of the reader: where a value is to be read, one
stands first. -/
def State.Finishes (s : State) (r : Json) : Prop :=
  match s.phase with
  | .value => ∃ text v rest, s.rest = text ++ rest ∧ Spells text v ∧ Json.Finishes s.frames v rest r
  | .after v => Json.Finishes s.frames v s.rest r

/-- Blanks may stand in front of what is to come. -/
theorem State.Finishes.spaces_append {frames : List Frame} {phase : Phase} (hgap : IsSpaces gap)
    (h : State.Finishes ⟨frames, phase, cs⟩ r) : State.Finishes ⟨frames, phase, gap ++ cs⟩ r := by
  cases phase with
  | value =>
      obtain ⟨text, v, rest, rfl, htext, hrest⟩ := h
      exact ⟨gap ++ text, v, rest, by simp, htext.spaces_append hgap, hrest⟩
  | after v =>
      have h : Json.Finishes frames v cs r := h
      show Json.Finishes frames v (gap ++ cs) r
      cases h with
      | document hmore => exact .document (hgap.append hmore)
      | item hmore htext h => rw [← List.append_assoc]; exact .item (hgap.append hmore) htext h
      | endList hmore h => rw [← List.append_assoc]; exact .endList (hgap.append hmore) h
      | member hmore hkey htext h =>
          rw [← List.append_assoc]; exact .member (hgap.append hmore) hkey htext h
      | endMembers hmore h => rw [← List.append_assoc]; exact .endMembers (hgap.append hmore) h

/-- Inside of an array, its other items come first, and what ends it. -/
theorem Finishes.items {done : List Json} (h : Finishes (.list done :: frames) v cs r) :
    ∃ (gap : List Char) (items : List (List Char × Json)) (rest : List Char), IsSpaces gap ∧
      cs = gap ++ (items.map Prod.fst).flatMap (',' :: ·) ++ ']' :: rest ∧
      (∀ item ∈ items, Spells item.1 item.2) ∧
      Finishes frames (.array (done.reverse ++ v :: items.map Prod.snd)) rest r := by
  generalize hstack : Frame.list done :: frames = stack at h
  induction h generalizing done with
  | document _ => cases hstack
  | @item _ _ before text rest v w r hgap htext _ ih =>
      cases hstack
      obtain ⟨gap, items, rest, hspaces, rfl, hitems, hrest⟩ := ih rfl
      have hall : ∀ item ∈ (text ++ gap, w) :: items, Spells item.1 item.2 :=
        List.forall_mem_cons.2 ⟨htext.append_spaces hspaces, hitems⟩
      exact ⟨before, (text ++ gap, w) :: items, rest, hgap, by simp, hall, by simpa using hrest⟩
  | @endList _ _ gap rest v r hgap h _ =>
      cases hstack
      exact ⟨gap, [], rest, hgap, by simp, by simp, by simpa using h⟩
  | member _ _ _ _ _ => cases hstack
  | endMembers _ _ _ => cases hstack

/-- Inside of an object, its other members come first, and what ends it. -/
theorem Finishes.members {done : List (String × Json)}
    (h : Finishes (.members done key :: frames) v cs r) :
    ∃ (gap : List Char) (members : List MemberText) (rest : List Char), IsSpaces gap ∧
      cs = gap ++ (members.map MemberText.text).flatMap (',' :: ·) ++ '\x7d' :: rest ∧
      (∀ m ∈ members, SpellsKey m.keyText m.key ∧ Spells m.valueText m.value) ∧
      Finishes frames
        (.object (setMembers (setMember key v done) (members.map MemberText.member))) rest r := by
  generalize hstack : Frame.members done key :: frames = stack at h
  induction h generalizing done key with
  | document _ => cases hstack
  | item _ _ _ _ => cases hstack
  | endList _ _ _ => cases hstack
  | @member _ _ _ nextKey before keyText text rest v w r hgap hkey htext _ ih =>
      cases hstack
      obtain ⟨gap, members, rest, hspaces, rfl, hmembers, hrest⟩ := ih rfl
      have hall : ∀ m ∈ ⟨keyText, nextKey, text ++ gap, w⟩ :: members,
          SpellsKey m.keyText m.key ∧ Spells m.valueText m.value :=
        List.forall_mem_cons.2 ⟨⟨hkey, htext.append_spaces hspaces⟩, hmembers⟩
      exact ⟨before, ⟨keyText, nextKey, text ++ gap, w⟩ :: members, rest, hgap,
        by simp [MemberText.text], hall, hrest⟩
  | @endMembers _ _ _ gap rest v r hgap h _ =>
      cases hstack
      exact ⟨gap, [], rest, hgap, by simp, by simp, h⟩

/-! ### Steps and runs -/

/-- A value at the front, and what ends the document behind it. -/
theorem finishes_value (htext : Spells text v) (h : Finishes frames v rest r) :
    State.Finishes ⟨frames, .value, text ++ rest⟩ r :=
  ⟨text, v, rest, rfl, htext, h⟩

/-- A value that is to be read inside of an array makes the array that is around it. -/
theorem finishes_openList (h : State.Finishes ⟨.list [] :: frames, .value, cs⟩ r) :
    State.Finishes ⟨frames, .value, '[' :: cs⟩ r := by
  obtain ⟨text, v, rest, hcs, htext, h⟩ := h
  obtain ⟨gap, items, rest, hgap, rfl, hitems, h⟩ := h.items
  have hall : ∀ item ∈ (text ++ gap, v) :: items, Spells item.1 item.2 :=
    List.forall_mem_cons.2 ⟨htext.append_spaces hgap, hitems⟩
  have hvalue := finishes_value (.array hall isSpaces_nil) h
  simpa [commas, show cs = _ from hcs] using hvalue

/-- A value that is to be read behind the first key of an object makes the object that is around
it. -/
theorem finishes_openMembers {keyText : List Char} (hkey : SpellsKey keyText key)
    (hbox : key ≠ boxKey) (h : State.Finishes ⟨.members [] key :: frames, .value, cs⟩ r) :
    State.Finishes ⟨frames, .value, '\x7b' :: (keyText ++ cs)⟩ r := by
  obtain ⟨text, v, rest, hcs, htext, h⟩ := h
  obtain ⟨gap, members, rest, hgap, rfl, hmembers, h⟩ := h.members
  have hall : ∀ m ∈ ⟨keyText, key, text ++ gap, v⟩ :: members,
      SpellsKey m.keyText m.key ∧ Spells m.valueText m.value :=
    List.forall_mem_cons.2 ⟨⟨hkey, htext.append_spaces hgap⟩, hmembers⟩
  have hvalue := finishes_value (.object (fun m hm => (hall m hm).1) (fun m hm => (hall m hm).2)
    (by simpa using hbox) isSpaces_nil) h
  simpa [commas, MemberText.text, show cs = _ from hcs] using hvalue

variable {t : State}

theorem finishes_of_stepValue (h : stepValue frames cs = .ok (.more t)) (ht : t.Finishes r) :
    State.Finishes ⟨frames, .value, cs⟩ r := by
  unfold stepValue at h
  split at h
  · -- an array: empty, or with a value to be read inside
    rename_i cs
    obtain ⟨gap, hgap, hcs, -⟩ := exists_gap cs
    split at h
    · cases h
    · rename_i rest hspace
      cases h
      rw [hspace] at hcs
      simpa [hcs] using finishes_value (.emptyArray hgap) ht
    · cases h
      rw [hcs]
      exact finishes_openList (ht.spaces_append hgap)
  · -- an object: empty, or with a key, which may be that of a boxed number
    rename_i cs
    obtain ⟨gap, hgap, hcs, -⟩ := exists_gap cs
    split at h
    · cases h
    · rename_i rest hspace
      cases h
      rw [hspace] at hcs
      simpa [hcs] using finishes_value (.emptyObject hgap) ht
    · rename_i rest hspace
      split at h
      · rename_i key rest' hread
        obtain ⟨keyText, hkey, htext⟩ := spellsKey_of_readKey hgap hread
        rw [hspace, htext] at hcs
        rw [hcs]
        split at h
        · rename_i hbox
          obtain ⟨⟨v, rest''⟩, hboxed, h⟩ := map_eq_ok_iff.1 h
          cases h
          obtain ⟨text, hvalue, rfl⟩ := spells_of_readBoxed (hbox ▸ hkey) hboxed
          simpa using finishes_value hvalue ht
        · rename_i hbox
          cases h
          exact finishes_openMembers hkey hbox ht
      · cases h
    · cases h
  · obtain ⟨⟨v, rest⟩, hread, h⟩ := map_eq_ok_iff.1 h
    cases h
    obtain ⟨text, htext, rfl⟩ := spells_of_readScalar hread
    exact finishes_value htext ht

theorem finishes_of_stepList {done : List Json} (h : stepList (v :: done) frames cs = .ok (.more t))
    (ht : t.Finishes r) : State.Finishes ⟨.list done :: frames, .after v, cs⟩ r := by
  unfold stepList at h
  split at h
  · cases h
  · rename_i cs
    obtain ⟨gap, hgap, hcs, -⟩ := exists_gap cs
    split at h
    · cases h
    · cases h
    · cases h
      obtain ⟨text, w, rest, hrest, htext, hfinish⟩ := ht.spaces_append hgap
      rw [← hcs] at hrest
      rw [show cs = text ++ rest from hrest]
      exact Finishes.item isSpaces_nil htext hfinish
  · cases h
    exact Finishes.endList isSpaces_nil ht
  · cases h

theorem finishes_of_stepMembers {done : List (String × Json)}
    (h : stepMembers (setMember key v done) frames cs = .ok (.more t)) (ht : t.Finishes r) :
    State.Finishes ⟨.members done key :: frames, .after v, cs⟩ r := by
  unfold stepMembers at h
  split at h
  · cases h
  · rename_i cs
    obtain ⟨gap, hgap, hcs, -⟩ := exists_gap cs
    split at h
    · cases h
    · cases h
    · rename_i rest hspace
      obtain ⟨⟨nextKey, rest'⟩, hread, h⟩ := map_eq_ok_iff.1 h
      cases h
      obtain ⟨keyText, hkey, htext⟩ := spellsKey_of_readKey hgap hread
      obtain ⟨valueText, w, rest'', hrest, hvalue, hfinish⟩ := ht
      rw [hspace, htext, show rest' = _ from hrest] at hcs
      rw [hcs]
      exact Finishes.member isSpaces_nil hkey hvalue hfinish
    · cases h
  · cases h
    exact Finishes.endMembers isSpaces_nil ht
  · cases h

/-- **A step passes what may come first in its state.** -/
theorem finishes_of_step {s : State} (h : step s = .ok (.more t)) (ht : t.Finishes r) :
    s.Finishes r := by
  obtain ⟨frames, phase, cs⟩ := s
  obtain ⟨gap, hgap, hcs, -⟩ := exists_gap cs
  rw [hcs]
  refine State.Finishes.spaces_append hgap ?_
  unfold step at h
  cases phase with
  | value => exact finishes_of_stepValue h ht
  | after v =>
      cases frames with
      | nil => exact absurd h (stepEnd_ne_more _ _ _)
      | cons frame frames =>
          cases frame with
          | list done => exact finishes_of_stepList h ht
          | members done key => exact finishes_of_stepMembers h ht

theorem stepValue_ne_done : stepValue frames cs ≠ .ok (.done v) := by
  intro h
  unfold stepValue at h
  split at h
  · split at h <;> cases h
  · split at h
    · cases h
    · cases h
    · split at h
      · split at h
        · obtain ⟨_, -, h⟩ := map_eq_ok_iff.1 h
          cases h
        · cases h
      · cases h
    · cases h
  · obtain ⟨_, -, h⟩ := map_eq_ok_iff.1 h
    cases h

theorem stepList_ne_done {done : List Json} : stepList done frames cs ≠ .ok (.done v) := by
  intro h
  unfold stepList at h
  split at h
  · cases h
  · split at h <;> cases h
  · cases h
  · cases h

theorem stepMembers_ne_done {done : List (String × Json)} :
    stepMembers done frames cs ≠ .ok (.done v) := by
  intro h
  unfold stepMembers at h
  split at h
  · cases h
  · split at h
    · cases h
    · cases h
    · obtain ⟨_, -, h⟩ := map_eq_ok_iff.1 h
      cases h
    · cases h
  · cases h
  · cases h

/-- The last step finds nothing but blanks behind the value. -/
theorem finishes_of_step_done {s : State} (h : step s = .ok (.done v)) : s.Finishes v := by
  obtain ⟨frames, phase, cs⟩ := s
  unfold step at h
  cases phase with
  | value => exact absurd h stepValue_ne_done
  | after w =>
      cases frames with
      | nil =>
          obtain ⟨gap, hgap, hcs, -⟩ := exists_gap cs
          simp only [stepEnd] at h
          split at h
          · rename_i hspace
            cases h
            rw [hspace, List.append_nil] at hcs
            rw [hcs]
            exact Finishes.document hgap
          · cases h
      | cons frame frames =>
          cases frame with
          | list done => exact absurd h stepList_ne_done
          | members done key => exact absurd h stepMembers_ne_done

/-- **A run passes what may come first in its state, up to the end of the document.** -/
theorem finishes_of_run {s : State} (h : run s = .ok r) : s.Finishes r := by
  fun_induction run s with
  | case1 s t hstep ih => exact finishes_of_step hstep (ih h)
  | case2 s v hstep =>
      cases h
      exact finishes_of_step_done hstep
  | case3 s fault hstep => cases h

/-- **What is read as a value spells it.** -/
theorem spells_of_read (h : read cs = .ok v) : Spells cs v := by
  obtain ⟨text, w, rest, hcs, htext, hfinish⟩ := finishes_of_run h
  cases hfinish with
  | document hgap =>
      rw [show cs = text ++ rest from hcs]
      exact htext.append_spaces hgap

end ObjectInitializer.Json
