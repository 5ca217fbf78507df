/-
**Setting members.**

The members of an object are set in the order of the document.  A key that comes again keeps the
place of its first member and takes the value of its last one, so that the keys are all different,
the first key is the first one of the document, and no member is there that was not set.

Main definitions:

* `Json.setMembers` — members set one after the other.

Main results:

* `Json.nodup_keys_setMembers`, `Json.head?_keys_setMembers`, `Json.mem_of_mem_setMembers` — the
  keys are different, the first one stays, and each member was set;
* `Json.byteSize_setMembers_le` — **texts of the members are no longer than of those set**;
* `Json.setMembers_of_nodup` — members with different keys are set as they are;
* `Json.map_setMembers`, `Json.filter_setMembers` — values may be changed, and keys left out,
  before or after;
* `Json.setMembers_around`, `Json.setMembers_overwritten` — **a member stands at one place with its
  value**, or leaves no trace if its key comes again.
-/

import ObjectInitializer.Json.Basic
import ObjectInitializer.Text.Position

set_option relaxedAutoImplicit false
set_option autoImplicit false

namespace ObjectInitializer.Json

open Text

variable {α : Type} {key : String} {value : α} {done members : List (String × α)}

/-! ### One member -/

theorem nodup_keys_setMember (h : (members.map Prod.fst).Nodup) :
    ((setMember key value members).map Prod.fst).Nodup := by
  rw [keys_setMember]
  split
  · exact h
  · rename_i hkey
    refine List.nodup_append.2 ⟨h, by simp, ?_⟩
    intro k hk k' hk'
    rw [List.mem_singleton.1 hk']
    rintro rfl
    exact hkey hk

theorem head?_keys_setMember :
    ((setMember key value members).map Prod.fst).head? =
      (members.map Prod.fst ++ [key]).head? := by
  cases members with
  | nil => rfl
  | cons m members =>
      rw [keys_setMember]
      split <;> rfl

theorem mem_of_mem_setMember {m : String × α} (h : m ∈ setMember key value members) :
    m ∈ members ∨ m = (key, value) := by
  induction members with
  | nil => exact Or.inr (List.mem_singleton.1 h)
  | cons entry members ih =>
      obtain ⟨k, u⟩ := entry
      rw [setMember] at h
      split at h
      · rcases List.mem_cons.1 h with h | h
        · exact Or.inr h
        · exact Or.inl (List.mem_cons_of_mem _ h)
      · rcases List.mem_cons.1 h with rfl | h
        · exact Or.inl (List.mem_cons_self ..)
        · exact (ih h).imp_left (List.mem_cons_of_mem _)

/-- A member adds no more than its own text; that of another one with its key is lost. -/
theorem byteSize_setMember_le (text : String × α → List Char) (key : String) (value : α)
    (members : List (String × α)) :
    byteSize ((setMember key value members).flatMap text) ≤
      byteSize (members.flatMap text) + byteSize (text (key, value)) := by
  induction members with
  | nil => simp
  | cons m members ih =>
      obtain ⟨k, u⟩ := m
      rw [setMember]
      split
      · simp only [List.flatMap_cons, byteSize_append]
        omega
      · simp only [List.flatMap_cons, byteSize_append]
        omega

/-- A new member goes to the end. -/
theorem setMember_of_not_mem (h : key ∉ members.map Prod.fst) :
    setMember key value members = members ++ [(key, value)] := by
  induction members with
  | nil => rfl
  | cons m members ih =>
      obtain ⟨k, u⟩ := m
      have hkey : key ≠ k ∧ key ∉ members.map Prod.fst := by simpa [not_or] using h
      rw [setMember, if_neg hkey.1.symm, ih hkey.2, List.cons_append]

/-! ### All members -/

/-- Sets members one after the other. -/
def setMembers (done members : List (String × α)) : List (String × α) :=
  members.foldl (fun done m => setMember m.1 m.2 done) done

@[simp] theorem setMembers_nil (done : List (String × α)) : setMembers done [] = done := rfl

@[simp] theorem setMembers_cons (done : List (String × α)) (m : String × α)
    (members : List (String × α)) :
    setMembers done (m :: members) = setMembers (setMember m.1 m.2 done) members := rfl

theorem setMembers_append (done members more : List (String × α)) :
    setMembers done (members ++ more) = setMembers (setMembers done members) more :=
  List.foldl_append

/-- **The keys are different from each other.** -/
theorem nodup_keys_setMembers (h : (done.map Prod.fst).Nodup) :
    ((setMembers done members).map Prod.fst).Nodup := by
  induction members generalizing done with
  | nil => exact h
  | cons m members ih => exact ih (nodup_keys_setMember h)

/-- The first key stays the first. -/
theorem head?_keys_setMembers :
    ((setMembers done members).map Prod.fst).head? = ((done ++ members).map Prod.fst).head? := by
  induction members generalizing done with
  | nil => simp
  | cons m members ih =>
      rw [setMembers_cons, ih, List.map_append, List.head?_append, head?_keys_setMember,
        ← List.head?_append]
      simp

/-- Each member is one of those that were set. -/
theorem mem_of_mem_setMembers {m : String × α} (h : m ∈ setMembers done members) :
    m ∈ done ∨ m ∈ members := by
  induction members generalizing done with
  | nil => exact Or.inl h
  | cons entry members ih =>
      rcases ih h with h | h
      · rcases mem_of_mem_setMember h with h | rfl
        · exact Or.inl h
        · exact Or.inr (List.mem_cons_self ..)
      · exact Or.inr (List.mem_cons_of_mem _ h)

/-- **The texts of the members are no longer than those of the members that were set.** -/
theorem byteSize_setMembers_le (text : String × α → List Char) (done members : List (String × α)) :
    byteSize ((setMembers done members).flatMap text) ≤
      byteSize (done.flatMap text) + byteSize (members.flatMap text) := by
  induction members generalizing done with
  | nil => simp
  | cons m members ih =>
      obtain ⟨key, value⟩ := m
      have hset := byteSize_setMember_le text key value done
      have hrest := ih (setMember key value done)
      simp only [setMembers_cons, List.flatMap_cons, byteSize_append]
      omega

/-- **Members with different keys are set as they are.** -/
theorem setMembers_of_nodup (h : ((done ++ members).map Prod.fst).Nodup) :
    setMembers done members = done ++ members := by
  induction members generalizing done with
  | nil => simp
  | cons m members ih =>
      -- the next key is none of those before it, so that its member goes to the end
      have hkey : m.1 ∉ done.map Prod.fst := by
        intro hmem
        rw [List.map_append, List.map_cons] at h
        exact (List.nodup_append.1 h).2.2 _ hmem _ (List.mem_cons_self ..) rfl
      rw [setMembers_cons, setMember_of_not_mem hkey, ih (by simpa using h), List.append_assoc]
      rfl

/-! ### Other values, and less keys -/

theorem map_setMember {β : Type} (f : α → β) (key : String) (value : α)
    (members : List (String × α)) :
    (setMember key value members).map (fun m => (m.1, f m.2)) =
      setMember key (f value) (members.map fun m => (m.1, f m.2)) := by
  induction members with
  | nil => rfl
  | cons m members ih =>
      obtain ⟨k, u⟩ := m
      by_cases hk : k = key
      · simp [setMember, hk]
      · simp [setMember, hk, ih]

/-- Values may be changed before or after the members are set. -/
theorem map_setMembers {β : Type} (f : α → β) (done members : List (String × α)) :
    (setMembers done members).map (fun m => (m.1, f m.2)) =
      setMembers (done.map fun m => (m.1, f m.2)) (members.map fun m => (m.1, f m.2)) := by
  induction members generalizing done with
  | nil => rfl
  | cons m members ih => rw [setMembers_cons, ih, map_setMember, List.map_cons, setMembers_cons]

theorem filter_setMember (keep : String → Bool) (key : String) (value : α)
    (members : List (String × α)) :
    (setMember key value members).filter (fun m => keep m.1) =
      if keep key then setMember key value (members.filter fun m => keep m.1)
      else members.filter fun m => keep m.1 := by
  induction members with
  | nil => cases hkeep : keep key <;> simp [setMember, hkeep]
  | cons m members ih =>
      obtain ⟨k, u⟩ := m
      by_cases hk : k = key
      · subst hk
        cases hkeep : keep k <;> simp [setMember, hkeep]
      · rw [setMember, if_neg hk]
        cases hkept : keep k <;> cases hkeep : keep key <;> simp_all [setMember]

/-- Members may be left out by their keys before or after they are set. -/
theorem filter_setMembers (keep : String → Bool) (done members : List (String × α)) :
    (setMembers done members).filter (fun m => keep m.1) =
      setMembers (done.filter fun m => keep m.1) (members.filter fun m => keep m.1) := by
  induction members generalizing done with
  | nil => rfl
  | cons m members ih =>
      rw [setMembers_cons, ih, filter_setMember]
      cases hkeep : keep m.1 <;> simp [hkeep]

/-! ### The place of a member -/

/-- A member stands at one place, whatever its value is. -/
theorem setMember_around (key : String) (done : List (String × α)) :
    ∃ before after, key ∉ before.map Prod.fst ∧
      ∀ value, setMember key value done = before ++ (key, value) :: after := by
  induction done with
  | nil => exact ⟨[], [], by simp, fun value => rfl⟩
  | cons m done ih =>
      obtain ⟨k, u⟩ := m
      by_cases hk : k = key
      · exact ⟨[], done, by simp, fun value => by rw [setMember, if_pos hk]; rfl⟩
      · obtain ⟨before, after, hnew, heq⟩ := ih
        refine ⟨(k, u) :: before, after, ?_, fun value => ?_⟩
        · rw [List.map_cons, List.mem_cons, not_or]
          exact ⟨fun he => hk he.symm, hnew⟩
        · rw [setMember, if_neg hk, heq, List.cons_append]

/-- Setting another member does not move it. -/
theorem setMember_ne_around {before after : List (String × α)} {other : String}
    (hother : other ≠ key) (u : α) (hnew : key ∉ before.map Prod.fst) :
    ∃ before' after', key ∉ before'.map Prod.fst ∧
      ∀ value, setMember other u (before ++ (key, value) :: after) =
        before' ++ (key, value) :: after' := by
  induction before with
  | nil =>
      refine ⟨[], setMember other u after, by simp, fun value => ?_⟩
      rw [List.nil_append, setMember, if_neg hother.symm, List.nil_append]
  | cons m before ih =>
      obtain ⟨k, w⟩ := m
      have hkeys : key ≠ k ∧ key ∉ before.map Prod.fst := by simpa [not_or] using hnew
      by_cases hk : k = other
      · refine ⟨(other, u) :: before, after, ?_, fun value => ?_⟩
        · rw [List.map_cons, List.mem_cons, not_or]
          exact ⟨hother.symm, hkeys.2⟩
        · rw [List.cons_append, setMember, if_pos hk, List.cons_append]
      · obtain ⟨before', after', hnew', heq⟩ := ih hkeys.2
        refine ⟨(k, w) :: before', after', ?_, fun value => ?_⟩
        · rw [List.map_cons, List.mem_cons, not_or]
          exact ⟨hkeys.1, hnew'⟩
        · rw [List.cons_append, setMember, if_neg hk, heq, List.cons_append]

/-- **A member stands at one place with its value**, if its key does not come again. -/
theorem setMembers_around (done members : List (String × α)) (hlast : key ∉ members.map Prod.fst) :
    ∃ before after, key ∉ before.map Prod.fst ∧
      ∀ value, setMembers done ((key, value) :: members) = before ++ (key, value) :: after := by
  -- the place is the one that it is set at, and the members behind keep it
  obtain ⟨before, after, hnew, heq⟩ := setMember_around key done
  suffices h : ∃ before' after', key ∉ before'.map Prod.fst ∧
      ∀ value, setMembers (before ++ (key, value) :: after) members =
        before' ++ (key, value) :: after' by
    obtain ⟨before', after', hnew', heq'⟩ := h
    exact ⟨before', after', hnew', fun value => by rw [setMembers_cons, heq, heq']⟩
  clear heq
  induction members generalizing before after with
  | nil => exact ⟨before, after, hnew, fun value => rfl⟩
  | cons m members ih =>
      have hkeys : key ≠ m.1 ∧ key ∉ members.map Prod.fst := by simpa [not_or] using hlast
      obtain ⟨before', after', hnew', heq'⟩ := setMember_ne_around hkeys.1.symm m.2 hnew
      obtain ⟨before'', after'', hnew'', heq''⟩ := ih hkeys.2 before' after' hnew'
      exact ⟨before'', after'', hnew'', fun value => by rw [setMembers_cons, heq', heq'']⟩

/-- A member that is set again keeps its place. -/
theorem setMember_replace {before after : List (String × α)} (hnew : key ∉ before.map Prod.fst)
    (value last : α) :
    setMember key last (before ++ (key, value) :: after) = before ++ (key, last) :: after := by
  induction before with
  | nil => rw [List.nil_append, setMember, if_pos rfl, List.nil_append]
  | cons m before ih =>
      obtain ⟨k, u⟩ := m
      have hkeys : key ≠ k ∧ key ∉ before.map Prod.fst := by simpa [not_or] using hnew
      rw [List.cons_append, setMember, if_neg hkeys.1.symm, ih hkeys.2, List.cons_append]

/-- **A member leaves no trace of its value**, if its key comes again. -/
theorem setMembers_overwritten (done members : List (String × α))
    (hagain : key ∈ members.map Prod.fst) (value other : α) :
    setMembers done ((key, value) :: members) = setMembers done ((key, other) :: members) := by
  -- up to the member with the same key, the first one stands at one place
  obtain ⟨keys, keys', hsplit, hfirst⟩ := List.eq_append_cons_of_mem hagain
  obtain ⟨first, rest, rfl, rfl, hrest⟩ := List.map_eq_append_iff.1 hsplit
  obtain ⟨⟨k, last⟩, later, rfl, rfl, -⟩ := List.map_eq_cons_iff.1 hrest
  obtain ⟨before, after, hnew, heq⟩ := setMembers_around done first hfirst
  have hset (u : α) : setMembers done ((k, u) :: (first ++ (k, last) :: later)) =
      setMembers (before ++ (k, last) :: after) later := by
    rw [← List.cons_append, setMembers_append, heq, setMembers_cons, setMember_replace hnew]
  exact (hset value).trans (hset other).symm

end ObjectInitializer.Json
