/-
**How a disk grows.**

The two changes of a disk put one node at one place, where there was no directory before.  So what
is there stays there, and a path that led to a place leads to it still; in particular a directory
that was made is found again by the path that it was made by, however many more are made after it.

Main definitions:

* `Disk.Extends` — all that is on a disk is on the other one;
* `Disk.Grows` — **nothing but directories is new, and paths of a given kind lead to them**;
* `Disk.Delivers` — one file is written, and nothing but directories is new beside it.

Main results:

* `Path.isPrefix_of_mem_ancestors` — the text of an ancestor starts the text of the path;
* `Disk.Extends.resolve` — **paths lead where they led**;
* `Disk.exists_of_makeDirectory`, `Disk.exists_of_write` — what the changes do: one node at the
  place that the path leads to afterwards;
* `Disk.Grows.trans`, `Disk.grows_of_makeDirectory` — growing step by step;
* `Disk.Grows.delivers` — growing, and then writing a file.
-/

import ObjectInitializer.Disk
import ObjectInitializer.Except

set_option relaxedAutoImplicit false
set_option autoImplicit false

namespace ObjectInitializer

/-! ### Ancestors -/

namespace Path

theorem trimEnd_isSuffix (cs : List Char) : trimEnd cs <:+ cs := by
  fun_induction trimEnd cs with
  | case1 rest ih => exact ih.trans (List.suffix_cons '/' rest)
  | case2 => exact List.nil_suffix
  | case3 rest ih => exact ih.trans ⟨['.', '/'], rfl⟩
  | case4 cs _ => exact List.suffix_rfl

/-- The text of the parent starts the text of the path. -/
theorem isPrefix_of_parent? {p q : Path} (h : parent? p = some q) : q.toList <+: p.toList := by
  rcases parent?_cases p with ⟨-, hparent⟩ | ⟨-, -, hparent⟩ | ⟨-, hparent⟩
  · cases hparent.symm.trans h
  · cases hparent.symm.trans h
    exact List.nil_prefix
  · cases hparent.symm.trans h
    -- what is trimmed stands at the end of the text, whose head stays
    have hsuffix := (trimEnd_isSuffix _).trans ((List.dropWhile_suffix (· != '/')).trans
      (trimEnd_isSuffix (splitHead p.toList).2.reverse))
    have hprefix := (List.prefix_append_right_inj (splitHead p.toList).1).2
      (List.reverse_prefix.2 hsuffix)
    rw [List.reverse_reverse, splitHead_append p.toList] at hprefix
    rwa [String.toList_ofList]

/-- The path comes first of its ancestors, and then those of its parent. -/
theorem ancestors_of_parent? {p q : Path} (hp : p ≠ "") (hq : parent? p = some q) :
    ancestors p = p :: ancestors q := by
  rw [ancestors, dif_neg hp]
  split
  · rename_i hnone
    cases hq.symm.trans hnone
  · rename_i q' hq'
    cases hq.symm.trans hq'
    rfl

/-- The text of an ancestor starts the text of the path. -/
theorem isPrefix_of_mem_ancestors {p q : Path} (h : q ∈ ancestors p) : q.toList <+: p.toList := by
  fun_induction ancestors p with
  | case1 => cases h
  | case2 p _ _ =>
      obtain rfl := List.mem_singleton.1 h
      exact List.prefix_rfl
  | case3 p _ parent hparent ih =>
      rcases List.mem_cons.1 h with rfl | h
      · exact List.prefix_rfl
      · exact (ih h).trans (isPrefix_of_parent? hparent)

end Path

namespace Disk

open Except (bind_eq_ok_iff)

variable {disk disk' disk'' : Disk} {p : Path} {place next : Place} {node : Node} {name : String}

/-! ### What stays -/

theorem checkDirectory_eq_ok_iff :
    disk.checkDirectory place = .ok () ↔ disk.node? place = some .directory := by
  unfold checkDirectory
  split <;> simp_all

/-- **All that is on the disk is on the other one**, and its directories are directories there. -/
structure Extends (disk disk' : Disk) : Prop where
  workingDirectory : disk'.workingDirectory = disk.workingDirectory
  directory : ∀ place, disk.node? place = some .directory → disk'.node? place = some .directory
  present : ∀ place, disk.node? place ≠ none → disk'.node? place ≠ none

namespace Extends

/-- A name leads where it led. -/
theorem follow (h : disk.Extends disk') (hfollow : disk.follow place name = .ok next) :
    disk'.follow place name = .ok next := by
  obtain ⟨_, hdirectory, hrest⟩ := bind_eq_ok_iff.1 hfollow
  have hdirectory' := checkDirectory_eq_ok_iff.2
    (h.directory place (checkDirectory_eq_ok_iff.1 hdirectory))
  refine bind_eq_ok_iff.2 ⟨(), hdirectory', ?_⟩
  by_cases hhere : name = "."
  · rwa [if_pos hhere] at hrest ⊢
  by_cases hup : name = ".."
  · rwa [if_neg hhere, if_pos hup] at hrest ⊢
  by_cases hlong : nameLimit < name.utf8ByteSize
  · rw [if_neg hhere, if_neg hup, if_pos hlong] at hrest
    cases hrest
  · rw [if_neg hhere, if_neg hup, if_neg hlong] at hrest ⊢
    have hpresent := h.present (place ++ [name])
    cases hnode : disk.node? (place ++ [name]) with
    | none =>
        rw [hnode] at hrest
        cases hrest
    | some node =>
        obtain ⟨node', hnode'⟩ := Option.ne_none_iff_exists'.1 (hpresent (by simp [hnode]))
        rw [hnode] at hrest
        rw [hnode']
        exact hrest

/-- Names lead where they led. -/
theorem foldlM (h : disk.Extends disk') {names : List String}
    (hnames : names.foldlM disk.follow place = .ok next) :
    names.foldlM disk'.follow place = .ok next := by
  induction names generalizing place with
  | nil => exact hnames
  | cons name names ih =>
      rw [List.foldlM_cons] at hnames ⊢
      obtain ⟨middle, hfollow, hnames⟩ := bind_eq_ok_iff.1 hnames
      exact bind_eq_ok_iff.2 ⟨middle, h.follow hfollow, ih hnames⟩

theorem start (h : disk.Extends disk') (p : Path) : disk'.start p = disk.start p := by
  rw [Disk.start, Disk.start, h.workingDirectory]

end Extends

/-- **A path leads to a place** if its names do, one after the other, and there is a directory if
the path ends as that of one. -/
theorem resolve_eq_ok_iff :
    disk.resolve p = .ok place ↔
      checkPath p = .ok () ∧ p.names.foldlM disk.follow (disk.start p) = .ok place ∧
        (p.endsWithSlash = true → disk.node? place = some .directory) := by
  constructor
  · intro h
    obtain ⟨_, hpath, h⟩ := bind_eq_ok_iff.1 h
    obtain ⟨place', hnames, h⟩ := bind_eq_ok_iff.1 h
    cases hslash : p.endsWithSlash with
    | false =>
        rw [hslash] at h
        cases h
        exact ⟨hpath, hnames, by simp⟩
    | true =>
        rw [hslash] at h
        obtain ⟨_, hdirectory, h⟩ := bind_eq_ok_iff.1 h
        cases h
        exact ⟨hpath, hnames, fun _ => checkDirectory_eq_ok_iff.1 hdirectory⟩
  · rintro ⟨hpath, hnames, hslash⟩
    refine bind_eq_ok_iff.2 ⟨(), hpath, bind_eq_ok_iff.2 ⟨place, hnames, ?_⟩⟩
    by_cases hs : p.endsWithSlash = true
    · rw [if_pos hs]
      exact bind_eq_ok_iff.2 ⟨(), checkDirectory_eq_ok_iff.2 (hslash hs), rfl⟩
    · rw [if_neg hs]
      rfl

/-- **Paths lead where they led.** -/
theorem Extends.resolve (h : disk.Extends disk') (hp : disk.resolve p = .ok place) :
    disk'.resolve p = .ok place := by
  obtain ⟨hpath, hnames, hslash⟩ := resolve_eq_ok_iff.1 hp
  refine resolve_eq_ok_iff.2 ⟨hpath, ?_, fun hs => h.directory place (hslash hs)⟩
  rw [h.start]
  exact h.foldlM hnames

/-- All names of a path but the last lead to directories. -/
theorem exists_directory_of_resolve (h : disk.resolve p = .ok place) {front rest : List String}
    (hnames : p.names = front ++ name :: rest) :
    ∃ directory, front.foldlM disk.follow (disk.start p) = .ok directory ∧
      disk.node? directory = some .directory := by
  obtain ⟨-, hplace, -⟩ := resolve_eq_ok_iff.1 h
  rw [hnames, List.foldlM_append] at hplace
  obtain ⟨directory, hfront, hrest⟩ := bind_eq_ok_iff.1 hplace
  rw [List.foldlM_cons] at hrest
  obtain ⟨_, hfollow, -⟩ := bind_eq_ok_iff.1 hrest
  obtain ⟨_, hdirectory, -⟩ := bind_eq_ok_iff.1 hfollow
  exact ⟨directory, hfront, checkDirectory_eq_ok_iff.1 hdirectory⟩

theorem read_eq_ok_iff {content : ByteArray} :
    disk.read p = .ok content ↔
      ∃ place, disk.resolve p = .ok place ∧ disk.node? place = some (.file content) := by
  constructor
  · intro h
    obtain ⟨node, hfind, h⟩ := bind_eq_ok_iff.1 h
    obtain ⟨place, hresolve, hfind⟩ := bind_eq_ok_iff.1 hfind
    refine ⟨place, hresolve, ?_⟩
    split at hfind
    · cases hfind
      cases node with
      | directory => cases h
      | file content =>
          cases h
          assumption
    · cases hfind
  · rintro ⟨place, hresolve, hnode⟩
    refine bind_eq_ok_iff.2 ⟨.file content, ?_, rfl⟩
    refine bind_eq_ok_iff.2 ⟨place, hresolve, ?_⟩
    rw [hnode]
    rfl

/-! ### The changes -/

/-- A new node does not take the place of a directory. -/
theorem extends_put (hplace : place ≠ [])
    (hold : disk.node? place = some .directory → node = .directory) :
    disk.Extends (disk.put place node) := by
  refine ⟨rfl, fun other hd => ?_, fun other hp => ?_⟩
  · rw [node?_put disk hplace]
    split
    · subst_vars
      rw [hold hd]
    · exact hd
  · rw [node?_put disk hplace]
    split
    · exact Option.some_ne_none node
    · exact hp

/-- Where the last name of a path is to be put. -/
theorem target?_eq_ok {p : Path} (h : disk.target? p = .ok (some (place, name))) :
    checkPath p = .ok () ∧
      (∃ front, p.names = front ++ [name] ∧
        front.foldlM disk.follow (disk.start p) = .ok place) ∧
      disk.node? place = some .directory ∧ ¬ nameLimit < name.utf8ByteSize := by
  obtain ⟨_, hpath, h⟩ := bind_eq_ok_iff.1 h
  split at h
  · cases h
  · rename_i last hlast
    obtain ⟨front, hnames⟩ := List.getLast?_eq_some_iff.1 hlast
    rw [hnames, List.dropLast_concat] at h
    obtain ⟨place', hplace, h⟩ := bind_eq_ok_iff.1 h
    obtain ⟨_, hdirectory, h⟩ := bind_eq_ok_iff.1 h
    split at h
    · cases h
    · cases h
      exact ⟨hpath, ⟨front, hnames, hplace⟩, checkDirectory_eq_ok_iff.1 hdirectory, ‹_›⟩

/-- A path leads to what was put where its last name belongs. -/
theorem resolve_put (htarget : disk.target? p = .ok (some (place, name)))
    (hname : ¬ (name = "." ∨ name = ".."))
    (hold : disk.node? (place ++ [name]) = some .directory → node = .directory)
    (hslash : p.endsWithSlash = true → node = .directory) :
    (disk.put (place ++ [name]) node).resolve p = .ok (place ++ [name]) := by
  obtain ⟨hpath, ⟨front, hnames, hplace⟩, hdirectory, hlong⟩ := target?_eq_ok htarget
  have hne : place ++ [name] ≠ [] := by simp
  have hput := node?_put disk hne node (place ++ [name])
  rw [if_pos rfl] at hput
  have hextends : disk.Extends (disk.put (place ++ [name]) node) := extends_put hne hold
  refine resolve_eq_ok_iff.2 ⟨hpath, ?_, fun hs => hput.trans (congrArg some (hslash hs))⟩
  rw [hnames, List.foldlM_append, hextends.start]
  refine bind_eq_ok_iff.2 ⟨place, hextends.foldlM hplace, ?_⟩
  rw [List.foldlM_cons]
  refine bind_eq_ok_iff.2 ⟨place ++ [name], ?_, rfl⟩
  refine bind_eq_ok_iff.2 ⟨(), checkDirectory_eq_ok_iff.2 (hextends.directory place hdirectory), ?_⟩
  rw [if_neg fun h => hname (Or.inl h), if_neg fun h => hname (Or.inr h), if_neg hlong, hput]
  rfl

/-- **A directory that is made** is a new node, and its path leads to it. -/
theorem exists_of_makeDirectory (h : disk.makeDirectory p = .ok disk') :
    ∃ place, place ≠ [] ∧ disk.node? place = none ∧ disk' = disk.put place .directory ∧
      disk'.resolve p = .ok place := by
  obtain ⟨target, htarget, h⟩ := bind_eq_ok_iff.1 h
  cases target with
  | none => cases h
  | some target =>
      obtain ⟨place, name⟩ := target
      dsimp only at h
      split at h
      · cases h
      · rename_i hname
        split at h
        · cases h
        · rename_i hnode
          cases h
          refine ⟨place ++ [name], by simp, hnode, rfl, ?_⟩
          exact resolve_put htarget (by simpa using hname) (fun _ => rfl) fun _ => rfl

/-- **A file that is written** is at the place that its path leads to, where there was no
directory. -/
theorem exists_of_write {content : ByteArray} (h : disk.write p content = .ok disk') :
    ∃ place, place ≠ [] ∧ disk.node? place ≠ some .directory ∧
      disk' = disk.put place (.file content) ∧ disk'.resolve p = .ok place := by
  obtain ⟨target, htarget, h⟩ := bind_eq_ok_iff.1 h
  cases target with
  | none => cases h
  | some target =>
      obtain ⟨place, name⟩ := target
      dsimp only at h
      split at h
      · cases h
      · rename_i hname
        have hname' : ¬ (name = "." ∨ name = "..") ∧ ¬ p.endsWithSlash = true := by
          simpa [not_or] using hname
        split at h
        · cases h
        · rename_i hnode
          cases h
          refine ⟨place ++ [name], by simp, hnode, rfl, ?_⟩
          exact resolve_put htarget hname'.1 (fun hd => (hnode hd).elim)
            fun hs => (hname'.2 hs).elim

/-! ### Growing -/

/-- **Nothing but directories is new**, and a path of the given kind leads to each of them. -/
structure Grows (named : Path → Prop) (disk disk' : Disk) : Prop where
  workingDirectory : disk'.workingDirectory = disk.workingDirectory
  node? : ∀ place, disk'.node? place = disk.node? place ∨
    disk.node? place = none ∧ disk'.node? place = some .directory ∧
      ∃ p, named p ∧ disk'.resolve p = .ok place

namespace Grows

variable {named : Path → Prop}

theorem refl (disk : Disk) : Grows named disk disk :=
  ⟨rfl, fun _ => Or.inl rfl⟩

theorem toExtends (h : Grows named disk disk') : disk.Extends disk' := by
  refine ⟨h.workingDirectory, fun place hd => ?_, fun place hp => ?_⟩
  · rcases h.node? place with hsame | ⟨hnew, -, -⟩
    · exact hsame.trans hd
    · cases hd.symm.trans hnew
  · rcases h.node? place with hsame | ⟨hnew, -, -⟩
    · rwa [hsame]
    · exact absurd hnew hp

/-- No file comes, goes or changes. -/
theorem file_iff (h : Grows named disk disk') {content : ByteArray} :
    disk'.node? place = some (.file content) ↔ disk.node? place = some (.file content) := by
  rcases h.node? place with hsame | ⟨hnew, hdirectory, -⟩
  · rw [hsame]
  · rw [hnew, hdirectory]
    simp

/-- **Growing step by step.** -/
theorem trans (h : Grows named disk disk') (h' : Grows named disk' disk'') :
    Grows named disk disk'' := by
  refine ⟨h'.workingDirectory.trans h.workingDirectory, fun place => ?_⟩
  rcases h'.node? place with hsame' | ⟨hnew', hdirectory', hnamed'⟩
  · rcases h.node? place with hsame | ⟨hnew, hdirectory, p, hp, hresolve⟩
    · exact Or.inl (hsame'.trans hsame)
    · -- the path that the directory was made by still leads to it
      exact Or.inr ⟨hnew, hsame'.trans hdirectory, p, hp, h'.toExtends.resolve hresolve⟩
  · rcases h.node? place with hsame | ⟨-, hdirectory, -⟩
    · exact Or.inr ⟨hsame.symm.trans hnew', hdirectory', hnamed'⟩
    · cases hdirectory.symm.trans hnew'

end Grows

/-- A disk grows by a directory that is made. -/
theorem grows_of_makeDirectory {named : Path → Prop} (hp : named p)
    (h : disk.makeDirectory p = .ok disk') : Grows named disk disk' := by
  obtain ⟨place, hplace, hnew, rfl, hresolve⟩ := exists_of_makeDirectory h
  refine ⟨rfl, fun other => ?_⟩
  rw [node?_put disk hplace]
  split
  · subst_vars
    exact Or.inr ⟨hnew, rfl, p, hp, hresolve⟩
  · exact Or.inl rfl

/-! ### One file more -/

/-- **A file is written, and nothing but directories is new beside it.**  Its path leads to a place
with the content, through directories; at all other places, and for all paths that led to files
there, nothing else has changed. -/
structure Delivers (named : Path → Prop) (file : Path) (content : ByteArray) (before after : Disk) :
    Prop where
  workingDirectory : after.workingDirectory = before.workingDirectory
  place : ∃ place, after.resolve file = .ok place ∧ after.node? place = some (.file content) ∧
    before.node? place ≠ some .directory ∧
    (∀ other, other ≠ place → after.node? other = before.node? other ∨
      before.node? other = none ∧ after.node? other = some .directory ∧
        ∃ p, named p ∧ after.resolve p = .ok other) ∧
    ∀ p bytes, before.read p = .ok bytes → before.resolve p ≠ .ok place → after.read p = .ok bytes
  directories : ∀ front name rest, file.names = front ++ name :: rest →
    ∃ directory, front.foldlM after.follow (after.start file) = .ok directory ∧
      after.node? directory = some .directory

/-- A file is delivered by writing it on a disk that has grown before. -/
theorem Grows.delivers {named : Path → Prop} {file : Path} {content : ByteArray}
    (h : Grows named disk disk') (hwrite : disk'.write file content = .ok disk'') :
    Delivers named file content disk disk'' := by
  obtain ⟨place, hplace, hfree, rfl, hresolve⟩ := exists_of_write hwrite
  have hput := node?_put disk' hplace (.file content)
  have hextends : disk'.Extends (disk'.put place (.file content)) :=
    extends_put hplace fun hd => (hfree hd).elim
  have hothers (other : Place) (hother : other ≠ place) :
      (disk'.put place (.file content)).node? other = disk'.node? other := by
    rw [hput, if_neg hother]
  refine ⟨h.workingDirectory, ⟨place, hresolve, (hput place).trans (if_pos rfl), ?_, ?_, ?_⟩, ?_⟩
  · exact fun hd => hfree (h.toExtends.directory place hd)
  · intro other hother
    rw [hothers other hother]
    refine (h.node? other).imp_right ?_
    rintro ⟨hnew, hdirectory, p, hp, hleads⟩
    exact ⟨hnew, hdirectory, p, hp, hextends.resolve hleads⟩
  · intro p bytes hread hne
    obtain ⟨other, hleads, hnode⟩ := read_eq_ok_iff.1 hread
    have hother : other ≠ place := fun he => hne (he ▸ hleads)
    refine read_eq_ok_iff.2 ⟨other, hextends.resolve (h.toExtends.resolve hleads), ?_⟩
    rw [hothers other hother]
    exact h.file_iff.2 hnode
  · intro front name rest hnames
    exact exists_directory_of_resolve hresolve hnames

end Disk

end ObjectInitializer
