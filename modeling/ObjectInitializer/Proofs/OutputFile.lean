/-
**Where the output file lands.**

Parent and join work on the text of a path, while its components are found by cutting it at its
slashes.  This module proves that the two views agree: the parent has all components but the last,
and a path that is continued by a name has that name behind its own components.  What the text says
twice, or need not say, makes no difference to that, be it a slash that is repeated, one at the end,
or a `.` between others.

A text is seen as its *head*, the root or a leading `.`, and a *body*, whose pieces are the other
components (`Path.components_eq`).  Trimming the end of the body takes away no component, and what
is trimmed ends with the last one; this is where the parent cuts.  A parent is trimmed itself, so
that a name put behind it is cut off again at the same place.

Main definitions:

* `Path.parts`, `Path.headComponents` — what a body and a head stand for;
* `Path.IsTrimmed` — a path with nothing at its end that does not count;
* `Path.IsFileName` — a name that is a component by itself;
* `Path.afterHere` — the components of a path, less one leading `.`.

Main results:

* `Path.components_eq_nil_iff` — only the empty path has no components;
* `Path.components_of_parent?` — **the parent has all components but the last**;
* `Path.components_join` — **a name is put behind the components of a path**;
* `Path.parent?_join` — the parent of a name in a trimmed directory is that directory;
* `components_directoryOf` — the components of the directory that a file is in;
* `output_beside_or_inside` — **the output file lands in the output directory, or beside the
  input**.
-/

import ObjectInitializer.CommandLine.Arguments
import ObjectInitializer.Proofs.Disk

set_option relaxedAutoImplicit false
set_option autoImplicit false

namespace ObjectInitializer

namespace Path

/-! ### Pieces and parts -/

theorem pieces_ne_nil (cs : List Char) : pieces cs ≠ [] := by
  cases cs with
  | nil => simp [pieces]
  | cons c cs =>
      rw [pieces]
      split
      · simp
      · split <;> simp

theorem pieces_cons {c : Char} (hc : c ≠ '/') {piece cs : List Char} {rest : List (List Char)}
    (h : pieces cs = piece :: rest) : pieces (c :: cs) = (c :: piece) :: rest := by
  rw [pieces, if_neg hc, h]

/-- A text is cut at each of its slashes. -/
theorem pieces_append (cs ds : List Char) :
    pieces (cs ++ '/' :: ds) = pieces cs ++ pieces ds := by
  induction cs with
  | nil => rfl
  | cons c cs ih =>
      rw [List.cons_append]
      by_cases hc : c = '/'
      · rw [pieces, if_pos hc, ih, pieces, if_pos hc, List.cons_append]
      · obtain ⟨piece, rest, hcs⟩ := List.exists_cons_of_ne_nil (pieces_ne_nil cs)
        rw [hcs, List.cons_append] at ih
        rw [pieces_cons hc ih, pieces_cons hc hcs, List.cons_append]

theorem pieces_of_not_mem {cs : List Char} (h : '/' ∉ cs) : pieces cs = [cs] := by
  induction cs with
  | nil => rfl
  | cons c cs ih =>
      obtain ⟨hc, hcs⟩ := not_or.1 fun hor => h (List.mem_cons.2 hor)
      exact pieces_cons (fun heq => hc heq.symm) (ih hcs)

/-- A text whose first piece is empty is empty itself, or starts with a slash. -/
theorem eq_nil_or_cons_of_pieces {cs : List Char} {rest : List (List Char)}
    (h : pieces cs = [] :: rest) : cs = [] ∨ ∃ ds, cs = '/' :: ds := by
  cases cs with
  | nil => exact Or.inl rfl
  | cons c cs =>
      by_cases hc : c = '/'
      · exact Or.inr ⟨cs, hc ▸ rfl⟩
      · obtain ⟨piece, rest', hcs⟩ := List.exists_cons_of_ne_nil (pieces_ne_nil cs)
        rw [pieces_cons hc hcs] at h
        cases h

/-- The pieces of a text that are parts of a path: the empty ones and `.` do not count. -/
def parts (cs : List Char) : List (List Char) :=
  (pieces cs).filter fun piece => !piece.isEmpty && decide (piece ≠ ['.'])

/-- The component that a part is. -/
def componentOf (part : List Char) : Component :=
  .ofName (String.ofList part)

theorem parts_append (cs ds : List Char) : parts (cs ++ '/' :: ds) = parts cs ++ parts ds := by
  rw [parts, pieces_append, List.filter_append]
  rfl

theorem parts_of_not_mem {cs : List Char} (h : '/' ∉ cs) (hne : cs ≠ []) (hdot : cs ≠ ['.']) :
    parts cs = [cs] := by
  rw [parts, pieces_of_not_mem h, List.filter_cons_of_pos (by simp [hne, hdot]), List.filter_nil]

/-! ### Heads -/

/-- The component that a head is. -/
def headComponents : List Char → List Component
  | ['/'] => [.root]
  | ['.'] => [.here]
  | _ => []

/-- The three kinds of heads. -/
theorem splitHead_cases (cs : List Char) :
    (∃ body, cs = '/' :: body ∧ splitHead cs = (['/'], body)) ∨
      (∃ body, (body = [] ∨ ∃ rest, body = '/' :: rest) ∧ cs = '.' :: body ∧
        splitHead cs = (['.'], body)) ∨
      splitHead cs = ([], cs) := by
  unfold splitHead
  split
  · rename_i body
    exact Or.inl ⟨body, rfl, rfl⟩
  · exact Or.inr (Or.inl ⟨[], Or.inl rfl, rfl, rfl⟩)
  · rename_i body
    exact Or.inr (Or.inl ⟨'/' :: body, Or.inr ⟨body, rfl⟩, rfl, rfl⟩)
  · exact Or.inr (Or.inr rfl)

theorem splitHead_eq_self_iff {cs : List Char} :
    splitHead cs = ([], cs) ↔ ¬ ['/'] <+: cs ∧ cs ≠ ['.'] ∧ ¬ ['.', '/'] <+: cs := by
  unfold splitHead
  split
  · simp
  · simp
  · simp
  · rename_i hroot hdot hslash
    simp only [true_iff]
    exact ⟨fun ⟨body, h⟩ => hroot body h.symm, hdot, fun ⟨body, h⟩ => hslash body h.symm⟩

/-- What follows behind a slash belongs to the body. -/
theorem splitHead_append_slash {cs : List Char} (hne : cs ≠ []) (ds : List Char) :
    splitHead (cs ++ '/' :: ds) = ((splitHead cs).1, (splitHead cs).2 ++ '/' :: ds) := by
  rcases splitHead_cases cs with ⟨body, rfl, hcs⟩ | ⟨body, hbody, rfl, hcs⟩ | hcs
  · rfl
  · rcases hbody with rfl | ⟨rest, rfl⟩ <;> rfl
  · obtain ⟨hroot, hdot, hslash⟩ := splitHead_eq_self_iff.1 hcs
    rw [hcs]
    refine splitHead_eq_self_iff.2 ?_
    match cs, hne with
    | [c], _ =>
        simp only [List.cons_append, List.nil_append, List.cons_prefix_cons, List.nil_prefix,
          and_true, ne_eq, List.cons.injEq] at hroot hdot ⊢
        exact ⟨hroot, fun h => hdot h.1, fun h => hdot h.symm⟩
    | c :: d :: cs, _ =>
        simp only [List.cons_append, List.cons_prefix_cons, List.nil_prefix, and_true, ne_eq,
          List.cons.injEq] at hroot hslash ⊢
        exact ⟨hroot, fun h => by simp at h, hslash⟩

/-- The head of a text stays the head if the body is cut short, but for a body that is cut down to
a `.` and so becomes a head. -/
theorem splitHead_append_of_prefix {cs ds : List Char} (h : ds <+: (splitHead cs).2)
    (hds : ds ≠ ['.']) : splitHead ((splitHead cs).1 ++ ds) = ((splitHead cs).1, ds) := by
  rcases splitHead_cases cs with ⟨body, rfl, hcs⟩ | ⟨body, hbody, rfl, hcs⟩ | hcs
  · rw [hcs]
    rfl
  · rw [hcs] at h ⊢
    rcases hbody with rfl | ⟨rest, rfl⟩
    · rw [List.prefix_nil.1 h]
      rfl
    · rcases List.prefix_cons_iff.1 h with rfl | ⟨ds, rfl, -⟩ <;> rfl
  · obtain ⟨hroot, -, hslash⟩ := splitHead_eq_self_iff.1 hcs
    rw [hcs] at h ⊢
    exact splitHead_eq_self_iff.2 ⟨fun hr => hroot (hr.trans h), hds, fun hs => hslash (hs.trans h)⟩

/-- The first piece of a text without a head is a part. -/
theorem exists_pieces_of_splitHead {cs : List Char} (hne : cs ≠ []) (h : splitHead cs = ([], cs)) :
    ∃ piece rest, pieces cs = piece :: rest ∧ piece ≠ [] ∧ piece ≠ ['.'] := by
  obtain ⟨hroot, hdot, hslash⟩ := splitHead_eq_self_iff.1 h
  obtain ⟨c, cs, rfl⟩ := List.exists_cons_of_ne_nil hne
  have hc : c ≠ '/' := fun hc => hroot (by simp [hc])
  obtain ⟨piece, rest, hcs⟩ := List.exists_cons_of_ne_nil (pieces_ne_nil cs)
  refine ⟨c :: piece, rest, pieces_cons hc hcs, by simp, fun hpiece => ?_⟩
  obtain ⟨rfl, rfl⟩ := List.cons.inj hpiece
  -- the piece is `.` alone, so that it is all there is or a slash follows
  rcases eq_nil_or_cons_of_pieces hcs with rfl | ⟨ds, rfl⟩
  · exact hdot rfl
  · exact hslash (by simp)

theorem head?_names {p : Path} {piece : List Char} {rest : List (List Char)}
    (h : pieces p.toList = piece :: rest) (hne : piece ≠ []) :
    p.names.head? = some (String.ofList piece) := by
  rw [names, h, List.filter_cons_of_pos (by simp [hne])]
  rfl

theorem ofList_eq_here_iff {piece : List Char} : String.ofList piece = "." ↔ piece = ['.'] := by
  rw [← String.toList_inj, String.toList_ofList]
  rfl

theorem head?_names_ne {p : Path} (h : splitHead p.toList = ([], p.toList)) :
    p.names.head? ≠ some "." := by
  by_cases hne : p.toList = []
  · simp [names, hne, pieces]
  · obtain ⟨piece, rest, hpieces, hpiece, hdot⟩ := exists_pieces_of_splitHead hne h
    rw [head?_names hpieces hpiece, ne_eq, Option.some.injEq, ofList_eq_here_iff]
    exact hdot

theorem map_names (p : Path) :
    (p.names.filter (· ≠ ".")).map Component.ofName = (parts p.toList).map componentOf := by
  rw [names, List.filter_map, List.map_map, List.filter_filter, parts]
  refine congrArg (List.map componentOf) (List.filter_congr fun piece _ => ?_)
  rw [Bool.and_comm]
  simp only [Function.comp_apply, ne_eq, ofList_eq_here_iff]

/-- **The components of a path** are that of its head and those of its body. -/
theorem components_eq (p : Path) :
    p.components =
      headComponents (splitHead p.toList).1 ++ (parts (splitHead p.toList).2).map componentOf := by
  rw [components, map_names, isAbsolute]
  rcases splitHead_cases p.toList with ⟨body, hp, hsplit⟩ | ⟨body, hbody, hp, hsplit⟩ | hsplit
  · rw [hsplit, hp, if_pos (by rfl)]
    rfl
  · -- the part `.` is the head, and the body has all parts that count besides
    obtain ⟨rest, hpieces⟩ : ∃ rest, pieces body = [] :: rest := by
      rcases hbody with rfl | ⟨more, rfl⟩
      · exact ⟨[], rfl⟩
      · exact ⟨pieces more, rfl⟩
    have hdot : ('.' : Char) ≠ '/' := by decide
    have hhead : p.names.head? = some "." := head?_names (hp ▸ pieces_cons hdot hpieces) (by simp)
    have hparts : parts ('.' :: body) = parts body := by
      rw [parts, parts, pieces_cons hdot hpieces, hpieces]
      rfl
    rw [hsplit, hp, if_neg (by simp), if_pos hhead, hparts]
    rfl
  · have hroot : ¬ (p.toList.head? == some '/') = true := by
      intro h
      obtain ⟨cs, hcs⟩ := List.head?_eq_some_iff.1 (eq_of_beq h)
      exact (splitHead_eq_self_iff.1 hsplit).1 ⟨cs, hcs.symm⟩
    rw [hsplit, if_neg hroot, if_neg (head?_names_ne hsplit)]
    rfl

/-- Only the empty path has no components. -/
theorem components_eq_nil_iff {p : Path} : p.components = [] ↔ p = "" := by
  refine ⟨fun h => ?_, fun h => by rw [h]; decide⟩
  rw [components_eq, List.append_eq_nil_iff] at h
  obtain ⟨hhead, hbody⟩ := h
  rcases splitHead_cases p.toList with ⟨body, -, hsplit⟩ | ⟨body, -, -, hsplit⟩ | hsplit
  · rw [hsplit] at hhead
    cases hhead
  · rw [hsplit] at hhead
    cases hhead
  · rw [hsplit, List.map_eq_nil_iff] at hbody
    refine Decidable.byContradiction fun hp => ?_
    have hne : p.toList ≠ [] := fun h => hp (String.toList_eq_nil_iff.1 h)
    obtain ⟨piece, rest, hpieces, hpiece, hdot⟩ := exists_pieces_of_splitHead hne hsplit
    rw [parts, hpieces, List.filter_cons_of_pos (by simp [hpiece, hdot])] at hbody
    cases hbody

/-! ### Trimming -/

/-- Nothing that is trimmed off is a part. -/
theorem parts_trimEnd (cs : List Char) : parts (trimEnd cs).reverse = parts cs.reverse := by
  have hslash (ds : List Char) : parts (ds ++ ['/']) = parts ds :=
    (parts_append ds []).trans (List.append_nil _)
  fun_induction trimEnd cs with
  | case1 rest ih => rw [ih, List.reverse_cons, hslash]
  | case2 => rfl
  | case3 rest ih =>
      have hdot : parts ['.'] = [] := rfl
      rw [ih, List.reverse_cons, List.reverse_cons, List.append_assoc, List.singleton_append,
        parts_append, hdot, List.append_nil]
  | case4 => rfl

theorem trimEnd_trimEnd (cs : List Char) : trimEnd (trimEnd cs) = trimEnd cs := by
  fun_induction trimEnd cs with
  | case1 rest ih => exact ih
  | case2 => rfl
  | case3 rest ih => exact ih
  | case4 cs hslash hdot hhere => rw [trimEnd.eq_4 _ hslash hdot hhere]

theorem trimEnd_ne_here (cs : List Char) : trimEnd cs ≠ ['.'] := by
  intro h
  have htrim := trimEnd_trimEnd cs
  rw [h] at htrim
  cases htrim

theorem trimEnd_ne_here_cons (cs more : List Char) : trimEnd cs ≠ '.' :: '/' :: more := by
  intro h
  have htrim := trimEnd_trimEnd cs
  have hlength := length_trimEnd_le more
  rw [h, trimEnd] at htrim
  rw [htrim, List.length_cons, List.length_cons] at hlength
  omega

/-- What is trimmed ends with a part, and a slash stands in front of that, if anything. -/
theorem exists_last_trimEnd {cs : List Char} (hne : trimEnd cs ≠ []) :
    ∃ last rest, trimEnd cs = last ++ rest ∧ '/' ∉ last ∧ last ≠ [] ∧ last ≠ ['.'] ∧
      (rest = [] ∨ ∃ more, rest = '/' :: more) ∧ (trimEnd cs).dropWhile (· != '/') = rest := by
  have hsplit := List.takeWhile_append_dropWhile (p := (· != '/')) (l := trimEnd cs)
  have hslash : '/' ∉ (trimEnd cs).takeWhile (· != '/') := fun hmem => by
    simpa using List.all_eq_true.1 List.all_takeWhile '/' hmem
  have hrest : (trimEnd cs).dropWhile (· != '/') = [] ∨
      ∃ more, (trimEnd cs).dropWhile (· != '/') = '/' :: more := by
    have hstop := List.head?_dropWhile_not (· != '/') (trimEnd cs)
    cases hdrop : (trimEnd cs).dropWhile (· != '/') with
    | nil => exact Or.inl rfl
    | cons c rest =>
        rw [hdrop] at hstop
        have hc : c = '/' := by simpa using hstop
        exact Or.inr ⟨rest, hc ▸ rfl⟩
  refine ⟨_, _, hsplit.symm, hslash, fun htake => ?_, fun htake => ?_, hrest, rfl⟩
  · -- a slash at the end would have been trimmed off
    rw [htake, List.nil_append] at hsplit
    rcases hrest with hnil | ⟨more, hmore⟩
    · exact hne (hsplit.symm.trans hnil)
    · exact head?_trimEnd_ne cs (by rw [← hsplit, hmore]; rfl)
  · -- and so would a part `.`
    rw [htake] at hsplit
    rcases hrest with hnil | ⟨more, hmore⟩
    · exact trimEnd_ne_here cs (by rw [← hsplit, hnil]; rfl)
    · exact trimEnd_ne_here_cons cs more (by rw [← hsplit, hmore]; rfl)

/-- **The last part of what is trimmed**, and those in front of it. -/
theorem exists_parts_trimEnd {cs : List Char} (hne : trimEnd cs ≠ []) :
    ∃ part, parts cs.reverse =
      parts (trimEnd ((trimEnd cs).dropWhile (· != '/'))).reverse ++ [part] := by
  obtain ⟨last, rest, htrim, hslash, hlast, hdot, hrest, hdrop⟩ := exists_last_trimEnd hne
  have hpart : parts last.reverse = [last.reverse] :=
    parts_of_not_mem (by simpa using hslash) (by simpa using hlast)
      fun h => hdot (by simpa using congrArg List.reverse h)
  refine ⟨last.reverse, ?_⟩
  rw [hdrop, parts_trimEnd rest, ← parts_trimEnd cs, htrim, List.reverse_append, ← hpart]
  rcases hrest with rfl | ⟨more, rfl⟩
  · rfl
  · rw [List.reverse_cons, List.append_assoc, List.singleton_append, parts_append, parts_append]
    simp [parts, pieces]

/-! ### Parents -/

/-- A path with nothing behind its last part. -/
def IsTrimmed (p : Path) : Prop :=
  trimEnd (splitHead p.toList).2.reverse = (splitHead p.toList).2.reverse

/-- The parent keeps the head. -/
theorem splitHead_of_parent? {p : Path} {ds : List Char}
    (h : p.parent? = some (String.ofList ((splitHead p.toList).1 ++ (trimEnd ds).reverse))) :
    splitHead ((splitHead p.toList).1 ++ (trimEnd ds).reverse) =
      ((splitHead p.toList).1, (trimEnd ds).reverse) := by
  have happend := splitHead_append p.toList
  have hprefix := isPrefix_of_parent? h
  rw [String.toList_ofList] at hprefix
  conv at hprefix => rhs; rw [← happend]
  exact splitHead_append_of_prefix ((List.prefix_append_right_inj _).1 hprefix)
    fun hhere => trimEnd_ne_here ds (by simpa using congrArg List.reverse hhere)

/-- **The parent has all components but the last.** -/
theorem components_of_parent? {p q : Path} (h : p.parent? = some q) :
    q.components = p.components.dropLast := by
  have hparts := parts_trimEnd (splitHead p.toList).2.reverse
  rw [List.reverse_reverse] at hparts
  rw [components_eq p]
  rcases parent?_cases p with ⟨-, hparent⟩ | ⟨htrim, hhead, hparent⟩ | ⟨hne, hparent⟩
  · cases hparent.symm.trans h
  · -- there is a head and nothing else, and its parent is the empty path
    cases hparent.symm.trans h
    rw [hhead, ← hparts, htrim]
    rfl
  · have hhead := splitHead_of_parent? hparent
    obtain ⟨part, hlast⟩ := exists_parts_trimEnd hne
    rw [List.reverse_reverse] at hlast
    cases hparent.symm.trans h
    rw [components_eq, String.toList_ofList, hhead, hlast, List.map_append, ← List.append_assoc]
    exact List.dropLast_concat.symm

theorem components_of_parent?_eq_none {p : Path} (h : p.parent? = none) :
    p.components.dropLast = [] := by
  have hparts := parts_trimEnd (splitHead p.toList).2.reverse
  rw [List.reverse_reverse] at hparts
  rcases parent?_cases p with ⟨htrim, -⟩ | ⟨-, -, hparent⟩ | ⟨-, hparent⟩
  · -- no more than a head is left
    rw [components_eq p, ← hparts, htrim]
    rcases splitHead_cases p.toList with ⟨body, -, hsplit⟩ | ⟨body, -, -, hsplit⟩ | hsplit <;>
      · rw [hsplit]
        rfl
  · cases hparent.symm.trans h
  · cases hparent.symm.trans h

theorem isTrimmed_of_parent? {p q : Path} (h : p.parent? = some q) : q.IsTrimmed := by
  rcases parent?_cases p with ⟨-, hparent⟩ | ⟨-, -, hparent⟩ | ⟨-, hparent⟩
  · cases hparent.symm.trans h
  · cases hparent.symm.trans h
    rfl
  · have hhead := splitHead_of_parent? hparent
    cases hparent.symm.trans h
    rw [IsTrimmed, String.toList_ofList, hhead, List.reverse_reverse, trimEnd_trimEnd]

/-! ### Joining -/

/-- A name that is a part of its own. -/
structure IsFileName (name : String) : Prop where
  ne_nil : name.toList ≠ []
  not_mem : '/' ∉ name.toList
  ne_here : name.toList ≠ ['.']

variable {name : String}

theorem IsFileName.splitHead_eq (hn : IsFileName name) :
    splitHead name.toList = ([], name.toList) := by
  refine splitHead_eq_self_iff.2 ⟨fun h => hn.not_mem ?_, hn.ne_here, fun h => hn.not_mem ?_⟩
  · exact h.subset (by simp)
  · exact h.subset (by simp)

theorem IsFileName.parts_eq (hn : IsFileName name) : parts name.toList = [name.toList] :=
  parts_of_not_mem hn.not_mem hn.ne_nil hn.ne_here

theorem IsFileName.isAbsolute_eq (hn : IsFileName name) : isAbsolute name = false := by
  refine beq_eq_false_iff_ne.2 fun h => hn.not_mem ?_
  exact List.mem_of_mem_head? h

/-- A name at the end is not trimmed. -/
theorem IsFileName.trimEnd_eq (hn : IsFileName name) (rest : List Char) :
    trimEnd (name.toList.reverse ++ rest) = name.toList.reverse ++ rest := by
  obtain ⟨c, cs, hname⟩ := List.exists_cons_of_ne_nil (List.reverse_ne_nil_iff.2 hn.ne_nil)
  have hmem : '/' ∉ c :: cs := hname ▸ fun hmem => hn.not_mem (List.mem_reverse.1 hmem)
  have hhere : c :: cs ≠ ['.'] := fun h =>
    hn.ne_here (by simpa using congrArg List.reverse (hname.trans h))
  rw [hname, trimEnd.eq_4]
  · rintro more h
    exact hmem ((List.cons.inj h).1 ▸ List.mem_cons_self ..)
  · intro h
    exact hhere (by simp_all)
  · rintro more h
    obtain ⟨hc, h⟩ := List.cons.inj h
    cases cs with
    | nil => exact hhere (hc ▸ rfl)
    | cons d cs =>
        obtain ⟨hd, -⟩ := List.cons.inj h
        simp [hd] at hmem

/-- Behind the trimmed directory, a name is cut off. -/
theorem IsFileName.dropWhile_eq (hn : IsFileName name) {rest : List Char}
    (hrest : rest = [] ∨ ∃ more, rest = '/' :: more) :
    (name.toList.reverse ++ rest).dropWhile (· != '/') = rest := by
  rw [List.dropWhile_append_of_pos]
  · rcases hrest with rfl | ⟨more, rfl⟩
    · rfl
    · exact List.dropWhile_cons_of_neg (by simp)
  · intro c hc
    have hne : c ≠ '/' := fun h => hn.not_mem (List.mem_reverse.1 (h ▸ hc))
    simpa using hne

/-- A name is joined behind a slash, be that there already or not. -/
theorem join_cases (p : Path) (hn : IsFileName name) :
    (p = "" ∧ p.join name = name) ∨
      (∃ cs, p.toList = cs ++ ['/'] ∧ (p.join name).toList = cs ++ '/' :: name.toList) ∨
      (p ≠ "" ∧ (p.join name).toList = p.toList ++ '/' :: name.toList) := by
  rw [join, hn.isAbsolute_eq, if_neg Bool.false_ne_true]
  by_cases hp : p = ""
  · subst hp
    exact Or.inl ⟨rfl, String.empty_append⟩
  · cases hslash : p.endsWithSlash with
    | true =>
        obtain ⟨cs, hcs⟩ := List.getLast?_eq_some_iff.1 (eq_of_beq hslash)
        refine Or.inr (Or.inl ⟨cs, hcs, ?_⟩)
        rw [if_pos (by simp), String.toList_append, hcs, List.append_assoc, List.singleton_append]
    | false =>
        refine Or.inr (Or.inr ⟨hp, ?_⟩)
        rw [if_neg (by simp [hp]), String.toList_append, String.toList_append, List.append_assoc]
        rfl

/-- What follows behind a slash adds its own parts. -/
theorem components_append {p q : Path} (hp : p ≠ "") {ds : List Char}
    (hq : q.toList = p.toList ++ '/' :: ds) :
    q.components = p.components ++ (parts ds).map componentOf := by
  have hne : p.toList ≠ [] := fun h => hp (String.toList_eq_nil_iff.1 h)
  rw [components_eq q, components_eq p, hq, splitHead_append_slash hne, parts_append,
    List.map_append, List.append_assoc]

theorem IsFileName.map_parts (hn : IsFileName name) :
    (parts name.toList).map componentOf = [.ofName name] := by
  rw [hn.parts_eq, List.map_singleton, componentOf, String.ofList_toList]

/-- **A name is put behind the components of a path.** -/
theorem components_join (p : Path) (hn : IsFileName name) :
    (p.join name).components = p.components ++ [.ofName name] := by
  rw [← hn.map_parts]
  rcases join_cases p hn with ⟨rfl, hjoin⟩ | ⟨cs, hp, hjoin⟩ | ⟨hp, hjoin⟩
  · rw [hjoin, components_eq name, hn.splitHead_eq]
    rfl
  · by_cases hcs : cs = []
    · -- the slash is the root
      subst hcs
      rw [components_eq (p.join name), components_eq p, hjoin, hp]
      rfl
    · -- the slash at the end adds no part of its own
      have hne : String.ofList cs ≠ "" := fun h => hcs (by simpa using congrArg String.toList h)
      rw [← String.toList_ofList (l := cs)] at hp hjoin
      rw [components_append hne hjoin, components_append hne hp, List.append_assoc]
      rfl
  · exact components_append hp hjoin

/-- Joining a name to a trimmed path puts at most a slash in between. -/
theorem splitHead_join {p : Path} (hp : p ≠ "") (htrim : p.IsTrimmed) (hn : IsFileName name) :
    ∃ lead, splitHead (p.join name).toList = ((splitHead p.toList).1, lead ++ name.toList) ∧
      (lead.reverse = [] ∨ ∃ more, lead.reverse = '/' :: more) ∧
      trimEnd lead.reverse = (splitHead p.toList).2.reverse := by
  rcases join_cases p hn with ⟨rfl, -⟩ | ⟨cs, hcs, hjoin⟩ | ⟨-, hjoin⟩
  · exact absurd rfl hp
  · cases cs with
    | nil =>
        rw [hjoin, hcs]
        exact ⟨[], rfl, Or.inl rfl, rfl⟩
    | cons c cs =>
        -- a slash at the end would have been trimmed off
        exfalso
        rw [IsTrimmed, hcs, splitHead_append_slash (List.cons_ne_nil c cs), List.reverse_append,
          List.reverse_singleton, List.singleton_append, trimEnd] at htrim
        have hlength := length_trimEnd_le (splitHead (c :: cs)).2.reverse
        rw [htrim, List.length_cons] at hlength
        omega
  · have hne : p.toList ≠ [] := fun h => hp (String.toList_eq_nil_iff.1 h)
    refine ⟨(splitHead p.toList).2 ++ ['/'], ?_, Or.inr ⟨(splitHead p.toList).2.reverse, ?_⟩, ?_⟩
    · rw [hjoin, splitHead_append_slash hne, List.append_assoc, List.singleton_append]
    · rw [List.reverse_append, List.reverse_singleton, List.singleton_append]
    · rw [List.reverse_append, List.reverse_singleton, List.singleton_append, trimEnd]
      exact htrim

/-- **The parent of a name in a trimmed directory is that directory.** -/
theorem parent?_join {p : Path} (hp : p ≠ "") (htrim : p.IsTrimmed) (hn : IsFileName name) :
    (p.join name).parent? = some p := by
  obtain ⟨lead, hsplit, hlead, hbody⟩ := splitHead_join hp htrim hn
  have htrimmed : trimEnd (lead ++ name.toList).reverse = name.toList.reverse ++ lead.reverse := by
    rw [List.reverse_append, hn.trimEnd_eq]
  have hne : trimEnd (splitHead (p.join name).toList).2.reverse ≠ [] := by
    rw [hsplit, htrimmed]
    exact fun hnil => hn.ne_nil (List.reverse_eq_nil_iff.1 (List.append_eq_nil_iff.1 hnil).1)
  rcases parent?_cases (p.join name) with ⟨hnil, -⟩ | ⟨hnil, -⟩ | ⟨-, hparent⟩
  · exact absurd hnil hne
  · exact absurd hnil hne
  · rw [hparent, hsplit, htrimmed, hn.dropWhile_eq hlead, hbody, List.reverse_reverse,
      splitHead_append, String.ofList_toList]

/-- The components of a path, less one leading `.`. -/
def afterHere : List Component → List Component
  | .here :: rest => rest
  | components => components

theorem afterHere_append {cs : List Component} (hne : cs ≠ []) (ds : List Component) :
    afterHere (cs ++ ds) = afterHere cs ++ ds := by
  obtain ⟨c, cs, rfl⟩ := List.exists_cons_of_ne_nil hne
  cases c <;> rfl

end Path

/-! ### Output files -/

theorem isFileName_outputFileName : Path.IsFileName outputFileName :=
  ⟨by decide, by decide, by decide⟩

theorem directoryOf_ne_empty (file : Path) : directoryOf file ≠ "" := by
  unfold directoryOf
  split
  · split
    · decide
    · assumption
  · decide

theorem isTrimmed_directoryOf (file : Path) : (directoryOf file).IsTrimmed := by
  unfold directoryOf
  split
  · rename_i parent hparent
    split
    · rfl
    · exact Path.isTrimmed_of_parent? hparent
  · rfl

/-- **The directory that a file is in** has all components of the file but the last, or is the
working directory if there are none. -/
theorem components_directoryOf (file : Path) :
    (directoryOf file).components =
      if file.components.dropLast = [] then [.here] else file.components.dropLast := by
  unfold directoryOf
  split
  · rename_i parent hparent
    rw [← Path.components_of_parent? hparent]
    by_cases hempty : parent = ""
    · rw [if_pos hempty, if_pos (Path.components_eq_nil_iff.2 hempty)]
      decide
    · rw [if_neg hempty, if_neg fun h => hempty (Path.components_eq_nil_iff.1 h)]
  · rename_i hparent
    rw [if_pos (Path.components_of_parent?_eq_none hparent)]
    decide

theorem components_outputFilePath_directory (inputFile : Option Path) (directory : Path) :
    (outputFilePath inputFile (some directory)).components =
      directory.components ++ [.name outputFileName] :=
  Path.components_join directory isFileName_outputFileName

theorem components_outputFilePath_file (file : Path) :
    (outputFilePath (some file) none).components =
      (directoryOf file).components ++ [.name outputFileName] :=
  Path.components_join (directoryOf file) isFileName_outputFileName

/-- The output file beside an input file is in the same directory, by the same name. -/
theorem directoryOf_outputFilePath (file : Path) :
    directoryOf (outputFilePath (some file) none) = directoryOf file := by
  have hparent := Path.parent?_join (directoryOf_ne_empty file) (isTrimmed_directoryOf file)
    isFileName_outputFileName
  show directoryOf ((directoryOf file).join outputFileName) = directoryOf file
  rw [directoryOf, hparent]
  exact if_neg (directoryOf_ne_empty file)

/-- **The output file lands in the output directory, or beside the input.**  In an output directory
it has the components of the directory and then its own name.  Beside an input file it has, up to
one leading `.`, the components of that file with the last one replaced, and is where the output
file for itself would be. -/
theorem output_beside_or_inside :
    (∀ (inputFile : Option Path) (directory : Path),
      (outputFilePath inputFile (some directory)).components =
        directory.components ++ [.name outputFileName]) ∧
    (∀ (file : Path) (name : String), file.components.getLast? = some (.name name) →
      Path.afterHere (outputFilePath (some file) none).components =
        (Path.afterHere file.components).dropLast ++ [.name outputFileName]) ∧
    ∀ file : Path,
      outputFilePath (some (outputFilePath (some file) none)) none =
        outputFilePath (some file) none := by
  refine ⟨components_outputFilePath_directory, fun file name hlast => ?_, fun file => ?_⟩
  · obtain ⟨front, hfile⟩ := List.getLast?_eq_some_iff.1 hlast
    rw [components_outputFilePath_file, components_directoryOf, hfile, List.dropLast_concat]
    by_cases hfront : front = []
    · -- a file that is named alone is in the working directory
      rw [if_pos hfront, hfront]
      rfl
    · rw [if_neg hfront, Path.afterHere_append hfront, Path.afterHere_append hfront,
        List.dropLast_concat]
  · show (directoryOf (outputFilePath (some file) none)).join outputFileName = _
    rw [directoryOf_outputFilePath]
    rfl

/-- Slashes and dots wherever they do not count. -/
theorem output_beside_or_inside_dots :
    let file : Path := ".//in/./../a b//model.json/./"
    let output : Path := ".//in/./../a b/GeneratedInitialization.cs"
    (outputFilePath (some file) (some "/gen//./")).components =
        [.root, .name "gen", .name outputFileName] ∧
      file.components.getLast? = some (.name "model.json") ∧
      outputFilePath (some file) none = output ∧
      Path.afterHere output.components = [.name "in", .up, .name "a b", .name outputFileName] ∧
      outputFilePath (some output) none = output := by
  intro file output
  have hlast : file.components.getLast? = some (.name "model.json") := by decide
  have houtput : outputFilePath (some file) none = output := by decide
  obtain ⟨hinside, hbeside, hagain⟩ := output_beside_or_inside
  have hcomponents := hbeside file "model.json" hlast
  have hfixed := hagain file
  rw [houtput] at hcomponents hfixed
  exact ⟨(hinside (some file) "/gen//./").trans (by decide), hlast, houtput,
    hcomponents.trans (by decide), hfixed⟩

end ObjectInitializer
