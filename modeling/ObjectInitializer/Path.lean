/-
**Paths.**

A path is a text whose parts are separated by slashes.  Repeated and trailing slashes do not count,
nor does a `.` as a part, unless the path starts with it.  Parent and join work on the text itself,
so that what is left of a path keeps its spelling.

Main definitions:

* `Path`, `Path.components` — a path and the parts that count;
* `Path.parent?` — the path without its last part;
* `Path.join` — a path continued by a relative one;
* `Path.ancestors` — a path, its parent, the parent of that, and so on.
-/

set_option relaxedAutoImplicit false
set_option autoImplicit false

namespace ObjectInitializer

/-- A path, by its text. -/
abbrev Path := String

namespace Path

/-! ### Parts -/

/-- The pieces of a text between slashes; there is one more of them than slashes. -/
def pieces : List Char → List (List Char)
  | [] => [[]]
  | c :: cs =>
    if c = '/' then [] :: pieces cs
    else
      match pieces cs with
      | [] => [[c]]
      | piece :: rest => (c :: piece) :: rest

/-- The non-empty pieces of a path. -/
def names (p : Path) : List String :=
  ((pieces p.toList).filter fun piece => !piece.isEmpty).map String.ofList

/-- Whether a path starts at the root. -/
def isAbsolute (p : Path) : Bool :=
  p.toList.head? == some '/'

/-- Whether a path ends with a slash. -/
def endsWithSlash (p : Path) : Bool :=
  p.toList.getLast? == some '/'

/-- A part of a path that counts. -/
inductive Component where
  /-- The root, in front of an absolute path. -/
  | root
  /-- The `.` that a relative path starts with. -/
  | here
  /-- The part `..`. -/
  | up
  | name (text : String)
  deriving Repr, DecidableEq

/-- The component that a name stands for. -/
def Component.ofName (name : String) : Component :=
  if name = ".." then .up else .name name

/-- The parts of a path that count. -/
def components (p : Path) : List Component :=
  let inner := (p.names.filter (· ≠ ".")).map Component.ofName
  if p.isAbsolute then .root :: inner
  else if p.names.head? = some "." then .here :: inner
  else inner

/-! ### Parents -/

/-- The root or leading `.` of a path, and the rest of its text. -/
def splitHead : List Char → List Char × List Char
  | '/' :: body => (['/'], body)
  | ['.'] => (['.'], [])
  | '.' :: '/' :: body => (['.'], '/' :: body)
  | cs => ([], cs)

/-- The reversed text of a path without the slashes and the parts `.` at its end. -/
def trimEnd : List Char → List Char
  | '/' :: rest => trimEnd rest
  | ['.'] => []
  | '.' :: '/' :: rest => trimEnd rest
  | cs => cs

/-- The path without its last part; the root and the empty path have none. -/
def parent? (p : Path) : Option Path :=
  let (head, body) := splitHead p.toList
  match trimEnd body.reverse with
  | [] => if head = ['.'] then some "" else none
  | c :: cs =>
    some (String.ofList (head ++ (trimEnd ((c :: cs).dropWhile (· != '/'))).reverse))

/-! ### Joining -/

/-- A path continued by another one; an absolute path replaces it. -/
def join (p q : Path) : Path :=
  if q.isAbsolute then q
  else if p = "" || p.endsWithSlash then p ++ q
  else p ++ "/" ++ q

/-! ### Ancestors -/

theorem splitHead_append (cs : List Char) : (splitHead cs).1 ++ (splitHead cs).2 = cs := by
  unfold splitHead
  split <;> simp

theorem length_trimEnd_le (cs : List Char) : (trimEnd cs).length ≤ cs.length := by
  fun_induction trimEnd cs with
  | case1 rest ih => simp only [List.length_cons]; omega
  | case2 => simp
  | case3 rest ih => simp only [List.length_cons]; omega
  | case4 => exact Nat.le_refl _

theorem head?_trimEnd_ne (cs : List Char) : (trimEnd cs).head? ≠ some '/' := by
  fun_induction trimEnd cs with
  | case1 rest ih => exact ih
  | case2 => simp
  | case3 rest ih => exact ih
  | case4 cs h₁ =>
    cases cs with
    | nil => simp
    | cons c cs =>
      simp only [List.head?_cons, ne_eq, Option.some.injEq]
      exact fun hc => h₁ cs (hc ▸ rfl)

/-- **How a parent is found.**  Behind the head, the last part of the trimmed body is cut off.  If
there is none, only a leading `.` has a parent. -/
theorem parent?_cases (p : Path) :
    (trimEnd (splitHead p.toList).2.reverse = [] ∧ p.parent? = none) ∨
      (trimEnd (splitHead p.toList).2.reverse = [] ∧ (splitHead p.toList).1 = ['.'] ∧
        p.parent? = some "") ∨
      (trimEnd (splitHead p.toList).2.reverse ≠ [] ∧
        p.parent? = some (String.ofList ((splitHead p.toList).1 ++ (trimEnd
          ((trimEnd (splitHead p.toList).2.reverse).dropWhile (· != '/'))).reverse))) := by
  unfold parent?
  dsimp only
  cases htrim : trimEnd (splitHead p.toList).2.reverse with
  | nil =>
      by_cases hhead : (splitHead p.toList).1 = ['.']
      · exact Or.inr (Or.inl ⟨rfl, hhead, if_pos hhead⟩)
      · exact Or.inl ⟨rfl, if_neg hhead⟩
  | cons c cs => exact Or.inr (Or.inr ⟨by simp, rfl⟩)

/-- A parent is shorter than its path. -/
theorem length_lt_of_parent? {p q : Path} (hp : p ≠ "") (h : parent? p = some q) :
    q.toList.length < p.toList.length := by
  rcases parent?_cases p with ⟨-, hparent⟩ | ⟨-, -, hparent⟩ | ⟨hne, hparent⟩
  · cases hparent.symm.trans h
  · cases hparent.symm.trans h
    exact List.length_pos_iff.2 fun hnil => hp (String.toList_eq_nil_iff.1 hnil)
  · cases hparent.symm.trans h
    have happend := congrArg List.length (splitHead_append p.toList)
    have hhead := head?_trimEnd_ne (splitHead p.toList).2.reverse
    have htrim := length_trimEnd_le (splitHead p.toList).2.reverse
    -- the last part has at least one character
    obtain ⟨c, cs, hcs⟩ := List.exists_cons_of_ne_nil hne
    have hc : c ≠ '/' := by simpa [hcs] using hhead
    rw [hcs, List.dropWhile_cons_of_pos (by simpa using hc)]
    have hdrop := (List.dropWhile_sublist (l := cs) (· != '/')).length_le
    have hrest := length_trimEnd_le (cs.dropWhile (· != '/'))
    rw [hcs, List.length_cons] at htrim
    simp only [String.toList_ofList, List.length_append, List.length_reverse] at *
    omega

/-- The path, its parent, the parent of that, and so on; the empty path is left out. -/
def ancestors (p : Path) : List Path :=
  if _hp : p = "" then []
  else
    match _hq : parent? p with
    | none => [p]
    | some q => p :: ancestors q
termination_by p.toList.length
decreasing_by exact length_lt_of_parent? _hp _hq

end Path

end ObjectInitializer
