/-
**Lines and places in a text.**

A place in a text is a number of bytes of its UTF-8 form; it is reported as a line, counted from
one, and a column, the number of bytes since the last line feed.  A line is what stands between two
line feeds, less one carriage return before the closing one; a text that ends with a line feed has
no further line after it.

Main definitions:

* `Text.byteSize` — the length of the UTF-8 form;
* `Text.Position`, `Text.positionOf` — line and column of a place;
* `Text.line?` — the lines of a text, by number.
-/

set_option relaxedAutoImplicit false
set_option autoImplicit false

namespace ObjectInitializer.Text

/-! ### Size -/

/-- The number of bytes of the UTF-8 form. -/
def byteSize (cs : List Char) : Nat :=
  cs.foldl (fun n c => n + c.utf8Size) 0

theorem foldl_utf8Size (cs : List Char) (n : Nat) :
    cs.foldl (fun n c => n + c.utf8Size) n = n + byteSize cs := by
  induction cs generalizing n with
  | nil => rfl
  | cons c cs ih => simp only [byteSize, List.foldl_cons, ih (n + c.utf8Size), ih (0 + c.utf8Size)]; omega

@[simp] theorem byteSize_nil : byteSize [] = 0 := rfl

@[simp] theorem byteSize_cons (c : Char) (cs : List Char) :
    byteSize (c :: cs) = c.utf8Size + byteSize cs := by
  simp only [byteSize, List.foldl_cons]
  rw [foldl_utf8Size, foldl_utf8Size]
  simp only [byteSize]
  omega

@[simp] theorem byteSize_append (as bs : List Char) :
    byteSize (as ++ bs) = byteSize as + byteSize bs := by
  induction as with
  | nil => simp
  | cons c as ih => simp [ih, Nat.add_assoc]

/-- The size of a string is that of its characters. -/
@[simp] theorem byteSize_toList (s : String) : byteSize s.toList = s.utf8ByteSize := by
  suffices h : ∀ cs : List Char, byteSize cs = (String.ofList cs).utf8ByteSize by
    rw [h, String.ofList_toList]
  intro cs
  induction cs with
  | nil => rfl
  | cons c cs ih =>
    rw [show c :: cs = [c] ++ cs from rfl, String.ofList_append, String.utf8ByteSize_append,
      byteSize_append, ih, ← String.singleton_eq_ofList]
    simp

/-! ### Positions -/

/-- A line, counted from one, and a column, in bytes since the last line feed. -/
structure Position where
  line : Nat
  column : Nat
  deriving Repr, DecidableEq

/-- The position reached from `start` by passing `n` further bytes.  A count that ends inside a
character passes the bytes of that character that it covers. -/
def Position.advance (start : Position) : List Char → Nat → Position
  | [], _ => start
  | c :: cs, n =>
    if n < c.utf8Size then { start with column := start.column + n }
    else if c = '\n' then Position.advance ⟨start.line + 1, 0⟩ cs (n - c.utf8Size)
    else Position.advance { start with column := start.column + c.utf8Size } cs (n - c.utf8Size)

/-- The position of the place after the first `n` bytes of the text. -/
def positionOf (cs : List Char) (n : Nat) : Position :=
  Position.advance ⟨1, 0⟩ cs n

/-! ### Lines -/

/-- A line without the carriage return that belongs to its line break. -/
def dropReturn (line : List Char) : List Char :=
  if line.getLast? = some '\r' then line.dropLast else line

/-- The line with the given number, counted from zero. -/
def line? : Nat → List Char → Option (List Char)
  | _, [] => none
  | 0, cs =>
    match cs.dropWhile (· != '\n') with
    | [] => some cs
    | _ :: _ => some (dropReturn (cs.takeWhile (· != '\n')))
  | n + 1, cs => line? n ((cs.dropWhile (· != '\n')).drop 1)

@[simp] theorem line?_nil (n : Nat) : line? n [] = none := by cases n <;> rfl

end ObjectInitializer.Text
