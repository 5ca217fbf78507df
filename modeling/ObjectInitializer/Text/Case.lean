/-
**Upper and lower case.**

Full case conversion of Unicode text.  A character may become several (`ß` becomes `SS`, `İ`
becomes `i` and a dot above), and a capital sigma becomes `ς` where it ends a word and `σ`
elsewhere.  A sigma ends a word if, skipping the characters that case ignores, a cased character
stands before it and none stands after it.

Main definitions:

* `Text.upperChar`, `Text.upper` — the upper-case form of a character and of a text;
* `Text.lowerChar`, `Text.lower` — the lower-case form of a character by itself and of a text.
-/

import ObjectInitializer.Text.CaseTable

set_option relaxedAutoImplicit false
set_option autoImplicit false

namespace ObjectInitializer.Text

/-! ### Single characters -/

/-- The upper-case form of a character. -/
def upperChar (c : Char) : List Char :=
  if c.toNat < 128 then [c.toUpper]
  else
    match longUpper.lookup c.toNat with
    | some image => image.map Char.ofNat
    | none =>
      match upperRuns.findSome? (·.map? c.toNat) with
      | some n => [Char.ofNat n]
      | none => [c]

/-- The lower-case form of a character outside of any word. -/
def lowerChar (c : Char) : List Char :=
  if c.toNat < 128 then [c.toLower]
  else if c = 'İ' then ['i', Char.ofNat 0x307]
  else
    match lowerRuns.findSome? (·.map? c.toNat) with
    | some n => [Char.ofNat n]
    | none => [c]

/-! ### Texts -/

/-- The upper-case form of a text. -/
def upper (cs : List Char) : List Char :=
  cs.flatMap upperChar

/-- Whether the first character that case does not ignore is a cased one. -/
def startsCased (cs : List Char) : Bool :=
  match cs.dropWhile fun c => inSpans caseIgnorable c.toNat with
  | [] => false
  | c :: _ => inSpans casedSpans c.toNat

/-- The lower-case form of the text `cs` that stands after the reversed text `before`, put behind
the reversed text `done`. -/
def lowerAfter (before done : List Char) : List Char → List Char
  | [] => done.reverse
  | c :: cs =>
    let image :=
      if c = 'Σ' then [if startsCased before && !startsCased cs then 'ς' else 'σ']
      else lowerChar c
    lowerAfter (c :: before) (image.reverse ++ done) cs

/-- The lower-case form of a text. -/
def lower (cs : List Char) : List Char :=
  lowerAfter [] [] cs

@[simp] theorem upper_nil : upper [] = [] := rfl

@[simp] theorem upper_cons (c : Char) (cs : List Char) :
    upper (c :: cs) = upperChar c ++ upper cs := by
  simp [upper]

@[simp] theorem lower_nil : lower [] = [] := rfl

end ObjectInitializer.Text
