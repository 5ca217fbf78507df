/-
**Blank characters.**

The characters with the Unicode property `White_Space`, and the text without the blanks at its
two ends.  The class is wider than the blanks of a JSON document, which are only the four of
`Json.isSpace`: it decides when a document counts as empty, when a class name is refused, and what
is trimmed from the text of a memory limit.

Main definitions:

* `Text.isBlank` — the property itself;
* `Text.trim` — a text without its leading and trailing blanks.
-/

set_option relaxedAutoImplicit false
set_option autoImplicit false

namespace ObjectInitializer.Text

/-- The Unicode property `White_Space`. -/
def isBlank (c : Char) : Bool :=
  let n := c.toNat
  (0x9 ≤ n && n ≤ 0xD) || n == 0x20 || n == 0x85 || n == 0xA0 || n == 0x1680 ||
    (0x2000 ≤ n && n ≤ 0x200A) || n == 0x2028 || n == 0x2029 || n == 0x202F || n == 0x205F ||
    n == 0x3000

/-- The text without the blanks at its two ends. -/
def trim (cs : List Char) : List Char :=
  ((cs.dropWhile isBlank).reverse.dropWhile isBlank).reverse

@[simp] theorem trim_nil : trim [] = [] := rfl

end ObjectInitializer.Text
