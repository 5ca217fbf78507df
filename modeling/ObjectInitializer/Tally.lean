/-
**Counts of a rendering.**

What a rendering met: the objects, arrays and properties that it wrote, what it left out, and how
deep blocks and collections were nested.

Main definitions:

* `Tally` — the counts;
* `Tally.empty` — nothing met yet.
-/

set_option relaxedAutoImplicit false
set_option autoImplicit false

namespace ObjectInitializer

/-- Counts of a rendering. -/
structure Tally where
  objects : Nat
  arrays : Nat
  properties : Nat
  skippedMetaProperties : Nat
  skippedNullElements : Nat
  unsupportedValues : Nat
  /-- The deepest nesting of blocks and collections. -/
  maxDepth : Nat
  deriving Repr, DecidableEq

namespace Tally

/-- Nothing met yet. -/
def empty : Tally := ⟨0, 0, 0, 0, 0, 0, 0⟩

/-- One more object. -/
def addObject (t : Tally) : Tally := { t with objects := t.objects + 1 }

/-- One more array. -/
def addArray (t : Tally) : Tally := { t with arrays := t.arrays + 1 }

/-- One more property. -/
def addProperty (t : Tally) : Tally := { t with properties := t.properties + 1 }

/-- One more entry left out as metadata. -/
def addMeta (t : Tally) : Tally :=
  { t with skippedMetaProperties := t.skippedMetaProperties + 1 }

/-- One more null left out of an array. -/
def addNull (t : Tally) : Tally :=
  { t with skippedNullElements := t.skippedNullElements + 1 }

/-- One more value with no counterpart. -/
def addUnsupported (t : Tally) : Tally :=
  { t with unsupportedValues := t.unsupportedValues + 1 }

/-- A nesting that has been reached. -/
def reach (t : Tally) (nesting : Nat) : Tally :=
  { t with maxDepth := max t.maxDepth nesting }

end Tally

end ObjectInitializer
