/-
**What stands around a value.**

A value stands in a document at any depth: inside of an array, as the value of a member, and with
blanks around it.  Each of these is one `Surround`, and a list of them, the outermost first, leads
from the whole document to the value.  The text in the middle may be any that spells a value, and
the document then spells what the value makes of the surroundings.

A member can be lost: if its key comes again, the later value counts.  The value of the document
then does not depend on it.

Main definitions:

* `Json.Surround` — what stands directly around a value;
* `Json.Surround.text`, `Json.Surround.value` — a text and a value with it;
* `Json.surroundText`, `Json.surroundValue` — the same for surroundings up to a whole document;
* `Json.Surround.Loses` — whether a later member takes the place of the value.

Main results:

* `Json.spells_surround` — **a document spells what is in it**;
* `Json.surroundValue_lost` — a value that is lost is nowhere in the document.
-/

import ObjectInitializer.Proofs.Json.Grammar

set_option relaxedAutoImplicit false
set_option autoImplicit false

namespace ObjectInitializer.Json

/-! ### Surroundings -/

/-- What stands directly around a value in a text. -/
inductive Surround where
  | blanks (before after : List Char)
  /-- An array, by its other items, and the blanks in front of its end. -/
  | items (before after : List (List Char × Json)) (gap : List Char)
  /-- An object, by its other members, the key of the value, and the blanks in front of its end. -/
  | members (before : List MemberText) (keyText : List Char) (key : String)
      (after : List MemberText) (gap : List Char)

namespace Surround

/-- A text with what stands around it. -/
def text : Surround → List Char → List Char
  | .blanks before after, cs => before ++ (cs ++ after)
  | .items before after gap, cs =>
    '[' :: (commas (before.map Prod.fst ++ cs :: after.map Prod.fst) ++ (gap ++ [']']))
  | .members before keyText _ after gap, cs =>
    let texts := before.map MemberText.text ++ (keyText ++ cs) :: after.map MemberText.text
    '\x7b' :: (commas texts ++ (gap ++ ['\x7d']))

/-- A value with what stands around it. -/
def value : Surround → Json → Json
  | .blanks _ _, v => v
  | .items before after _, v => .array (before.map Prod.snd ++ v :: after.map Prod.snd)
  | .members before _ key after _, v =>
    .object (setMembers []
      (before.map MemberText.member ++ (key, v) :: after.map MemberText.member))

/-- Surroundings are part of a document: their texts spell keys and values, and an object is no
boxed number. -/
def WellFormed : Surround → Prop
  | .blanks before after => IsSpaces before ∧ IsSpaces after
  | .items before after gap => (∀ item ∈ before ++ after, Spells item.1 item.2) ∧ IsSpaces gap
  | .members before keyText key after gap =>
    (∀ m ∈ before ++ after, SpellsKey m.keyText m.key ∧ Spells m.valueText m.value) ∧
      SpellsKey keyText key ∧ (before.map MemberText.key ++ [key]).head? ≠ some boxKey ∧
      IsSpaces gap

/-- The key of the value, if it is that of a member. -/
def key? : Surround → Option String
  | .members _ _ key _ _ => some key
  | _ => none

/-- Whether a later member takes the place of the value. -/
def Loses : Surround → Prop
  | .members _ _ key after _ => key ∈ after.map MemberText.key
  | _ => False

variable {surround : Surround} {cs : List Char} {v : Json}

/-- What holds of all but one of a list, and of that one, holds of the list. -/
theorem forall_mem_around {α : Type} {P : α → Prop} {before after : List α} {a : α}
    (h : ∀ b ∈ before ++ after, P b) (ha : P a) : ∀ b ∈ before ++ a :: after, P b := by
  obtain ⟨hbefore, hafter⟩ := List.forall_mem_append.1 h
  exact List.forall_mem_append.2 ⟨hbefore, List.forall_mem_cons.2 ⟨ha, hafter⟩⟩

/-- **A text spells a value with what is around it.** -/
theorem WellFormed.spells (h : surround.WellFormed) (htext : Spells cs v) :
    Spells (surround.text cs) (surround.value v) := by
  cases surround with
  | blanks before after => exact .pad h.1 htext h.2
  | items before after gap =>
      obtain ⟨hitems, hgap⟩ := h
      have hall : ∀ item ∈ before ++ (cs, v) :: after, Spells item.1 item.2 :=
        forall_mem_around hitems htext
      simpa [text, value] using Spells.array hall hgap
  | members before keyText key after gap =>
      obtain ⟨hmembers, hkey, hfirst, hgap⟩ := h
      have hall : ∀ m ∈ before ++ ⟨keyText, key, cs, v⟩ :: after,
          SpellsKey m.keyText m.key ∧ Spells m.valueText m.value :=
        forall_mem_around hmembers ⟨hkey, htext⟩
      have hhead : ∀ m ∈ (before ++ ⟨keyText, key, cs, v⟩ :: after).head?, m.key ≠ boxKey := by
        intro m hm hbox
        cases before with
        | nil =>
            cases hm
            exact hfirst (congrArg some hbox)
        | cons first before =>
            cases hm
            exact hfirst (congrArg some hbox)
      have hspells :=
        Spells.object (fun m hm => (hall m hm).1) (fun m hm => (hall m hm).2) hhead hgap
      simpa [text, value, MemberText.text, MemberText.member] using hspells

/-- A value that is lost is not in what is around it. -/
theorem Loses.value_eq (h : surround.Loses) (v w : Json) : surround.value v = surround.value w := by
  cases surround with
  | blanks _ _ => exact h.elim
  | items _ _ _ => exact h.elim
  | members before keyText key after gap =>
      have hagain : key ∈ (after.map MemberText.member).map Prod.fst := by
        rw [List.map_map]
        exact h
      rw [value, value, setMembers_append, setMembers_append, setMembers_overwritten _ _ hagain v w]

end Surround

/-! ### Whole documents -/

/-- A document with the text in the middle of the surroundings, of which the outermost comes
first. -/
def surroundText (around : List Surround) (cs : List Char) : List Char :=
  around.foldr Surround.text cs

/-- The value of a document with the value in the middle of the surroundings. -/
def surroundValue (around : List Surround) (v : Json) : Json :=
  around.foldr Surround.value v

variable {around : List Surround} {cs : List Char} {v : Json}

/-- **A document spells what is in it.** -/
theorem spells_surround (haround : ∀ surround ∈ around, surround.WellFormed) (h : Spells cs v) :
    Spells (surroundText around cs) (surroundValue around v) := by
  induction around with
  | nil => exact h
  | cons surround around ih =>
      obtain ⟨hfirst, hrest⟩ := List.forall_mem_cons.1 haround
      exact hfirst.spells (ih hrest)

/-- **A value that is lost is nowhere in the document.** -/
theorem surroundValue_lost (h : ∃ surround ∈ around, surround.Loses) (v w : Json) :
    surroundValue around v = surroundValue around w := by
  induction around with
  | nil =>
      obtain ⟨surround, hmem, -⟩ := h
      cases hmem
  | cons first around ih =>
      obtain ⟨surround, hmem, hloses⟩ := h
      rcases List.mem_cons.1 hmem with rfl | hmem
      · exact hloses.value_eq _ _
      · exact congrArg first.value (ih ⟨surround, hmem, hloses⟩)

end ObjectInitializer.Json
