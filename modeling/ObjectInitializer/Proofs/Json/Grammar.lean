/-
**The grammar of JSON.**

Which texts denote which value, without a reader.  A value has many spellings: blanks may stand
around it and between its parts, strings have escapes, and an object may give a key more than once,
of which the last value counts and the first place.  An object whose first key is `Json.boxKey` is
no object but the number in its only member.

Main definitions:

* `Json.IsSpaces`, `Json.commas` — what stands between the parts;
* `Json.SpellsKey`, `Json.MemberText` — the text of a key, and of a member;
* `Json.Spells` — **the texts that denote a value**.

Main results:

* `Json.Spells.starts` — behind blanks, a value starts with a character of its own;
* `Json.Spells.append_spaces`, `Json.Spells.spaces_append` — blanks around a value change nothing.
-/

import ObjectInitializer.Json.Document
import ObjectInitializer.Proofs.Json.Members
import ObjectInitializer.Proofs.Json.Numeral
import ObjectInitializer.Proofs.Json.Strings

set_option relaxedAutoImplicit false
set_option autoImplicit false

namespace ObjectInitializer.Json

/-! ### Between the parts -/

/-- Blanks, or nothing. -/
def IsSpaces (cs : List Char) : Prop :=
  ∀ c ∈ cs, isSpace c = true

theorem isSpaces_nil : IsSpaces [] := by
  simp [IsSpaces]

theorem IsSpaces.append {gap more : List Char} (h : IsSpaces gap) (hmore : IsSpaces more) :
    IsSpaces (gap ++ more) := by
  intro c hc
  exact (List.mem_append.1 hc).elim (h c) (hmore c)

/-- Texts with a comma between one and the next. -/
def commas : List (List Char) → List Char
  | [] => []
  | text :: texts => text ++ texts.flatMap (',' :: ·)

/-! ### Members -/

/-- The texts that denote a key, with the colon behind. -/
inductive SpellsKey : List Char → String → Prop where
  | intro {before text s gap : List Char} (hbefore : IsSpaces before) (hkey : SpellsString text s)
      (hgap : IsSpaces gap) :
      SpellsKey (before ++ '"' :: (text ++ '"' :: (gap ++ [':']))) (String.ofList s)

/-- A member of an object with the texts of its key and its value. -/
structure MemberText where
  keyText : List Char
  key : String
  valueText : List Char
  value : Json

/-- The text of a member. -/
def MemberText.text (m : MemberText) : List Char :=
  m.keyText ++ m.valueText

/-- The member itself. -/
def MemberText.member (m : MemberText) : String × Json :=
  (m.key, m.value)

/-! ### Values -/

/-- **The texts that denote a value.** -/
inductive Spells : List Char → Json → Prop where
  | null : Spells ['n', 'u', 'l', 'l'] .null
  | boolTrue : Spells ['t', 'r', 'u', 'e'] (.bool true)
  | boolFalse : Spells ['f', 'a', 'l', 's', 'e'] (.bool false)
  | number {digits : List Char} (hdigits : IsNumeral digits) :
      Spells digits (.number (String.ofList (numberText digits)))
  | string {text s : List Char} (htext : SpellsString text s) :
      Spells ('"' :: (text ++ ['"'])) (.string (String.ofList s))
  /-- Items with commas between them; none behind the last, and blanks if there are none. -/
  | array {items : List (List Char × Json)} {gap : List Char}
      (hitems : ∀ item ∈ items, Spells item.1 item.2) (hgap : IsSpaces gap) :
      Spells ('[' :: (commas (items.map Prod.fst) ++ (gap ++ [']'])))
        (.array (items.map Prod.snd))
  /-- Members with commas between them, of which the first is not that of a boxed number. -/
  | object {members : List MemberText} {gap : List Char}
      (hkeys : ∀ m ∈ members, SpellsKey m.keyText m.key)
      (hvalues : ∀ m ∈ members, Spells m.valueText m.value)
      (hfirst : ∀ m ∈ members.head?, m.key ≠ boxKey) (hgap : IsSpaces gap) :
      Spells ('\x7b' :: (commas (members.map MemberText.text) ++ (gap ++ ['\x7d'])))
        (.object (setMembers [] (members.map MemberText.member)))
  /-- A boxed number. -/
  | boxed {keyText before text digits after : List Char} (hkey : SpellsKey keyText boxKey)
      (hbefore : IsSpaces before) (htext : SpellsString text digits) (hdigits : IsNumeral digits)
      (hafter : IsSpaces after) :
      Spells ('\x7b' :: (keyText ++ (before ++ '"' :: (text ++ '"' :: (after ++ ['\x7d'])))))
        (.number (String.ofList (numberText digits)))
  /-- Blanks around a value. -/
  | pad {before text after : List Char} {v : Json} (hbefore : IsSpaces before)
      (htext : Spells text v) (hafter : IsSpaces after) : Spells (before ++ (text ++ after)) v

/-- An array without items. -/
theorem Spells.emptyArray {gap : List Char} (hgap : IsSpaces gap) :
    Spells ('[' :: (gap ++ [']'])) (.array []) := by
  have hitems : ∀ item ∈ ([] : List (List Char × Json)), Spells item.1 item.2 := by simp
  exact .array hitems hgap

/-- An object without members. -/
theorem Spells.emptyObject {gap : List Char} (hgap : IsSpaces gap) :
    Spells ('\x7b' :: (gap ++ ['\x7d'])) (.object []) := by
  have hmembers : ∀ m ∈ ([] : List MemberText), SpellsKey m.keyText m.key ∧
      Spells m.valueText m.value := by simp
  exact .object (fun m hm => (hmembers m hm).1) (fun m hm => (hmembers m hm).2) (by simp) hgap

/-! ### Where a value starts -/

/-- Skipping blanks does not change what follows them. -/
theorem skipSpace_append {gap : List Char} (hgap : IsSpaces gap) (cs : List Char) :
    skipSpace (gap ++ cs) = skipSpace cs :=
  List.dropWhile_append_of_pos hgap

theorem skipSpace_of_stops {cs : List Char} (h : Stops isSpace cs) : skipSpace cs = cs := by
  cases cs with
  | nil => rfl
  | cons c cs => simp [skipSpace, stops_cons.1 h]

/-- A text is the blanks that it starts with and what follows them. -/
theorem exists_gap (cs : List Char) :
    ∃ gap, IsSpaces gap ∧ cs = gap ++ skipSpace cs ∧ Stops isSpace (skipSpace cs) := by
  refine ⟨cs.takeWhile isSpace, List.all_eq_true.1 List.all_takeWhile,
    List.takeWhile_append_dropWhile.symm, ?_⟩
  intro c hc
  have hhead := List.head?_dropWhile_not isSpace cs
  rw [show (cs.dropWhile isSpace).head? = some c from hc] at hhead
  simpa using hhead

/-- The characters that a value may start with. -/
def startsValue (c : Char) : Bool :=
  startsNumber c || c == '"' || c == '[' || c == '\x7b' || c == 'n' || c == 't' || c == 'f'

/-- **Behind blanks, a value starts with a character of its own.** -/
theorem Spells.starts {text : List Char} {v : Json} (h : Spells text v) :
    ∃ gap c cs, IsSpaces gap ∧ text = gap ++ c :: cs ∧ startsValue c = true := by
  induction h with
  | null => exact ⟨[], _, _, isSpaces_nil, rfl, rfl⟩
  | boolTrue => exact ⟨[], _, _, isSpaces_nil, rfl, rfl⟩
  | boolFalse => exact ⟨[], _, _, isSpaces_nil, rfl, rfl⟩
  | number hdigits =>
      obtain ⟨c, cs, rfl, hc⟩ := hdigits.starts
      exact ⟨[], c, cs, isSpaces_nil, rfl, by simp [startsValue, hc]⟩
  | string _ => exact ⟨[], _, _, isSpaces_nil, rfl, rfl⟩
  | array _ _ _ => exact ⟨[], _, _, isSpaces_nil, rfl, rfl⟩
  | object _ _ _ _ _ => exact ⟨[], _, _, isSpaces_nil, rfl, rfl⟩
  | boxed _ _ _ _ _ => exact ⟨[], _, _, isSpaces_nil, rfl, rfl⟩
  | @pad before text after v hbefore _ _ ih =>
      obtain ⟨gap, c, cs, hgap, rfl, hc⟩ := ih
      exact ⟨before ++ gap, c, cs ++ after, hbefore.append hgap, by simp, hc⟩

/-- A value may have blanks behind it. -/
theorem Spells.append_spaces {text after : List Char} {v : Json} (h : Spells text v)
    (hafter : IsSpaces after) : Spells (text ++ after) v :=
  .pad isSpaces_nil h hafter

/-- A value may have blanks in front of it. -/
theorem Spells.spaces_append {before text : List Char} {v : Json} (hbefore : IsSpaces before)
    (h : Spells text v) : Spells (before ++ text) v := by
  simpa using Spells.pad hbefore h isSpaces_nil

end ObjectInitializer.Json
