/-
**The compact form of a value that was read.**

A value that was read is not just any value: its numbers are numerals and none of them is `-0`, the
keys of its objects are different from each other, and none of the objects could be taken for a
boxed number.  The compact form of such a value spells it again, and among all texts that spell the
value it is one of the shortest, whatever blanks, escapes, repeated keys and boxes they have.

Main definitions:

* `Json.compactText` — the compact form as a list of characters;
* `Json.Canonical` — what is true of a value that was read.

Main results:

* `Json.toList_compact` — the list of characters is that of the compact form;
* `Json.Spells.byteSize_compactText_le` — **the compact form is no longer than any spelling**;
* `Json.Spells.canonical`, `Json.Canonical.spells` — what a text spells is canonical, and the
  compact form of what is canonical spells it;
* `Json.parse_eq_ok_iff`, `Json.parse_compact_of_parse` — a text is parsed exactly if it spells a
  value, and then **the compact form of the value is parsed as the same value**.
-/

import ObjectInitializer.Json.Compact
import ObjectInitializer.Json.Parse
import ObjectInitializer.Proofs.Json.Completeness

set_option relaxedAutoImplicit false
set_option autoImplicit false

namespace ObjectInitializer.Json

open Text

/-! ### Characters of the compact form -/

/-- The compact form of a string. -/
def stringText (s : String) : List Char :=
  '"' :: (s.toList.flatMap escapeChar ++ ['"'])

mutual

/-- The compact form of a value. -/
def compactText : Json → List Char
  | .null => ['n', 'u', 'l', 'l']
  | .bool true => ['t', 'r', 'u', 'e']
  | .bool false => ['f', 'a', 'l', 's', 'e']
  | .number text => text.toList
  | .string text => stringText text
  | .array items => '[' :: (commas (itemTexts items) ++ [']'])
  | .object members => '\x7b' :: (commas (memberTexts members) ++ ['\x7d'])

/-- The compact forms of items. -/
def itemTexts : List Json → List (List Char)
  | [] => []
  | v :: vs => compactText v :: itemTexts vs

/-- The compact forms of members. -/
def memberTexts : List (String × Json) → List (List Char)
  | [] => []
  | (key, v) :: ms => (stringText key ++ ':' :: compactText v) :: memberTexts ms

end

/-- The compact form of a member. -/
def compactMember (m : String × Json) : List Char :=
  stringText m.1 ++ ':' :: compactText m.2

theorem itemTexts_eq_map (items : List Json) : itemTexts items = items.map compactText := by
  induction items with
  | nil => rfl
  | cons v items ih => rw [itemTexts, ih, List.map_cons]

theorem memberTexts_eq_map (members : List (String × Json)) :
    memberTexts members = members.map compactMember := by
  induction members with
  | nil => rfl
  | cons m members ih =>
      obtain ⟨key, v⟩ := m
      rw [memberTexts, ih, List.map_cons, compactMember]

/-- Texts with commas between them, where another one stands before if this is not the `first`. -/
def commasAfter (first : Bool) (texts : List (List Char)) : List Char :=
  if first then commas texts else texts.flatMap (',' :: ·)

theorem commasAfter_cons (first : Bool) (text : List Char) (texts : List (List Char)) :
    commasAfter first (text :: texts) =
      (if first then [] else [',']) ++ (text ++ commasAfter false texts) := by
  cases first <;> simp [commasAfter, commas]

mutual

theorem toList_writeCompact (out : String) (v : Json) :
    (writeCompact out v).toList = out.toList ++ compactText v := by
  cases v with
  | null => simp [writeCompact, compactText]
  | bool value => cases value <;> simp [writeCompact, compactText]
  | number text => simp [writeCompact, compactText]
  | string text => simp [writeCompact, compactText, stringText]
  | array items => simp [writeCompact, compactText, toList_writeCompactItems, commasAfter]
  | object members => simp [writeCompact, compactText, toList_writeCompactMembers, commasAfter]

theorem toList_writeCompactItems (out : String) (first : Bool) (items : List Json) :
    (writeCompactItems out first items).toList =
      out.toList ++ commasAfter first (itemTexts items) := by
  cases items with
  | nil => cases first <;> simp [writeCompactItems, itemTexts, commasAfter, commas]
  | cons v items =>
      rw [writeCompactItems, toList_writeCompactItems, toList_writeCompact, itemTexts,
        commasAfter_cons]
      cases first <;> simp

theorem toList_writeCompactMembers (out : String) (first : Bool)
    (members : List (String × Json)) :
    (writeCompactMembers out first members).toList =
      out.toList ++ commasAfter first (memberTexts members) := by
  cases members with
  | nil => cases first <;> simp [writeCompactMembers, memberTexts, commasAfter, commas]
  | cons m members =>
      obtain ⟨key, v⟩ := m
      rw [writeCompactMembers, toList_writeCompactMembers, toList_writeCompact, memberTexts,
        commasAfter_cons]
      cases first <;> simp [stringText]

end

/-- **The compact form as a list of characters.** -/
theorem toList_compact (v : Json) : v.compact.toList = compactText v := by
  rw [compact, toList_writeCompact]
  rfl

theorem compactSize_eq (v : Json) : v.compactSize = byteSize (compactText v) := by
  rw [compactSize, ← byteSize_toList, toList_compact]

/-! ### Sizes -/

/-- Of texts with a comma in front of each, the first comma is left out. -/
theorem byteSize_commas (texts : List (List Char)) :
    byteSize (commas texts) = byteSize (texts.flatMap (',' :: ·)) - 1 := by
  have hcomma : (',' : Char).utf8Size = 1 := by decide
  cases texts with
  | nil => rfl
  | cons text texts =>
      simp only [commas, List.flatMap_cons, List.cons_append, byteSize_cons, byteSize_append]
      omega

theorem byteSize_flatMap_le {α : Type} {entries : List α} {short long : α → List Char}
    (h : ∀ entry ∈ entries, byteSize (short entry) ≤ byteSize (long entry)) :
    byteSize (entries.flatMap short) ≤ byteSize (entries.flatMap long) := by
  induction entries with
  | nil => exact Nat.le_refl _
  | cons entry entries ih =>
      obtain ⟨hentry, hentries⟩ := List.forall_mem_cons.1 h
      have hrest := ih hentries
      simp only [List.flatMap_cons, byteSize_append]
      omega

theorem byteSize_commas_le {α : Type} {entries : List α} {short long : α → List Char}
    (h : ∀ entry ∈ entries, byteSize (short entry) ≤ byteSize (long entry)) :
    byteSize (commas (entries.map short)) ≤ byteSize (commas (entries.map long)) := by
  rw [byteSize_commas, byteSize_commas, List.flatMap_map, List.flatMap_map]
  refine Nat.sub_le_sub_right (byteSize_flatMap_le fun entry hentry => ?_) 1
  have hentry := h entry hentry
  simp only [byteSize_cons]
  omega

/-- A key that comes again makes its object shorter. -/
theorem byteSize_commas_setMembers_le {α : Type} (text : String × α → List Char)
    (members : List (String × α)) :
    byteSize (commas ((setMembers [] members).map text)) ≤
      byteSize (commas (members.map text)) := by
  have hset := byteSize_setMembers_le (fun m => ',' :: text m) [] members
  rw [List.flatMap_nil, byteSize_nil, Nat.zero_add] at hset
  rw [byteSize_commas, byteSize_commas, List.flatMap_map, List.flatMap_map]
  exact Nat.sub_le_sub_right hset 1

theorem byteSize_numberText_le (digits : List Char) :
    byteSize (numberText digits) ≤ byteSize digits := by
  rw [numberText]
  split
  · rename_i hzero
    rw [hzero]
    decide
  · exact Nat.le_refl _

/-- No character of a numeral needs an escape. -/
theorem escapeChar_of_isNumeralChar {c : Char} (h : isNumeralChar c = true) :
    escapeChar c = [c] := by
  have hne {d : Char} (hd : isNumeralChar d = false) : c ≠ d := by
    rintro rfl
    rw [h] at hd
    cases hd
  refine escapeChar_of_plain (hne rfl) (hne rfl) ?_
  cases hcontrol : isControl c with
  | false => rfl
  | true =>
      -- there are few control characters, and none of them stands in a numeral
      have hsmall : c.toNat < 32 := by simpa [isControl] using hcontrol
      have hnone : ∀ n < 32, isNumeralChar (Char.ofNat n) = false := by decide
      rw [← Char.ofNat_toNat c, hnone c.toNat hsmall] at h
      cases h

theorem flatMap_escapeChar_of_isNumeral {digits : List Char} (h : IsNumeral digits) :
    digits.flatMap escapeChar = digits := by
  have hchars := h.chars
  clear h
  induction digits with
  | nil => rfl
  | cons c digits ih =>
      rw [List.flatMap_cons, escapeChar_of_isNumeralChar (hchars c (List.mem_cons_self ..)),
        ih fun d hd => hchars d (List.mem_cons_of_mem _ hd)]
      rfl

variable {cs text : List Char} {key : String} {v : Json}

theorem SpellsString.byteSize_stringText_le {s : List Char} (h : SpellsString text s) :
    byteSize (stringText (String.ofList s)) ≤ byteSize ('"' :: (text ++ ['"'])) := by
  have hescape := h.byteSize_escape_le
  simp only [stringText, String.toList_ofList, byteSize_cons, byteSize_append]
  omega

theorem SpellsKey.byteSize_stringText_le (h : SpellsKey text key) :
    byteSize (stringText key ++ [':']) ≤ byteSize text := by
  cases h with
  | intro _ hkey _ =>
      have hstring := hkey.byteSize_stringText_le
      simp only [byteSize_cons, byteSize_append, byteSize_nil] at hstring ⊢
      omega

/-- **The compact form of a value is no longer than any text that spells it.** -/
theorem Spells.byteSize_compactText_le (h : Spells cs v) :
    byteSize (compactText v) ≤ byteSize cs := by
  induction h with
  | null => exact Nat.le_refl _
  | boolTrue => exact Nat.le_refl _
  | boolFalse => exact Nat.le_refl _
  | number _ =>
      rw [compactText, String.toList_ofList]
      exact byteSize_numberText_le _
  | string htext => exact htext.byteSize_stringText_le
  | @array items gap _ _ ih =>
      have hitems : byteSize (commas (items.map fun item => compactText item.2)) ≤
          byteSize (commas (items.map Prod.fst)) := byteSize_commas_le ih
      rw [compactText, itemTexts_eq_map, List.map_map]
      simp only [byteSize_cons, byteSize_append, Function.comp_def]
      omega
  | @object members gap hkeys _ _ _ ih =>
      have hmember (m : MemberText) (hm : m ∈ members) :
          byteSize (compactMember m.member) ≤ byteSize m.text := by
        have hkey := (hkeys m hm).byteSize_stringText_le
        have hvalue := ih m hm
        simp only [compactMember, MemberText.member, MemberText.text, byteSize_cons,
          byteSize_append, byteSize_nil] at hkey ⊢
        omega
      have hset := byteSize_commas_setMembers_le compactMember (members.map MemberText.member)
      have hmembers : byteSize (commas ((members.map MemberText.member).map compactMember)) ≤
          byteSize (commas (members.map MemberText.text)) := by
        rw [List.map_map]
        exact byteSize_commas_le hmember
      rw [compactText, memberTexts_eq_map]
      simp only [byteSize_cons, byteSize_append]
      omega
  | @boxed keyText before text digits after _ _ htext hdigits _ =>
      -- the number stands in the box as a string, which needs no escapes
      have hescape := htext.byteSize_escape_le
      have hnumber := byteSize_numberText_le digits
      rw [flatMap_escapeChar_of_isNumeral hdigits] at hescape
      rw [compactText, String.toList_ofList]
      simp only [byteSize_cons, byteSize_append]
      omega
  | pad _ _ _ ih =>
      simp only [byteSize_append]
      omega

/-! ### Canonical values -/

/-- **What is true of a value that was read.** -/
inductive Canonical : Json → Prop where
  | null : Canonical .null
  | bool (value : Bool) : Canonical (.bool value)
  | number {text : String} (hnumeral : IsNumeral text.toList) (hzero : text.toList ≠ ['-', '0']) :
      Canonical (.number text)
  | string (text : String) : Canonical (.string text)
  | array {items : List Json} (hitems : ∀ v ∈ items, Canonical v) : Canonical (.array items)
  /-- The keys are different, and the first is not that of a boxed number. -/
  | object {members : List (String × Json)} (hkeys : (members.map Prod.fst).Nodup)
      (hfirst : ∀ key ∈ (members.map Prod.fst).head?, key ≠ boxKey)
      (hvalues : ∀ m ∈ members, Canonical m.2) : Canonical (.object members)

theorem canonical_numberText {digits : List Char} (h : IsNumeral digits) :
    Canonical (.number (String.ofList (numberText digits))) := by
  refine .number ?_ ?_
  · rw [String.toList_ofList, numberText]
    split
    · exact ⟨[], ['0'], [], [], Or.inl rfl, Or.inl rfl, Or.inl rfl, Or.inl rfl, rfl⟩
    · exact h
  · rw [String.toList_ofList, numberText]
    split
    · decide
    · assumption

/-- **A value that a text spells is canonical.** -/
theorem Spells.canonical (h : Spells cs v) : Canonical v := by
  induction h with
  | null => exact .null
  | boolTrue => exact .bool true
  | boolFalse => exact .bool false
  | number hdigits => exact canonical_numberText hdigits
  | string _ => exact .string _
  | @array items _ _ _ ih =>
      refine .array fun v hv => ?_
      obtain ⟨item, hitem, rfl⟩ := List.mem_map.1 hv
      exact ih item hitem
  | @object members _ _ _ hfirst _ ih =>
      refine .object (nodup_keys_setMembers (by simp)) ?_ fun m hm => ?_
      · intro key hkey
        rw [head?_keys_setMembers, List.nil_append, List.map_map, List.head?_map] at hkey
        obtain ⟨m, hm, rfl⟩ := Option.map_eq_some_iff.1 hkey
        exact hfirst m hm
      · rcases mem_of_mem_setMembers hm with hm | hm
        · cases hm
        · obtain ⟨entry, hentry, rfl⟩ := List.mem_map.1 hm
          exact ih entry hentry
  | boxed _ _ _ hdigits _ => exact canonical_numberText hdigits
  | pad _ _ _ ih => exact ih

/-- A member with the texts of its key and its value in the compact form. -/
def compactMemberText (m : String × Json) : MemberText :=
  ⟨stringText m.1 ++ [':'], m.1, compactText m.2, m.2⟩

theorem map_text_compactMemberText (members : List (String × Json)) :
    (members.map compactMemberText).map MemberText.text = memberTexts members := by
  simp [memberTexts_eq_map, compactMember, compactMemberText, MemberText.text, Function.comp_def]

theorem map_member_compactMemberText (members : List (String × Json)) :
    (members.map compactMemberText).map MemberText.member = members := by
  simp [compactMemberText, MemberText.member, Function.comp_def]

theorem spellsKey_stringText (key : String) : SpellsKey (stringText key ++ [':']) key := by
  have hkey := SpellsKey.intro isSpaces_nil (spellsString_escape key.toList) isSpaces_nil
  rw [String.ofList_toList] at hkey
  simpa [stringText] using hkey

/-- **The compact form of a canonical value spells it.** -/
theorem Canonical.spells (h : Canonical v) : Spells (compactText v) v := by
  induction h with
  | null => exact .null
  | bool value =>
      cases value with
      | false => exact .boolFalse
      | true => exact .boolTrue
  | @number text hnumeral hzero =>
      have hspells := Spells.number hnumeral
      rwa [numberText, if_neg hzero, String.ofList_toList] at hspells
  | string text =>
      have hspells := Spells.string (spellsString_escape text.toList)
      rwa [String.ofList_toList] at hspells
  | @array items _ ih =>
      have hitems : ∀ item ∈ items.map fun v => (compactText v, v), Spells item.1 item.2 := by
        intro item hitem
        obtain ⟨v, hv, rfl⟩ := List.mem_map.1 hitem
        exact ih v hv
      have hspells := Spells.array hitems isSpaces_nil
      simpa [compactText, itemTexts_eq_map, Function.comp_def] using hspells
  | @object members hkeys hfirst _ ih =>
      have hfirst' : ∀ m ∈ (members.map compactMemberText).head?, m.key ≠ boxKey := by
        intro m hm
        rw [List.head?_map] at hm
        obtain ⟨entry, hentry, rfl⟩ := Option.map_eq_some_iff.1 hm
        refine hfirst entry.1 ?_
        rw [List.head?_map, hentry]
        rfl
      have hspells := Spells.object (fun m hm => by
          obtain ⟨entry, hentry, rfl⟩ := List.mem_map.1 hm
          exact spellsKey_stringText entry.1) (fun m hm => by
          obtain ⟨entry, hentry, rfl⟩ := List.mem_map.1 hm
          exact ih entry hentry) hfirst' isSpaces_nil
      rwa [map_text_compactMemberText, map_member_compactMemberText,
        setMembers_of_nodup hkeys] at hspells

/-! ### Parsing -/

/-- What starts a value is no blank, in whatever sense. -/
theorem isBlank_of_startsValue {c : Char} (h : startsValue c = true) : isBlank c = false := by
  have hdigit (hc : c.isDigit = true) : 0x20 < c.toNat ∧ c.toNat < 0x80 := by
    simp only [Char.isDigit, Bool.and_eq_true, decide_eq_true_eq, UInt32.le_iff_toNat_le] at hc
    have hlow : 48 ≤ c.toNat := hc.1
    have hhigh : c.toNat ≤ 57 := hc.2
    omega
  have hrange : 0x20 < c.toNat ∧ c.toNat < 0x80 := by
    simp only [startsValue, startsNumber, Bool.or_eq_true, beq_iff_eq] at h
    rcases h with ((((((rfl | hc) | rfl) | rfl) | rfl) | rfl) | rfl) | rfl
    · decide
    · exact hdigit hc
    all_goals decide
  simp only [isBlank, Bool.or_eq_false_iff, Bool.and_eq_false_iff, decide_eq_false_iff_not,
    beq_eq_false_iff_ne]
  omega

/-- A text that spells a value has something else than blanks. -/
theorem Spells.not_all_isBlank (h : Spells cs v) : cs.all isBlank = false := by
  obtain ⟨gap, c, cs, -, rfl, hc⟩ := h.starts
  rw [List.all_append, List.all_cons, isBlank_of_startsValue hc, Bool.false_and, Bool.and_false]

/-- **A text is parsed as a value exactly if it spells it.** -/
theorem parse_eq_ok_iff {text : String} : parse text = .ok v ↔ Spells text.toList v := by
  constructor
  · intro h
    rw [parse] at h
    split at h
    · cases h
    · split at h
      · rename_i hread
        cases h
        exact read_eq_ok_iff.1 hread
      · cases h
  · intro h
    rw [parse, if_neg (by simp [h.not_all_isBlank])]
    rw [read_eq_ok_iff.2 h]

/-- A key that is there twice, once with a letter by its code, and the integer `-0`. -/
theorem parse_repeated_key :
    parse "\x7b\"A\":1, \"\\u0041\":-0\x7d" = .ok (.object [("A", .number "0")]) := by
  have hone : Spells ['1'] (.number "1") := .number (isNumeral_singleton rfl)
  have hzero : Spells ['-', '0'] (.number "0") :=
    .number ⟨['-'], ['0'], [], [], Or.inr rfl, Or.inl rfl, Or.inl rfl, Or.inl rfl, rfl⟩
  have hplain : SpellsString ['A'] ['A'] :=
    .cons (.plain (by decide) (by decide) (by decide)) .nil
  have hunit : IsUnit ['0', '0', '4', '1'] (((0 * 16 + 0) * 16 + 4) * 16 + 1) :=
    .digits rfl rfl rfl rfl
  have hescaped : SpellsString ['\\', 'u', '0', '0', '4', '1'] ['A'] :=
    .cons (.unit hunit rfl rfl) .nil
  have hgap : IsSpaces [' '] := by
    intro c hc
    rw [List.mem_singleton.1 hc]
    rfl
  have hfirst : SpellsKey ['"', 'A', '"', ':'] "A" := .intro isSpaces_nil hplain isSpaces_nil
  have hsecond : SpellsKey [' ', '"', '\\', 'u', '0', '0', '4', '1', '"', ':'] "A" :=
    .intro hgap hescaped isSpaces_nil
  have hmembers : ∀ m ∈ [MemberText.mk ['"', 'A', '"', ':'] "A" ['1'] (.number "1"),
      ⟨[' ', '"', '\\', 'u', '0', '0', '4', '1', '"', ':'], "A", ['-', '0'], .number "0"⟩],
      SpellsKey m.keyText m.key ∧ Spells m.valueText m.value :=
    List.forall_mem_cons.2 ⟨⟨hfirst, hone⟩, List.forall_mem_singleton.2 ⟨hsecond, hzero⟩⟩
  exact parse_eq_ok_iff.2 (.object (fun m hm => (hmembers m hm).1) (fun m hm => (hmembers m hm).2)
    (by decide) isSpaces_nil)

/-- **The compact form of a value that was parsed is parsed as the same value.** -/
theorem parse_compact_of_parse {text : String} (h : parse text = .ok v) :
    parse v.compact = .ok v := by
  rw [parse_eq_ok_iff, toList_compact]
  exact (parse_eq_ok_iff.1 h).canonical.spells

/-- **The compact form of a value is no longer than the text that it was parsed from.** -/
theorem compactSize_le_of_parse {text : String} (h : parse text = .ok v) :
    v.compactSize ≤ text.utf8ByteSize := by
  rw [compactSize_eq, ← byteSize_toList]
  exact (parse_eq_ok_iff.1 h).byteSize_compactText_le

end ObjectInitializer.Json
