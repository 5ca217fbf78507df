/-
**Trimming and upper case.**

Two facts on texts that are read without regard to blanks at their ends and to case.

Trimming takes a text apart into blanks, a text without blanks at its ends, and blanks again; and
what is trimmed from such a composition is known without looking at how trimming proceeds.

Full upper case is the upper case of ASCII on characters of ASCII, and it leaves blanks alone.
Beyond ASCII some characters have images in ASCII: `ı` becomes `I`, `ſ` becomes `S`, and `ﬀ`
becomes `FF`.  None of these is a digit, a sign, a point or one of the letters of exponents and
units, so that a text which is an amount in upper case was one before, character by character.

Main definitions:

* `Text.IsAmountChar` — the characters of amounts: blanks, digits, signs, the point, and letters of
  exponents and units.

Main results:

* `Text.exists_eq_append_trim`, `Text.trim_surrounded` — a text and its blanks;
* `Text.upper_eq_map` — the upper case of a text of blanks and ASCII;
* `Text.upper_eq_map_of_isAmountChar` — **a text whose upper case is made of characters of amounts
  has the upper case of ASCII**.
-/

import Mathlib
import ObjectInitializer.Proofs.Json.Numeral
import ObjectInitializer.Text.Blank
import ObjectInitializer.Text.Case

set_option relaxedAutoImplicit false
set_option autoImplicit false

namespace ObjectInitializer.Text

open Json (Stops)

/-! ### Trimming -/

/-- All characters are blank. -/
def Blanks (cs : List Char) : Prop :=
  ∀ c ∈ cs, isBlank c = true

variable {before after core cs ds : List Char}

theorem Blanks.append (hcs : Blanks cs) (hds : Blanks ds) : Blanks (cs ++ ds) := by
  intro c hc
  exact (List.mem_append.1 hc).elim (hcs c) (hds c)

theorem blanks_reverse : Blanks cs.reverse ↔ Blanks cs := by
  simp [Blanks]

theorem blanks_takeWhile (cs : List Char) : Blanks (cs.takeWhile isBlank) := by
  intro c hc
  exact List.mem_takeWhile_imp hc

theorem stops_of_forall {p : Char → Bool} (h : ∀ c ∈ cs, p c = false) : Stops p cs :=
  fun c hc => h c (List.mem_of_mem_head? hc)

theorem dropWhile_blanks_append (hbefore : Blanks before) (hcs : Stops isBlank cs) :
    (before ++ cs).dropWhile isBlank = cs := by
  rw [List.dropWhile_append_of_pos hbefore]
  cases cs with
  | nil => rfl
  | cons c cs => simp [Json.stops_cons.1 hcs]

/-- What is left between blanks, if it does not start or end with one. -/
theorem trim_surrounded (hbefore : Blanks before) (hafter : Blanks after)
    (hstart : Stops isBlank core) (hend : Stops isBlank core.reverse) :
    trim (before ++ core ++ after) = core := by
  have hfront : (before ++ core ++ after).dropWhile isBlank =
      (core ++ after).dropWhile isBlank := by
    rw [List.append_assoc, List.dropWhile_append_of_pos hbefore]
  have hback : (core ++ after).reverse.dropWhile isBlank = core.reverse := by
    rw [List.reverse_append, dropWhile_blanks_append (blanks_reverse.2 hafter) hend]
  rw [trim, hfront]
  cases core with
  | nil =>
      have hnil : ([] ++ after).dropWhile isBlank = [] := List.dropWhile_eq_nil_iff.2 hafter
      rw [hnil]
      rfl
  | cons c core =>
      have hcons : (c :: core ++ after).dropWhile isBlank = c :: core ++ after :=
        @dropWhile_blanks_append [] _ (by simp [Blanks]) (by simpa using hstart)
      rw [hcons, hback, List.reverse_reverse]

/-- A text is what trimming leaves of it, between blanks. -/
theorem exists_eq_append_trim (cs : List Char) :
    ∃ before after, Blanks before ∧ Blanks after ∧ cs = before ++ trim cs ++ after := by
  refine ⟨cs.takeWhile isBlank, ((cs.dropWhile isBlank).reverse.takeWhile isBlank).reverse,
    blanks_takeWhile cs, blanks_reverse.2 (blanks_takeWhile _), ?_⟩
  rw [trim, List.append_assoc, ← List.reverse_append, List.takeWhile_append_dropWhile,
    List.reverse_reverse, List.takeWhile_append_dropWhile]

/-- Trimming does not see what else is done to the characters. -/
theorem trim_map {f : Char → Char} (hf : ∀ c, isBlank (f c) = isBlank c) (cs : List Char) :
    trim (cs.map f) = (trim cs).map f := by
  have hcomp : isBlank ∘ f = isBlank := funext hf
  rw [trim, trim, List.dropWhile_map, ← List.map_reverse, List.dropWhile_map, ← List.map_reverse,
    hcomp]

/-! ### Upper case of ASCII -/

theorem isLower_iff_code {c : Char} : c.isLower = true ↔ 97 ≤ c.toNat ∧ c.toNat ≤ 122 := by
  simp [Char.isLower, UInt32.le_iff_toNat_le]

theorem isUpper_iff_code {c : Char} : c.isUpper = true ↔ 65 ≤ c.toNat ∧ c.toNat ≤ 90 := by
  simp [Char.isUpper, UInt32.le_iff_toNat_le]

/-- Upper case of ASCII changes the small letters. -/
theorem toUpper_eq_or (c : Char) :
    c.toUpper = c ∨ (97 ≤ c.toNat ∧ c.toNat ≤ 122) ∧ c.toUpper.toNat = c.toNat - 32 := by
  by_cases hlower : c.isLower = true
  · have hrange := isLower_iff_code.1 hlower
    refine .inr ⟨hrange, ?_⟩
    rw [Char.toUpper_eq_of_isLower hlower, Char.toNat_ofNat, if_pos]
    exact .inl (by omega)
  · exact .inl (Char.toUpper_eq_of_not_isLower hlower)

/-- Lower case of ASCII leaves a character alone, or it is a capital letter. -/
theorem toLower_eq_or (c : Char) : c.toLower = c ∨ 65 ≤ c.toNat ∧ c.toNat ≤ 90 := by
  by_cases hupper : c.isUpper = true
  · exact .inr (isUpper_iff_code.1 hupper)
  · exact .inl (Char.toLower_eq_of_not_isUpper hupper)

/-- What is no letter is the upper case of itself only. -/
theorem toUpper_eq_iff {c d : Char} (hd : d.toNat < 65) : c.toUpper = d ↔ c = d := by
  rcases toUpper_eq_or c with h | ⟨hsmall, h⟩
  · rw [h]
  · rw [← Char.toNat_inj, ← Char.toNat_inj, h]
    omega

theorem isBlank_toUpper (c : Char) : isBlank c.toUpper = isBlank c := by
  rcases toUpper_eq_or c with h | ⟨hsmall, h⟩
  · rw [h]
  · rw [Bool.eq_iff_iff]
    simp only [isBlank, h, Bool.or_eq_true, Bool.and_eq_true, decide_eq_true_eq, beq_iff_eq]
    omega

theorem Blanks.map_toUpper (h : Blanks cs) : Blanks (cs.map Char.toUpper) := by
  rintro _ hmem
  obtain ⟨c, hc, rfl⟩ := List.mem_map.1 hmem
  rw [isBlank_toUpper]
  exact h c hc

/-! ### Upper case beyond ASCII -/

/-- The code points of the blanks. -/
def blankCodes : List Nat :=
  [0x9, 0xA, 0xB, 0xC, 0xD, 0x20, 0x85, 0xA0, 0x1680, 0x2000, 0x2001, 0x2002, 0x2003, 0x2004,
   0x2005, 0x2006, 0x2007, 0x2008, 0x2009, 0x200A, 0x2028, 0x2029, 0x202F, 0x205F, 0x3000]

theorem toNat_mem_blankCodes {c : Char} (h : isBlank c = true) : c.toNat ∈ blankCodes := by
  simp only [isBlank, Bool.or_eq_true, Bool.and_eq_true, decide_eq_true_eq, beq_iff_eq] at h
  simp only [blankCodes, List.mem_cons, List.not_mem_nil, or_false]
  omega

/-- The characters of amounts: blanks, digits, signs, the point, and the letters of exponents and
units. -/
def IsAmountChar (c : Char) : Prop :=
  isBlank c = true ∨ c ∈ "+-.0123456789BEGKMe".toList

/-- The code points of the characters of amounts. -/
def amountCodes : List Nat :=
  blankCodes ++ "+-.0123456789BEGKMe".toList.map Char.toNat

theorem IsAmountChar.toNat_mem {c : Char} (h : IsAmountChar c) : c.toNat ∈ amountCodes := by
  rcases h with h | h
  · exact List.mem_append_left _ (toNat_mem_blankCodes h)
  · exact List.mem_append_right _ (List.mem_map_of_mem h)

/-- A blank has no image but itself. -/
theorem blank_not_mapped : ∀ n ∈ blankCodes,
    longUpper.lookup n = none ∧ upperRuns.findSome? (·.map? n) = none := by
  decide +kernel

/-- Images of more than one character have one that no amount has. -/
theorem longUpper_not_amount :
    ∀ entry ∈ longUpper, ∃ n ∈ entry.2, Char.toNat (Char.ofNat n) ∉ amountCodes := by
  decide +kernel

/-- The images of a run are no characters of amounts. -/
theorem upperRuns_not_amount : ∀ run ∈ upperRuns, ∀ n ∈ amountCodes,
    ¬ (run.image ≤ n ∧ n ≤ run.image + (run.last - run.first)) := by
  decide +kernel

theorem Run.map?_range {r : Run} {n image : Nat} (h : r.map? n = some image) :
    r.image ≤ image ∧ image ≤ r.image + (r.last - r.first) := by
  rw [Run.map?] at h
  split at h
  · rename_i hcovers
    simp only [Bool.and_eq_true, decide_eq_true_eq, beq_iff_eq] at hcovers
    cases h
    omega
  · cases h

theorem toUpper_of_beyond {c : Char} (h : 128 ≤ c.toNat) : c.toUpper = c := by
  rcases toUpper_eq_or c with heq | ⟨hsmall, -⟩
  · exact heq
  · omega

/-- Blanks and ASCII have the upper case of ASCII. -/
theorem upperChar_eq_of_ascii {c : Char} (h : c.toNat < 128 ∨ isBlank c = true) :
    upperChar c = [c.toUpper] := by
  rw [upperChar]
  split
  · rfl
  · rename_i hge
    obtain ⟨hlong, hrun⟩ := blank_not_mapped _ (toNat_mem_blankCodes (h.resolve_left hge))
    rw [hlong, hrun, toUpper_of_beyond (by omega)]

/-- Beyond ASCII nothing becomes a character of amounts. -/
theorem upperChar_eq_of_isAmountChar {c : Char} (h : ∀ d ∈ upperChar c, IsAmountChar d) :
    upperChar c = [c.toUpper] := by
  rw [upperChar] at h ⊢
  split at h
  · rw [if_pos ‹_›]
  · rename_i hge
    rw [if_neg hge]
    split at h
    · rename_i image hlookup
      obtain ⟨l₁, l₂, htable, -⟩ := List.lookup_eq_some_iff.1 hlookup
      obtain ⟨n, hn, hnot⟩ := longUpper_not_amount (c.toNat, image) (by simp [htable])
      exact absurd (h _ (List.mem_map_of_mem hn)).toNat_mem hnot
    · split at h
      · rename_i n hrun
        obtain ⟨run, hmem, hmap⟩ := List.exists_of_findSome?_eq_some hrun
        have hcode := (h (Char.ofNat n) (by simp)).toNat_mem
        rw [Char.toNat_ofNat] at hcode
        split at hcode
        · exact absurd (Run.map?_range hmap) (upperRuns_not_amount run hmem n hcode)
        · exact absurd hcode (by decide)
      · rw [toUpper_of_beyond (by omega)]

/-! ### Upper case of texts -/

/-- The upper case of a text of blanks and ASCII. -/
theorem upper_eq_map (h : ∀ c ∈ cs, c.toNat < 128 ∨ isBlank c = true) :
    upper cs = cs.map Char.toUpper := by
  induction cs with
  | nil => rfl
  | cons c cs ih =>
      rw [List.forall_mem_cons] at h
      rw [upper_cons, upperChar_eq_of_ascii h.1, ih h.2]
      rfl

/-- **A text whose upper case is made of characters of amounts has the upper case of ASCII.** -/
theorem upper_eq_map_of_isAmountChar (h : ∀ c ∈ upper cs, IsAmountChar c) :
    upper cs = cs.map Char.toUpper := by
  induction cs with
  | nil => rfl
  | cons c cs ih =>
      rw [upper_cons, List.forall_mem_append] at h
      rw [upper_cons, upperChar_eq_of_isAmountChar h.1, ih h.2]
      rfl

end ObjectInitializer.Text
