/-
**Texts of memory limits.**

What a text of a memory limit denotes is told by a grammar, apart from how it is read: a numeral and
a unit or none, the unit in any case, with blanks of any kind around the text and between numeral
and unit.  A text that denotes an amount is read as this amount, and a text that is read as some
limit denotes an amount.

Reading strips units by their last letters, of which the longer ones end in the shortest, and only
after the text has been trimmed and put in upper case.  Neither is in the way: no numeral has a
letter of a unit, and nothing beyond ASCII gets into an amount by its upper case.

Main definitions:

* `MemoryLimit.SpellsUnit` — the texts that spell a unit;
* `MemoryLimit.Denotes` — **the texts that denote an amount**.

Main results:

* `MemoryLimit.read_eq_ok_iff` — the limit of a text is the amount that it denotes;
* `MemoryLimit.roundBits_mul_unit` — the product of number and unit needs no rounding;
* `Arguments.settings_of_memoryLimit` — settings under a memory limit that can be read;
* `memoryLimit_whole` — **whole numbers of units are taken exactly**.
-/

import ObjectInitializer.CommandLine.Arguments
import ObjectInitializer.Proofs.Numeral

set_option relaxedAutoImplicit false
set_option autoImplicit false

namespace ObjectInitializer

open Json (Stops stops_nil stops_cons)
open Text

namespace MemoryLimit

/-! ### The grammar -/

/-- A unit in any case, or none, and its bytes. -/
inductive SpellsUnit : List Char → Nat → Prop where
  | none : SpellsUnit [] 1
  | bytes {suffix : List Char} (h : suffix.map Char.toUpper = ['B']) : SpellsUnit suffix 1
  | kilobytes {suffix : List Char} (h : suffix.map Char.toUpper = ['K', 'B']) :
      SpellsUnit suffix (2 ^ 10)
  | megabytes {suffix : List Char} (h : suffix.map Char.toUpper = ['M', 'B']) :
      SpellsUnit suffix (2 ^ 20)
  | gigabytes {suffix : List Char} (h : suffix.map Char.toUpper = ['G', 'B']) :
      SpellsUnit suffix (2 ^ 30)

/-- **The texts that denote an amount**: a numeral and a unit, between blanks. -/
inductive Denotes (text : String) : Numeral → Nat → Prop where
  | intro {before number between suffix after : List Char} {numeral : Numeral} {unit : Nat}
      (htext : text.toList = before ++ number ++ between ++ suffix ++ after)
      (hbefore : Blanks before) (hbetween : Blanks between) (hafter : Blanks after)
      (hnumber : Numeral.Spells number numeral) (hunit : SpellsUnit suffix unit) :
      Denotes text numeral unit

variable {cs number suffix letters gap : List Char} {numeral : Numeral} {unit limit : Nat}
  {text : String}

/-! ### Units -/

/-- The letters of units. -/
def isUnitLetter (c : Char) : Bool :=
  c == 'B' || c == 'G' || c == 'K' || c == 'M'

/-- Units and none, in upper case. -/
def upperUnits : List (List Char × Nat) :=
  ([], 1) :: units

theorem spellsUnit_iff : SpellsUnit suffix unit ↔ (suffix.map Char.toUpper, unit) ∈ upperUnits := by
  constructor
  · intro h
    cases h with
    | none => decide
    | bytes h => rw [h]; decide
    | kilobytes h => rw [h]; decide
    | megabytes h => rw [h]; decide
    | gigabytes h => rw [h]; decide
  · intro h
    simp only [upperUnits, units, List.mem_cons, Prod.mk.injEq, List.map_eq_nil_iff,
      List.not_mem_nil, or_false] at h
    rcases h with ⟨rfl, rfl⟩ | ⟨h, rfl⟩ | ⟨h, rfl⟩ | ⟨h, rfl⟩ | ⟨h, rfl⟩
    · exact .none
    · exact .gigabytes h
    · exact .megabytes h
    · exact .kilobytes h
    · exact .bytes h

theorem isUnitLetter_of_mem : ∀ entry ∈ upperUnits, ∀ c ∈ entry.1, isUnitLetter c = true := by
  simp [upperUnits, units, isUnitLetter]

theorem isUnitLetter_of_isBlank {c : Char} (h : isBlank c = true) : isUnitLetter c = false := by
  rw [Bool.eq_false_iff]
  intro hletter
  simp only [isUnitLetter, Bool.or_eq_true, beq_iff_eq] at hletter
  rcases hletter with ((rfl | rfl) | rfl) | rfl <;> exact absurd h (by decide)

theorem append_of_stripEnding? {ending front : List Char}
    (h : stripEnding? ending cs = some front) : cs = front ++ ending := by
  rw [stripEnding?] at h
  split at h
  · rename_i hsuffix
    obtain ⟨front', rfl⟩ := List.isSuffixOf_iff_suffix.1 hsuffix
    cases h
    simp
  · cases h

/-- A unit is found behind a text that does not end in one of its letters. -/
theorem splitUnit_append (h : Stops isUnitLetter cs.reverse)
    (hunit : (letters, unit) ∈ upperUnits) : splitUnit (cs ++ letters) = (cs, unit) := by
  simp only [upperUnits, units, List.mem_cons, Prod.mk.injEq, List.not_mem_nil, or_false] at hunit
  rcases List.eq_nil_or_concat cs with rfl | ⟨front, c, rfl⟩
  · rcases hunit with ⟨rfl, rfl⟩ | ⟨rfl, rfl⟩ | ⟨rfl, rfl⟩ | ⟨rfl, rfl⟩ | ⟨rfl, rfl⟩ <;> rfl
  · have hc : isUnitLetter c = false := by simpa using h
    simp only [isUnitLetter, Bool.or_eq_false_iff, beq_eq_false_iff_ne] at hc
    obtain ⟨⟨⟨hb, hg⟩, hk⟩, hm⟩ := hc
    have htake (back : List Char) :
        (front ++ c :: back).take (front.length + 1) = front ++ [c] := by
      simp [List.take_append, List.take_of_length_le]
    rcases hunit with ⟨rfl, rfl⟩ | ⟨rfl, rfl⟩ | ⟨rfl, rfl⟩ | ⟨rfl, rfl⟩ | ⟨rfl, rfl⟩
    · simp [splitUnit, units, stripEnding?, List.isSuffixOf, hb.symm]
    · simp [splitUnit, units, stripEnding?, List.isSuffixOf, htake]
    · simp [splitUnit, units, stripEnding?, List.isSuffixOf, htake]
    · simp [splitUnit, units, stripEnding?, List.isSuffixOf, htake]
    · -- the longer units end in this one, and are told apart by the character in front of it
      simp [splitUnit, units, stripEnding?, List.isSuffixOf, htake, hg.symm, hk.symm, hm.symm]

/-- The text without its unit, and the unit. -/
theorem exists_of_splitUnit (h : splitUnit cs = (number, unit)) :
    ∃ letters, (letters, unit) ∈ upperUnits ∧ cs = number ++ letters := by
  rw [splitUnit] at h
  split at h
  · rename_i split hsplit
    obtain ⟨entry, hentry, hstrip⟩ := List.exists_of_findSome?_eq_some hsplit
    obtain ⟨front, hfront, rfl⟩ := Option.map_eq_some_iff.1 hstrip
    cases h
    exact ⟨entry.1, List.mem_cons_of_mem _ hentry, append_of_stripEnding? hfront⟩
  · cases h
    exact ⟨[], List.mem_cons_self .., (List.append_nil cs).symm⟩

/-! ### Characters of amounts -/

theorem ascii_of_numeral {c : Char} (h : Numeral.IsChar c) : c.toNat < 128 := by
  rcases h with h | h
  · simp only [Json.isNumeralChar, Bool.or_eq_true, beq_iff_eq] at h
    rcases h with ((((h | rfl) | rfl) | rfl) | rfl) | rfl
    · have hcode := Numeral.isDigit_iff_code.1 h
      omega
    all_goals decide
  · have hletters : ∀ d ∈ "infinitynan".toList, d.toNat < 128 := by simp
    rcases toLower_eq_or c with hlower | hcapital
    · rw [← hlower]
      exact hletters _ h
    · omega

/-- No numeral has a blank or, in upper case, a letter of a unit. -/
theorem plain_of_numeral {c : Char} (h : Numeral.IsChar c) :
    isBlank c = false ∧ isUnitLetter c.toUpper = false := by
  have hcodes : ∀ n < 128, Json.isNumeralChar (Char.ofNat n) = true ∨
      (Char.ofNat n).toLower ∈ "infinitynan".toList →
      isBlank (Char.ofNat n) = false ∧ isUnitLetter (Char.ofNat n).toUpper = false := by
    decide +kernel
  have hc := hcodes c.toNat (ascii_of_numeral h)
  rw [Char.ofNat_toNat] at hc
  exact hc h

theorem isAmountChar_of_isNumeralChar {c : Char} (h : Json.isNumeralChar c = true) :
    IsAmountChar c := by
  have hcodes : ∀ n < 128, Json.isNumeralChar (Char.ofNat n) = true →
      Char.ofNat n ∈ "+-.0123456789BEGKMe".toList := by
    decide +kernel
  have hc := hcodes c.toNat (ascii_of_numeral (.inl h))
  rw [Char.ofNat_toNat] at hc
  exact .inr (hc h)

theorem isAmountChar_of_isUnitLetter {c : Char} (h : isUnitLetter c = true) : IsAmountChar c := by
  simp only [isUnitLetter, Bool.or_eq_true, beq_iff_eq] at h
  rcases h with ((rfl | rfl) | rfl) | rfl <;> exact .inr (by decide)

/-- The characters of units are letters of ASCII. -/
theorem SpellsUnit.chars (hunit : SpellsUnit suffix unit) :
    ∀ c ∈ suffix, c.toNat < 128 ∧ isBlank c = false := by
  intro c hc
  have hletter : isUnitLetter c.toUpper = true :=
    isUnitLetter_of_mem _ (spellsUnit_iff.1 hunit) _ (List.mem_map_of_mem hc)
  have hupper : c.toUpper.toNat < 128 ∧ isBlank c.toUpper = false := by
    simp only [isUnitLetter, Bool.or_eq_true, beq_iff_eq] at hletter
    rcases hletter with ((h | h) | h) | h <;> rw [h] <;> decide
  refine ⟨?_, (isBlank_toUpper c).symm.trans hupper.2⟩
  rcases toUpper_eq_or c with h | ⟨hsmall, -⟩
  · rw [← h]
    exact hupper.1
  · omega

/-! ### Amounts -/

/-- An amount is that of a number which does not overflow, and which rounds to zero if it has a
minus. -/
theorem amount?_eq_some_iff : amount? numeral unit = some limit ↔
    ∃ value multiple, numeral = .finite value ∧ value.toBinary64? = some multiple ∧
      (value.negative = true → multiple = 0) ∧
      limit = min (multiple * unit / Decimal.binary64Unit) greatest := by
  cases numeral with
  | finite value =>
      cases hmultiple : value.toBinary64? with
      | none => simp [amount?, hmultiple]
      | some multiple =>
          simp only [amount?, hmultiple]
          by_cases hnegative : (value.negative && multiple != 0) = true
          · simp_all
          · have hzero : value.negative = true → multiple = 0 := by simpa using hnegative
            rw [if_neg hnegative]
            constructor
            · intro h
              exact ⟨value, multiple, rfl, hmultiple, hzero, (Option.some.inj h).symm⟩
            · rintro ⟨_, _, ⟨⟩, h, -, rfl⟩
              cases hmultiple.symm.trans h
              rfl
  | infinite negative => simp [amount?]
  | nan => simp [amount?]

/-- No limit is greater than the greatest. -/
theorem le_greatest_of_amount? (h : amount? numeral unit = some limit) : limit ≤ greatest := by
  obtain ⟨value, multiple, -, -, -, rfl⟩ := amount?_eq_some_iff.1 h
  exact Nat.min_le_right _ _

/-- A limit that is not zero is a number above zero. -/
theorem positive_of_amount? (h : amount? numeral unit = some limit) (hlimit : 0 < limit) :
    ∃ value, numeral = .finite value ∧ value.negative = false ∧ 0 < value.coefficient := by
  obtain ⟨value, multiple, rfl, hmultiple, hnegative, rfl⟩ := amount?_eq_some_iff.1 h
  have hpos : multiple ≠ 0 := by
    rintro rfl
    simp at hlimit
  refine ⟨value, rfl, ?_, Nat.pos_of_ne_zero fun hzero => hpos ?_⟩
  · exact Bool.eq_false_iff.2 fun hminus => hpos (hnegative hminus)
  · -- zero is tiny, and not huge, whatever its exponent
    have htiny : value.isTiny = true := by simp [Decimal.isTiny, hzero]
    have hhuge : value.isHuge = false := by simp [Decimal.isHuge, hzero]
    rw [Decimal.toBinary64?, hhuge, htiny] at hmultiple
    exact (Option.some.inj hmultiple).symm

/-! ### What is denoted is read -/

variable {before between after : List Char}

/-- Trimming leaves the numeral, the unit, and what is between them if there is a unit. -/
theorem exists_trim_eq (hbefore : Blanks before) (hbetween : Blanks between) (hafter : Blanks after)
    (hnumber : Numeral.Spells number numeral) (hunit : SpellsUnit suffix unit) :
    ∃ gap, Blanks gap ∧
      trim (before ++ number ++ between ++ suffix ++ after) = number ++ gap ++ suffix := by
  have hplain (c : Char) (hc : c ∈ number) : isBlank c = false :=
    (plain_of_numeral (hnumber.chars c hc)).1
  have hstart (rest : List Char) : Stops isBlank (number ++ rest) := by
    obtain ⟨c, cs, rfl⟩ := List.exists_cons_of_ne_nil hnumber.ne_nil
    exact stops_cons.2 (hplain c (List.mem_cons_self ..))
  rcases List.eq_nil_or_concat suffix with rfl | ⟨front, c, rfl⟩
  · -- without a unit, the blanks behind the numeral are those behind the text
    have hend : Stops isBlank number.reverse :=
      stops_of_forall fun c hc => hplain c (List.mem_reverse.1 hc)
    have htrim := trim_surrounded hbefore (hbetween.append hafter) (by simpa using hstart []) hend
    exact ⟨[], by simp [Blanks], by simpa using htrim⟩
  · have hend : Stops isBlank (number ++ (between ++ (front ++ [c]))).reverse := by
      have hc := (hunit.chars c (by simp)).2
      simpa using hc
    have htrim := trim_surrounded hbefore hafter (hstart _) hend
    exact ⟨between, hbetween, by simpa using htrim⟩

/-- What is left in upper case is still a numeral, blanks and a unit. -/
theorem splitUnit_map_toUpper (hgap : Blanks gap) (hnumber : Numeral.Spells number numeral)
    (hunit : SpellsUnit suffix unit) :
    ∃ front, splitUnit ((number ++ gap ++ suffix).map Char.toUpper) = (front, unit) ∧
      trim front = number.map Char.toUpper := by
  have hplain : ∀ c ∈ number.map Char.toUpper, isBlank c = false ∧ isUnitLetter c = false := by
    rintro _ hmem
    obtain ⟨c, hc, rfl⟩ := List.mem_map.1 hmem
    rw [isBlank_toUpper]
    exact plain_of_numeral (hnumber.chars c hc)
  refine ⟨(number ++ gap).map Char.toUpper, ?_, ?_⟩
  · rw [List.map_append]
    refine splitUnit_append (stops_of_forall fun c hc => ?_) (spellsUnit_iff.1 hunit)
    rw [List.mem_reverse, List.map_append] at hc
    exact (List.mem_append.1 hc).elim (fun hc => (hplain c hc).2)
      fun hc => isUnitLetter_of_isBlank (hgap.map_toUpper c hc)
  · rw [List.map_append]
    exact @trim_surrounded [] _ _ (by simp [Blanks]) hgap.map_toUpper
      (stops_of_forall fun c hc => (hplain c hc).1)
      (stops_of_forall fun c hc => (hplain c (List.mem_reverse.1 hc)).1)

/-- **A text that denotes an amount is read as this amount**, and refused if no limit has it. -/
theorem readNormal?_of_denotes (h : Denotes text numeral unit) :
    readNormal? (normalize text) = amount? numeral unit := by
  obtain ⟨htext, hbefore, hbetween, hafter, hnumber, hunit⟩ := h
  rename_i before number between suffix after
  obtain ⟨gap, hgap, htrim⟩ := exists_trim_eq hbefore hbetween hafter hnumber hunit
  have hupper : normalize text = (number ++ gap ++ suffix).map Char.toUpper := by
    rw [normalize, htext, htrim, upper_eq_map]
    simp only [List.forall_mem_append]
    exact ⟨⟨fun c hc => .inl (ascii_of_numeral (hnumber.chars c hc)), fun c hc => .inr (hgap c hc)⟩,
      fun c hc => .inl (hunit.chars c hc).1⟩
  obtain ⟨front, hsplit, hfront⟩ := splitUnit_map_toUpper hgap hnumber hunit
  rw [readNormal?, hupper, hsplit]
  dsimp only
  rw [hfront, Numeral.read?_map_toUpper, Numeral.read?_eq_some_iff.2 hnumber]
  rfl

/-! ### What is read is denoted -/

/-- A number with a unit in upper case was one before. -/
theorem upper_eq_map_of_splitUnit {front : List Char} {value : Decimal}
    (hsplit : splitUnit (upper cs) = (front, unit))
    (hnumber : Numeral.Spells (trim front) (.finite value)) :
    upper cs = cs.map Char.toUpper := by
  obtain ⟨letters, hletters, happend⟩ := exists_of_splitUnit hsplit
  obtain ⟨before, after, hbefore, hafter, hfront⟩ := exists_eq_append_trim front
  refine upper_eq_map_of_isAmountChar ?_
  rw [happend, hfront]
  simp only [List.forall_mem_append]
  exact ⟨⟨⟨fun c hc => .inl (hbefore c hc),
    fun c hc => isAmountChar_of_isNumeralChar (hnumber.chars_finite c hc)⟩,
    fun c hc => .inl (hafter c hc)⟩,
    fun c hc => isAmountChar_of_isUnitLetter (isUnitLetter_of_mem _ hletters c hc)⟩

/-- **A text that is read as some limit denotes an amount.** -/
theorem exists_denotes_of_readNormal? (h : readNormal? (normalize text) = some limit) :
    ∃ numeral unit, Denotes text numeral unit ∧ amount? numeral unit = some limit := by
  rcases hsplit : splitUnit (normalize text) with ⟨front, unit⟩
  rw [readNormal?, hsplit] at h
  obtain ⟨numeral, hread, hamount⟩ := Option.bind_eq_some_iff.1 h
  obtain ⟨value, -, rfl, -⟩ := amount?_eq_some_iff.1 hamount
  have hspells := Numeral.read?_eq_some_iff.1 hread
  have hupper := upper_eq_map_of_splitUnit hsplit hspells
  -- the cut between numeral and unit is one of the text as it was
  obtain ⟨letters, hletters, happend⟩ := exists_of_splitUnit hsplit
  rw [normalize, hupper] at happend
  obtain ⟨number, suffix, htrim, rfl, rfl⟩ := List.map_eq_append_iff.1 happend
  rw [trim_map isBlank_toUpper, Numeral.read?_map_toUpper] at hread
  obtain ⟨outer, after, houter, hafter, htext⟩ := exists_eq_append_trim text.toList
  obtain ⟨inner, between, hinner, hbetween, hnumber⟩ := exists_eq_append_trim number
  refine ⟨.finite value, unit, ?_, hamount⟩
  have hparts : text.toList =
      outer ++ inner ++ trim number ++ between ++ suffix ++ after := by
    calc text.toList = outer ++ (inner ++ trim number ++ between ++ suffix) ++ after := by
          rw [← hnumber, ← htrim, ← htext]
      _ = outer ++ inner ++ trim number ++ between ++ suffix ++ after := by
          simp only [List.append_assoc]
  exact .intro hparts (houter.append hinner) hbetween hafter
    (Numeral.read?_eq_some_iff.1 hread) (spellsUnit_iff.2 hletters)

theorem read_eq_ok_iff_readNormal? :
    read text = .ok limit ↔ readNormal? (normalize text) = some limit := by
  unfold read
  generalize normalize text = cs
  cases hnormal : readNormal? cs with
  | none => simp [hnormal]
  | some amount => simp [hnormal]

/-- **The limit of a text is the amount that it denotes.** -/
theorem read_eq_ok_iff : read text = .ok limit ↔
    ∃ numeral unit, Denotes text numeral unit ∧ amount? numeral unit = some limit := by
  rw [read_eq_ok_iff_readNormal?]
  constructor
  · exact exists_denotes_of_readNormal?
  · rintro ⟨numeral, unit, hdenotes, hamount⟩
    rw [readNormal?_of_denotes hdenotes, hamount]

/-! ### Products of numbers and units -/

/-- The product of a number of the format and a unit is one of the format too, unless it overflows,
and then it is beyond every limit: taking the product exactly is taking it in the format. -/
theorem roundBits_mul_unit {value : Decimal} {multiple : Nat}
    (h : value.toBinary64? = some multiple) (hunit : SpellsUnit suffix unit) :
    Decimal.roundBits (multiple * unit) 1 = multiple * unit := by
  obtain ⟨k, rfl⟩ : ∃ k, unit = 2 ^ k := by
    cases hunit with
    | none => exact ⟨0, rfl⟩
    | bytes => exact ⟨0, rfl⟩
    | kilobytes => exact ⟨10, rfl⟩
    | megabytes => exact ⟨20, rfl⟩
    | gigabytes => exact ⟨30, rfl⟩
  exact Decimal.roundBits_mul_two_pow h k

/-- A whole number of units is taken exactly, up to the greatest limit. -/
theorem amount?_whole {n : Nat} (hn : n < 2 ^ 53) (unit : Nat) :
    amount? (.finite ⟨false, n, 0⟩) unit = some (min (n * unit) greatest) := by
  have hexact : n * Decimal.binary64Unit * unit / Decimal.binary64Unit = n * unit := by
    rw [Nat.mul_right_comm]
    exact Nat.mul_div_cancel _ Decimal.binary64Unit_pos
  simp only [amount?, Decimal.toBinary64?_whole false hn, Bool.false_and, Bool.false_eq_true,
    if_false, hexact]

end MemoryLimit

/-! ### Settings under a memory limit -/

/-- Settings without a flaw have none under another memory limit, unless this is too small. -/
theorem Settings.flaw?_memoryLimit {settings : Settings} (h : settings.flaw? = none)
    (memoryLimit : Nat) :
    ({ settings with memoryLimit } : Settings).flaw? =
      if memoryLimit < 1024 then some .memoryLimitTooSmall else none := by
  have hflaws : settings.className ≠ "" ∧ settings.className.toList.any isBlank = false ∧
      settings.indent.isAcceptable = true ∧ settings.maxDepth ≠ some 0 := by
    unfold Settings.flaw? at h
    repeat' split at h
    all_goals simp_all
  obtain ⟨hname, hblank, hindent, hdepth⟩ := hflaws
  simp only [Settings.flaw?, hname, hblank, hindent, hdepth, Bool.not_true, Bool.false_eq_true,
    if_false]

namespace Arguments

variable {arguments : Arguments} {settings : Settings} {limit : Nat} {text : String}

/-- The settings are those under the memory limit, if they have no flaw. -/
theorem settings_eq (h : arguments.memoryLimitOrStandard = .ok limit) :
    arguments.settings =
      match (arguments.settingsUnder limit).flaw? with
      | none => .ok (arguments.settingsUnder limit)
      | some flaw => .error (.ofKind (.configuration flaw.message)) := by
  rw [Arguments.settings, h]
  dsimp only
  rw [checkSettings, Settings.validate]
  cases (arguments.settingsUnder limit).flaw? <;> rfl

/-- **Settings under a memory limit that can be read**, if all else about them is valid. -/
theorem settings_of_memoryLimit (hnone : arguments.memoryLimit = none)
    (h : arguments.settings = .ok settings) (hread : MemoryLimit.read text = .ok limit) :
    ({ arguments with memoryLimit := some text } : Arguments).settings =
      if 1024 ≤ limit then .ok { settings with memoryLimit := limit }
      else .error (.ofKind (.configuration "Memory limit must be at least 1KB")) := by
  have hstandard : arguments.memoryLimitOrStandard = .ok Settings.standard.memoryLimit := by
    rw [memoryLimitOrStandard, hnone]
  rw [settings_eq hstandard] at h
  split at h
  · rename_i hflaw
    cases h
    have hsettings : ({ arguments with memoryLimit := some text } : Arguments).settingsUnder limit =
        { arguments.settingsUnder Settings.standard.memoryLimit with memoryLimit := limit } := rfl
    have hlimit : ({ arguments with memoryLimit := some text } : Arguments).memoryLimitOrStandard =
        .ok limit := hread
    rw [settings_eq hlimit, hsettings, Settings.flaw?_memoryLimit hflaw]
    by_cases hsmall : limit < 1024
    · rw [if_pos hsmall, if_neg (by omega)]
      rfl
    · rw [if_neg hsmall, if_pos (by omega)]
  · cases h

end Arguments

/-- **Whole numbers of units are taken exactly.**  However many zeros are in front, with a plus or
without, in any case of the unit and between any blanks, the limit is the number times the bytes of
the unit, up to the greatest number of 64 bits; and arguments that are valid under the standard
limit are accepted with it if it is not too small. -/
theorem memoryLimit_whole {n zeros unit : Nat} {before sign between suffix after : List Char}
    {text : String} (hn : n < 2 ^ 53) (hsign : sign = [] ∨ sign = ['+'])
    (hunit : MemoryLimit.SpellsUnit suffix unit) (hbefore : Blanks before)
    (hbetween : Blanks between) (hafter : Blanks after)
    (htext : text.toList = before ++ (sign ++ (List.replicate zeros '0' ++ Nat.toDigits 10 n)) ++
      between ++ suffix ++ after) :
    MemoryLimit.read text = .ok (min (n * unit) (2 ^ 64 - 1)) ∧
    ∀ (arguments : Arguments) (settings : Settings), arguments.memoryLimit = none →
      arguments.settings = .ok settings →
      ({ arguments with memoryLimit := some text } : Arguments).settings =
        if 1024 ≤ min (n * unit) (2 ^ 64 - 1) then
          .ok { settings with memoryLimit := min (n * unit) (2 ^ 64 - 1) }
        else .error (.ofKind (.configuration "Memory limit must be at least 1KB")) := by
  have hplus : Numeral.SpellsSign sign false := by
    rcases hsign with rfl | rfl
    · exact .none
    · exact .plus
  have hread : MemoryLimit.read text = .ok (min (n * unit) (2 ^ 64 - 1)) :=
    MemoryLimit.read_eq_ok_iff.2 ⟨.finite ⟨false, n, 0⟩, unit,
      .intro htext hbefore hbetween hafter (Numeral.spells_whole hplus zeros n) hunit,
      MemoryLimit.amount?_whole hn unit⟩
  exact ⟨hread, fun arguments settings hnone h =>
    Arguments.settings_of_memoryLimit hnone h hread⟩

/-- Half a gigabyte, with a plus and zeros, between blanks beyond ASCII. -/
theorem memoryLimit_whole_between_blanks :
    let text := "\u2003+00512\u00A0mB\n"
    MemoryLimit.read text = .ok 536870912 ∧
      ({ Arguments.standard with memoryLimit := some text } : Arguments).settings =
        .ok { Settings.standard with memoryLimit := 536870912 } := by
  intro text
  have hn : 512 < 2 ^ 53 := by decide
  have hblanks : Blanks ['\u2003'] ∧ Blanks ['\u00A0'] ∧ Blanks ['\n'] := by
    simp [Blanks, isBlank]
  have htext : text.toList =
      ['\u2003'] ++ (['+'] ++ (List.replicate 2 '0' ++ Nat.toDigits 10 512)) ++
        ['\u00A0'] ++ ['m', 'B'] ++ ['\n'] := by
    decide
  obtain ⟨hread, hsettings⟩ := memoryLimit_whole hn (.inr rfl) (.megabytes rfl) hblanks.1
    hblanks.2.1 hblanks.2.2 htext
  exact ⟨hread, hsettings Arguments.standard Settings.standard rfl rfl⟩

end ObjectInitializer
