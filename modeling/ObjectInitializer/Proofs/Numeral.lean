/-
**Decimal numerals.**

The grammar of the numerals that amounts are written with: a sign if there is one, digits with a
point anywhere among them or at their ends, and an exponent; or a word for infinity or for no
number.  The grammar is given by its parts, with what each stands for, apart from any reader.  It
says little about spelling: zeros may be put in front, a digit on one side of the point is enough,
and letters may have either case.

Main definitions:

* `Numeral.SpellsNumber` — the texts of numbers without a sign, by their parts;
* `Numeral.Spells` — **the texts that spell a numeral**.

Main results:

* `Numeral.read?_eq_some_iff` — a text is read as the numeral that it spells, and otherwise not;
* `Numeral.read?_map_toUpper` — the case of letters makes no difference;
* `Numeral.spells_whole` — a sign, zeros and the digits of a whole number spell the number;
* `Decimal.toBinary64?_whole` — **whole numbers below `2 ^ 53` are not rounded**;
* `Decimal.roundBits_mul_two_pow` — nor is the product of a number of the format and a power of two.
-/

import ObjectInitializer.Decimal
import ObjectInitializer.Proofs.Text.Case

set_option relaxedAutoImplicit false
set_option autoImplicit false

namespace ObjectInitializer

open Json (IsDigits Stops stops_nil stops_cons)
open Text (toUpper_eq_or toUpper_eq_iff toLower_eq_or)

namespace Numeral

/-! ### The grammar -/

/-- A sign or none, and whether it is a minus. -/
inductive SpellsSign : List Char → Bool → Prop where
  | none : SpellsSign [] false
  | plus : SpellsSign ['+'] false
  | minus : SpellsSign ['-'] true

/-- Nothing, or a point and digits if there are any, and the digits. -/
inductive SpellsFraction : List Char → List Char → Prop where
  | none : SpellsFraction [] []
  | point {digits : List Char} (hdigits : ∀ c ∈ digits, c.isDigit = true) :
      SpellsFraction ('.' :: digits) digits

/-- Nothing, or the letter `e` in either case, a sign or none, and digits, and the power of ten. -/
inductive SpellsExponent : List Char → Int → Prop where
  | none : SpellsExponent [] 0
  | letter {e : Char} {sign digits : List Char} {negative : Bool} (he : e = 'e' ∨ e = 'E')
      (hsign : SpellsSign sign negative) (hdigits : IsDigits digits) :
      SpellsExponent (e :: (sign ++ digits))
        (if negative then -(Nat.ofDigitChars 10 digits 0 : Int) else Nat.ofDigitChars 10 digits 0)

/-- A number without its sign: digits on one side of the point at least, and an exponent, which is
less by the digits behind the point. -/
inductive SpellsNumber (negative : Bool) : List Char → Decimal → Prop where
  | intro {whole fraction digits exponent : List Char} {power : Int}
      (hwhole : ∀ c ∈ whole, c.isDigit = true) (hfraction : SpellsFraction fraction digits)
      (hexponent : SpellsExponent exponent power) (hne : whole ++ digits ≠ []) :
      SpellsNumber negative (whole ++ (fraction ++ exponent))
        ⟨negative, Nat.ofDigitChars 10 (whole ++ digits) 0, power - digits.length⟩

/-- **The texts that spell a numeral.** -/
inductive Spells : List Char → Numeral → Prop where
  | finite {sign number : List Char} {negative : Bool} {value : Decimal}
      (hsign : SpellsSign sign negative) (hnumber : SpellsNumber negative number value) :
      Spells (sign ++ number) (.finite value)
  | infinite {sign word : List Char} {negative : Bool} (hsign : SpellsSign sign negative)
      (hword : word.map Char.toLower = "inf".toList ∨
        word.map Char.toLower = "infinity".toList) :
      Spells (sign ++ word) (.infinite negative)
  | nan {sign word : List Char} {negative : Bool} (hsign : SpellsSign sign negative)
      (hword : word.map Char.toLower = "nan".toList) :
      Spells (sign ++ word) .nan

variable {cs sign fraction digits exponent rest : List Char} {negative : Bool} {power : Int}
  {value : Decimal}

/-! ### The parts of a numeral -/

/-- The value of digits is what the library has it be. -/
theorem digitsValue_eq (n : Nat) (digits : List Char) :
    digitsValue n digits = Nat.ofDigitChars 10 digits n :=
  rfl

/-- The characters of signs. -/
def isSign (c : Char) : Bool :=
  c == '+' || c == '-'

theorem splitSign_of_stops (h : Stops isSign rest) : splitSign rest = (false, rest) := by
  rw [splitSign]
  · rintro cs rfl
    exact absurd h (by simp [isSign])
  · rintro cs rfl
    exact absurd h (by simp [isSign])

theorem splitSign_append (hsign : SpellsSign sign negative) (hrest : Stops isSign rest) :
    splitSign (sign ++ rest) = (negative, rest) := by
  cases hsign with
  | none => exact splitSign_of_stops hrest
  | plus => rfl
  | minus => rfl

theorem spellsSign_of_splitSign (h : splitSign cs = (negative, rest)) :
    ∃ sign, SpellsSign sign negative ∧ cs = sign ++ rest := by
  unfold splitSign at h
  split at h
  · cases h
    exact ⟨_, .minus, rfl⟩
  · cases h
    exact ⟨_, .plus, rfl⟩
  · cases h
    exact ⟨_, .none, rfl⟩

theorem isDigit_iff_code {c : Char} : c.isDigit = true ↔ 48 ≤ c.toNat ∧ c.toNat ≤ 57 := by
  simp [Char.isDigit, UInt32.le_iff_toNat_le]

theorem isSign_of_isDigit {c : Char} (h : c.isDigit = true) : isSign c = false := by
  rw [Bool.eq_false_iff]
  rintro hsign
  simp only [isSign, Bool.or_eq_true, beq_iff_eq] at hsign
  rcases hsign with rfl | rfl <;> simp [Char.isDigit] at h

theorem stops_isSign (h : IsDigits digits) : Stops isSign digits := by
  obtain ⟨hne, hdigits⟩ := h
  obtain ⟨d, ds, rfl⟩ := List.exists_cons_of_ne_nil hne
  exact stops_cons.2 (isSign_of_isDigit (hdigits d (List.mem_cons_self ..)))

theorem takeWhile_digits_append (hdigits : ∀ c ∈ digits, c.isDigit = true)
    (hrest : Stops Char.isDigit rest) :
    (digits ++ rest).takeWhile Char.isDigit = digits ∧
      (digits ++ rest).dropWhile Char.isDigit = rest := by
  rw [List.takeWhile_append_of_pos hdigits, List.dropWhile_append_of_pos hdigits]
  cases rest with
  | nil => simp
  | cons c rest => simp [stops_cons.1 hrest]

/-- Behind an exponent's place there is neither digit nor point. -/
theorem SpellsExponent.stops (h : SpellsExponent exponent power) :
    Stops (fun c => c.isDigit || c == '.') exponent := by
  cases h with
  | none => exact stops_nil
  | letter he hsign hdigits =>
      refine stops_cons.2 ?_
      rcases he with rfl | rfl <;> rfl

/-- The exponents that the grammar allows are read, and no others. -/
theorem readExponent?_eq_some_iff : readExponent? cs = some power ↔ SpellsExponent cs power := by
  constructor
  · intro h
    unfold readExponent? at h
    split at h
    · cases h
      exact .none
    · rename_i e cs
      split at h
      · rename_i he
        rcases hsplit : splitSign cs with ⟨negative, digits⟩
        obtain ⟨sign, hsign, rfl⟩ := spellsSign_of_splitSign hsplit
        simp only [hsplit] at h
        split at h
        · cases h
        · rename_i hdigits
          have hexponent : SpellsExponent (e :: (sign ++ digits)) _ :=
            .letter (by simpa using he) hsign (by simpa [IsDigits] using hdigits)
          cases negative <;> cases h <;> exact hexponent
      · cases h
  · rintro (_ | ⟨he, hsign, hdigits⟩)
    · rfl
    · rename_i e sign digits negative
      have hempty : digits.isEmpty = false := by simpa using hdigits.1
      have hall : digits.all Char.isDigit = true := List.all_eq_true.2 hdigits.2
      have hletter : (e = 'e' || e = 'E') = true := by simpa using he
      rw [readExponent?, if_pos hletter, splitSign_append hsign (stops_isSign hdigits)]
      simp only [hempty, hall, Bool.not_true, Bool.or_false, Bool.false_eq_true, if_false]
      cases negative <;> rfl

theorem splitFraction_append (hfraction : SpellsFraction fraction digits)
    (hrest : Stops (fun c => c.isDigit || c == '.') rest) :
    splitFraction (fraction ++ rest) = (digits, rest) := by
  cases hfraction with
  | none =>
      rw [List.nil_append, splitFraction]
      rintro cs rfl
      exact absurd hrest (by simp)
  | point hdigits =>
      have hstops : Stops Char.isDigit rest := hrest.mono fun c hc => by simp [hc]
      obtain ⟨htake, hdrop⟩ := takeWhile_digits_append hdigits hstops
      rw [List.cons_append, splitFraction, htake, hdrop]

theorem spellsFraction_of_splitFraction (h : splitFraction cs = (digits, rest)) :
    ∃ fraction, SpellsFraction fraction digits ∧ cs = fraction ++ rest := by
  unfold splitFraction at h
  split at h
  · rename_i cs
    cases h
    refine ⟨_, .point (fun c => List.mem_takeWhile_imp), ?_⟩
    rw [List.cons_append, List.takeWhile_append_dropWhile]
  · cases h
    exact ⟨_, .none, rfl⟩

/-! ### Numbers -/

/-- A number starts with a digit or with the point. -/
theorem SpellsNumber.exists_head (h : SpellsNumber negative cs value) :
    ∃ c rest, cs = c :: rest ∧ (c.isDigit = true ∨ c = '.') := by
  obtain ⟨hwhole, hfraction, hexponent, hne⟩ := h
  rename_i whole fraction digits exponent power
  cases whole with
  | cons c whole => exact ⟨c, _, rfl, .inl (hwhole c (List.mem_cons_self ..))⟩
  | nil =>
      cases hfraction with
      | none => exact absurd rfl hne
      | point hdigits => exact ⟨'.', _, rfl, .inr rfl⟩

/-- A number is read up to the place of its point, behind it, and from its exponent on. -/
theorem readNumber?_of_spells (h : SpellsNumber negative cs value) :
    readNumber? negative cs = some value := by
  obtain ⟨hwhole, hfraction, hexponent, hne⟩ := h
  rename_i whole fraction digits exponent power
  have hstops : Stops Char.isDigit (fraction ++ exponent) := by
    cases hfraction with
    | none => exact hexponent.stops.mono fun c hc => by simp [hc]
    | point hdigits => exact stops_cons.2 rfl
  obtain ⟨htake, hdrop⟩ := takeWhile_digits_append hwhole hstops
  have hsome : (whole.isEmpty && digits.isEmpty) = false := by
    simpa [Bool.eq_false_iff] using hne
  rw [readNumber?, htake, hdrop, splitFraction_append hfraction hexponent.stops]
  simp only [hsome, Bool.false_eq_true, if_false, readExponent?_eq_some_iff.2 hexponent,
    digitsValue_eq, Nat.ofDigitChars_append]

theorem spellsNumber_of_readNumber? (h : readNumber? negative cs = some value) :
    SpellsNumber negative cs value := by
  rcases hsplit : splitFraction (cs.dropWhile Char.isDigit) with ⟨digits, exponent⟩
  obtain ⟨fraction, hfraction, hrest⟩ := spellsFraction_of_splitFraction hsplit
  have hcs : cs = cs.takeWhile Char.isDigit ++ (fraction ++ exponent) := by
    rw [← hrest, List.takeWhile_append_dropWhile]
  rw [readNumber?, hsplit] at h
  dsimp only at h
  split at h
  · cases h
  · rename_i hne
    split at h
    · rename_i power hpower
      cases h
      have hspells : SpellsNumber negative _ _ :=
        .intro (fun c => List.mem_takeWhile_imp) hfraction (readExponent?_eq_some_iff.1 hpower)
          (by simpa using hne)
      rwa [← hcs, Nat.ofDigitChars_append] at hspells
    · cases h

/-! ### Numerals -/

/-- The text behind the sign is a word or a number. -/
theorem read?_eq_of_splitSign (h : splitSign cs = (negative, rest)) :
    read? cs =
      if rest.map Char.toLower = "inf".toList ∨ rest.map Char.toLower = "infinity".toList then
        some (.infinite negative)
      else if rest.map Char.toLower = "nan".toList then some .nan
      else (readNumber? negative rest).map .finite := by
  have hword (word : String) :
      String.ofList (rest.map Char.toLower) = word ↔ rest.map Char.toLower = word.toList := by
    rw [← String.toList_inj, String.toList_ofList]
  rw [read?, h]
  simp only [hword, Bool.or_eq_true, decide_eq_true_eq]

theorem toLower_of_isDigit_or {c : Char} (h : c.isDigit = true ∨ c = '.') :
    c.toLower = c ∧ isSign c = false := by
  rcases h with h | rfl
  · refine ⟨?_, isSign_of_isDigit h⟩
    rcases toLower_eq_or c with hlower | hcapital
    · exact hlower
    · have hcode := isDigit_iff_code.1 h
      omega
  · decide

/-- A number is no word. -/
theorem map_toLower_ne_word {c : Char} (h : c.isDigit = true ∨ c = '.') (cs word : List Char)
    (hword : ∀ d ∈ word.head?, d.isDigit = false ∧ d ≠ '.') :
    (c :: cs).map Char.toLower ≠ word := by
  rintro rfl
  rw [List.map_cons, (toLower_of_isDigit_or h).1] at hword
  obtain ⟨hdigit, hpoint⟩ := hword c rfl
  rcases h with h | h
  · rw [h] at hdigit
    cases hdigit
  · exact hpoint h

/-- A word does not start with a sign. -/
theorem stops_isSign_of_map_toLower {word : List Char} {d : Char} {ds : List Char}
    (h : word.map Char.toLower = d :: ds) (hd : isSign d = false) : Stops isSign word := by
  cases word with
  | nil => exact stops_nil
  | cons c word =>
      rw [List.map_cons, List.cons.injEq] at h
      refine stops_cons.2 (Bool.eq_false_iff.2 fun hsign => ?_)
      have hc : c = '+' ∨ c = '-' := by simpa [isSign] using hsign
      rcases hc with rfl | rfl
      · rw [← h.1] at hd
        exact absurd hd (by decide)
      · rw [← h.1] at hd
        exact absurd hd (by decide)

/-- **A text is read as the numeral that it spells, and otherwise not.** -/
theorem read?_eq_some_iff {numeral : Numeral} : read? cs = some numeral ↔ Spells cs numeral := by
  constructor
  · intro h
    rcases hsplit : splitSign cs with ⟨negative, rest⟩
    obtain ⟨sign, hsign, rfl⟩ := spellsSign_of_splitSign hsplit
    rw [read?_eq_of_splitSign hsplit] at h
    split at h
    · rename_i hword
      cases h
      exact .infinite hsign hword
    · split at h
      · rename_i hword
        cases h
        exact .nan hsign hword
      · obtain ⟨value, hvalue, rfl⟩ := Option.map_eq_some_iff.1 h
        exact .finite hsign (spellsNumber_of_readNumber? hvalue)
  · intro h
    cases h with
    | finite hsign hnumber =>
        obtain ⟨c, rest, rfl, hc⟩ := hnumber.exists_head
        have hstops : Stops isSign (c :: rest) := stops_cons.2 (toLower_of_isDigit_or hc).2
        rw [read?_eq_of_splitSign (splitSign_append hsign hstops), if_neg, if_neg,
          readNumber?_of_spells hnumber]
        · rfl
        · exact map_toLower_ne_word hc rest _ (by simp)
        · rintro (h | h)
          · exact map_toLower_ne_word hc rest _ (by simp) h
          · exact map_toLower_ne_word hc rest _ (by simp) h
    | infinite hsign hword =>
        have hstops : Stops isSign _ :=
          hword.elim (fun h => stops_isSign_of_map_toLower h rfl)
            (fun h => stops_isSign_of_map_toLower h rfl)
        rw [read?_eq_of_splitSign (splitSign_append hsign hstops), if_pos hword]
    | nan hsign hword =>
        have hstops : Stops isSign _ := stops_isSign_of_map_toLower hword rfl
        rw [read?_eq_of_splitSign (splitSign_append hsign hstops), hword, if_neg (by decide),
          if_pos rfl]

/-! ### Case and characters -/

theorem isDigit_toUpper (c : Char) : c.toUpper.isDigit = c.isDigit := by
  rcases toUpper_eq_or c with h | ⟨hsmall, h⟩
  · rw [h]
  · rw [Bool.eq_iff_iff, isDigit_iff_code, isDigit_iff_code, h]
    omega

theorem map_toUpper_of_digits (hdigits : ∀ c ∈ digits, c.isDigit = true) :
    digits.map Char.toUpper = digits := by
  rw [List.map_congr_left (g := id), List.map_id]
  intro c hc
  have hcode := isDigit_iff_code.1 (hdigits c hc)
  rcases toUpper_eq_or c with h | ⟨hsmall, -⟩
  · exact h
  · omega

theorem isSign_toUpper (c : Char) : isSign c.toUpper = isSign c := by
  rw [Bool.eq_iff_iff]
  simp only [isSign, Bool.or_eq_true, beq_iff_eq]
  rw [toUpper_eq_iff (by decide), toUpper_eq_iff (by decide)]

theorem splitSign_map_toUpper (cs : List Char) :
    splitSign (cs.map Char.toUpper) = ((splitSign cs).1, (splitSign cs).2.map Char.toUpper) := by
  cases cs with
  | nil => rfl
  | cons c cs =>
      cases hc : isSign c with
      | false =>
          rw [splitSign_of_stops (stops_cons.2 hc), List.map_cons,
            splitSign_of_stops (stops_cons.2 ((isSign_toUpper c).trans hc))]
      | true =>
          have hsign : c = '+' ∨ c = '-' := by simpa [isSign] using hc
          rcases hsign with rfl | rfl <;> rfl

theorem takeWhile_map_toUpper (cs : List Char) :
    (cs.map Char.toUpper).takeWhile Char.isDigit = cs.takeWhile Char.isDigit := by
  have hcomp : Char.isDigit ∘ Char.toUpper = Char.isDigit := funext isDigit_toUpper
  rw [List.takeWhile_map, hcomp, map_toUpper_of_digits fun c => List.mem_takeWhile_imp]

theorem dropWhile_map_toUpper (cs : List Char) :
    (cs.map Char.toUpper).dropWhile Char.isDigit =
      (cs.dropWhile Char.isDigit).map Char.toUpper := by
  have hcomp : Char.isDigit ∘ Char.toUpper = Char.isDigit := funext isDigit_toUpper
  rw [List.dropWhile_map, hcomp]

theorem splitFraction_map_toUpper (cs : List Char) :
    splitFraction (cs.map Char.toUpper) =
      ((splitFraction cs).1, (splitFraction cs).2.map Char.toUpper) := by
  cases cs with
  | nil => rfl
  | cons c cs =>
      by_cases hc : c = '.'
      · subst hc
        show ((cs.map Char.toUpper).takeWhile Char.isDigit, _) = _
        rw [takeWhile_map_toUpper, dropWhile_map_toUpper]
        rfl
      · have hupper : c.toUpper ≠ '.' := by rwa [ne_eq, toUpper_eq_iff (by decide)]
        have hdefault (d : Char) (ds : List Char) (hd : d ≠ '.') :
            splitFraction (d :: ds) = ([], d :: ds) := by
          rw [splitFraction]
          rintro cs hcs
          exact hd (List.cons.inj hcs).1
        rw [List.map_cons, hdefault _ _ hc, hdefault _ _ hupper]
        rfl

theorem isExponentLetter_toUpper (e : Char) :
    (e.toUpper = 'e' || e.toUpper = 'E') = (e = 'e' || e = 'E') := by
  have hcodes : 'e'.toNat = 101 ∧ 'E'.toNat = 69 := ⟨rfl, rfl⟩
  rcases toUpper_eq_or e with h | ⟨hsmall, h⟩
  · rw [h]
  · rw [Bool.eq_iff_iff]
    simp only [Bool.or_eq_true, decide_eq_true_eq, ← Char.toNat_inj, h]
    omega

theorem readExponent?_map_toUpper (cs : List Char) :
    readExponent? (cs.map Char.toUpper) = readExponent? cs := by
  cases cs with
  | nil => rfl
  | cons e cs =>
      have hall (ds : List Char) :
          (ds.map Char.toUpper).all Char.isDigit = ds.all Char.isDigit := by
        rw [List.all_map]
        exact congrArg ds.all (funext isDigit_toUpper)
      rw [List.map_cons, readExponent?, readExponent?, isExponentLetter_toUpper,
        splitSign_map_toUpper]
      dsimp only
      rw [hall, List.isEmpty_map]
      cases hdigits : (splitSign cs).2.all Char.isDigit with
      | false => simp
      | true => rw [map_toUpper_of_digits (List.all_eq_true.1 hdigits)]

theorem readNumber?_map_toUpper (negative : Bool) (cs : List Char) :
    readNumber? negative (cs.map Char.toUpper) = readNumber? negative cs := by
  rw [readNumber?, readNumber?, takeWhile_map_toUpper, dropWhile_map_toUpper,
    splitFraction_map_toUpper]
  dsimp only
  rw [readExponent?_map_toUpper]

/-- **The case of letters makes no difference.** -/
theorem read?_map_toUpper (cs : List Char) : read? (cs.map Char.toUpper) = read? cs := by
  rcases hsplit : splitSign cs with ⟨negative, rest⟩
  have hupper : splitSign (cs.map Char.toUpper) = (negative, rest.map Char.toUpper) := by
    rw [splitSign_map_toUpper, hsplit]
  have hlower : (rest.map Char.toUpper).map Char.toLower = rest.map Char.toLower := by
    rw [List.map_map]
    exact List.map_congr_left fun c _ => Char.toLower_toUpper_eq_toLower c
  rw [read?_eq_of_splitSign hsplit, read?_eq_of_splitSign hupper, hlower, readNumber?_map_toUpper]

/-! ### Characters of numerals -/

theorem SpellsSign.chars (h : SpellsSign sign negative) :
    ∀ c ∈ sign, Json.isNumeralChar c = true := by
  cases h with
  | none => simp
  | plus => simp [Json.isNumeralChar]
  | minus => simp [Json.isNumeralChar]

theorem SpellsFraction.chars (h : SpellsFraction fraction digits) :
    ∀ c ∈ fraction, Json.isNumeralChar c = true := by
  cases h with
  | none => simp
  | point hdigits =>
      rw [List.forall_mem_cons]
      exact ⟨rfl, fun c hc => Json.isNumeralChar_of_isDigit (hdigits c hc)⟩

theorem SpellsExponent.chars (h : SpellsExponent exponent power) :
    ∀ c ∈ exponent, Json.isNumeralChar c = true := by
  cases h with
  | none => simp
  | letter he hsign hdigits =>
      rw [List.forall_mem_cons, List.forall_mem_append]
      refine ⟨?_, hsign.chars, fun c hc => Json.isNumeralChar_of_isDigit (hdigits.2 c hc)⟩
      rcases he with rfl | rfl <;> rfl

/-- A number is made of the characters that numbers of JSON are made of. -/
theorem Spells.chars_finite (h : Spells cs (.finite value)) :
    ∀ c ∈ cs, Json.isNumeralChar c = true := by
  cases h with
  | finite hsign hnumber =>
      obtain ⟨hwhole, hfraction, hexponent, -⟩ := hnumber
      simp only [List.forall_mem_append]
      exact ⟨hsign.chars, fun c hc => Json.isNumeralChar_of_isDigit (hwhole c hc),
        hfraction.chars, hexponent.chars⟩

theorem mem_of_map_toLower {word lower letters : List Char} (h : word.map Char.toLower = lower)
    (hletters : lower ⊆ letters) : ∀ c ∈ word, c.toLower ∈ letters := by
  rintro c hc
  refine hletters ?_
  rw [← h]
  exact List.mem_map_of_mem hc

/-- The characters of numerals: those of numbers, and the letters of words in either case. -/
def IsChar (c : Char) : Prop :=
  Json.isNumeralChar c = true ∨ c.toLower ∈ "infinitynan".toList

theorem Spells.chars {numeral : Numeral} (h : Spells cs numeral) : ∀ c ∈ cs, IsChar c := by
  cases h with
  | finite hsign hnumber =>
      exact fun c hc => .inl ((Spells.finite hsign hnumber).chars_finite c hc)
  | infinite hsign hword =>
      rw [List.forall_mem_append]
      refine ⟨fun c hc => .inl (hsign.chars c hc), fun c hc => .inr ?_⟩
      rcases hword with hword | hword
      · exact mem_of_map_toLower hword (by decide) c hc
      · exact mem_of_map_toLower hword (by decide) c hc
  | nan hsign hword =>
      rw [List.forall_mem_append]
      refine ⟨fun c hc => .inl (hsign.chars c hc), fun c hc => .inr ?_⟩
      exact mem_of_map_toLower hword (by decide) c hc

theorem Spells.ne_nil {numeral : Numeral} (h : Spells cs numeral) : cs ≠ [] := by
  rintro rfl
  exact absurd (read?_eq_some_iff.2 h) (by simp [read?, splitSign, readNumber?, splitFraction])

/-! ### Whole numbers -/

/-- A sign that is no minus, zeros and the digits of a whole number spell the number. -/
theorem spells_whole (hsign : SpellsSign sign false) (zeros n : Nat) :
    Spells (sign ++ (List.replicate zeros '0' ++ Nat.toDigits 10 n)) (.finite ⟨false, n, 0⟩) := by
  have hdigits : ∀ c ∈ List.replicate zeros '0' ++ Nat.toDigits 10 n, c.isDigit = true := by
    rw [List.forall_mem_append]
    refine ⟨fun c hc => ?_, fun c => Nat.isDigit_of_mem_toDigits (by decide) (by decide)⟩
    rw [List.eq_of_mem_replicate hc]
    rfl
  have hvalue :
      Nat.ofDigitChars 10 (List.replicate zeros '0' ++ Nat.toDigits 10 n ++ []) 0 = n := by
    rw [List.append_nil, Nat.ofDigitChars_append, Nat.ofDigitChars_replicate_zero, Nat.mul_zero,
      Nat.ofDigitChars_ten_toDigits]
  have hnumber : SpellsNumber false _ _ :=
    .intro hdigits .none .none (by simp [Nat.toDigits_ne_nil])
  rw [hvalue] at hnumber
  simpa using Spells.finite hsign hnumber

end Numeral

/-! ### Rounding -/

namespace Decimal

theorem roundQuotient_mul (whole : Nat) {den : Nat} (hden : 0 < den) :
    roundQuotient (whole * den) den = whole := by
  rw [roundQuotient]
  simp [Nat.mul_div_cancel whole hden, hden]

/-- An integer is not rounded if what is beyond its first 53 bits is zero. -/
theorem roundBits_of_dvd {m : Nat} (h : 2 ^ (m.log2 - 52) ∣ m) : roundBits m 1 = m := by
  have hstep : 0 < 2 ^ (m.log2 - 52) := Nat.two_pow_pos _
  rw [roundBits, Nat.div_one, Nat.one_mul, Nat.pow_eq]
  calc roundQuotient m (2 ^ (m.log2 - 52)) * 2 ^ (m.log2 - 52)
      = roundQuotient (m / 2 ^ (m.log2 - 52) * 2 ^ (m.log2 - 52)) (2 ^ (m.log2 - 52)) *
          2 ^ (m.log2 - 52) := by rw [Nat.div_mul_cancel h]
    _ = m / 2 ^ (m.log2 - 52) * 2 ^ (m.log2 - 52) := by rw [roundQuotient_mul _ hstep]
    _ = m := Nat.div_mul_cancel h

/-- A number of 53 bits is not rounded wherever its point is. -/
theorem roundBits_shifted {n : Nat} (hn : n ≤ 2 ^ 53) (k : Nat) :
    roundBits (n * 2 ^ k) 1 = n * 2 ^ k := by
  refine roundBits_of_dvd ?_
  rcases Nat.lt_or_eq_of_le hn with hlt | rfl
  · have hdvd : 2 ^ ((n * 2 ^ k).log2 - 52) ∣ 2 ^ k := by
      rcases Nat.eq_zero_or_pos n with rfl | hpos
      · simp
      · have hk : 0 < 2 ^ k := Nat.two_pow_pos k
        have hbits : n * 2 ^ k < 2 ^ (53 + k) := by
          rw [Nat.pow_add]
          exact Nat.mul_lt_mul_of_pos_right hlt hk
        have hlog : (n * 2 ^ k).log2 < 53 + k := (Nat.log2_lt (Nat.mul_pos hpos hk).ne').2 hbits
        exact Nat.pow_dvd_pow 2 (by omega)
    exact Nat.dvd_trans hdvd (Nat.dvd_mul_left _ _)
  · rw [← Nat.pow_add, Nat.log2_two_pow]
    exact Nat.pow_dvd_pow 2 (by omega)

theorem roundQuotient_le (num den : Nat) : roundQuotient num den ≤ num / den + 1 := by
  rw [roundQuotient]
  split
  · omega
  · split <;> omega

/-- Rounding leaves 53 bits. -/
theorem exists_roundBits_eq (num den : Nat) :
    ∃ n k, n ≤ 2 ^ 53 ∧ roundBits num den = n * 2 ^ k := by
  refine ⟨_, (num / den).log2 - 52, ?_, rfl⟩
  refine (roundQuotient_le _ _).trans ?_
  have hlt : num / den < 2 ^ ((num / den).log2 + 1) := Nat.lt_log2_self
  have hle : 2 ^ ((num / den).log2 + 1) ≤ 2 ^ 53 * 2 ^ ((num / den).log2 - 52) := by
    rw [← Nat.pow_add]
    exact Nat.pow_le_pow_right (by decide) (by omega)
  rw [← Nat.div_div_eq_div_mul]
  exact Nat.div_lt_of_lt_mul (by rw [Nat.mul_comm]; exact hlt.trans_le hle)

/-- **The product of a number of the format and a power of two is not rounded.** -/
theorem roundBits_mul_two_pow {value : Decimal} {multiple : Nat}
    (h : value.toBinary64? = some multiple) (k : Nat) :
    roundBits (multiple * 2 ^ k) 1 = multiple * 2 ^ k := by
  rw [toBinary64?] at h
  split at h
  · cases h
  · split at h
    · cases h
      exact roundBits_shifted (Nat.zero_le _) k
    · dsimp only at h
      split at h
      · cases h
      · cases h
        obtain ⟨n, l, hn, hround⟩ := exists_roundBits_eq (value.quotient.1 * binary64Unit)
          value.quotient.2
        rw [hround, Nat.mul_assoc, ← Nat.pow_add]
        exact roundBits_shifted hn (l + k)

theorem binary64Unit_pos : 0 < binary64Unit := by
  unfold binary64Unit
  generalize 1074 = k
  exact Nat.two_pow_pos k

theorem le_binary64Bound : 2 ^ 53 * binary64Unit ≤ binary64Bound := by
  unfold binary64Bound binary64Unit
  generalize 1074 = k
  have hle : 2 ^ (53 + k) ≤ 2 ^ (1024 + k) := Nat.pow_le_pow_right (by decide) (by omega)
  rwa [Nat.pow_add 2 53 k] at hle

/-- **Whole numbers below `2 ^ 53` are not rounded.** -/
theorem toBinary64?_whole (negative : Bool) {n : Nat} (hn : n < 2 ^ 53) :
    (⟨negative, n, 0⟩ : Decimal).toBinary64? = some (n * binary64Unit) := by
  have hhuge : (⟨negative, n, 0⟩ : Decimal).isHuge = false := by simp [isHuge]
  rw [toBinary64?, hhuge]
  rcases Nat.eq_zero_or_pos n with rfl | hpos
  · simp [isTiny]
  · have htiny : (⟨negative, n, 0⟩ : Decimal).isTiny = false := by
      simp only [isTiny, Bool.or_eq_false_iff, beq_eq_false_iff_ne, decide_eq_false_iff_not]
      omega
    have hquotient : (⟨negative, n, 0⟩ : Decimal).quotient = (n, 1) := by simp [quotient]
    have hround : roundBits (n * binary64Unit) 1 = n * binary64Unit := by
      unfold binary64Unit
      generalize 1074 = k
      exact roundBits_shifted (Nat.le_of_lt hn) k
    have hbound : ¬ binary64Bound ≤ n * binary64Unit :=
      Nat.not_le.2 (Nat.lt_of_lt_of_le
        (Nat.mul_lt_mul_of_pos_right hn binary64Unit_pos) le_binary64Bound)
    rw [htiny, hquotient]
    simp only [Bool.false_eq_true, if_false, hround, if_neg hbound]

end Decimal

end ObjectInitializer
