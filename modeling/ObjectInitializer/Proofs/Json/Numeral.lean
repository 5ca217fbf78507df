/-
**Numerals of JSON.**

The grammar by which JSON writes a number: an optional minus, an integer without leading zeros,
an optional fraction and an optional exponent.  The grammar is given by its parts, apart from any
reader.  A numeral does not show where it ends, and a scanner takes as much as it can: it stops
behind a numeral if what follows is no character that numerals are made of.

Main definitions:

* `Json.IsNumeral` — the numerals;
* `Json.Stops` — a text that does not go on with a class of characters.

Main results:

* `Json.IsNumeral.starts` — a numeral starts as a number may start;
* `Json.IsNumeral.chars` — a numeral is made of digits, signs, the point and the letter `e`;
* `Json.scanNumber_append`, `Json.isNumeral_of_scanNumber` — the scanner takes the numerals, and
  nothing else;
* `Json.readBareNumber_eq_ok_iff` — **a text by itself is read as a number exactly if it is a
  numeral**.
-/

import ObjectInitializer.Json.Number

set_option relaxedAutoImplicit false
set_option autoImplicit false

namespace ObjectInitializer.Json

open Except (map_eq_ok_iff bind_eq_ok_iff)

/-! ### The grammar -/

/-- One digit or more. -/
def IsDigits (cs : List Char) : Prop :=
  cs ≠ [] ∧ ∀ c ∈ cs, c.isDigit = true

/-- The digits in front of the point: `0` alone, or digits of which the first is not `0`. -/
def IsInteger (cs : List Char) : Prop :=
  cs = ['0'] ∨ IsDigits cs ∧ cs.head? ≠ some '0'

/-- Nothing, or a point and digits. -/
def IsFraction (cs : List Char) : Prop :=
  cs = [] ∨ ∃ digits, IsDigits digits ∧ cs = '.' :: digits

/-- Nothing, or the letter `e` in either case, a sign if there is one, and digits. -/
def IsExponent (cs : List Char) : Prop :=
  cs = [] ∨ ∃ e sign digits, (e = 'e' ∨ e = 'E') ∧ (sign = [] ∨ sign = ['+'] ∨ sign = ['-']) ∧
    IsDigits digits ∧ cs = e :: (sign ++ digits)

/-- A minus if there is one, an integer, a fraction and an exponent. -/
def IsNumeral (cs : List Char) : Prop :=
  ∃ minus whole fraction exponent, (minus = [] ∨ minus = ['-']) ∧ IsInteger whole ∧
    IsFraction fraction ∧ IsExponent exponent ∧ cs = minus ++ whole ++ fraction ++ exponent

/-! ### Characters of numerals -/

/-- The characters that numerals are made of. -/
def isNumeralChar (c : Char) : Bool :=
  c.isDigit || c == '-' || c == '+' || c == '.' || c == 'e' || c == 'E'

theorem isNumeralChar_of_isDigit {c : Char} (h : c.isDigit = true) : isNumeralChar c = true := by
  simp [isNumeralChar, h]

theorem IsInteger.isDigits {cs : List Char} (h : IsInteger cs) : IsDigits cs := by
  rcases h with rfl | ⟨h, -⟩
  · refine ⟨by simp, fun c hc => ?_⟩
    rw [List.mem_singleton.1 hc]
    rfl
  · exact h

theorem IsFraction.chars {cs : List Char} (h : IsFraction cs) :
    ∀ c ∈ cs, isNumeralChar c = true := by
  intro c hc
  rcases h with rfl | ⟨digits, hd, rfl⟩
  · simp at hc
  · rcases List.mem_cons.1 hc with rfl | hc
    · rfl
    · exact isNumeralChar_of_isDigit (hd.2 c hc)

theorem IsExponent.chars {cs : List Char} (h : IsExponent cs) :
    ∀ c ∈ cs, isNumeralChar c = true := by
  intro c hc
  rcases h with rfl | ⟨e, sign, digits, he, hs, hd, rfl⟩
  · simp at hc
  · rcases List.mem_cons.1 hc with rfl | hc
    · rcases he with rfl | rfl <;> rfl
    · rcases List.mem_append.1 hc with hc | hc
      · rcases hs with rfl | rfl | rfl
        · simp at hc
        · rw [List.mem_singleton.1 hc]
          rfl
        · rw [List.mem_singleton.1 hc]
          rfl
      · exact isNumeralChar_of_isDigit (hd.2 c hc)

/-- A numeral is made of digits, signs, the point and the letter `e`. -/
theorem IsNumeral.chars {cs : List Char} (h : IsNumeral cs) :
    ∀ c ∈ cs, isNumeralChar c = true := by
  obtain ⟨minus, whole, fraction, exponent, hm, hw, hf, he, rfl⟩ := h
  intro c hc
  simp only [List.mem_append] at hc
  rcases hc with ((hc | hc) | hc) | hc
  · rcases hm with rfl | rfl
    · simp at hc
    · rw [List.mem_singleton.1 hc]
      rfl
  · exact isNumeralChar_of_isDigit (hw.isDigits.2 c hc)
  · exact hf.chars c hc
  · exact he.chars c hc

/-- A numeral starts as a number may start. -/
theorem IsNumeral.starts {cs : List Char} (h : IsNumeral cs) :
    ∃ c rest, cs = c :: rest ∧ startsNumber c = true := by
  obtain ⟨minus, whole, fraction, exponent, hm, hw, -, -, rfl⟩ := h
  rcases hm with rfl | rfl
  · -- without a minus, the integer comes first, and it has a digit
    obtain ⟨hne, hdigits⟩ := hw.isDigits
    obtain ⟨c, rest, rfl⟩ := List.exists_cons_of_ne_nil hne
    have hc : c.isDigit = true := hdigits c (List.mem_cons_self ..)
    exact ⟨c, rest ++ fraction ++ exponent, by simp, by simp [startsNumber, hc]⟩
  · exact ⟨'-', whole ++ fraction ++ exponent, by simp, rfl⟩

/-- A digit is a numeral. -/
theorem isNumeral_singleton {c : Char} (h : c.isDigit = true) : IsNumeral [c] := by
  refine ⟨[], [c], [], [], Or.inl rfl, ?_, Or.inl rfl, Or.inl rfl, rfl⟩
  by_cases hc : c = '0'
  · exact Or.inl (by rw [hc])
  · exact Or.inr ⟨⟨List.cons_ne_nil c [], by simpa using h⟩, by simpa using hc⟩

/-! ### Where a run of characters stops -/

/-- The text does not start with a character of the class. -/
def Stops (p : Char → Bool) (cs : List Char) : Prop :=
  ∀ c ∈ cs.head?, p c = false

variable {p q : Char → Bool} {cs ds rest : List Char}

@[simp] theorem stops_nil : Stops p [] := by
  simp [Stops]

@[simp] theorem stops_cons {c : Char} : Stops p (c :: cs) ↔ p c = false := by
  simp [Stops]

/-- A class stops wherever a wider one does. -/
theorem Stops.mono (h : Stops q cs) (hpq : ∀ c, p c = true → q c = true) : Stops p cs := by
  intro c hc
  cases hp : p c with
  | false => rfl
  | true => rw [← hpq c hp]; exact h c hc

/-! ### Scanning what the grammar allows -/

theorem scanDigits_append (h : IsDigits ds) (hrest : Stops Char.isDigit rest) :
    scanDigits (ds ++ rest) = .ok (ds, rest) := by
  obtain ⟨hne, hdigits⟩ := h
  have hspan : spanDigits (ds ++ rest) = (ds, rest) := by
    have htake : rest.takeWhile Char.isDigit = [] ∧ rest.dropWhile Char.isDigit = rest := by
      cases rest with
      | nil => exact ⟨rfl, rfl⟩
      | cons c rest => simp [stops_cons.1 hrest]
    rw [spanDigits, List.takeWhile_append_of_pos hdigits, List.dropWhile_append_of_pos hdigits,
      htake.1, htake.2, List.append_nil]
  obtain ⟨d, ds, rfl⟩ := List.exists_cons_of_ne_nil hne
  rw [List.cons_append] at hspan ⊢
  rw [scanDigits, if_pos (hdigits d (List.mem_cons_self ..)), hspan]

/-- What is spanned as digits is digits. -/
theorem isDigit_of_spanDigits (h : spanDigits cs = (ds, rest)) : ∀ c ∈ ds, c.isDigit = true := by
  have htake : cs.takeWhile Char.isDigit = ds := congrArg Prod.fst h
  rw [← htake]
  exact List.all_eq_true.1 List.all_takeWhile

theorem isDigits_of_scanDigits (h : scanDigits cs = .ok (ds, rest)) : IsDigits ds := by
  refine ⟨(scanDigits_eq h).2, fun c hc => ?_⟩
  cases cs with
  | nil => cases h
  | cons d cs =>
      simp only [scanDigits] at h
      split at h
      · exact isDigit_of_spanDigits (Except.ok.inj h) c hc
      · cases h

theorem scanInteger_append (h : IsInteger ds) (hrest : Stops Char.isDigit rest) :
    scanInteger (ds ++ rest) = .ok (ds, rest) := by
  rcases h with rfl | ⟨hdigits, hzero⟩
  · cases rest with
    | nil => rfl
    | cons c rest =>
        have hc : ¬ c.isDigit = true := by simp [stops_cons.1 hrest]
        rw [List.cons_append, List.nil_append, scanInteger, if_neg hc]
  · rw [← scanDigits_append hdigits hrest]
    obtain ⟨d, ds, rfl⟩ := List.exists_cons_of_ne_nil hdigits.1
    unfold scanInteger
    split
    · -- the first digit would be zero
      rename_i heq
      obtain ⟨rfl, -⟩ := List.cons.inj heq
      exact absurd rfl hzero
    · rfl

theorem isInteger_of_scanInteger (h : scanInteger cs = .ok (ds, rest)) : IsInteger ds := by
  unfold scanInteger at h
  split at h
  · split at h
    · split at h
      · cases h
      · cases h; exact Or.inl rfl
    · cases h; exact Or.inl rfl
  · rename_i hzero
    refine Or.inr ⟨isDigits_of_scanDigits h, fun hhead => ?_⟩
    obtain ⟨ds', rfl⟩ := List.head?_eq_some_iff.1 hhead
    exact hzero _ (scanDigits_eq h).1

theorem scanFraction_append (h : IsFraction ds)
    (hrest : Stops (fun c => c.isDigit || c == '.') rest) :
    scanFraction (ds ++ rest) = .ok (ds, rest) := by
  rcases h with rfl | ⟨digits, hdigits, rfl⟩
  · rw [List.nil_append, scanFraction]
    rintro cs rfl
    simp at hrest
  · have hscan := scanDigits_append hdigits (hrest.mono fun c hc => by simp [hc])
    obtain ⟨d, ds, rfl⟩ := List.exists_cons_of_ne_nil hdigits.1
    rw [List.cons_append, scanDigits, if_pos (hdigits.2 d (List.mem_cons_self ..))] at hscan
    rw [List.cons_append, List.cons_append, scanFraction, Except.ok.inj hscan]

theorem isFraction_of_scanFraction (h : scanFraction cs = .ok (ds, rest)) : IsFraction ds := by
  unfold scanFraction at h
  split at h
  · rename_i cs'
    split at h
    · cases h
    · cases h
    · rename_i hne hspan
      cases h
      exact Or.inr ⟨_, ⟨hne, isDigit_of_spanDigits hspan⟩, rfl⟩
  · cases h
    exact Or.inl rfl

theorem spanSign_append_of (h : ds = [] ∨ ds = ['+'] ∨ ds = ['-'])
    (hrest : Stops (fun c => c == '+' || c == '-') rest) :
    spanSign (ds ++ rest) = (ds, rest) := by
  rcases h with rfl | rfl | rfl
  · cases rest with
    | nil => rfl
    | cons c rest =>
        have hc := stops_cons.1 hrest
        simp only [Bool.or_eq_false_iff, beq_eq_false_iff_ne] at hc
        simp [spanSign, hc]
  · simp [spanSign]
  · simp [spanSign]

theorem sign_of_spanSign (h : spanSign cs = (ds, rest)) : ds = [] ∨ ds = ['+'] ∨ ds = ['-'] := by
  unfold spanSign at h
  split at h
  · split at h
    · rename_i hc
      cases h
      simpa using hc
    · cases h
      exact Or.inl rfl
  · cases h
    exact Or.inl rfl

theorem scanExponent_append (h : IsExponent ds)
    (hrest : Stops (fun c => c.isDigit || c == 'e' || c == 'E') rest) :
    scanExponent (ds ++ rest) = .ok (ds, rest) := by
  rcases h with rfl | ⟨e, sign, digits, he, hsign, hdigits, rfl⟩
  · cases rest with
    | nil => rfl
    | cons c rest =>
        have hc := stops_cons.1 hrest
        simp only [Bool.or_eq_false_iff, beq_eq_false_iff_ne] at hc
        simp [scanExponent, hc]
  · have hscan := scanDigits_append hdigits (hrest.mono fun c hc => by simp [hc])
    -- the digits behind the sign do not start with another one
    have hspan : spanSign (sign ++ (digits ++ rest)) = (sign, digits ++ rest) := by
      refine spanSign_append_of hsign ?_
      obtain ⟨d, ds, rfl⟩ := List.exists_cons_of_ne_nil hdigits.1
      have hd := hdigits.2 d (List.mem_cons_self ..)
      refine stops_cons.2 ?_
      cases hsigns : (d == '+' || d == '-') with
      | false => rfl
      | true =>
          rw [Bool.or_eq_true, beq_iff_eq, beq_iff_eq] at hsigns
          rcases hsigns with rfl | rfl <;> exact absurd hd (by decide)
    have hletter : (e = 'e' || e = 'E') = true := by simpa using he
    rw [List.cons_append, List.append_assoc, scanExponent, if_pos hletter, hspan]
    simp only [hscan]
    rfl

theorem isExponent_of_scanExponent (h : scanExponent cs = .ok (ds, rest)) : IsExponent ds := by
  unfold scanExponent at h
  split at h
  · rename_i e cs'
    split at h
    · rename_i hletter
      obtain ⟨⟨digits, rest'⟩, hdigits, h⟩ := bind_eq_ok_iff.1 h
      cases h
      exact Or.inr ⟨e, _, digits, by simpa using hletter, sign_of_spanSign rfl,
        isDigits_of_scanDigits hdigits, rfl⟩
    · cases h
      exact Or.inl rfl
  · cases h
    exact Or.inl rfl

theorem scanUnsigned_append {whole fraction exponent : List Char} (hwhole : IsInteger whole)
    (hfraction : IsFraction fraction) (hexponent : IsExponent exponent)
    (hrest : Stops isNumeralChar rest) :
    scanUnsigned (whole ++ fraction ++ exponent ++ rest) =
      .ok (whole ++ fraction ++ exponent, rest) := by
  -- each part stops where the next one starts, which is at no character of its own
  have hdigits : Stops Char.isDigit rest := hrest.mono fun _ => isNumeralChar_of_isDigit
  have hbehind : Stops (fun c => c.isDigit || c == '.') (exponent ++ rest) := by
    rcases hexponent with rfl | ⟨e, sign, digits, rfl | rfl, -, -, rfl⟩
    · refine hrest.mono fun c hc => ?_
      rcases Bool.or_eq_true_iff.1 hc with hc | hc
      · exact isNumeralChar_of_isDigit hc
      · simp [isNumeralChar, beq_iff_eq.1 hc]
    · exact stops_cons.2 rfl
    · exact stops_cons.2 rfl
  have hpoint : Stops Char.isDigit (fraction ++ (exponent ++ rest)) := by
    rcases hfraction with rfl | ⟨digits, -, rfl⟩
    · exact hbehind.mono fun c hc => by simp [hc]
    · exact stops_cons.2 rfl
  have hexp : Stops (fun c => c.isDigit || c == 'e' || c == 'E') rest := by
    refine hrest.mono fun c hc => ?_
    simp only [Bool.or_eq_true, beq_iff_eq] at hc
    rcases hc with (hc | rfl) | rfl
    · exact isNumeralChar_of_isDigit hc
    · rfl
    · rfl
  rw [List.append_assoc, List.append_assoc, scanUnsigned, scanInteger_append hwhole hpoint]
  show (do let r ← scanFraction (fraction ++ (exponent ++ rest)); _) = _
  rw [scanFraction_append hfraction hbehind]
  show (do let r ← scanExponent (exponent ++ rest); _) = _
  rw [scanExponent_append hexponent hexp]
  rfl

/-- **A numeral is scanned up to its end**, if no character behind it goes on. -/
theorem scanNumber_append (h : IsNumeral ds) (hrest : Stops isNumeralChar rest) :
    scanNumber (ds ++ rest) = .ok (ds, rest) := by
  obtain ⟨minus, whole, fraction, exponent, hminus, hwhole, hfraction, hexponent, rfl⟩ := h
  have hscan := scanUnsigned_append hwhole hfraction hexponent hrest
  rcases hminus with rfl | rfl
  · -- without a minus, the first character is a digit
    obtain ⟨hne, hdigits⟩ := hwhole.isDigits
    obtain ⟨d, ds, rfl⟩ := List.exists_cons_of_ne_nil hne
    rw [List.nil_append, ← hscan]
    unfold scanNumber
    split
    · rename_i heq
      obtain ⟨rfl, -⟩ := List.cons.inj heq
      exact absurd (hdigits _ (List.mem_cons_self ..)) (by decide)
    · rfl
  · rw [List.append_assoc, List.append_assoc, List.append_assoc, List.cons_append, scanNumber,
      List.nil_append, ← List.append_assoc, ← List.append_assoc, hscan]
    simp [Except.map]

/-- **What is scanned as a number is a numeral.** -/
theorem isNumeral_of_scanNumber (h : scanNumber cs = .ok (ds, rest)) : IsNumeral ds := by
  have unsigned {cs ds : List Char} {minus : List Char} (hminus : minus = [] ∨ minus = ['-'])
      (h : scanUnsigned cs = .ok (ds, rest)) : IsNumeral (minus ++ ds) := by
    obtain ⟨⟨whole, cs₁⟩, hwhole, h⟩ := bind_eq_ok_iff.1 h
    obtain ⟨⟨fraction, cs₂⟩, hfraction, h⟩ := bind_eq_ok_iff.1 h
    obtain ⟨⟨exponent, cs₃⟩, hexponent, h⟩ := bind_eq_ok_iff.1 h
    cases h
    exact ⟨minus, whole, fraction, exponent, hminus, isInteger_of_scanInteger hwhole,
      isFraction_of_scanFraction hfraction, isExponent_of_scanExponent hexponent,
      by simp only [List.append_assoc]⟩
  unfold scanNumber at h
  split at h
  · obtain ⟨⟨ds', rest'⟩, hscan, h⟩ := map_eq_ok_iff.1 h
    cases h
    exact unsigned (Or.inr rfl) hscan
  · exact unsigned (Or.inl rfl) h

/-- **A text by itself is read as a number exactly if it is a numeral.** -/
theorem readBareNumber_eq_ok_iff {text : List Char} :
    readBareNumber cs = .ok text ↔ IsNumeral cs ∧ text = numberText cs := by
  constructor
  · intro h
    unfold readBareNumber at h
    split at h
    · cases h
    · split at h
      · split at h
        · rename_i ds hscan
          cases h
          have heq := (scanNumber_eq hscan).1
          rw [List.append_nil] at heq
          rw [heq]
          exact ⟨isNumeral_of_scanNumber hscan, rfl⟩
        · cases h
        · cases h
      · cases h
  · rintro ⟨hnumeral, rfl⟩
    obtain ⟨c, rest, rfl, hstarts⟩ := hnumeral.starts
    have hscan := scanNumber_append hnumeral (stops_nil : Stops isNumeralChar [])
    rw [List.append_nil] at hscan
    rw [readBareNumber, if_pos hstarts, hscan]

end ObjectInitializer.Json
