/-
**Numbers of JSON.**

A number is an optional minus, an integer without leading zeros, an optional fraction and an
optional exponent.  Its value is its text, except that the integer `-0` is read as `0`.

Main definitions:

* `Json.scanNumber` — the longest number at the front of a text;
* `Json.numberText` — the text under which a number is kept;
* `Json.readBareNumber` — a number that is a text of its own, as a boxed number holds it.
-/

import ObjectInitializer.Except
import ObjectInitializer.Json.Fault

set_option relaxedAutoImplicit false
set_option autoImplicit false

namespace ObjectInitializer.Json

open Except (map_eq_ok_iff bind_eq_ok_iff)

/-! ### Scanning -/

/-- The digits at the front of a text, and the rest. -/
def spanDigits (cs : List Char) : List Char × List Char :=
  (cs.takeWhile Char.isDigit, cs.dropWhile Char.isDigit)

/-- Scans a run of digits, of which there must be one. -/
def scanDigits (cs : List Char) : Except Fault (List Char × List Char) :=
  match cs with
  | [] => .error (.here .endInValue cs)
  | c :: _ => if c.isDigit then .ok (spanDigits cs) else .error (.inside .invalidNumber cs)

/-- The sign at the front of a text, if there is one, and the rest. -/
def spanSign (cs : List Char) : List Char × List Char :=
  match cs with
  | c :: rest => if c = '+' || c = '-' then ([c], rest) else ([], cs)
  | [] => ([], [])

/-- Scans an exponent, if the text starts with one. -/
def scanExponent (cs : List Char) : Except Fault (List Char × List Char) :=
  match cs with
  | e :: rest =>
    if e = 'e' || e = 'E' then do
      let (sign, rest) := spanSign rest
      let (digits, rest) ← scanDigits rest
      return (e :: (sign ++ digits), rest)
    else .ok ([], cs)
  | [] => .ok ([], [])

/-- Scans a fraction, if the text starts with one: a point and at least one digit. -/
def scanFraction (cs : List Char) : Except Fault (List Char × List Char) :=
  match cs with
  | '.' :: rest =>
    match spanDigits rest with
    | ([], []) => .error (.past .endInValue [])
    | ([], other) => .error (.past .invalidNumber other)
    | (digits, other) => .ok ('.' :: digits, other)
  | _ => .ok ([], cs)

/-- Scans the digits in front of the point: `0` alone, or digits that do not start with `0`. -/
def scanInteger (cs : List Char) : Except Fault (List Char × List Char) :=
  match cs with
  | '0' :: rest =>
    match rest with
    | d :: _ => if d.isDigit then .error (.past .invalidNumber rest) else .ok (['0'], rest)
    | [] => .ok (['0'], [])
  | _ => scanDigits cs

/-- Scans a number without its sign. -/
def scanUnsigned (cs : List Char) : Except Fault (List Char × List Char) := do
  let (whole, cs) ← scanInteger cs
  let (fraction, cs) ← scanFraction cs
  let (exponent, cs) ← scanExponent cs
  return (whole ++ fraction ++ exponent, cs)

/-- Scans the number at the front of a text that starts with a minus or a digit. -/
def scanNumber (cs : List Char) : Except Fault (List Char × List Char) :=
  match cs with
  | '-' :: rest => (scanUnsigned rest).map fun r => ('-' :: r.1, r.2)
  | _ => scanUnsigned cs

/-! ### What is scanned and what is left -/

theorem spanDigits_append (cs : List Char) : (spanDigits cs).1 ++ (spanDigits cs).2 = cs := by
  simp [spanDigits, List.takeWhile_append_dropWhile]

theorem scanDigits_eq {cs digits rest : List Char} (h : scanDigits cs = .ok (digits, rest)) :
    cs = digits ++ rest ∧ digits ≠ [] := by
  cases cs with
  | nil => simp [scanDigits] at h
  | cons c cs =>
    by_cases hc : c.isDigit
    · simp only [scanDigits, hc, if_true, Except.ok.injEq] at h
      have hs := spanDigits_append (c :: cs)
      rw [h] at hs
      refine ⟨hs.symm, fun hd => ?_⟩
      have : (spanDigits (c :: cs)).1 = digits := by rw [h]
      simp [spanDigits, hc, hd] at this
    · simp [scanDigits, hc] at h

theorem spanSign_append (cs : List Char) : (spanSign cs).1 ++ (spanSign cs).2 = cs := by
  cases cs with
  | nil => rfl
  | cons c cs => simp only [spanSign]; split <;> simp

theorem scanExponent_eq {cs exponent rest : List Char}
    (h : scanExponent cs = .ok (exponent, rest)) : cs = exponent ++ rest := by
  cases cs with
  | nil => simp [scanExponent] at h; simp [h]
  | cons e cs =>
    simp only [scanExponent] at h
    split at h
    · obtain ⟨⟨digits, r⟩, hd, h⟩ := bind_eq_ok_iff.1 h
      simp only [pure, Except.pure, Except.ok.injEq, Prod.mk.injEq] at h
      obtain ⟨rfl, rfl⟩ := h
      rw [List.cons_append, List.append_assoc, ← (scanDigits_eq hd).1, spanSign_append]
    · simp only [Except.ok.injEq, Prod.mk.injEq] at h
      simp [← h.1, ← h.2]

theorem scanFraction_eq {cs fraction rest : List Char}
    (h : scanFraction cs = .ok (fraction, rest)) : cs = fraction ++ rest := by
  unfold scanFraction at h
  split at h
  · rename_i cs'
    have hs := spanDigits_append cs'
    split at h
    · simp at h
    · simp at h
    · rename_i digits other _ hd
      rw [hd] at hs
      simp only [Except.ok.injEq, Prod.mk.injEq] at h
      simp [← h.1, ← h.2, ← hs]
  · simp only [Except.ok.injEq, Prod.mk.injEq] at h
    simp [← h.1, ← h.2]

theorem scanInteger_eq {cs whole rest : List Char}
    (h : scanInteger cs = .ok (whole, rest)) : cs = whole ++ rest ∧ whole ≠ [] := by
  unfold scanInteger at h
  split at h
  · split at h
    · split at h
      · simp at h
      · simp only [Except.ok.injEq, Prod.mk.injEq] at h
        simp [← h.1, ← h.2]
    · simp only [Except.ok.injEq, Prod.mk.injEq] at h
      simp [← h.1, ← h.2]
  · exact scanDigits_eq h

theorem scanUnsigned_eq {cs digits rest : List Char}
    (h : scanUnsigned cs = .ok (digits, rest)) : cs = digits ++ rest ∧ digits ≠ [] := by
  obtain ⟨⟨whole, cs₁⟩, hw, h⟩ := bind_eq_ok_iff.1 h
  obtain ⟨⟨fraction, cs₂⟩, hf, h⟩ := bind_eq_ok_iff.1 h
  obtain ⟨⟨exponent, cs₃⟩, he, h⟩ := bind_eq_ok_iff.1 h
  simp only [pure, Except.pure, Except.ok.injEq, Prod.mk.injEq] at h
  obtain ⟨rfl, rfl⟩ := h
  obtain ⟨rfl, hne⟩ := scanInteger_eq hw
  simp [scanFraction_eq hf, scanExponent_eq he, hne]

/-- The characters of a scanned number are those in front of the rest. -/
theorem scanNumber_eq {cs digits rest : List Char}
    (h : scanNumber cs = .ok (digits, rest)) : cs = digits ++ rest ∧ digits ≠ [] := by
  unfold scanNumber at h
  split at h
  · obtain ⟨⟨digits', r⟩, hu, h⟩ := map_eq_ok_iff.1 h
    simp only [Prod.mk.injEq] at h
    obtain ⟨rfl, rfl⟩ := h
    simp [(scanUnsigned_eq hu).1]
  · exact scanUnsigned_eq h

theorem length_lt_of_scanNumber {cs digits rest : List Char}
    (h : scanNumber cs = .ok (digits, rest)) : rest.length < cs.length := by
  obtain ⟨rfl, hne⟩ := scanNumber_eq h
  have := List.length_pos_iff.2 hne
  simp only [List.length_append]
  omega

/-! ### Values -/

/-- The text under which a number is kept: its own, except that the integer `-0` is `0`. -/
def numberText (digits : List Char) : List Char :=
  if digits = ['-', '0'] then ['0'] else digits

/-- Whether a number may start with the character. -/
def startsNumber (c : Char) : Bool :=
  c == '-' || c.isDigit

/-- What becomes of a fault in a number that should end with the text: if some of the text was not
passed, it is reported as what makes the number invalid. -/
def Fault.inBareNumber (fault : Fault) : Fault :=
  match fault.place with
  | .upTo (unread + 1) => ⟨.invalidNumber, .past (unread + 1)⟩
  | .past (unread + 1) => ⟨.invalidNumber, .past (unread + 1)⟩
  | _ => fault

/-- Reads a text that is a number and nothing else. -/
def readBareNumber (cs : List Char) : Except Fault (List Char) :=
  match cs with
  | [] => .error (.past .endInValue cs)
  | c :: _ =>
    if startsNumber c then
      match scanNumber cs with
      | .ok (digits, []) => .ok (numberText digits)
      | .ok (_, rest) => .error (.past .invalidNumber rest)
      | .error fault => .error fault.inBareNumber
    else .error (.past .invalidNumber cs)

end ObjectInitializer.Json
