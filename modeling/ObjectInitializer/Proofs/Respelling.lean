/-
**A conversion depends on the value and not on its spelling.**

A text goes into a conversion through its size, which is only compared to the memory limit, and
through the value that it is parsed as.  The compact form of an accepted document is within the
limit, since that is checked too, and it is parsed as the same value.  So it is accepted in turn,
with the same statement and the same measures.

Main results:

* `convertText_eq_ok_iff` — what it takes for a text to be converted;
* `Snapshot.convert_text` — a text is converted without a look at the files;
* `convertText_of_parse_eq` — **texts of the same value have the same conversion**, if they fit;
* `convertText_compact` — **so has the compact form of an accepted document**.
-/

import ObjectInitializer.Proofs.InputSize

set_option relaxedAutoImplicit false
set_option autoImplicit false

namespace ObjectInitializer

variable {settings : Settings} {text other : String} {v : Json} {conversion : Conversion}
  {milliseconds milliseconds' : Nat}

/-! ### What goes into a conversion -/

theorem Limits.checkSize_some_eq_ok_iff {size : Nat} :
    Limits.checkSize settings (some size) = .ok () ↔ size ≤ settings.memoryLimit := by
  by_cases hlarge : settings.memoryLimit < size
  · simp [Limits.checkSize, hlarge]
  · simp [Limits.checkSize, hlarge, Nat.not_lt.1 hlarge]

/-- **A text is converted if it is not too large and has a value that is converted.** -/
theorem convertText_eq_ok_iff :
    convertText settings text milliseconds = .ok conversion ↔
      text.utf8ByteSize ≤ settings.memoryLimit ∧
        ∃ v, Json.parse text = .ok v ∧ convert settings v milliseconds = .ok conversion := by
  constructor
  · intro h
    obtain ⟨_, hsize, h⟩ := Except.bind_eq_ok_iff.1 h
    refine ⟨Limits.checkSize_some_eq_ok_iff.1 hsize, ?_⟩
    cases hparse : Json.parse text with
    | error error =>
        rw [hparse] at h
        cases h
    | ok v =>
        rw [hparse] at h
        exact ⟨v, rfl, h⟩
  · rintro ⟨hsize, v, hparse, hconvert⟩
    rw [convertText, Limits.checkSize_some_eq_ok_iff.2 hsize, hparse]
    exact hconvert

/-- A text is converted without a look at the files. -/
theorem Snapshot.convert_text (files : Snapshot) (settings : Settings) (text : String) :
    files.convert settings (.text text) = convertText settings text files.milliseconds := by
  have hknown : files.knownSize? (.text text) = some text.utf8ByteSize := rfl
  rw [convert_eq, load, convertText, hknown]
  cases Limits.checkSize settings (some text.utf8ByteSize) with
  | error failure => rfl
  | ok => rfl

/-- **Texts of the same value have the same conversion**, if they are not too large, whatever times
they take. -/
theorem convertText_of_parse_eq (hsize : other.utf8ByteSize ≤ settings.memoryLimit)
    (hparse : Json.parse other = Json.parse text)
    (h : convertText settings text milliseconds = .ok conversion) :
    convertText settings other milliseconds' = .ok (conversion.timed milliseconds') := by
  obtain ⟨-, v, hvalue, hconvert⟩ := convertText_eq_ok_iff.1 h
  refine convertText_eq_ok_iff.2 ⟨hsize, v, hparse.trans hvalue, ?_⟩
  rw [convert_timed settings v milliseconds, hconvert]
  rfl

/-! ### The compact form -/

/-- A value that is converted has a compact form within the limit. -/
theorem compactSize_le_of_convert (h : convert settings v milliseconds = .ok conversion) :
    v.compactSize ≤ settings.memoryLimit := by
  obtain ⟨_, hvalue, -⟩ := Except.bind_eq_ok_iff.1 h
  obtain ⟨_, -, hvalue⟩ := Except.bind_eq_ok_iff.1 hvalue
  obtain ⟨_, -, hcompact⟩ := Except.bind_eq_ok_iff.1 hvalue
  refine Nat.le_of_not_lt fun hlarge => ?_
  rw [Limits.checkCompactSize_eq_error_iff.2 ⟨hlarge, rfl⟩] at hcompact
  cases hcompact

/-- **The compact form of an accepted document has the conversion of the document**, whatever times
the two conversions take. -/
theorem convertText_compact (settings : Settings) (text : String)
    (milliseconds milliseconds' : Nat) (conversion : Conversion)
    (h : convertText settings text milliseconds = .ok conversion) :
    ∃ v, Json.parse text = .ok v ∧
      (∃ v', Json.parse v.compact = .ok v' ∧ v' = v ∧ v'.compact = v.compact) ∧
      ∃ again, convertText settings v.compact milliseconds' = .ok again ∧
        again.content = conversion.content ∧ again.tally = conversion.tally ∧
        again.inputSize = conversion.inputSize ∧ again.outputSize = conversion.outputSize := by
  obtain ⟨-, v, hparse, hconvert⟩ := convertText_eq_ok_iff.1 h
  have hcompact := Json.parse_compact_of_parse hparse
  have hagain :
      convertText settings v.compact milliseconds' = .ok (conversion.timed milliseconds') :=
    convertText_of_parse_eq (compactSize_le_of_convert hconvert) (hcompact.trans hparse.symm) h
  exact ⟨v, hparse, ⟨v, hcompact, rfl, rfl⟩, _, hagain, rfl, rfl, rfl, rfl⟩

/-- A key that is there twice. -/
theorem convertText_compact_repeated_key :
    let text := "\x7b\"A\":1, \"\\u0041\":-0\x7d"
    let v := Json.object [("A", .number "0")]
    let conversion := Conversion.ofValue .standard v 2
    v.compact = "\x7b\"A\":0\x7d" ∧ convertText .standard text 2 = .ok conversion ∧
      ∃ v, Json.parse text = .ok v ∧
        (∃ v', Json.parse v.compact = .ok v' ∧ v' = v ∧ v'.compact = v.compact) ∧
        ∃ again, convertText .standard v.compact 1 = .ok again ∧
          again.content = conversion.content ∧ again.tally = conversion.tally ∧
          again.inputSize = conversion.inputSize ∧ again.outputSize = conversion.outputSize := by
  intro text v conversion
  have hdepth : Limits.checkDepth .standard v = .ok () := by
    rw [Limits.checkDepth, Limits.nestingDepth_eq]
    rfl
  have hconvert : convert .standard v 2 = .ok conversion := by
    rw [convert, checkValue, hdepth]
    rfl
  have htext : convertText .standard text 2 = .ok conversion :=
    convertText_eq_ok_iff.2 ⟨by decide, v, Json.parse_repeated_key, hconvert⟩
  exact ⟨by decide, htext, convertText_compact .standard text 2 1 conversion htext⟩

end ObjectInitializer
