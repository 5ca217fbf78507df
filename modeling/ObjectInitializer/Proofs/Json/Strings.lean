/-
**Strings of JSON.**

What may stand between the quotes of a string, given apart from any reader: a string is spelled
character by character, and a character has several spellings.  It stands as it is if it may, or
behind a backslash as a letter, as a unit of UTF-16 or as two of them.  The reader takes all of the
spellings and no others, and the escaped form is one of them, and never longer than another.

Main definitions:

* `Json.IsUnit` — four hexadecimal digits and their value;
* `Json.SpellsChar`, `Json.SpellsString` — **the spellings** of a character and of a string.

Main results:

* `Json.readString_append`, `Json.spellsString_of_readString` — the reader takes the spellings up to
  the closing quote, and nothing else;
* `Json.spellsChar_escapeChar` — the escaped form of a character spells it;
* `Json.SpellsString.byteSize_escape_le` — **the escaped form is no longer than any spelling**.
-/

import ObjectInitializer.Json.Quoted

set_option relaxedAutoImplicit false
set_option autoImplicit false

namespace ObjectInitializer.Json

open Text

/-! ### Spellings -/

/-- Four hexadecimal digits, and the unit of UTF-16 that they stand for. -/
inductive IsUnit : List Char → Nat → Prop where
  | digits {a b c d : Char} {k l m n : Nat} (ha : hexValue? a = some k) (hb : hexValue? b = some l)
      (hc : hexValue? c = some m) (hd : hexValue? d = some n) :
      IsUnit [a, b, c, d] (((k * 16 + l) * 16 + m) * 16 + n)

/-- The spellings of a character inside of a string. -/
inductive SpellsChar : List Char → Char → Prop where
  /-- The character as it is. -/
  | plain {c : Char} (hquote : c ≠ '"') (hescape : c ≠ '\\') (hcontrol : isControl c = false) :
      SpellsChar [c] c
  /-- A letter that stands for the character. -/
  | letter {l c : Char} (hletter : simpleEscape? l = some c) : SpellsChar ['\\', l] c
  /-- A unit of UTF-16 that is a character by itself. -/
  | unit {digits : List Char} {n : Nat} (hunit : IsUnit digits n) (hlow : isLowUnit n = false)
      (hhigh : isHighUnit n = false) : SpellsChar ('\\' :: 'u' :: digits) (Char.ofNat n)
  /-- Two units of UTF-16 that are a character together. -/
  | pair {digits more : List Char} {high low : Nat} (hunit : IsUnit digits high)
      (hhigh : isHighUnit high = true) (hmore : IsUnit more low) (hlow : isLowUnit low = true) :
      SpellsChar ('\\' :: 'u' :: (digits ++ '\\' :: 'u' :: more)) (Char.ofNat (pairValue high low))

/-- The spellings of a string: those of its characters, one after the other. -/
inductive SpellsString : List Char → List Char → Prop where
  | nil : SpellsString [] []
  | cons {cs text s : List Char} {c : Char} (hchar : SpellsChar cs c)
      (hrest : SpellsString text s) : SpellsString (cs ++ text) (c :: s)

/-! ### Reading a spelling -/

variable {cs text s rest : List Char} {c : Char}

theorem readUnit_append {digits : List Char} {n : Nat} (h : IsUnit digits n) (rest : List Char) :
    readUnit (digits ++ rest) = .ok (n, rest) := by
  cases h with
  | digits ha hb hc hd =>
      simp only [List.cons_append, List.nil_append, readUnit, ha, hb, hc, hd]

theorem isUnit_of_readUnit {n : Nat} (h : readUnit cs = .ok (n, rest)) :
    ∃ digits, IsUnit digits n ∧ cs = digits ++ rest := by
  unfold readUnit at h
  split at h
  · split at h
    · rename_i ha hb hc hd
      cases h
      exact ⟨_, .digits ha hb hc hd, rfl⟩
    · cases h
  · cases h

/-- A unit in the lower half of a pair is in no upper one. -/
theorem not_isLowUnit_of_isHighUnit {n : Nat} (h : isHighUnit n = true) : isLowUnit n = false := by
  simp only [isHighUnit, isLowUnit, Bool.and_eq_true, decide_eq_true_eq, Bool.and_eq_false_iff,
    decide_eq_false_iff_not] at h ⊢
  omega

theorem readHexEscape_append {n : Nat} {digits : List Char} (h : IsUnit digits n)
    (hlow : isLowUnit n = false) (hhigh : isHighUnit n = false) (rest : List Char) :
    readHexEscape (digits ++ rest) = .ok (Char.ofNat n, rest) := by
  simp only [readHexEscape, readUnit_append h, hlow, hhigh, Bool.false_eq_true, if_false]

theorem readHexEscape_append_pair {high low : Nat} {digits more : List Char}
    (h : IsUnit digits high) (hhigh : isHighUnit high = true) (hmore : IsUnit more low)
    (hlow : isLowUnit low = true) (rest : List Char) :
    readHexEscape (digits ++ '\\' :: 'u' :: (more ++ rest)) =
      .ok (Char.ofNat (pairValue high low), rest) := by
  simp only [readHexEscape, readUnit_append h, not_isLowUnit_of_isHighUnit hhigh, hhigh,
    Bool.false_eq_true, if_false, if_true, readLowUnit, readUnit_append hmore, hlow]

/-- **A spelling is read as its character.** -/
theorem readPiece_append (h : SpellsChar cs c) (rest : List Char) :
    readPiece (cs ++ rest) = .ok (.character c rest) := by
  -- behind a backslash, the reader looks for a letter before it looks for units
  have escape (cs : List Char) (hcs : readEscape (cs ++ rest) = .ok (c, rest)) :
      readPiece ('\\' :: (cs ++ rest)) = .ok (.character c rest) := by
    rw [readPiece, if_neg (by decide), if_pos rfl, hcs]
  have hex (cs : List Char) (hcs : readHexEscape cs = .ok (c, rest)) :
      readEscape ('u' :: cs) = .ok (c, rest) := hcs
  cases h with
  | plain hquote hescape hcontrol =>
      rw [List.cons_append, List.nil_append, readPiece, if_neg hquote, if_neg hescape,
        if_neg (by simp [hcontrol])]
  | letter hletter =>
      refine escape [_] ?_
      rw [List.cons_append, List.nil_append, readEscape, hletter]
  | unit hunit hlow hhigh =>
      exact escape ('u' :: _) (hex _ (readHexEscape_append hunit hlow hhigh rest))
  | pair hunit hhigh hmore hlow =>
      have hread := readHexEscape_append_pair hunit hhigh hmore hlow rest
      exact escape ('u' :: _) (hex _ (by simpa using hread))

theorem isUnit_of_readLowUnit {high : Nat} (h : readLowUnit high cs = .ok (c, rest)) :
    ∃ more low, IsUnit more low ∧ isLowUnit low = true ∧ c = Char.ofNat (pairValue high low) ∧
      cs = '\\' :: 'u' :: (more ++ rest) := by
  unfold readLowUnit at h
  split at h
  · split at h
    · rename_i hunit
      obtain ⟨more, hmore, rfl⟩ := isUnit_of_readUnit hunit
      split at h
      · rename_i hlow
        obtain ⟨hc, rfl⟩ := Prod.mk.inj (Except.ok.inj h)
        exact ⟨more, _, hmore, hlow, hc.symm, rfl⟩
      · cases h
    · cases h
  all_goals cases h

theorem spellsChar_of_readHexEscape (h : readHexEscape cs = .ok (c, rest)) :
    ∃ digits, SpellsChar ('\\' :: 'u' :: digits) c ∧ cs = digits ++ rest := by
  unfold readHexEscape at h
  split at h
  · rename_i hunit
    obtain ⟨digits, hdigits, rfl⟩ := isUnit_of_readUnit hunit
    split at h
    · cases h
    · rename_i hlow
      split at h
      · rename_i hhigh
        obtain ⟨more, low, hmore, hlow', hc, rfl⟩ := isUnit_of_readLowUnit h
        have hspells := SpellsChar.pair hdigits hhigh hmore hlow'
        rw [← hc] at hspells
        exact ⟨_, hspells, by simp⟩
      · rename_i hhigh
        cases h
        exact ⟨digits, .unit hdigits (by simpa using hlow) (by simpa using hhigh), rfl⟩
  · cases h

theorem spellsChar_of_readEscape (h : readEscape cs = .ok (c, rest)) :
    ∃ text, SpellsChar ('\\' :: text) c ∧ cs = text ++ rest := by
  unfold readEscape at h
  split at h
  · cases h
  · split at h
    · rename_i hletter
      cases h
      exact ⟨_, .letter hletter, rfl⟩
    · split at h
      · rename_i hu
        subst hu
        obtain ⟨digits, hspells, rfl⟩ := spellsChar_of_readHexEscape h
        exact ⟨_, hspells, rfl⟩
      · cases h

/-- **What is read as a character spells it.** -/
theorem spellsChar_of_readPiece (h : readPiece cs = .ok (.character c rest)) :
    ∃ text, SpellsChar text c ∧ cs = text ++ rest := by
  unfold readPiece at h
  split at h
  · cases h
  · split at h
    · cases h
    · rename_i hquote
      split at h
      · rename_i hescape
        subst hescape
        split at h
        · rename_i hread
          cases h
          obtain ⟨text, hspells, rfl⟩ := spellsChar_of_readEscape hread
          exact ⟨_, hspells, rfl⟩
        · cases h
      · rename_i hescape
        split at h
        · cases h
        · rename_i hcontrol
          cases h
          exact ⟨_, .plain hquote hescape (by simpa using hcontrol), rfl⟩

theorem readPiece_quote (rest : List Char) : readPiece ('"' :: rest) = .ok (.close rest) := rfl

theorem eq_quote_of_readPiece (h : readPiece cs = .ok (.close rest)) : cs = '"' :: rest := by
  unfold readPiece at h
  split at h
  · cases h
  · split at h
    · rename_i hquote
      cases h
      rw [hquote]
    · split at h
      · split at h <;> cases h
      · split at h <;> cases h

theorem readStringAfter_append (h : SpellsString text s) (done rest : List Char) :
    readStringAfter done (text ++ '"' :: rest) = .ok (done.reverse ++ s, rest) := by
  induction h generalizing done with
  | nil =>
      rw [List.nil_append, readStringAfter]
      simp [readPiece_quote]
  | @cons cs text s c hchar _ ih =>
      have hpiece := readPiece_append hchar (text ++ '"' :: rest)
      rw [readStringAfter, List.append_assoc]
      split
      · rename_i hread
        rw [hpiece] at hread
        cases hread
        rw [ih (c :: done), List.reverse_cons, List.append_assoc]
        rfl
      · rename_i hread
        rw [hpiece] at hread
        cases hread
      · rename_i hread
        rw [hpiece] at hread
        cases hread

/-- **The reader takes a spelling up to the closing quote.** -/
theorem readString_append (h : SpellsString text s) (rest : List Char) :
    readString (text ++ '"' :: rest) = .ok (s, rest) :=
  readStringAfter_append h [] rest

theorem spellsString_of_readStringAfter {done : List Char}
    (h : readStringAfter done cs = .ok (s, rest)) :
    ∃ text s', SpellsString text s' ∧ cs = text ++ '"' :: rest ∧ s = done.reverse ++ s' := by
  fun_induction readStringAfter done cs with
  | case1 done cs c r hpiece ih =>
      obtain ⟨text, s', hspells, rfl, rfl⟩ := ih h
      obtain ⟨piece, hchar, rfl⟩ := spellsChar_of_readPiece hpiece
      exact ⟨piece ++ text, c :: s', .cons hchar hspells, by simp, by simp⟩
  | case2 done cs r hpiece =>
      obtain ⟨rfl, rfl⟩ := Prod.mk.inj (Except.ok.inj h)
      exact ⟨[], [], .nil, eq_quote_of_readPiece hpiece, by simp⟩
  | case3 => cases h

/-- **What is read as a string spells it**, and the closing quote stands behind. -/
theorem spellsString_of_readString (h : readString cs = .ok (s, rest)) :
    ∃ text, SpellsString text s ∧ cs = text ++ '"' :: rest := by
  obtain ⟨text, s', hspells, hcs, hs⟩ := spellsString_of_readStringAfter h
  rw [List.reverse_nil, List.nil_append] at hs
  exact ⟨text, hs ▸ hspells, hcs⟩

/-! ### The escaped form -/

theorem hexValue?_hexDigit : ∀ n < 16, hexValue? (hexDigit n) = some n := by
  decide

/-- A control character is the unit of UTF-16 with the two digits of its code. -/
theorem spellsChar_of_isControl {c : Char} (h : isControl c = true) :
    SpellsChar ['\\', 'u', '0', '0', hexDigit (c.toNat / 16), hexDigit (c.toNat % 16)] c := by
  have hsmall : c.toNat < 32 := by simpa [isControl] using h
  have hunit : IsUnit ['0', '0', hexDigit (c.toNat / 16), hexDigit (c.toNat % 16)]
      (((0 * 16 + 0) * 16 + c.toNat / 16) * 16 + c.toNat % 16) :=
    .digits rfl rfl (hexValue?_hexDigit _ (by omega)) (hexValue?_hexDigit _ (by omega))
  have hvalue : ((0 * 16 + 0) * 16 + c.toNat / 16) * 16 + c.toNat % 16 = c.toNat := by omega
  rw [hvalue] at hunit
  have hspells := SpellsChar.unit hunit (by simp [isLowUnit]; omega) (by simp [isHighUnit]; omega)
  rwa [Char.ofNat_toNat] at hspells

/-- **The escaped form of a character spells it.** -/
theorem spellsChar_escapeChar (c : Char) : SpellsChar (escapeChar c) c := by
  unfold escapeChar
  split
  · rename_i h; subst h; exact .letter rfl
  rename_i hquote
  split
  · rename_i h; subst h; exact .letter rfl
  rename_i hescape
  -- five control characters have a letter, and the others a code
  split
  · rename_i h; subst h; exact .letter rfl
  split
  · rename_i h; subst h; exact .letter rfl
  split
  · rename_i h; subst h; exact .letter rfl
  split
  · rename_i h; subst h; exact .letter rfl
  split
  · rename_i h; subst h; exact .letter rfl
  split
  · rename_i hcontrol
    exact spellsChar_of_isControl hcontrol
  · rename_i hcontrol
    exact .plain hquote hescape (by simpa using hcontrol)

/-- **The escaped form of a string spells it.** -/
theorem spellsString_escape (s : List Char) : SpellsString (s.flatMap escapeChar) s := by
  induction s with
  | nil => exact .nil
  | cons c s ih =>
      rw [List.flatMap_cons]
      exact .cons (spellsChar_escapeChar c) ih

/-! ### Sizes -/

/-- A character that may stand as it is does so in its escaped form. -/
theorem escapeChar_of_plain (hquote : c ≠ '"') (hescape : c ≠ '\\')
    (hcontrol : isControl c = false) : escapeChar c = [c] := by
  have hne {d : Char} (hd : isControl d = true) : c ≠ d := by
    rintro rfl
    rw [hcontrol] at hd
    cases hd
  rw [escapeChar, if_neg hquote, if_neg hescape, if_neg (hne rfl), if_neg (hne rfl),
    if_neg (hne rfl), if_neg (hne rfl), if_neg (hne rfl), if_neg (by simp [hcontrol])]

/-- The escaped form of a control character. -/
theorem byteSize_escapeChar_control : ∀ n < 32, byteSize (escapeChar (Char.ofNat n)) ≤ 6 := by
  decide

/-- No escaped form is longer than an escape in hexadecimal. -/
theorem byteSize_escapeChar_le (c : Char) : byteSize (escapeChar c) ≤ 6 := by
  by_cases hquote : c = '"'
  · subst hquote; decide
  by_cases hescape : c = '\\'
  · subst hescape; decide
  cases hcontrol : isControl c with
  | false =>
      have := Char.utf8Size_le_four c
      rw [escapeChar_of_plain hquote hescape hcontrol, byteSize_cons, byteSize_nil]
      omega
  | true =>
      have hsmall : c.toNat < 32 := by simpa [isControl] using hcontrol
      rw [← Char.ofNat_toNat c]
      exact byteSize_escapeChar_control c.toNat hsmall

/-- A character that has a letter is escaped by it, or needs no escape. -/
theorem byteSize_escapeChar_of_letter {l : Char} (h : simpleEscape? l = some c) :
    byteSize (escapeChar c) ≤ 2 := by
  unfold simpleEscape? at h
  split at h <;> cases h <;> decide

theorem IsUnit.four_le_byteSize {digits : List Char} {n : Nat} (h : IsUnit digits n) :
    4 ≤ byteSize digits := by
  cases h with
  | @digits a b c d =>
      have := Char.utf8Size_pos a
      have := Char.utf8Size_pos b
      have := Char.utf8Size_pos c
      have := Char.utf8Size_pos d
      simp only [byteSize_cons, byteSize_nil]
      omega

/-- The escaped form of a character is no longer than any spelling of it. -/
theorem SpellsChar.byteSize_escape_le (h : SpellsChar cs c) :
    byteSize (escapeChar c) ≤ byteSize cs := by
  have hslash : ('\\' : Char).utf8Size = 1 := by decide
  have hu : ('u' : Char).utf8Size = 1 := by decide
  cases h with
  | plain hquote hescape hcontrol =>
      exact Nat.le_of_eq (congrArg byteSize (escapeChar_of_plain hquote hescape hcontrol))
  | @letter l c hletter =>
      have := byteSize_escapeChar_of_letter hletter
      have := Char.utf8Size_pos l
      simp only [byteSize_cons, byteSize_nil]
      omega
  | unit hunit hlow hhigh =>
      refine Nat.le_trans (byteSize_escapeChar_le _) ?_
      have := hunit.four_le_byteSize
      simp only [byteSize_cons]
      omega
  | pair hunit hhigh hmore hlow =>
      -- the first of the two escapes is long enough
      refine Nat.le_trans (byteSize_escapeChar_le _) ?_
      have := hunit.four_le_byteSize
      simp only [byteSize_cons, byteSize_append]
      omega

/-- **The escaped form of a string is no longer than any spelling of it.** -/
theorem SpellsString.byteSize_escape_le (h : SpellsString text s) :
    byteSize (s.flatMap escapeChar) ≤ byteSize text := by
  induction h with
  | nil => exact Nat.le_refl _
  | cons hchar _ ih =>
      have := hchar.byteSize_escape_le
      rw [List.flatMap_cons, byteSize_append, byteSize_append]
      omega

end ObjectInitializer.Json
