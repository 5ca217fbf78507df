/-
**Faults are at places of the text.**

Every reader works on an end of the document, leaves an end of that, and gives the place of a fault
by the number of bytes it has not passed.  `StaysIn` says so of a single result, and it is carried
from reader to reader: through what is read in sequence, and from an end of a text to the text.

The exception is the number in a boxed number: it is read from the characters of a string, and a
fault in it is reported at its position among them, not in the document (`Fault.IsBoxedIn`).

Main definitions:

* `Json.Fault.IsIn`, `Json.Fault.IsBoxedIn` — a fault at a place of a text, or in a boxed number
  of it;
* `Json.StaysIn` — **a result that stays in the text**.

Main results:

* `Json.staysIn_readString`, `Json.staysIn_scanNumber`, … — one for each reader;
* `Json.step_staysIn` — what a step leaves unread, and where it has its fault;
* `Json.read_fault`, `Json.position_of_read` — **where a document has its fault**.
-/

import ObjectInitializer.Proofs.Json.Soundness
import ObjectInitializer.Proofs.Text.Position

set_option relaxedAutoImplicit false
set_option autoImplicit false

namespace ObjectInitializer.Json

open Text

/-! ### Places -/

/-- The fault is at a place of the text. -/
def Fault.IsIn (cs : List Char) (fault : Fault) : Prop :=
  match fault.place with
  | .upTo unread => unread ≤ byteSize cs
  | .past unread => unread ≤ byteSize cs
  | .boxed _ => False

/-- An object in the text starts with the key of a boxed number, and then has these characters as a
string. -/
def Boxes (cs digits : List Char) : Prop :=
  ∃ front keyText gap text rest : List Char,
    cs = front ++ '\x7b' :: (keyText ++ (gap ++ '"' :: (text ++ '"' :: rest))) ∧
      SpellsKey keyText boxKey ∧ IsSpaces gap ∧ SpellsString text digits

/-- The fault is at a place of the characters of a boxed number in the text, which are no numeral. -/
def Fault.IsBoxedIn (cs : List Char) (fault : Fault) : Prop :=
  ∃ digits n, Boxes cs digits ∧ ¬ IsNumeral digits ∧ n ≤ byteSize digits ∧
    fault.place = .boxed (positionOf digits n)

variable {cs rest : List Char} {fault : Fault}

theorem Fault.IsIn.of_suffix (h : fault.IsIn rest) (hrest : rest <:+ cs) : fault.IsIn cs := by
  obtain ⟨cause, place⟩ := fault
  cases place with
  | upTo unread => exact Nat.le_trans h (byteSize_le_of_suffix hrest)
  | past unread => exact Nat.le_trans h (byteSize_le_of_suffix hrest)
  | boxed position => exact h

theorem Fault.IsBoxedIn.of_suffix (h : fault.IsBoxedIn rest) (hrest : rest <:+ cs) :
    fault.IsBoxedIn cs := by
  obtain ⟨digits, n, ⟨front, keyText, gap, text, more, rfl, hparts⟩, hfault⟩ := h
  obtain ⟨outside, rfl⟩ := hrest
  exact ⟨digits, n, ⟨outside ++ front, keyText, gap, text, more, by simp, hparts⟩, hfault⟩

/-- The position of a fault is that of a place of the text. -/
theorem Fault.IsIn.exists_positionOf (h : fault.IsIn cs) :
    ∃ n ≤ byteSize cs, fault.position cs = positionOf cs n := by
  obtain ⟨cause, place⟩ := fault
  cases place with
  | upTo unread => exact ⟨_, Nat.sub_le .., rfl⟩
  | past unread => exact ⟨_, Nat.sub_le .., rfl⟩
  | boxed position => exact h.elim

theorem isIn_here (cause : Fault.Cause) (h : rest <:+ cs) : (Fault.here cause rest).IsIn cs :=
  byteSize_le_of_suffix h

theorem isIn_inside (cause : Fault.Cause) (h : rest <:+ cs) : (Fault.inside cause rest).IsIn cs :=
  Nat.le_trans (Nat.sub_le ..) (byteSize_le_of_suffix h)

theorem isIn_past (cause : Fault.Cause) (h : rest <:+ cs) : (Fault.past cause rest).IsIn cs :=
  byteSize_le_of_suffix h

/-! ### Results -/

section

variable {α β : Type} {left : α → List Char} {more : β → List Char} {x : Except Fault α}

/-- **A result that stays in the text**: what is left unread is an end of the text, or else the
fault is at a place of it. -/
def StaysIn (cs : List Char) (left : α → List Char) : Except Fault α → Prop
  | .ok a => left a <:+ cs
  | .error fault => fault.IsIn cs

theorem StaysIn.error (h : fault.IsIn cs) : StaysIn cs left (.error fault) := h

theorem StaysIn.suffix {a : α} (h : StaysIn cs left x) (hx : x = .ok a) : left a <:+ cs := by
  rw [hx] at h
  exact h

theorem StaysIn.isIn (h : StaysIn cs left x) (hx : x = .error fault) : fault.IsIn cs := by
  rw [hx] at h
  exact h

theorem StaysIn.of_suffix (h : StaysIn rest left x) (hrest : rest <:+ cs) : StaysIn cs left x := by
  cases x with
  | ok a => exact List.IsSuffix.trans h hrest
  | error fault => exact Fault.IsIn.of_suffix h hrest

/-- What reads behind a character reads behind what is in front of it. -/
theorem StaysIn.cons (h : StaysIn cs left x) (c : Char) : StaysIn (c :: cs) left x :=
  h.of_suffix (List.suffix_cons c cs)

theorem staysIn_map {f : α → β} :
    StaysIn cs more (x.map f) ↔ StaysIn cs (fun a => more (f a)) x := by
  cases x <;> rfl

theorem StaysIn.bind {f : α → Except Fault β} (h : StaysIn cs left x)
    (hf : ∀ a, StaysIn (left a) more (f a)) : StaysIn cs more (x >>= f) := by
  cases x with
  | ok a => exact (hf a).of_suffix h
  | error fault => exact h

end

/-! ### Numbers -/

theorem staysIn_scanDigits (cs : List Char) : StaysIn cs Prod.snd (scanDigits cs) := by
  unfold scanDigits
  split
  · exact .error (isIn_here _ List.suffix_rfl)
  · split
    · exact List.dropWhile_suffix _
    · exact .error (isIn_inside _ List.suffix_rfl)

theorem staysIn_scanExponent (cs : List Char) : StaysIn cs Prod.snd (scanExponent cs) := by
  unfold scanExponent
  split
  · rename_i e cs
    split
    · have hsign : (spanSign cs).2 <:+ cs := ⟨_, spanSign_append cs⟩
      refine (StaysIn.of_suffix ?_ hsign).cons e
      exact (staysIn_scanDigits _).bind fun _ => List.suffix_rfl
    · exact List.suffix_rfl
  · exact List.suffix_rfl

theorem staysIn_scanFraction (cs : List Char) : StaysIn cs Prod.snd (scanFraction cs) := by
  unfold scanFraction
  split
  · rename_i cs
    have hrest : (spanDigits cs).2 <:+ '.' :: cs :=
      List.IsSuffix.trans (List.dropWhile_suffix _) (List.suffix_cons ..)
    split <;> rename_i hspan <;> rw [hspan] at hrest
    · exact .error (isIn_past _ hrest)
    · exact .error (isIn_past _ hrest)
    · exact hrest
  · exact List.suffix_rfl

theorem staysIn_scanInteger (cs : List Char) : StaysIn cs Prod.snd (scanInteger cs) := by
  unfold scanInteger
  split
  · split
    · split
      · exact .error (isIn_past _ (List.suffix_cons ..))
      · exact List.suffix_cons ..
    · exact List.suffix_cons ..
  · exact staysIn_scanDigits _

theorem staysIn_scanUnsigned (cs : List Char) : StaysIn cs Prod.snd (scanUnsigned cs) := by
  unfold scanUnsigned
  exact (staysIn_scanInteger cs).bind fun _ => (staysIn_scanFraction _).bind fun _ =>
    (staysIn_scanExponent _).bind fun _ => List.suffix_rfl

theorem staysIn_scanNumber (cs : List Char) : StaysIn cs Prod.snd (scanNumber cs) := by
  unfold scanNumber
  split
  · exact staysIn_map.2 ((staysIn_scanUnsigned _).cons '-')
  · exact staysIn_scanUnsigned _

theorem Fault.IsIn.inBareNumber (h : fault.IsIn cs) : fault.inBareNumber.IsIn cs := by
  unfold Fault.inBareNumber
  split
  · rename_i hplace
    rw [IsIn, hplace] at h
    exact h
  · rename_i hplace
    rw [IsIn, hplace] at h
    exact h
  · exact h

/-- A number that should be the whole text has its fault in the text. -/
theorem isIn_of_readBareNumber (h : readBareNumber cs = .error fault) : fault.IsIn cs := by
  unfold readBareNumber at h
  split at h
  · cases h
    exact isIn_past _ List.suffix_rfl
  · split at h
    · split at h
      · cases h
      · rename_i hscan
        cases h
        exact isIn_past _ ((staysIn_scanNumber _).suffix hscan)
      · rename_i hscan
        cases h
        exact ((staysIn_scanNumber _).isIn hscan).inBareNumber
    · cases h
      exact isIn_past _ List.suffix_rfl

/-! ### Strings -/

theorem staysIn_readUnit (cs : List Char) : StaysIn cs Prod.snd (readUnit cs) := by
  have hbad : (badUnit cs).IsIn cs := by
    unfold badUnit
    split
    · exact isIn_here _ (List.nil_suffix ..)
    · exact Nat.sub_le ..
  unfold readUnit
  split
  · rename_i a b c d rest
    split
    · exact ⟨[a, b, c, d], rfl⟩
    · exact hbad
  · exact hbad

theorem staysIn_readLowUnit (high : Nat) (cs : List Char) :
    StaysIn cs Prod.snd (readLowUnit high cs) := by
  unfold readLowUnit
  split
  · rename_i rest
    have hunit := ((staysIn_readUnit rest).cons 'u').cons '\\'
    split
    · rename_i hread
      split
      · exact hunit.suffix hread
      · exact .error (isIn_here _ (hunit.suffix hread))
    · rename_i hread
      exact .error (hunit.isIn hread)
  · exact .error (isIn_here _ List.suffix_rfl)
  · exact .error (isIn_here _ (List.nil_suffix ..))
  · exact .error (isIn_inside _ (List.suffix_cons ..))
  · exact .error (isIn_inside _ List.suffix_rfl)

theorem staysIn_readHexEscape (cs : List Char) : StaysIn cs Prod.snd (readHexEscape cs) := by
  unfold readHexEscape
  split
  · rename_i unit rest hread
    have hrest : rest <:+ cs := (staysIn_readUnit cs).suffix hread
    split
    · exact .error (isIn_here _ hrest)
    · split
      · exact (staysIn_readLowUnit _ _).of_suffix hrest
      · exact hrest
  · rename_i hread
    exact .error ((staysIn_readUnit cs).isIn hread)

theorem staysIn_readEscape (cs : List Char) : StaysIn cs Prod.snd (readEscape cs) := by
  unfold readEscape
  split
  · exact .error (isIn_here _ List.suffix_rfl)
  · split
    · exact List.suffix_cons ..
    · split
      · exact (staysIn_readHexEscape _).cons _
      · exact .error (isIn_inside _ List.suffix_rfl)

/-- What is behind the next piece of a string. -/
def Piece.unread : Piece → List Char
  | .character _ rest => rest
  | .close rest => rest

theorem staysIn_readPiece (cs : List Char) : StaysIn cs Piece.unread (readPiece cs) := by
  unfold readPiece
  split
  · exact .error (isIn_here _ List.suffix_rfl)
  · rename_i c rest
    split
    · exact List.suffix_cons ..
    · split
      · have hescape := (staysIn_readEscape rest).cons c
        split <;> rename_i hread
        · exact hescape.suffix hread
        · exact .error (hescape.isIn hread)
      · split
        · exact .error (isIn_inside _ List.suffix_rfl)
        · exact List.suffix_cons ..

theorem staysIn_readStringAfter (done cs : List Char) :
    StaysIn cs Prod.snd (readStringAfter done cs) := by
  fun_induction readStringAfter done cs with
  | case1 done cs c rest hread ih => exact ih.of_suffix ((staysIn_readPiece cs).suffix hread)
  | case2 done cs rest hread => exact (staysIn_readPiece cs).suffix hread
  | case3 done cs fault hread => exact .error ((staysIn_readPiece cs).isIn hread)

theorem staysIn_readString (cs : List Char) : StaysIn cs Prod.snd (readString cs) :=
  staysIn_readStringAfter [] cs

/-! ### Scalars and keys -/

theorem skipSpace_suffix (cs : List Char) : skipSpace cs <:+ cs :=
  List.dropWhile_suffix _

theorem suffix_of_skipSpace (h : skipSpace cs = rest) : rest <:+ cs :=
  h ▸ skipSpace_suffix cs

theorem staysIn_readLiteral (expected cs : List Char) :
    StaysIn cs id (readLiteral expected cs) := by
  induction expected generalizing cs with
  | nil => exact List.suffix_rfl
  | cons e es ih =>
      cases cs with
      | nil => exact .error (isIn_here _ List.suffix_rfl)
      | cons c cs =>
          rw [readLiteral]
          split
          · exact (ih cs).cons c
          · exact .error (isIn_inside _ List.suffix_rfl)

theorem staysIn_readScalar (cs : List Char) : StaysIn cs Prod.snd (readScalar cs) := by
  unfold readScalar
  split
  · exact .error (isIn_past _ List.suffix_rfl)
  · rename_i c rest
    have hliteral (expected : List Char) := (staysIn_readLiteral expected rest).cons c
    split
    · exact staysIn_map.2 (hliteral _)
    split
    · exact staysIn_map.2 (hliteral _)
    split
    · exact staysIn_map.2 (hliteral _)
    split
    · exact staysIn_map.2 ((staysIn_readString rest).cons c)
    split
    · exact staysIn_map.2 (staysIn_scanNumber _)
    · exact .error (isIn_past _ List.suffix_rfl)

theorem staysIn_readColon (cs : List Char) : StaysIn cs id (readColon cs) := by
  unfold readColon
  split
  · exact .error (isIn_past _ (List.nil_suffix ..))
  · rename_i hspace
    split
    · exact (List.suffix_cons ..).trans (suffix_of_skipSpace hspace)
    · exact .error (isIn_past _ (suffix_of_skipSpace hspace))

theorem staysIn_readKey (cs : List Char) : StaysIn cs Prod.snd (readKey cs) :=
  (staysIn_readString cs).bind fun _ => (staysIn_readColon _).bind fun _ => List.suffix_rfl

/-! ### Boxed numbers -/

theorem isIn_unboxable (cs : List Char) : (unboxable cs).IsIn cs := by
  unfold unboxable
  split
  · exact isIn_here _ List.suffix_rfl
  · exact isIn_here _ List.suffix_rfl
  · split <;> rename_i hread
    · exact isIn_here _ ((staysIn_readScalar cs).suffix hread)
    · exact (staysIn_readScalar cs).isIn hread

theorem staysIn_readBoxEnd (cs : List Char) : StaysIn cs id (readBoxEnd cs) := by
  unfold readBoxEnd
  split
  · exact .error (isIn_past _ (List.nil_suffix ..))
  · rename_i hspace
    have hrest := suffix_of_skipSpace hspace
    split
    · exact (List.suffix_cons ..).trans hrest
    · split
      · exact .error (isIn_past _ hrest)
      · exact .error (isIn_past _ hrest)

/-- A boxed number has its fault in the text, or in the characters of the string in it. -/
theorem readBoxed_staysIn (cs : List Char) :
    StaysIn cs Prod.snd (readBoxed cs) ∨
      ∃ gap text digits rest fault n, IsSpaces gap ∧ SpellsString text digits ∧
        cs = gap ++ '"' :: (text ++ '"' :: rest) ∧ ¬ IsNumeral digits ∧ n ≤ byteSize digits ∧
          readBoxed cs = .error fault ∧ fault.place = .boxed (positionOf digits n) := by
  unfold readBoxed
  split
  · rename_i rest hspace
    have hstring := ((staysIn_readString rest).cons '"').of_suffix (suffix_of_skipSpace hspace)
    cases hread : readString rest with
    | error fault => exact .inl (.error (hstring.isIn hread))
    | ok r =>
        obtain ⟨digits, behind⟩ := r
        simp only [bind, Except.bind]
        split
        · refine .inl (StaysIn.of_suffix ?_ (hstring.suffix hread))
          exact (staysIn_readBoxEnd behind).bind fun _ => List.suffix_rfl
        · rename_i fault herror
          have hdigits : ¬ IsNumeral digits := by
            intro hdigits
            rw [readBareNumber_eq_ok_iff.2 ⟨hdigits, rfl⟩] at herror
            cases herror
          obtain ⟨n, hn, hposition⟩ := (isIn_of_readBareNumber herror).exists_positionOf
          obtain ⟨gap, hgap, hgapcs⟩ := exists_gap_of_skipSpace hspace
          obtain ⟨text, htext, rfl⟩ := spellsString_of_readString hread
          exact .inr ⟨gap, text, digits, behind, _, n, hgap, htext, hgapcs, hdigits, hn, rfl,
            congrArg _ hposition⟩
  · exact .inl (.error ((isIn_unboxable _).of_suffix (skipSpace_suffix cs)))

/-! ### Steps -/

/-- What a step leaves unread. -/
def Progress.unread : Progress → List Char
  | .more s => s.rest
  | .done _ => []

theorem stepValue_staysIn (frames : List Frame) (cs : List Char) :
    StaysIn cs Progress.unread (stepValue frames cs) ∨
      ∃ fault, stepValue frames cs = .error fault ∧ fault.IsBoxedIn cs := by
  unfold stepValue
  split
  · rename_i rest
    left
    split
    · exact .error (isIn_past _ (List.nil_suffix ..))
    · rename_i hspace
      have hrest := suffix_of_skipSpace hspace
      exact ((List.suffix_cons ..).trans hrest).trans (List.suffix_cons ..)
    · exact (skipSpace_suffix rest).trans (List.suffix_cons ..)
  · rename_i rest
    split
    · exact .inl (.error (isIn_past _ (List.nil_suffix ..)))
    · rename_i hspace
      have hrest := suffix_of_skipSpace hspace
      exact .inl (((List.suffix_cons ..).trans hrest).trans (List.suffix_cons ..))
    · rename_i quoted hspace
      have hkey := (((staysIn_readKey quoted).cons '"').of_suffix
        (suffix_of_skipSpace hspace)).cons '\x7b'
      split <;> rename_i hread
      · split
        · rename_i key behind hbox
          obtain hstays | ⟨gap, text, digits, more, fault, n, hboxed⟩ := readBoxed_staysIn behind
          · exact .inl (staysIn_map.2 (hstays.of_suffix (hkey.suffix hread)))
          · obtain ⟨hgap, htext, rfl, hdigits, hn, herror, hplace⟩ := hboxed
            obtain ⟨before, hbefore, rfl⟩ := exists_gap_of_skipSpace hspace
            obtain ⟨keyText, hkeyText, htexts⟩ := spellsKey_of_readKey hbefore hread
            refine .inr ⟨fault, by rw [herror]; rfl, digits, n, ?_, hdigits, hn, hplace⟩
            exact ⟨[], keyText, gap, text, more, by rw [htexts]; rfl, hbox ▸ hkeyText, hgap, htext⟩
        · exact .inl (hkey.suffix hread)
      · exact .inl (.error (hkey.isIn hread))
    · exact .inl (.error (isIn_past _ ((skipSpace_suffix rest).trans (List.suffix_cons ..))))
  · exact .inl (staysIn_map.2 (staysIn_readScalar _))

theorem staysIn_stepList (done : List Json) (frames : List Frame) (cs : List Char) :
    StaysIn cs Progress.unread (stepList done frames cs) := by
  unfold stepList
  split
  · exact .error (isIn_past _ List.suffix_rfl)
  · rename_i rest
    split
    · exact .error (isIn_past _ (List.nil_suffix ..))
    · rename_i hspace
      exact .error (isIn_past _ ((suffix_of_skipSpace hspace).trans (List.suffix_cons ..)))
    · exact (skipSpace_suffix rest).trans (List.suffix_cons ..)
  · exact List.suffix_cons ..
  · exact .error (isIn_past _ List.suffix_rfl)

theorem staysIn_stepMembers (done : List (String × Json)) (frames : List Frame) (cs : List Char) :
    StaysIn cs Progress.unread (stepMembers done frames cs) := by
  unfold stepMembers
  split
  · exact .error (isIn_past _ List.suffix_rfl)
  · rename_i rest
    split
    · exact .error (isIn_past _ (List.nil_suffix ..))
    · rename_i hspace
      exact .error (isIn_past _ ((suffix_of_skipSpace hspace).trans (List.suffix_cons ..)))
    · rename_i hspace
      have hkey := ((staysIn_readKey _).cons '"').of_suffix (suffix_of_skipSpace hspace)
      exact staysIn_map.2 (hkey.cons ',')
    · exact .error (isIn_past _ ((skipSpace_suffix rest).trans (List.suffix_cons ..)))
  · exact List.suffix_cons ..
  · exact .error (isIn_past _ List.suffix_rfl)

theorem staysIn_stepEnd (v : Json) (cs : List Char) :
    StaysIn cs Progress.unread (stepEnd v cs) := by
  unfold stepEnd
  split
  · exact List.suffix_rfl
  · exact .error (isIn_past _ List.suffix_rfl)

/-- **A step leaves an end of the text unread, or has its fault in the text**, or in a boxed number
of it. -/
theorem step_staysIn (s : State) :
    StaysIn s.rest Progress.unread (step s) ∨
      ∃ fault, step s = .error fault ∧ fault.IsBoxedIn s.rest := by
  have hspace := skipSpace_suffix s.rest
  unfold step
  split
  · obtain hstays | ⟨fault, herror, hboxed⟩ := stepValue_staysIn s.frames (skipSpace s.rest)
    · exact .inl (hstays.of_suffix hspace)
    · exact .inr ⟨fault, herror, hboxed.of_suffix hspace⟩
  · exact .inl ((staysIn_stepEnd _ _).of_suffix hspace)
  · exact .inl ((staysIn_stepList _ _ _).of_suffix hspace)
  · exact .inl ((staysIn_stepMembers _ _ _).of_suffix hspace)

/-! ### Documents -/

/-- **A run has its fault in the text**, or in a boxed number of it. -/
theorem run_fault {s : State} (h : run s = .error fault) :
    fault.IsIn s.rest ∨ fault.IsBoxedIn s.rest := by
  fun_induction run s with
  | case1 s t hstep ih =>
      obtain hstays | ⟨_, herror, -⟩ := step_staysIn s
      · have hrest : t.rest <:+ s.rest := hstays.suffix hstep
        exact (ih h).imp (·.of_suffix hrest) (·.of_suffix hrest)
      · rw [hstep] at herror
        cases herror
  | case2 s v hstep => cases h
  | case3 s f hstep =>
      cases h
      obtain hstays | ⟨_, herror, hboxed⟩ := step_staysIn s
      · exact .inl (hstays.isIn hstep)
      · rw [hstep] at herror
        cases herror
        exact .inr hboxed

/-- **A document has its fault in the text**, or in a boxed number of it. -/
theorem read_fault (h : read cs = .error fault) : fault.IsIn cs ∨ fault.IsBoxedIn cs :=
  run_fault h

/-- The position of a fault is that of a place of the document, or of a place of the characters of a
boxed number in it. -/
theorem position_of_read (h : read cs = .error fault) :
    (∃ n ≤ byteSize cs, fault.position cs = positionOf cs n) ∨
      ∃ digits n, Boxes cs digits ∧ n ≤ byteSize digits ∧
        fault.position cs = positionOf digits n := by
  obtain hin | ⟨digits, n, hboxes, -, hn, hplace⟩ := read_fault h
  · exact .inl hin.exists_positionOf
  · exact .inr ⟨digits, n, hboxes, hn, by rw [Fault.position, hplace]⟩

theorem one_le_line_of_read (h : read cs = .error fault) : 1 ≤ (fault.position cs).line := by
  obtain ⟨n, -, hn⟩ | ⟨digits, n, -, -, hn⟩ := position_of_read h <;> rw [hn] <;>
    exact one_le_line_positionOf ..

end ObjectInitializer.Json
