/-
**What spells a value is read as it.**

A text that spells a value takes the reader from the task of reading one to that of going on behind
it, with the same frames around.  Numbers are the only values that do not show where they end, so
what follows must not go on a number; what may stand behind a value inside of an array or object
never does.  The induction is over the grammar, with one for the items of an array and one for the
members of an object inside.

Main definitions:

* `Json.TakesValue` — **the reader passes a text** and has read a value.

Main results:

* `Json.run_items`, `Json.run_members` — the reader passes what is in an array or object behind the
  first item or member;
* `Json.takesValue_of_spells` — **the reader passes every text that spells a value**;
* `Json.read_eq_ok_iff` — **a text is read as a value exactly if it spells it**.
-/

import ObjectInitializer.Proofs.Json.Soundness

set_option relaxedAutoImplicit false
set_option autoImplicit false

namespace ObjectInitializer.Json

variable {cs rest text gap : List Char} {key : String} {v : Json} {frames : List Frame}

/-! ### Runs -/

/-- A run goes on where its first step leads. -/
theorem run_eq (s : State) :
    run s =
      match step s with
      | .ok (.more t) => run t
      | .ok (.done v) => .ok v
      | .error fault => .error fault := by
  rw [run]
  split <;> rename_i hstep <;> rw [hstep]

/-- Blanks in front of what is to come make no difference. -/
theorem run_spaces_append {phase : Phase} (hgap : IsSpaces gap) (cs : List Char) :
    run ⟨frames, phase, gap ++ cs⟩ = run ⟨frames, phase, cs⟩ := by
  have hstep : step ⟨frames, phase, gap ++ cs⟩ = step ⟨frames, phase, cs⟩ := by
    simp only [step, skipSpace_append hgap]
  rw [run_eq, hstep, ← run_eq]

/-- **The reader passes a text** that stands where a value is to be read, and has read the value:
whatever is around it and whatever follows, unless that goes on a number. -/
def TakesValue (text : List Char) (v : Json) : Prop :=
  ∀ (frames : List Frame) (rest : List Char), Stops isNumeralChar rest →
    run ⟨frames, .value, text ++ rest⟩ = run ⟨frames, .after v, rest⟩

theorem readColon_append (hgap : IsSpaces gap) (rest : List Char) :
    readColon (gap ++ ':' :: rest) = .ok rest := by
  rw [readColon, skipSpace_append hgap]
  rfl

/-- A spelling of a key has a quote behind its blanks, and is read as the key behind the quote. -/
theorem SpellsKey.exists_readKey {keyText : List Char} (h : SpellsKey keyText key) :
    ∃ cs, ∀ rest, skipSpace (keyText ++ rest) = '"' :: (cs ++ rest) ∧
      readKey (cs ++ rest) = .ok (key, rest) := by
  cases h with
  | @intro before text s gap hbefore hkey hgap =>
      refine ⟨text ++ '"' :: (gap ++ [':']), fun rest => ⟨?_, ?_⟩⟩
      · rw [List.append_assoc, skipSpace_append hbefore]
        rfl
      · have hstring := readString_append hkey (gap ++ ':' :: rest)
        have hcolon := readColon_append hgap rest
        rw [List.append_assoc, List.cons_append, List.append_assoc, List.cons_append,
          List.nil_append, readKey, hstring]
        show (readColon _ >>= _) = _
        rw [hcolon]
        rfl

theorem readBoxEnd_append (hgap : IsSpaces gap) (rest : List Char) :
    readBoxEnd (gap ++ '\x7d' :: rest) = .ok rest := by
  rw [readBoxEnd, skipSpace_append hgap]
  rfl

theorem readBoxed_append {before text digits after : List Char} (hbefore : IsSpaces before)
    (htext : SpellsString text digits) (hdigits : IsNumeral digits) (hafter : IsSpaces after)
    (rest : List Char) :
    readBoxed (before ++ '"' :: (text ++ '"' :: (after ++ '\x7d' :: rest))) =
      .ok (.number (String.ofList (numberText digits)), rest) := by
  have hspace : skipSpace ('"' :: (text ++ '"' :: (after ++ '\x7d' :: rest))) =
      '"' :: (text ++ '"' :: (after ++ '\x7d' :: rest)) :=
    skipSpace_of_stops (stops_cons.2 rfl)
  have hnumber := readBareNumber_eq_ok_iff.2 ⟨hdigits, rfl⟩
  rw [readBoxed, skipSpace_append hbefore, hspace]
  simp only [readString_append htext, bind, Except.bind, hnumber, readBoxEnd_append hafter]
  rfl

/-! ### Steps -/

/-- What starts a value is no blank. -/
theorem isSpace_of_startsValue {c : Char} (h : startsValue c = true) : isSpace c = false := by
  cases hspace : isSpace c with
  | false => rfl
  | true =>
      simp only [isSpace, Bool.or_eq_true, beq_iff_eq] at hspace
      rcases hspace with ((rfl | rfl) | rfl) | rfl <;> cases h

theorem ne_of_startsNumber {c d : Char} (h : startsNumber c = true) (hd : startsNumber d = false) :
    c ≠ d := by
  rintro rfl
  rw [h] at hd
  cases hd

theorem readScalar_append_number {digits : List Char} (h : IsNumeral digits)
    (hrest : Stops isNumeralChar rest) :
    readScalar (digits ++ rest) = .ok (.number (String.ofList (numberText digits)), rest) := by
  obtain ⟨c, cs, rfl, hc⟩ := h.starts
  have hscan := scanNumber_append h hrest
  rw [List.cons_append] at hscan
  rw [List.cons_append, readScalar, if_neg (ne_of_startsNumber hc rfl),
    if_neg (ne_of_startsNumber hc rfl), if_neg (ne_of_startsNumber hc rfl),
    if_neg (ne_of_startsNumber hc rfl), if_pos hc, hscan]
  rfl

/-- What is read as a scalar is passed in one step. -/
theorem takesValue_of_readScalar {c : Char} (hc : startsValue c = true) (hlist : c ≠ '[')
    (hmembers : c ≠ '\x7b')
    (h : ∀ rest, Stops isNumeralChar rest → readScalar (c :: (cs ++ rest)) = .ok (v, rest)) :
    TakesValue (c :: cs) v := by
  intro frames rest hrest
  have hspace : skipSpace (c :: (cs ++ rest)) = c :: (cs ++ rest) :=
    skipSpace_of_stops (stops_cons.2 (isSpace_of_startsValue hc))
  have hstep : step ⟨frames, .value, c :: (cs ++ rest)⟩ = .ok (.more ⟨frames, .after v, rest⟩) := by
    simp only [step, hspace]
    unfold stepValue
    split
    · rename_i heq
      exact absurd (List.cons.inj heq).1 hlist
    · rename_i heq
      exact absurd (List.cons.inj heq).1 hmembers
    · rw [h rest hrest]
      rfl
  rw [List.cons_append, run_eq, hstep]

/-- Where a value stands, the first character behind the blanks is one that starts a value. -/
theorem skipSpace_of_spells (htext : Spells text v) (rest : List Char) :
    ∃ c cs, skipSpace (text ++ rest) = c :: cs ∧ c ≠ ']' ∧
      ∀ frames, run ⟨frames, .value, c :: cs⟩ = run ⟨frames, .value, text ++ rest⟩ := by
  obtain ⟨gap, c, cs, hgap, rfl, hc⟩ := htext.starts
  refine ⟨c, cs ++ rest, ?_, ?_, fun frames => ?_⟩
  · rw [List.append_assoc, skipSpace_append hgap, List.cons_append,
      skipSpace_of_stops (stops_cons.2 (isSpace_of_startsValue hc))]
  · rintro rfl
    cases hc
  · rw [List.append_assoc, run_spaces_append hgap, List.cons_append]

theorem run_openList (htext : Spells text v) (rest : List Char) :
    run ⟨frames, .value, '[' :: (text ++ rest)⟩ =
      run ⟨.list [] :: frames, .value, text ++ rest⟩ := by
  obtain ⟨c, cs, hspace, hc, hrun⟩ := skipSpace_of_spells htext rest
  have hstep : step ⟨frames, .value, '[' :: (text ++ rest)⟩ =
      .ok (.more ⟨.list [] :: frames, .value, c :: cs⟩) := by
    show stepValue frames ('[' :: (text ++ rest)) = _
    simp only [stepValue, hspace]
    split
    · rename_i heq
      cases heq
    · rename_i heq
      exact absurd (List.cons.inj heq).1 hc
    · rfl
  rw [run_eq, hstep]
  exact hrun _

theorem run_nextItem {done : List Json} {w : Json} (htext : Spells text w) (rest : List Char) :
    run ⟨.list done :: frames, .after v, ',' :: (text ++ rest)⟩ =
      run ⟨.list (v :: done) :: frames, .value, text ++ rest⟩ := by
  obtain ⟨c, cs, hspace, hc, hrun⟩ := skipSpace_of_spells htext rest
  have hstep : step ⟨.list done :: frames, .after v, ',' :: (text ++ rest)⟩ =
      .ok (.more ⟨.list (v :: done) :: frames, .value, c :: cs⟩) := by
    show stepList (v :: done) frames (',' :: (text ++ rest)) = _
    simp only [stepList, hspace]
    split
    · rename_i heq
      cases heq
    · rename_i heq
      exact absurd (List.cons.inj heq).1 hc
    · rfl
  rw [run_eq, hstep]
  exact hrun _

theorem run_endList {done : List Json} (hgap : IsSpaces gap) (rest : List Char) :
    run ⟨.list done :: frames, .after v, gap ++ ']' :: rest⟩ =
      run ⟨frames, .after (.array (v :: done).reverse), rest⟩ := by
  rw [run_spaces_append hgap, run_eq]
  rfl

theorem run_emptyArray (hgap : IsSpaces gap) (rest : List Char) :
    run ⟨frames, .value, '[' :: (gap ++ ']' :: rest)⟩ = run ⟨frames, .after (.array []), rest⟩ := by
  have hspace : skipSpace (gap ++ ']' :: rest) = ']' :: rest := skipSpace_append hgap _
  have hstep : step ⟨frames, .value, '[' :: (gap ++ ']' :: rest)⟩ =
      .ok (.more ⟨frames, .after (.array []), rest⟩) := by
    show stepValue frames ('[' :: (gap ++ ']' :: rest)) = _
    simp only [stepValue, hspace]
  rw [run_eq, hstep]

theorem run_openMembers {keyText : List Char} (hkey : SpellsKey keyText key) (hbox : key ≠ boxKey)
    (rest : List Char) :
    run ⟨frames, .value, '\x7b' :: (keyText ++ rest)⟩ =
      run ⟨.members [] key :: frames, .value, rest⟩ := by
  obtain ⟨cs, hkey⟩ := hkey.exists_readKey
  obtain ⟨hspace, hread⟩ := hkey rest
  have hstep : step ⟨frames, .value, '\x7b' :: (keyText ++ rest)⟩ =
      .ok (.more ⟨.members [] key :: frames, .value, rest⟩) := by
    show stepValue frames ('\x7b' :: (keyText ++ rest)) = _
    simp only [stepValue, hspace, hread, if_neg hbox]
  rw [run_eq, hstep]

theorem run_boxed {keyText before digits after : List Char} (hkey : SpellsKey keyText boxKey)
    (hbefore : IsSpaces before) (htext : SpellsString text digits) (hdigits : IsNumeral digits)
    (hafter : IsSpaces after) (rest : List Char) :
    run ⟨frames, .value,
        '\x7b' :: (keyText ++ (before ++ '"' :: (text ++ '"' :: (after ++ '\x7d' :: rest))))⟩ =
      run ⟨frames, .after (.number (String.ofList (numberText digits))), rest⟩ := by
  have hboxed := readBoxed_append hbefore htext hdigits hafter rest
  generalize before ++ '"' :: (text ++ '"' :: (after ++ '\x7d' :: rest)) = behind at hboxed
  obtain ⟨cs, hkey⟩ := hkey.exists_readKey
  obtain ⟨hspace, hread⟩ := hkey behind
  have hstep : step ⟨frames, .value, '\x7b' :: (keyText ++ behind)⟩ =
      .ok (.more ⟨frames, .after (.number (String.ofList (numberText digits))), rest⟩) := by
    show stepValue frames ('\x7b' :: (keyText ++ behind)) = _
    simp only [stepValue, hspace, hread, if_pos, hboxed]
    rfl
  rw [run_eq, hstep]

theorem run_nextMember {done : List (String × Json)} {keyText : List Char} {nextKey : String}
    (hkey : SpellsKey keyText nextKey) (rest : List Char) :
    run ⟨.members done key :: frames, .after v, ',' :: (keyText ++ rest)⟩ =
      run ⟨.members (setMember key v done) nextKey :: frames, .value, rest⟩ := by
  obtain ⟨cs, hkey⟩ := hkey.exists_readKey
  obtain ⟨hspace, hread⟩ := hkey rest
  have hstep : step ⟨.members done key :: frames, .after v, ',' :: (keyText ++ rest)⟩ =
      .ok (.more ⟨.members (setMember key v done) nextKey :: frames, .value, rest⟩) := by
    show stepMembers (setMember key v done) frames (',' :: (keyText ++ rest)) = _
    simp only [stepMembers, hspace, hread]
    rfl
  rw [run_eq, hstep]

theorem run_endMembers {done : List (String × Json)} (hgap : IsSpaces gap) (rest : List Char) :
    run ⟨.members done key :: frames, .after v, gap ++ '\x7d' :: rest⟩ =
      run ⟨frames, .after (.object (setMember key v done)), rest⟩ := by
  rw [run_spaces_append hgap, run_eq]
  rfl

theorem run_emptyObject (hgap : IsSpaces gap) (rest : List Char) :
    run ⟨frames, .value, '\x7b' :: (gap ++ '\x7d' :: rest)⟩ =
      run ⟨frames, .after (.object []), rest⟩ := by
  have hspace : skipSpace (gap ++ '\x7d' :: rest) = '\x7d' :: rest := skipSpace_append hgap _
  have hstep : step ⟨frames, .value, '\x7b' :: (gap ++ '\x7d' :: rest)⟩ =
      .ok (.more ⟨frames, .after (.object []), rest⟩) := by
    show stepValue frames ('\x7b' :: (gap ++ '\x7d' :: rest)) = _
    simp only [stepValue, hspace]
  rw [run_eq, hstep]

/-! ### Values -/

/-- A blank goes on no number. -/
theorem stops_of_spaces_append (hgap : IsSpaces gap) (hrest : Stops isNumeralChar rest) :
    Stops isNumeralChar (gap ++ rest) := by
  cases gap with
  | nil => exact hrest
  | cons c gap =>
      have hc : isSpace c = true := hgap c (List.mem_cons_self ..)
      simp only [isSpace, Bool.or_eq_true, beq_iff_eq] at hc
      rcases hc with ((rfl | rfl) | rfl) | rfl <;> exact stops_cons.2 rfl

/-- Neither does a comma, or what ends an array or object. -/
theorem stops_behind_value {c : Char} (texts : List (List Char)) (hgap : IsSpaces gap)
    (hc : isNumeralChar c = false) :
    Stops isNumeralChar (texts.flatMap (',' :: ·) ++ (gap ++ c :: rest)) := by
  cases texts with
  | nil =>
      rw [List.flatMap_nil, List.nil_append]
      exact stops_of_spaces_append hgap (stops_cons.2 hc)
  | cons text texts => exact stops_cons.2 rfl

/-- The items of an array behind the first are passed, with what ends it. -/
theorem run_items {items : List (List Char × Json)} (hitems : ∀ item ∈ items, Spells item.1 item.2)
    (htake : ∀ item ∈ items, TakesValue item.1 item.2) (hgap : IsSpaces gap) (done : List Json)
    (v : Json) (rest : List Char) :
    run ⟨.list done :: frames, .after v,
        (items.map Prod.fst).flatMap (',' :: ·) ++ (gap ++ ']' :: rest)⟩ =
      run ⟨frames, .after (.array (done.reverse ++ v :: items.map Prod.snd)), rest⟩ := by
  induction items generalizing done v with
  | nil =>
      rw [List.map_nil, List.flatMap_nil, List.nil_append, run_endList hgap, List.reverse_cons]
      rfl
  | cons item items ih =>
      obtain ⟨text, w⟩ := item
      rw [List.map_cons, List.flatMap_cons, List.append_assoc, List.cons_append,
        run_nextItem (hitems _ (List.mem_cons_self ..)),
        htake _ (List.mem_cons_self ..) _ _ (stops_behind_value _ hgap rfl),
        ih (fun item h => hitems item (List.mem_cons_of_mem _ h))
          (fun item h => htake item (List.mem_cons_of_mem _ h))]
      simp

/-- The members of an object behind the first are passed, with what ends it. -/
theorem run_members {members : List MemberText}
    (hkeys : ∀ m ∈ members, SpellsKey m.keyText m.key)
    (htake : ∀ m ∈ members, TakesValue m.valueText m.value) (hgap : IsSpaces gap)
    (done : List (String × Json)) (key : String) (v : Json) (rest : List Char) :
    run ⟨.members done key :: frames, .after v,
        (members.map MemberText.text).flatMap (',' :: ·) ++ (gap ++ '\x7d' :: rest)⟩ =
      run ⟨frames, .after
        (.object (setMembers (setMember key v done) (members.map MemberText.member))), rest⟩ := by
  induction members generalizing done key v with
  | nil => exact run_endMembers hgap rest
  | cons m members ih =>
      rw [List.map_cons, List.flatMap_cons, List.append_assoc, List.cons_append, MemberText.text,
        List.append_assoc, run_nextMember (hkeys m (List.mem_cons_self ..)),
        htake m (List.mem_cons_self ..) _ _ (stops_behind_value _ hgap rfl),
        ih (fun m h => hkeys m (List.mem_cons_of_mem _ h))
          (fun m h => htake m (List.mem_cons_of_mem _ h))]
      rfl

/-- **The reader passes every text that spells a value.** -/
theorem takesValue_of_spells (h : Spells text v) : TakesValue text v := by
  induction h with
  | null => exact takesValue_of_readScalar rfl (by decide) (by decide) fun rest _ => rfl
  | boolTrue => exact takesValue_of_readScalar rfl (by decide) (by decide) fun rest _ => rfl
  | boolFalse => exact takesValue_of_readScalar rfl (by decide) (by decide) fun rest _ => rfl
  | @number digits hdigits =>
      obtain ⟨c, cs, rfl, hc⟩ := hdigits.starts
      exact takesValue_of_readScalar (by simp [startsValue, hc]) (ne_of_startsNumber hc rfl)
        (ne_of_startsNumber hc rfl) fun rest hrest => readScalar_append_number hdigits hrest
  | string htext =>
      refine takesValue_of_readScalar rfl (by decide) (by decide) fun rest _ => ?_
      rw [List.append_assoc]
      show (readString _).map _ = _
      rw [List.cons_append, readString_append htext]
      rfl
  | @array items gap hitems hgap ih =>
      intro frames rest hrest
      cases items with
      | nil => simpa [commas] using run_emptyArray hgap rest
      | cons item items =>
          calc run ⟨frames, .value,
                '[' :: (commas ((item :: items).map Prod.fst) ++ (gap ++ [']'])) ++ rest⟩
            _ = run ⟨frames, .value, '[' :: (item.1 ++
                  ((items.map Prod.fst).flatMap (',' :: ·) ++ (gap ++ ']' :: rest)))⟩ := by
                simp [commas]
            _ = run ⟨.list [] :: frames, .value, item.1 ++
                  ((items.map Prod.fst).flatMap (',' :: ·) ++ (gap ++ ']' :: rest))⟩ :=
                run_openList (hitems item (List.mem_cons_self ..)) _
            _ = run ⟨.list [] :: frames, .after item.2,
                  (items.map Prod.fst).flatMap (',' :: ·) ++ (gap ++ ']' :: rest)⟩ :=
                ih item (List.mem_cons_self ..) _ _ (stops_behind_value _ hgap rfl)
            _ = run ⟨frames, .after (.array ((item :: items).map Prod.snd)), rest⟩ :=
                run_items (fun item h => hitems item (List.mem_cons_of_mem _ h))
                  (fun item h => ih item (List.mem_cons_of_mem _ h)) hgap [] item.2 rest
  | @object members gap hkeys hvalues hfirst hgap ih =>
      intro frames rest hrest
      cases members with
      | nil => simpa [commas] using run_emptyObject hgap rest
      | cons m members =>
          calc run ⟨frames, .value, '\x7b' ::
                (commas ((m :: members).map MemberText.text) ++ (gap ++ ['\x7d'])) ++ rest⟩
            _ = run ⟨frames, .value, '\x7b' :: (m.keyText ++ (m.valueText ++
                  ((members.map MemberText.text).flatMap (',' :: ·) ++
                    (gap ++ '\x7d' :: rest))))⟩ := by
                simp [commas, MemberText.text]
            _ = run ⟨.members [] m.key :: frames, .value, m.valueText ++
                  ((members.map MemberText.text).flatMap (',' :: ·) ++ (gap ++ '\x7d' :: rest))⟩ :=
                run_openMembers (hkeys m (List.mem_cons_self ..)) (hfirst m rfl) _
            _ = run ⟨.members [] m.key :: frames, .after m.value,
                  (members.map MemberText.text).flatMap (',' :: ·) ++ (gap ++ '\x7d' :: rest)⟩ :=
                ih m (List.mem_cons_self ..) _ _ (stops_behind_value _ hgap rfl)
            _ = run ⟨frames, .after
                  (.object (setMembers [] ((m :: members).map MemberText.member))), rest⟩ :=
                run_members (fun m h => hkeys m (List.mem_cons_of_mem _ h))
                  (fun m h => ih m (List.mem_cons_of_mem _ h)) hgap [] m.key m.value rest
  | boxed hkey hbefore htext hdigits hafter =>
      intro frames rest _
      simpa using run_boxed hkey hbefore htext hdigits hafter rest
  | pad hbefore _ hafter ih =>
      intro frames rest hrest
      rw [List.append_assoc, List.append_assoc, run_spaces_append hbefore,
        ih _ _ (stops_of_spaces_append hafter hrest), run_spaces_append hafter]

/-- **A text is read as a value exactly if it spells it.** -/
theorem read_eq_ok_iff : read cs = .ok v ↔ Spells cs v := by
  refine ⟨spells_of_read, fun h => ?_⟩
  have htake := takesValue_of_spells h [] [] stops_nil
  rw [List.append_nil] at htake
  rw [read, htake, run_eq]
  rfl

end ObjectInitializer.Json
