/-
**A conversion answers with its first failure.**

Six things can be wrong with a document and the settings, and any number of them at once.  Each is
stated by itself here (`Fails`), by what is true of the document, the files and the settings, and
not by the function that checks it.  The failures have an order, and a conversion answers with the
first (`FirstFailure`); it has a statement to answer with exactly when there is none.

Main definitions:

* `Snapshot.Reads`, `Snapshot.Denotes`, `Snapshot.Refused` — the text of a document, its value, and
  why it has none;
* `Check`, `Fails` — what can be wrong, and the failure it leads to;
* `FirstFailure` — a failure with none before it;
* `IsAnswer` — what a conversion has to answer.

Main results:

* `Snapshot.parse_eq_ok_iff`, `Snapshot.parse_eq_error_iff` — a document has a value, or is refused;
* `failure_unique` — a check leads to one failure at most;
* `Snapshot.convert_cases` — **a conversion fails first somewhere, or nowhere**;
* `convertInput_isAnswer` — **a conversion answers as it has to**, whatever the files are.
-/

import ObjectInitializer.Proofs.Limits
import ObjectInitializer.Proofs.Snapshot

set_option relaxedAutoImplicit false
set_option autoImplicit false

namespace ObjectInitializer

/-! ### What a document holds -/

namespace Snapshot

/-- The place that a document is read from and the outcome, unless it is given as a text. -/
def bytes? (files : Snapshot) : Input → Option (String × Except OsError ByteArray)
  | .text _ => none
  | .file path => some ("file " ++ path, files.read path)
  | .standardInput => some ("stdin", files.standardInput)

variable (files : Snapshot)

/-- The text of a document. -/
inductive Reads : Input → String → Prop where
  | text (content : String) : Reads (.text content) content
  | bytes {input : Input} {place content : String} {bytes : ByteArray}
      (hread : files.bytes? input = some (place, .ok bytes))
      (hutf8 : String.fromUTF8? bytes = some content) : Reads input content

/-- The value of a document: what its text denotes in JSON. -/
inductive Denotes (input : Input) (v : Json) : Prop where
  | intro {content : String} (hreads : files.Reads input content)
      (hblank : content.toList.all Text.isBlank = false)
      (hvalue : Json.read content.toList = .ok v)

/-- Why a document has no value. -/
inductive Refused (input : Input) : Json.ParseError → Prop where
  | unreadable {place : String} {error : OsError}
      (hread : files.bytes? input = some (place, .error error)) :
      Refused input (.unreadable place error.message)
  | invalidUtf8 {place : String} {bytes : ByteArray}
      (hread : files.bytes? input = some (place, .ok bytes))
      (hutf8 : String.fromUTF8? bytes = none) :
      Refused input (.unreadable place "stream did not contain valid UTF-8")
  | blank {content : String} (hreads : files.Reads input content)
      (hblank : content.toList.all Text.isBlank = true) : Refused input .empty
  | invalid {content : String} {fault : Json.Fault} (hreads : files.Reads input content)
      (hblank : content.toList.all Text.isBlank = false)
      (hfault : Json.read content.toList = .error fault) :
      Refused input (.ofFault content.toList fault)

variable {files} {input : Input}

theorem parse_of_bytes {place : String} {outcome : Except OsError ByteArray}
    (hread : files.bytes? input = some (place, outcome)) :
    files.parse input = Input.parseRead place (ReadError.decode outcome) := by
  cases input with
  | text content => cases hread
  | file path => cases hread; rfl
  | standardInput => cases hread; rfl

theorem Reads.parse {content : String} (h : files.Reads input content) :
    files.parse input = Json.parse content := by
  cases h with
  | text => rfl
  | bytes hread hutf8 => rw [parse_of_bytes hread, ReadError.decode, hutf8, Input.parseRead]

theorem Denotes.parse {v : Json} (h : files.Denotes input v) : files.parse input = .ok v := by
  obtain ⟨hreads, hblank, hvalue⟩ := h
  simp [hreads.parse, Json.parse, hblank, hvalue]

theorem Refused.parse {error : Json.ParseError} (h : files.Refused input error) :
    files.parse input = .error error := by
  cases h with
  | unreadable hread => rw [parse_of_bytes hread]; rfl
  | invalidUtf8 hread hutf8 =>
      rw [parse_of_bytes hread, ReadError.decode, hutf8]
      rfl
  | blank hreads hblank => simp [hreads.parse, Json.parse, hblank]
  | invalid hreads hblank hfault => simp [hreads.parse, Json.parse, hblank, hfault]

/-- A text denotes a value or is refused. -/
theorem Reads.denotes_or_refused {content : String} (h : files.Reads input content) :
    (∃ v, files.Denotes input v) ∨ ∃ error, files.Refused input error := by
  cases hblank : content.toList.all Text.isBlank with
  | true => exact Or.inr ⟨_, .blank h hblank⟩
  | false =>
      cases hread : Json.read content.toList with
      | ok v => exact Or.inl ⟨v, .intro h hblank hread⟩
      | error fault => exact Or.inr ⟨_, .invalid h hblank hread⟩

/-- A document has a value or is refused. -/
theorem denotes_or_refused (files : Snapshot) (input : Input) :
    (∃ v, files.Denotes input v) ∨ ∃ error, files.Refused input error := by
  cases hread : files.bytes? input with
  | none =>
      cases input with
      | text content => exact (Reads.text content).denotes_or_refused
      | file path => cases hread
      | standardInput => cases hread
  | some read =>
      obtain ⟨place, outcome⟩ := read
      cases outcome with
      | error error => exact Or.inr ⟨_, .unreadable hread⟩
      | ok bytes =>
          cases hutf8 : String.fromUTF8? bytes with
          | none => exact Or.inr ⟨_, .invalidUtf8 hread hutf8⟩
          | some content => exact (Reads.bytes hread hutf8).denotes_or_refused

theorem parse_eq_ok_iff {v : Json} : files.parse input = .ok v ↔ files.Denotes input v := by
  constructor
  · intro h
    rcases files.denotes_or_refused input with ⟨u, hu⟩ | ⟨error, hrefused⟩
    · rw [hu.parse] at h
      cases h
      exact hu
    · rw [hrefused.parse] at h
      cases h
  · exact Denotes.parse

theorem parse_eq_error_iff {error : Json.ParseError} :
    files.parse input = .error error ↔ files.Refused input error := by
  constructor
  · intro h
    rcases files.denotes_or_refused input with ⟨u, hu⟩ | ⟨other, hrefused⟩
    · rw [hu.parse] at h
      cases h
    · rw [hrefused.parse] at h
      cases h
      exact hrefused
  · exact Refused.parse

end Snapshot

/-! ### What can be wrong -/

/-- What can be wrong, in the order in which it is looked for. -/
inductive Check where
  /-- The file is not there. -/
  | presence
  /-- The document is too large, as far as is known before reading. -/
  | knownSize
  /-- The document has no value. -/
  | text
  | settings
  | depth
  /-- The compact form of the value is too large. -/
  | compactSize
  deriving Repr, DecidableEq

/-- The place of a check in the order. -/
def Check.rank : Check → Nat
  | .presence => 0
  | .knownSize => 1
  | .text => 2
  | .settings => 3
  | .depth => 4
  | .compactSize => 5

theorem Check.eq_of_rank_eq {check other : Check} (h : check.rank = other.rank) :
    check = other := by
  cases check <;> cases other <;> first | rfl | cases h

section

variable (settings : Settings) (files : Snapshot) (input : Input)

/-- Something is wrong, and leads to a failure, whatever else is wrong. -/
inductive Fails : Check → Failure → Prop where
  | missing {path : Path} (hinput : input = .file path) (hfile : files.isFile path = false) :
      Fails .presence (.ofKind (.inputNotFound path))
  | tooLarge {size : Nat} (hsize : files.knownSize? input = some size)
      (hlimit : settings.memoryLimit < size) :
      Fails .knownSize (.ofKind (.jsonTooLarge size settings.memoryLimit))
  | refused {error : Json.ParseError} (herror : files.Refused input error) :
      Fails .text (.parse error)
  | flawed {message : String} (hmessage : settings.validate = .error message) :
      Fails .settings (.ofKind (.configuration message))
  | tooDeep {v : Json} {limit : Nat} (hvalue : files.Denotes input v)
      (hmax : settings.maxDepth = some limit) (hlimit : limit < v.depth) :
      Fails .depth (.ofKind (.nestingTooDeep v.depth limit))
  | tooLargeCompact {v : Json} (hvalue : files.Denotes input v)
      (hlimit : settings.memoryLimit < v.compactSize) :
      Fails .compactSize (.ofKind (.memoryLimitExceeded v.compactSize settings.memoryLimit))

/-- Nothing is wrong that is looked for earlier than at the given place of the order. -/
def PassedUpTo (rank : Nat) : Prop :=
  ∀ (check : Check) (failure : Failure), check.rank < rank →
    ¬ Fails settings files input check failure

/-- The failure that comes first: something is wrong, and nothing that is looked for earlier. -/
def FirstFailure (failure : Failure) : Prop :=
  ∃ check, Fails settings files input check failure ∧
    PassedUpTo settings files input check.rank

end

variable {settings : Settings} {files : Snapshot} {input : Input} {failure : Failure}

/-! ### Each check finds what is wrong -/

theorem fails_presence_iff :
    Fails settings files input .presence failure ↔
      ∃ path, files.missing? input = some path ∧ failure = .ofKind (.inputNotFound path) := by
  constructor
  · intro h
    cases h with
    | missing hinput hfile => exact ⟨_, by rw [hinput, Snapshot.missing?, hfile]; rfl, rfl⟩
  · rintro ⟨path, hmissing, rfl⟩
    cases input with
    | file path' =>
        rw [Snapshot.missing?] at hmissing
        split at hmissing
        · cases hmissing
        · rename_i hfile
          cases hmissing
          exact .missing rfl (by simpa using hfile)
    | text content => cases hmissing
    | standardInput => cases hmissing

theorem fails_knownSize_iff :
    Fails settings files input .knownSize failure ↔
      Limits.checkSize settings (files.knownSize? input) = .error failure := by
  rw [Limits.checkSize_eq_error_iff]
  constructor
  · intro h
    cases h with
    | tooLarge hsize hlimit => exact ⟨_, hsize, hlimit, rfl⟩
  · rintro ⟨size, hsize, hlimit, rfl⟩
    exact .tooLarge hsize hlimit

theorem fails_text_iff :
    Fails settings files input .text failure ↔
      ∃ error, files.parse input = .error error ∧ failure = .parse error := by
  constructor
  · intro h
    cases h with
    | refused herror => exact ⟨_, herror.parse, rfl⟩
  · rintro ⟨error, hparse, rfl⟩
    exact .refused (Snapshot.parse_eq_error_iff.1 hparse)

theorem fails_settings_iff :
    Fails settings files input .settings failure ↔ checkSettings settings = .error failure := by
  constructor
  · intro h
    cases h with
    | flawed hmessage => rw [checkSettings, hmessage]
  · intro h
    rw [checkSettings] at h
    split at h
    · cases h
    · rename_i message hmessage
      cases h
      exact .flawed hmessage

theorem fails_depth_iff {v : Json} (hvalue : files.Denotes input v) :
    Fails settings files input .depth failure ↔ Limits.checkDepth settings v = .error failure := by
  rw [Limits.checkDepth_eq_error_iff]
  constructor
  · intro h
    cases h with
    | tooDeep hother hmax hlimit =>
        have huv := hother.parse.symm.trans hvalue.parse
        cases huv
        exact ⟨_, hmax, hlimit, rfl⟩
  · rintro ⟨limit, hmax, hlimit, rfl⟩
    exact .tooDeep hvalue hmax hlimit

theorem fails_compactSize_iff {v : Json} (hvalue : files.Denotes input v) :
    Fails settings files input .compactSize failure ↔
      Limits.checkCompactSize settings v = .error failure := by
  rw [Limits.checkCompactSize_eq_error_iff]
  constructor
  · intro h
    cases h with
    | tooLargeCompact hother hlimit =>
        have huv := hother.parse.symm.trans hvalue.parse
        cases huv
        exact ⟨hlimit, rfl⟩
  · rintro ⟨hlimit, rfl⟩
    exact .tooLargeCompact hvalue hlimit

/-! ### The first failure -/

/-- A check that finds nothing is passed, after those before it. -/
theorem PassedUpTo.next {check : Check} (h : PassedUpTo settings files input check.rank)
    (hcheck : ∀ failure, ¬ Fails settings files input check failure) :
    PassedUpTo settings files input (check.rank + 1) := by
  intro other failure hrank
  rcases Nat.lt_or_eq_of_le (Nat.le_of_lt_succ hrank) with hlt | heq
  · exact h other failure hlt
  · rw [Check.eq_of_rank_eq heq]
    exact hcheck failure

/-- The checks of a value: it fails first somewhere, or nowhere. -/
theorem convert_value_cases {v : Json} (hvalue : files.Denotes input v)
    (hread : PassedUpTo settings files input Check.settings.rank) (milliseconds : Nat) :
    (∃ failure, FirstFailure settings files input failure ∧
      convert settings v milliseconds = .error failure) ∨
    (∀ check failure, ¬ Fails settings files input check failure) ∧
      convert settings v milliseconds = .ok (.ofValue settings v milliseconds) := by
  rw [convert, checkValue]
  cases hsettings : checkSettings settings with
  | error failure =>
      exact Or.inl ⟨failure, ⟨.settings, fails_settings_iff.2 hsettings, hread⟩, rfl⟩
  | ok =>
  have hvalid : PassedUpTo settings files input Check.depth.rank := hread.next fun failure h => by
    rw [fails_settings_iff, hsettings] at h
    cases h
  cases hdepth : Limits.checkDepth settings v with
  | error failure =>
      exact Or.inl ⟨failure, ⟨.depth, (fails_depth_iff hvalue).2 hdepth, hvalid⟩, rfl⟩
  | ok =>
  have hflat : PassedUpTo settings files input Check.compactSize.rank :=
    hvalid.next fun failure h => by
      rw [fails_depth_iff hvalue, hdepth] at h
      cases h
  cases hcompact : Limits.checkCompactSize settings v with
  | error failure =>
      exact Or.inl ⟨failure, ⟨.compactSize, (fails_compactSize_iff hvalue).2 hcompact, hflat⟩, rfl⟩
  | ok =>
      -- all six checks are passed, and there is no other
      refine Or.inr ⟨fun check failure => ?_, rfl⟩
      have hall := hflat.next fun failure h => by
        rw [fails_compactSize_iff hvalue, hcompact] at h
        cases h
      exact hall check failure (by cases check <;> decide)

/-- **A conversion fails first somewhere, or nowhere**, and answers accordingly. -/
theorem Snapshot.convert_cases (settings : Settings) (files : Snapshot) (input : Input) :
    (∃ failure, FirstFailure settings files input failure ∧
      files.convert settings input = .error failure) ∨
    (∀ check failure, ¬ Fails settings files input check failure) ∧
      ∃ v, files.Denotes input v ∧
        files.convert settings input = .ok (.ofValue settings v files.milliseconds) := by
  have hstart : PassedUpTo settings files input Check.presence.rank :=
    fun _ _ hrank => absurd hrank (Nat.not_lt_zero _)
  rw [convert_eq, load]
  cases hmissing : files.missing? input with
  | some path =>
      exact Or.inl ⟨_, ⟨.presence, fails_presence_iff.2 ⟨path, hmissing, rfl⟩, hstart⟩, rfl⟩
  | none =>
  -- from here on, each check that finds nothing is one more that is passed
  have hpresent : PassedUpTo settings files input Check.knownSize.rank :=
    hstart.next fun failure h => by
      obtain ⟨path, hpath, -⟩ := fails_presence_iff.1 h
      rw [hmissing] at hpath
      cases hpath
  cases hsize : Limits.checkSize settings (files.knownSize? input) with
  | error failure =>
      exact Or.inl ⟨failure, ⟨.knownSize, fails_knownSize_iff.2 hsize, hpresent⟩, rfl⟩
  | ok =>
  have hsmall : PassedUpTo settings files input Check.text.rank :=
    hpresent.next fun failure h => by
      rw [fails_knownSize_iff, hsize] at h
      cases h
  cases hparse : files.parse input with
  | error error =>
      exact Or.inl ⟨_, ⟨.text, fails_text_iff.2 ⟨error, hparse, rfl⟩, hsmall⟩, rfl⟩
  | ok v =>
  have hread : PassedUpTo settings files input Check.settings.rank :=
    hsmall.next fun failure h => by
      obtain ⟨error, herror, -⟩ := fails_text_iff.1 h
      rw [hparse] at herror
      cases herror
  have hvalue := parse_eq_ok_iff.1 hparse
  rcases convert_value_cases hvalue hread files.milliseconds with hfailure | ⟨hnone, hok⟩
  · exact Or.inl hfailure
  · exact Or.inr ⟨hnone, v, hvalue, hok⟩

/-- A check leads to one failure at most. -/
theorem failure_unique {check : Check} {other : Failure}
    (h : Fails settings files input check failure)
    (hother : Fails settings files input check other) : failure = other := by
  cases h with
  | missing hinput _ =>
      cases hother with
      | missing hinput' _ =>
          cases hinput.symm.trans hinput'
          rfl
  | tooLarge hsize _ =>
      cases hother with
      | tooLarge hsize' _ =>
          cases hsize.symm.trans hsize'
          rfl
  | refused herror =>
      cases hother with
      | refused herror' =>
          cases herror.parse.symm.trans herror'.parse
          rfl
  | flawed hmessage =>
      cases hother with
      | flawed hmessage' =>
          cases hmessage.symm.trans hmessage'
          rfl
  | tooDeep hvalue hmax hlimit =>
      -- the limit and the value are those that the check reads, on both sides
      have hchecked := (fails_depth_iff hvalue).1 (.tooDeep hvalue hmax hlimit)
      cases hchecked.symm.trans ((fails_depth_iff hvalue).1 hother)
      rfl
  | tooLargeCompact hvalue hlimit =>
      have hchecked := (fails_compactSize_iff hvalue).1 (.tooLargeCompact hvalue hlimit)
      cases hchecked.symm.trans ((fails_compactSize_iff hvalue).1 hother)
      rfl

/-- One failure at most comes first. -/
theorem FirstFailure.unique {other : Failure} (h : FirstFailure settings files input failure)
    (hother : FirstFailure settings files input other) : failure = other := by
  obtain ⟨check, hfails, hpassed⟩ := h
  obtain ⟨check', hfails', hpassed'⟩ := hother
  -- of two different checks, the later one would have been passed by the other
  rcases Nat.lt_trichotomy check.rank check'.rank with hlt | heq | hgt
  · exact absurd hfails (hpassed' check failure hlt)
  · cases Check.eq_of_rank_eq heq
    exact failure_unique hfails hfails'
  · exact absurd hfails' (hpassed check' other hgt)

/-! ### Answers -/

/-- What a conversion has to answer: the first failure, or a statement if there is none. -/
structure IsAnswer (settings : Settings) (files : Snapshot) (input : Input)
    (answer : Except Failure Conversion) : Prop where
  error_iff : ∀ failure, answer = .error failure ↔ FirstFailure settings files input failure
  ok_iff : ∀ conversion, answer = .ok conversion ↔
    (∀ check failure, ¬ Fails settings files input check failure) ∧
      ∃ v, files.Denotes input v ∧ conversion =
        { content := (render settings v.toTree).content
          inputSize := v.compactSize
          outputSize := (render settings v.toTree).content.utf8ByteSize
          milliseconds := files.milliseconds
          tally := (render settings v.toTree).tally }
  /-- A statement is made under valid settings only, and from a value within the memory limit. -/
  accepted : ∀ conversion, answer = .ok conversion →
    settings.validate = .ok () ∧ conversion.inputSize ≤ settings.memoryLimit ∧
      conversion.outputSize = conversion.content.utf8ByteSize
  /-- What the limits refuse was measured, and is above the limit. -/
  tooLarge : ∀ size limit, answer = .error (.ofKind (.jsonTooLarge size limit)) →
    files.knownSize? input = some size ∧ settings.memoryLimit = limit ∧ limit < size
  tooDeep : ∀ depth limit, answer = .error (.ofKind (.nestingTooDeep depth limit)) →
    (∃ v, files.Denotes input v ∧ v.depth = depth) ∧ settings.maxDepth = some limit ∧ limit < depth
  tooLargeCompact : ∀ size limit, answer = .error (.ofKind (.memoryLimitExceeded size limit)) →
    (∃ v, files.Denotes input v ∧ v.compactSize = size) ∧ settings.memoryLimit = limit ∧
      limit < size

theorem FirstFailure.isAnswer (h : FirstFailure settings files input failure) :
    IsAnswer settings files input (.error failure) where
  error_iff other := by
    constructor
    · rintro ⟨⟩
      exact h
    · intro hother
      rw [h.unique hother]
  ok_iff conversion := by
    obtain ⟨check, hfails, -⟩ := h
    constructor
    · rintro ⟨⟩
    · rintro ⟨hnone, -⟩
      exact absurd hfails (hnone check failure)
  accepted conversion hok := by cases hok
  tooLarge size limit herror := by
    obtain ⟨check, hfails, -⟩ := h
    cases hfails with
    | tooLarge hsize hlimit =>
        cases herror
        exact ⟨hsize, rfl, hlimit⟩
    | _ => cases herror
  tooDeep depth limit herror := by
    obtain ⟨check, hfails, -⟩ := h
    cases hfails with
    | tooDeep hvalue hmax hlimit =>
        cases herror
        exact ⟨⟨_, hvalue, rfl⟩, hmax, hlimit⟩
    | _ => cases herror
  tooLargeCompact size limit herror := by
    obtain ⟨check, hfails, -⟩ := h
    cases hfails with
    | tooLargeCompact hvalue hlimit =>
        cases herror
        exact ⟨⟨_, hvalue, rfl⟩, rfl, hlimit⟩
    | _ => cases herror

/-- Settings that no check finds anything wrong with are valid. -/
theorem validate_of_not_fails (h : ∀ failure, ¬ Fails settings files input .settings failure) :
    settings.validate = .ok () := by
  cases hvalidate : settings.validate with
  | ok => rfl
  | error message => exact absurd (.flawed hvalidate) (h _)

theorem isAnswer_of_not_fails (hnone : ∀ check failure, ¬ Fails settings files input check failure)
    {v : Json} (hvalue : files.Denotes input v) :
    IsAnswer settings files input (.ok (.ofValue settings v files.milliseconds)) where
  error_iff failure := by
    constructor
    · rintro ⟨⟩
    · rintro ⟨check, hfails, -⟩
      exact absurd hfails (hnone check failure)
  ok_iff conversion := by
    constructor
    · rintro ⟨⟩
      exact ⟨hnone, v, hvalue, rfl⟩
    · rintro ⟨-, u, hother, rfl⟩
      cases hvalue.parse.symm.trans hother.parse
      rfl
  accepted conversion hok := by
    cases hok
    have hsize : v.compactSize ≤ settings.memoryLimit :=
      Nat.le_of_not_lt fun hlimit => hnone _ _ (.tooLargeCompact hvalue hlimit)
    exact ⟨validate_of_not_fails (hnone .settings), hsize, rfl⟩
  tooLarge _ _ herror := by cases herror
  tooDeep _ _ herror := by cases herror
  tooLargeCompact _ _ herror := by cases herror

theorem Snapshot.convert_isAnswer (settings : Settings) (files : Snapshot) (input : Input) :
    IsAnswer settings files input (files.convert settings input) := by
  rcases convert_cases settings files input with ⟨failure, hfirst, hrun⟩ | ⟨hnone, v, hvalue, hrun⟩
  · rw [hrun]
    exact hfirst.isAnswer
  · rw [hrun]
    exact isAnswer_of_not_fails hnone hvalue

/-- A text that is too large, is no JSON, and comes with a class name that is not accepted. -/
example (files : Snapshot) :
    files.convert { Settings.standard with className := "", memoryLimit := 2 } (.text "[[[") =
      .error (.ofKind (.jsonTooLarge 3 2)) := by
  rfl

/-- **A conversion answers as it has to**, whatever the files are, and leaves a world as it is. -/
theorem convertInput_isAnswer (settings : Settings) (input : Input) :
    (∀ files : Snapshot, IsAnswer settings files input
      ((convertInput settings input : ReaderM Snapshot (Except Failure Conversion)).run files)) ∧
    ∀ world : World, ∃ answer,
      (convertInput settings input : StateM World (Except Failure Conversion)).run world =
        (answer, world) ∧
      IsAnswer settings world.snapshot input answer := by
  refine ⟨fun files => Snapshot.convert_isAnswer settings files input, fun world => ?_⟩
  exact ⟨world.snapshot.convert settings input, convertInput_world settings input world,
    Snapshot.convert_isAnswer settings world.snapshot input⟩

end ObjectInitializer
