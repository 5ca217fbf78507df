/-
**What the memory limit bounds.**

The limit is applied twice.  The size of a document is checked before it is read, if it is known by
then, and the size of the compact form is checked after parsing.  The compact form is no longer
than the text, so that the second check never refuses what the first one has let pass.

Of standard input the size is not known before reading, and it is not checked later either.  Only
the second check is left, which sees nothing of the blanks between the parts of a document: however
small the limit, some bytes are accepted on standard input that are refused in a file.

Main definitions:

* `Snapshot.TellsSize` — the size that is known of a document is that of what is read.

Main results:

* `World.tellsSize` — in a world it is, unless the document is on standard input;
* `size_limits_agree` — **a document that is not too large has no compact form that is too large**;
* `accepted_size` — what is accepted is bounded by the limit, if the size was known before reading;
* `standardInput_accepts_refused` — **standard input accepts what a file is refused for**.
-/

import ObjectInitializer.Proofs.FirstFailure
import ObjectInitializer.Proofs.Json.Compact

set_option relaxedAutoImplicit false
set_option autoImplicit false

namespace ObjectInitializer

/-! ### Texts and bytes -/

theorem size_of_fromUTF8? {bytes : ByteArray} {text : String}
    (h : String.fromUTF8? bytes = some text) : text.utf8ByteSize = bytes.size := by
  rw [String.fromUTF8?] at h
  split at h
  · cases h
    rfl
  · cases h

theorem fromUTF8?_toUTF8 (text : String) : String.fromUTF8? text.toUTF8 = some text := by
  rw [String.fromUTF8?, String.toUTF8_eq_toByteArray, dif_pos text.isValidUTF8]
  rfl

/-! ### Sizes that are known -/

/-- **The size that is known of a document is that of what is read.** -/
def Snapshot.TellsSize (files : Snapshot) (input : Input) : Prop :=
  ∀ content, files.Reads input content → files.knownSize? input = some content.utf8ByteSize

theorem Snapshot.tellsSize_text (files : Snapshot) (text : String) :
    files.TellsSize (.text text) := by
  intro content hreads
  cases hreads with
  | text => rfl
  | bytes hread _ => cases hread

theorem Snapshot.tellsSize_file {files : Snapshot} {path : Path}
    (h : ∀ bytes, files.read path = .ok bytes → files.size? path = some bytes.size) :
    files.TellsSize (.file path) := by
  intro content hreads
  cases hreads with
  | @bytes _ _ _ bytes hread hutf8 =>
      have hbytes : files.read path = .ok bytes := congrArg Prod.snd (Option.some.inj hread)
      rw [size_of_fromUTF8? hutf8]
      exact h bytes hbytes

theorem Disk.size?_of_read {disk : Disk} {path : Path} {bytes : ByteArray}
    (h : disk.read path = .ok bytes) : disk.size? path = some bytes.size := by
  obtain ⟨node, hfind, h⟩ := Except.bind_eq_ok_iff.1 h
  cases node with
  | directory => cases h
  | file content =>
      cases h
      rw [Disk.size?, hfind]

/-- **In a world, the size that is known of a text or file is that of what is read.** -/
theorem World.tellsSize (world : World) {input : Input} (h : input ≠ .standardInput) :
    world.snapshot.TellsSize input := by
  cases input with
  | text content => exact Snapshot.tellsSize_text _ content
  | file path => exact Snapshot.tellsSize_file fun _ => Disk.size?_of_read
  | standardInput => exact absurd rfl h

/-! ### The two limits on the size -/

variable {settings : Settings} {files : Snapshot} {input : Input}

/-- The value of a document has no compact form that is longer than the document. -/
theorem Snapshot.Denotes.exists_compactSize_le {v : Json} (h : files.Denotes input v) :
    ∃ content, files.Reads input content ∧ v.compactSize ≤ content.utf8ByteSize := by
  have hparse := h.parse
  obtain ⟨hreads, -, -⟩ := h
  exact ⟨_, hreads, Json.compactSize_le_of_parse (hreads.parse.symm.trans hparse)⟩

/-- A compact form that is too large is that of a document that is too large. -/
theorem Fails.knownSize_of_compactSize (htells : files.TellsSize input) {failure : Failure}
    (h : Fails settings files input .compactSize failure) :
    ∃ earlier, Fails settings files input .knownSize earlier := by
  cases h with
  | tooLargeCompact hvalue hlimit =>
      obtain ⟨content, hreads, hle⟩ := hvalue.exists_compactSize_le
      exact ⟨_, .tooLarge (htells content hreads) (Nat.lt_of_lt_of_le hlimit hle)⟩

/-- The size of the compact form is nothing that a conversion fails for first. -/
theorem FirstFailure.ne_memoryLimitExceeded (htells : files.TellsSize input) {failure : Failure}
    (h : FirstFailure settings files input failure) (size limit : Nat) :
    failure ≠ .ofKind (.memoryLimitExceeded size limit) := by
  rintro rfl
  obtain ⟨check, hfails, hpassed⟩ := h
  cases hfails with
  | tooLargeCompact hvalue hlimit =>
      obtain ⟨earlier, hearlier⟩ :=
        Fails.knownSize_of_compactSize htells (.tooLargeCompact hvalue hlimit)
      exact hpassed .knownSize earlier (by decide) hearlier

/-- **A document that is not too large has no compact form that is too large.**  The compact form of
a text is no longer than the text, so that the second check of the size finds nothing that the first
has not found, and no conversion fails for it.  For any snapshot, this takes the size that is known
before reading to be that of the text which is then read (`Snapshot.TellsSize`), as it is for a
text, and for a file in a world. -/
theorem size_limits_agree :
    (∀ (text : String) (v : Json), Json.parse text = .ok v →
      v.compactSize ≤ text.utf8ByteSize) ∧
    (∀ (settings : Settings) (files : Snapshot) (input : Input) (v : Json),
      files.TellsSize input → Limits.checkSize settings (files.knownSize? input) = .ok () →
      files.parse input = .ok v → Limits.checkCompactSize settings v = .ok ()) ∧
    (∀ (settings : Settings) (files : Snapshot) (input : Input) (size limit : Nat),
      files.TellsSize input →
      files.convert settings input ≠ .error (.ofKind (.memoryLimitExceeded size limit))) ∧
    ∀ (settings : Settings) (world : World) (input : Input) (size limit : Nat),
      input ≠ .standardInput →
      ((convertInput settings input : StateM World (Except Failure Conversion)).run world).1 ≠
        .error (.ofKind (.memoryLimitExceeded size limit)) := by
  have hconvert (settings : Settings) (files : Snapshot) (input : Input) (size limit : Nat)
      (htells : files.TellsSize input) :
      files.convert settings input ≠ .error (.ofKind (.memoryLimitExceeded size limit)) := by
    intro herror
    have hfirst := ((Snapshot.convert_isAnswer settings files input).error_iff _).1 herror
    exact hfirst.ne_memoryLimitExceeded htells size limit rfl
  refine ⟨fun text v => Json.compactSize_le_of_parse, ?_, hconvert, ?_⟩
  · intro settings files input v htells hsize hparse
    cases hcompact : Limits.checkCompactSize settings v with
    | ok => rfl
    | error failure =>
        have hvalue := Snapshot.parse_eq_ok_iff.1 hparse
        obtain ⟨earlier, hearlier⟩ := Fails.knownSize_of_compactSize htells
          ((fails_compactSize_iff hvalue).2 hcompact)
        rw [fails_knownSize_iff, hsize] at hearlier
        cases hearlier
  · intro settings world input size limit hinput
    rw [convertInput_world]
    exact hconvert settings world.snapshot input size limit (world.tellsSize hinput)

/-- A world with the same text in a file and on standard input. -/
def World.ofText (text : String) : World :=
  ⟨⟨[(["a.json"], .file text.toUTF8)], []⟩, text.toUTF8⟩

theorem World.isFile_ofText (text : String) :
    (World.ofText text).snapshot.isFile "a.json" = true := rfl

theorem World.size?_ofText (text : String) :
    (World.ofText text).snapshot.size? "a.json" = some text.utf8ByteSize := rfl

theorem World.parse_ofText (text : String) :
    (World.ofText text).snapshot.parse (.file "a.json") = Json.parse text := by
  have hread : (World.ofText text).snapshot.read "a.json" = .ok text.toUTF8 := rfl
  rw [Snapshot.parse, hread, ReadError.decode, fromUTF8?_toUTF8, Input.parseRead]

/-- A file of which the compact form is less than half as long. -/
theorem size_limits_agree_repeated_key :
    let text := "\x7b\"A\":1, \"\\u0041\":-0\x7d"
    let v := Json.object [("A", .number "0")]
    let world := World.ofText text
    Json.parse text = .ok v ∧ v.compactSize ≤ text.utf8ByteSize ∧
      Input.file "a.json" ≠ .standardInput ∧
      world.snapshot.TellsSize (.file "a.json") ∧
      world.snapshot.parse (.file "a.json") = .ok v ∧
      Limits.checkSize .standard (world.snapshot.knownSize? (.file "a.json")) = .ok () ∧
      Limits.checkCompactSize .standard v = .ok () ∧
      (∀ size limit : Nat, world.snapshot.convert .standard (.file "a.json") ≠
        .error (.ofKind (.memoryLimitExceeded size limit))) ∧
      ∀ size limit : Nat,
        ((convertInput .standard (.file "a.json") :
          StateM World (Except Failure Conversion)).run world).1 ≠
          .error (.ofKind (.memoryLimitExceeded size limit)) := by
  intro text v world
  have hfile : Input.file "a.json" ≠ .standardInput := by decide
  have htells := world.tellsSize hfile
  have hparse : world.snapshot.parse (.file "a.json") = .ok v :=
    (World.parse_ofText text).trans Json.parse_repeated_key
  have hsize :
      Limits.checkSize .standard (world.snapshot.knownSize? (.file "a.json")) = .ok () := by
    have hsmall : ¬ Settings.standard.memoryLimit < text.utf8ByteSize := by decide
    rw [Snapshot.knownSize?, World.size?_ofText, Limits.checkSize, if_neg hsmall]
  obtain ⟨hcompact, hchecks, hconvert, hworld⟩ := size_limits_agree
  exact ⟨Json.parse_repeated_key, hcompact text v Json.parse_repeated_key, hfile, htells, hparse,
    hsize, hchecks .standard _ _ v htells hsize hparse,
    fun size limit => hconvert .standard _ _ size limit htells,
    fun size limit => hworld .standard world _ size limit hfile⟩

/-! ### Blanks before a number -/

/-- A number behind blanks. -/
def paddedOne (blanks : Nat) : String :=
  String.ofList (List.replicate blanks ' ' ++ ['1'])

theorem utf8ByteSize_paddedOne (blanks : Nat) :
    (paddedOne blanks).utf8ByteSize = blanks + 1 := by
  have hspace : (' ' : Char).utf8Size = 1 := by decide
  have hblanks : Text.byteSize (List.replicate blanks ' ') = blanks := by
    induction blanks with
    | zero => rfl
    | succ blanks ih =>
        rw [List.replicate_succ, Text.byteSize_cons, ih, hspace]
        omega
  rw [← Text.byteSize_toList, paddedOne, String.toList_ofList, Text.byteSize_append, hblanks]
  rfl

theorem parse_paddedOne (blanks : Nat) : Json.parse (paddedOne blanks) = .ok (.number "1") := by
  have hnumeral : Json.IsNumeral ['1'] :=
    ⟨[], ['1'], [], [], Or.inl rfl, Or.inr ⟨⟨by simp, by simp⟩, by simp⟩, Or.inl rfl, Or.inl rfl,
      rfl⟩
  have hspaces : Json.IsSpaces (List.replicate blanks ' ') := by
    intro c hc
    rw [List.eq_of_mem_replicate hc]
    rfl
  rw [Json.parse_eq_ok_iff, paddedOne, String.toList_ofList]
  exact (Json.Spells.number hnumeral).spaces_append hspaces

/-- Valid settings have a memory limit of a kilobyte or more. -/
theorem Settings.le_memoryLimit {settings : Settings} (h : settings.validate = .ok ()) :
    1024 ≤ settings.memoryLimit := by
  rw [Settings.validate_eq_ok_iff, Settings.flaw?] at h
  refine Nat.le_of_not_lt fun hsmall => ?_
  simp only [hsmall, if_true] at h
  repeat' split at h
  all_goals cases h

/-- A number is converted under all settings that are valid. -/
theorem convert_number_one {settings : Settings} (h : settings.validate = .ok ())
    (milliseconds : Nat) :
    convert settings (.number "1") milliseconds =
      .ok (.ofValue settings (.number "1") milliseconds) := by
  have hsettings : checkSettings settings = .ok () := by rw [checkSettings, h]
  have hdepth : Limits.checkDepth settings (.number "1") = .ok () := by
    rw [Limits.checkDepth, Limits.nestingDepth_eq]
    split
    · exact if_neg (Nat.not_lt_zero _)
    · rfl
  have hcompact : Limits.checkCompactSize settings (.number "1") = .ok () := by
    have hlimit := Settings.le_memoryLimit h
    have hsize : (Json.number "1").compactSize = 1 := by decide
    rw [Limits.checkCompactSize, hsize, if_neg (by omega)]
  rw [convert, checkValue, hsettings, hdepth, hcompact]
  rfl

/-! ### What is accepted -/

/-- **What is accepted is bounded by the limit**, if the size was known before reading; otherwise
only the compact form is. -/
theorem accepted_size (settings : Settings) (world : World) (input : Input)
    (conversion : Conversion)
    (h : ((convertInput settings input : StateM World (Except Failure Conversion)).run world).1 =
      .ok conversion) :
    ∃ content, world.snapshot.Reads input content ∧
      conversion.inputSize ≤ settings.memoryLimit ∧
      conversion.inputSize ≤ content.utf8ByteSize ∧
      (input ≠ .standardInput → content.utf8ByteSize ≤ settings.memoryLimit) := by
  rw [convertInput_world] at h
  have hanswer := Snapshot.convert_isAnswer settings world.snapshot input
  obtain ⟨hnone, v, hvalue, hconversion⟩ := (hanswer.ok_iff conversion).1 h
  have hsize : conversion.inputSize = v.compactSize := by rw [hconversion]
  obtain ⟨content, hreads, hle⟩ := hvalue.exists_compactSize_le
  refine ⟨content, hreads, (hanswer.accepted conversion h).2.1, by omega, fun hinput => ?_⟩
  refine Nat.le_of_not_lt fun hlimit => ?_
  exact hnone .knownSize _ (.tooLarge (world.tellsSize hinput content hreads) hlimit)

/-- Three blanks and a number in a file. -/
theorem accepted_size_padded_file :
    let world := World.ofText (paddedOne 3)
    let conversion := Conversion.ofValue .standard (.number "1") 0
    ((convertInput .standard (.file "a.json") : StateM World (Except Failure Conversion)).run
        world).1 = .ok conversion ∧
      ∃ content, world.snapshot.Reads (.file "a.json") content ∧
        conversion.inputSize ≤ Settings.standard.memoryLimit ∧
        conversion.inputSize ≤ content.utf8ByteSize ∧
        (Input.file "a.json" ≠ .standardInput →
          content.utf8ByteSize ≤ Settings.standard.memoryLimit) := by
  intro world conversion
  have hconvert : ((convertInput .standard (.file "a.json") :
      StateM World (Except Failure Conversion)).run world).1 = .ok conversion := by
    have hparse := (World.parse_ofText (paddedOne 3)).trans (parse_paddedOne 3)
    have hknown : world.snapshot.knownSize? (.file "a.json") = some 4 := by
      rw [Snapshot.knownSize?, World.size?_ofText, utf8ByteSize_paddedOne]
    rw [convertInput_world, Snapshot.convert_eq, Snapshot.load, hknown, hparse,
      Snapshot.missing?, if_pos (World.isFile_ofText _), World.milliseconds_snapshot]
    exact convert_number_one ((Settings.validate_eq_ok_iff _).2 Settings.flaw?_standard) 0
  exact ⟨hconvert, accepted_size .standard world (.file "a.json") conversion hconvert⟩

/-- **Standard input accepts what a file is refused for**: a number behind so many blanks that it is
above the limit. -/
theorem standardInput_accepts_refused {settings : Settings} (files : Snapshot) {path : Path}
    {blanks : Nat} (hvalid : settings.validate = .ok ()) (hlimit : settings.memoryLimit ≤ blanks)
    (hinput : files.standardInput = .ok (paddedOne blanks).toUTF8)
    (hfile : files.isFile path = true)
    (hsize : files.size? path = some (paddedOne blanks).utf8ByteSize) :
    files.convert settings .standardInput =
        .ok (.ofValue settings (.number "1") files.milliseconds) ∧
      files.convert settings (.file path) =
        .error (.ofKind (.jsonTooLarge (blanks + 1) settings.memoryLimit)) := by
  constructor
  · have hparse : files.parse .standardInput = .ok (.number "1") := by
      rw [Snapshot.parse, hinput, ReadError.decode, fromUTF8?_toUTF8, Input.parseRead,
        parse_paddedOne]
    rw [Snapshot.convert_eq, Snapshot.load, hparse]
    exact convert_number_one hvalid files.milliseconds
  · have hknown : files.knownSize? (.file path) = some (blanks + 1) := by
      rw [Snapshot.knownSize?, hsize, utf8ByteSize_paddedOne]
    have hlarge : settings.memoryLimit < blanks + 1 := by omega
    rw [Snapshot.convert_eq, Snapshot.load, hknown, Snapshot.missing?, if_pos hfile,
      Limits.checkSize, if_pos hlarge]
    rfl

/-- Two thousand blanks and a number, under the least limit that is valid. -/
theorem standardInput_accepts_two_thousand_blanks :
    let settings := { Settings.standard with memoryLimit := 1024 }
    let world := World.ofText (paddedOne 2000)
    settings.validate = .ok () ∧ world.standardInput.size = 2001 ∧
      ((convertInput settings .standardInput : StateM World (Except Failure Conversion)).run
        world).1 = .ok (.ofValue settings (.number "1") 0) ∧
      ((convertInput settings (.file "a.json") : StateM World (Except Failure Conversion)).run
        world).1 = .error (.ofKind (.jsonTooLarge 2001 1024)) := by
  intro settings world
  have hvalid : settings.validate = .ok () := (Settings.validate_eq_ok_iff settings).2 (by decide)
  have hlimit : settings.memoryLimit ≤ 2000 := by
    show 1024 ≤ 2000
    omega
  -- for any text, so that none of the blanks is looked at
  have hbytes (text : String) : (World.ofText text).standardInput.size = text.utf8ByteSize := rfl
  have hinput (text : String) :
      (World.ofText text).snapshot.standardInput = .ok text.toUTF8 := rfl
  have hboth := standardInput_accepts_refused world.snapshot hvalid hlimit (hinput _)
    (World.isFile_ofText _) (World.size?_ofText _)
  refine ⟨hvalid, (hbytes _).trans (utf8ByteSize_paddedOne 2000), ?_, ?_⟩
  · rw [convertInput_world, hboth.1, World.milliseconds_snapshot]
  · rw [convertInput_world]
    exact hboth.2

end ObjectInitializer
