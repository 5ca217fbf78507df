/-
**A run touches nothing but its output file.**

A run may change files at two points only: it makes the directories above its output file, and it
writes the file.  Everything before only asks and reads.  So a run that prints, or that fails before
it has something to write, leaves the disk as it was; one that writes changes one file, and adds
directories at most.

Nothing is assumed about what is read, nor about which changes are refused, and for what reason:
a state has a disk, and all that counts is that a change which succeeds is the change of that disk,
that one which is refused changes nothing, and that the other operations change nothing either.
The disk itself is a tree without links (`Disk`).

Main definitions:

* `OnDisk` — **states with a disk**;
* `Moves` — what a computation does to the disk, as a relation;
* `Path.Above` — the directory of a file, and those above it;
* `Disk.Delivers` — one file is written, and nothing but directories above it is new.

Main results:

* `moves_answer`, `moves_makeDirectoryBelow` — a conversion leaves the disk as it is, and making a
  directory makes it grow;
* `written_writeOutput` — how the writing of the output file may end;
* `runIn_cases` — the three things that a run can do;
* `run_touches_output_only` — **what a run does to the disk**.
-/

import ObjectInitializer.Proofs.Disk
import ObjectInitializer.Proofs.Flags
import ObjectInitializer.Proofs.InputSize

set_option relaxedAutoImplicit false
set_option autoImplicit false

namespace ObjectInitializer

/-! ### States with a disk -/

/-- What a change of a disk may have done: if it succeeded, the change, and nothing otherwise. -/
def Disk.Changed (act : Disk → Except OsError Disk) (result : Except OsError Unit)
    (before after : Disk) : Prop :=
  match result with
  | .ok () => act before = .ok after
  | .error _ => after = before

/-- **States with a disk**, which is a tree without links.  Only the two changes change it, and only
if they succeed. -/
class OnDisk (σ : Type) [Storage (StateM σ)] where
  disk : σ → Disk
  isFile : ∀ (p : Path) (s : σ), disk s = disk ((Storage.isFile p : StateM σ Bool).run s).2
  isDirectory : ∀ (p : Path) (s : σ),
    disk s = disk ((Storage.isDirectory p : StateM σ Bool).run s).2
  size? : ∀ (p : Path) (s : σ), disk s = disk ((Storage.size? p : StateM σ (Option Nat)).run s).2
  read : ∀ (p : Path) (s : σ),
    disk s = disk ((Storage.read p : StateM σ (Except OsError ByteArray)).run s).2
  readStandardInput : ∀ s : σ,
    disk s = disk ((Storage.readStandardInput : StateM σ (Except OsError ByteArray)).run s).2
  makeDirectory : ∀ (p : Path) (s : σ),
    let r := (Storage.makeDirectory p : StateM σ (Except OsError Unit)).run s
    Disk.Changed (·.makeDirectory p) r.1 (disk s) (disk r.2)
  write : ∀ (p : Path) (text : String) (s : σ),
    let r := (Storage.write p text : StateM σ (Except OsError Unit)).run s
    Disk.Changed (·.write p text.toUTF8) r.1 (disk s) (disk r.2)

theorem World.run_change (act : Disk → Except OsError Disk) (world : World) :
    (World.change act).run world =
      match act world.disk with
      | .ok disk => (.ok (), { world with disk })
      | .error error => (.error error, world) := by
  rw [change, StateT.run_bind]
  show StateT.run (match act world.disk with | .ok _ => _ | .error _ => _) world = _
  cases act world.disk <;> rfl

theorem World.changed_change (act : Disk → Except OsError Disk) (world : World) :
    let r := (World.change act).run world
    Disk.Changed act r.1 world.disk r.2.disk := by
  rw [World.run_change]
  cases hact : act world.disk with
  | error error => rfl
  | ok disk => exact hact

/-- A world is a state with a disk. -/
instance : OnDisk World where
  disk := World.disk
  isFile _ _ := rfl
  isDirectory _ _ := rfl
  size? _ _ := rfl
  read _ _ := rfl
  readStandardInput _ := rfl
  makeDirectory _ world := World.changed_change _ world
  write _ _ world := World.changed_change _ world

/-! ### The way to a file -/

/-- The path is that of the directory of the file, or of one above: its text starts the text of the
directory. -/
def Path.Above (file p : Path) : Prop :=
  ∃ directory, file.parent? = some directory ∧ p ∈ directory.ancestors ∧
    p.toList <+: directory.toList

section Above

variable {σ : Type} [Storage (StateM σ)]

/-- Makes the directory of a file and those above it. -/
def makeAbove (file : Path) : StateM σ (Except OsError Unit) :=
  match file.parent? with
  | some directory => Storage.makeDirectories directory
  | none => return .ok ()

/-- Directories are made only if the file has some above it. -/
theorem exists_parent_of_makeAbove {file : Path} {s : σ} {error : OsError}
    (h : ((makeAbove file : StateM σ (Except OsError Unit)).run s).1 = .error error) :
    ∃ directory, file.parent? = some directory := by
  rw [makeAbove] at h
  cases hparent : file.parent? with
  | none =>
      rw [hparent] at h
      cases h
  | some directory => exact ⟨directory, rfl⟩

/-- The file is written once the directories above it have been made. -/
theorem writeOutput_eq (file : Path) (content : String) :
    (writeOutput file content : StateM σ (Except Failure Unit)) = do
      match ← makeAbove file with
      | .error error => return .error (.ofOsError error file.parent?)
      | .ok () =>
        match ← Storage.write file content with
        | .error error => return .error (.ofOsError error (some file))
        | .ok () => return .ok () := by
  rw [writeOutput, makeAbove]
  cases file.parent? <;> rfl

end Above

/-! ### What a computation does to the disk -/

section Moves

variable {σ : Type} [Storage (StateM σ)] [OnDisk σ] {α β : Type} {R : Disk → Disk → Prop}

open OnDisk (disk)

/-- Whatever state the computation starts in, the disk before it and the disk after it are
related. -/
def Moves (R : Disk → Disk → Prop) (x : StateM σ α) : Prop :=
  ∀ s, R (disk s) (disk (x.run s).2)

/-- Relations that allow for nothing to happen, and for one thing after the other. -/
class Steps (R : Disk → Disk → Prop) : Prop where
  refl : ∀ disk, R disk disk
  trans : ∀ {disk disk' disk''}, R disk disk' → R disk' disk'' → R disk disk''

instance : Steps Eq where
  refl _ := rfl
  trans h h' := h.trans h'

instance (named : Path → Prop) : Steps (Disk.Grows named) where
  refl := .refl
  trans := .trans

theorem moves_pure [Steps R] (a : α) : Moves R (pure a : StateM σ α) :=
  fun s => Steps.refl (disk s)

theorem Moves.bind [Steps R] {x : StateM σ α} {f : α → StateM σ β} (hx : Moves R x)
    (hf : ∀ a, Moves R (f a)) : Moves R (x >>= f) := by
  intro s
  rw [run_bind]
  exact Steps.trans (hx s) (hf _ _)

/-- To leave the disk as it is, is a step of any kind. -/
theorem Moves.of_eq [Steps R] {x : StateM σ α} (hx : Moves Eq x) : Moves R x := by
  intro s
  rw [← hx s]
  exact Steps.refl (disk s)

/-! ### Asking and reading -/

theorem moves_input (arguments : Arguments) :
    Moves Eq (arguments.input : StateM σ (Except Failure Input)) := by
  rw [Arguments.input]
  split
  · exact moves_pure _
  split
  · exact moves_pure _
  split
  · exact moves_pure _
  refine Moves.bind (OnDisk.isFile _) fun there => ?_
  split
  · exact moves_pure _
  · exact moves_pure _

theorem moves_missing? (input : Input) : Moves Eq (input.missing? : StateM σ (Option Path)) := by
  cases input with
  | text content => exact moves_pure _
  | standardInput => exact moves_pure _
  | file path => exact Moves.bind (OnDisk.isFile path) fun there => moves_pure _

theorem moves_size? (input : Input) : Moves Eq (input.size? : StateM σ (Option Nat)) := by
  cases input with
  | text content => exact moves_pure _
  | standardInput => exact moves_pure _
  | file path => exact OnDisk.size? path

theorem moves_parse (input : Input) :
    Moves Eq (input.parse : StateM σ (Except Json.ParseError Json)) := by
  cases input with
  | text content => exact moves_pure _
  | standardInput =>
      exact Moves.bind OnDisk.readStandardInput fun bytes => moves_pure _
  | file path => exact Moves.bind (OnDisk.read path) fun bytes => moves_pure _

theorem moves_load (input : Input) (settings : Settings) :
    Moves Eq (input.load settings : StateM σ (Except Failure Json)) := by
  rw [Input.load]
  refine (moves_missing? input).bind fun missing => ?_
  split
  · exact moves_pure _
  refine (moves_size? input).bind fun size => ?_
  split
  · exact moves_pure _
  exact (moves_parse input).bind fun parsed => moves_pure _

/-- **A conversion leaves the disk as it is.** -/
theorem moves_answer (arguments : Arguments) (settings : Settings) (milliseconds : Nat) :
    Moves Eq
      (arguments.answer settings milliseconds : StateM σ (Except Failure Conversion)) := by
  rw [Arguments.answer, Arguments.load, bind_assoc]
  refine (moves_input arguments).bind fun input => ?_
  cases input with
  | error failure => exact moves_pure _
  | ok input =>
      refine (moves_load input settings).bind fun loaded => ?_
      cases loaded with
      | error failure => exact moves_pure _
      | ok v => exact moves_pure _

/-! ### Making directories -/

variable {named : Path → Prop}

theorem moves_makeDirectory {p : Path} (hp : named p) :
    Moves (Disk.Grows named) (Storage.makeDirectory p : StateM σ (Except OsError Unit)) := by
  intro s
  have hchanged := OnDisk.makeDirectory p s
  generalize (Storage.makeDirectory p : StateM σ (Except OsError Unit)).run s = r at hchanged ⊢
  obtain ⟨result, after⟩ := r
  cases result with
  | ok _ => exact Disk.grows_of_makeDirectory hp hchanged
  | error error =>
      rw [show disk after = disk s from hchanged]
      exact .refl _

/-- To ask whether a directory is there after all changes nothing. -/
theorem moves_unlessDirectory [Steps R] (p : Path) (error : OsError) :
    Moves R (do if ← Storage.isDirectory p then return .ok () else return .error error :
      StateM σ (Except OsError Unit)) := by
  refine Moves.of_eq (Moves.bind (OnDisk.isDirectory p) fun there => ?_)
  split
  · exact moves_pure _
  · exact moves_pure _

/-- **A directory is made together with those above it**, whether or not that succeeds. -/
theorem moves_makeDirectoryBelow {paths : List Path} (hpaths : ∀ p ∈ paths, named p) :
    Moves (Disk.Grows named)
      (Storage.makeDirectoryBelow paths : StateM σ (Except OsError Unit)) := by
  induction paths with
  | nil => exact moves_pure _
  | cons p ancestors ih =>
      obtain ⟨hp, hancestors⟩ := List.forall_mem_cons.1 hpaths
      rw [Storage.makeDirectoryBelow]
      refine (moves_makeDirectory hp).bind fun made => ?_
      cases made with
      | ok _ => exact moves_pure _
      | error error =>
          dsimp only
          split
          · -- those above are made first, and then the directory is tried again
            refine (ih hancestors).bind fun above => ?_
            cases above with
            | error error => exact moves_pure _
            | ok _ =>
                refine (moves_makeDirectory hp).bind fun again => ?_
                cases again with
                | ok _ => exact moves_pure _
                | error error => exact moves_unlessDirectory p error
          · exact moves_unlessDirectory p error

/-! ### Writing the output file -/

theorem moves_makeAbove (file : Path) :
    Moves (Disk.Grows file.Above) (makeAbove file : StateM σ (Except OsError Unit)) := by
  rw [makeAbove]
  cases hparent : file.parent? with
  | none => exact moves_pure _
  | some directory =>
      exact moves_makeDirectoryBelow fun p hp =>
        ⟨directory, hparent, hp, Path.isPrefix_of_mem_ancestors hp⟩

/-- How the writing of a file may end: with the file, or with a failure that names the file or its
directory. -/
def Disk.Written (file : Path) (content : String) (before : Disk) (result : Except Failure Unit)
    (after : Disk) : Prop :=
  match result with
  | .ok () => before.Delivers file.Above file content.toUTF8 after
  | .error failure =>
    before.Grows file.Above after ∧
      ∃ error path, failure = .ofOsError error (some path) ∧
        (path = file ∨ file.parent? = some path)

/-- **The output file is written**, after the directories above it have been made.  If that fails,
no more than directories may have been made. -/
theorem written_writeOutput (file : Path) (content : String) (s : σ) :
    let r := (writeOutput file content : StateM σ (Except Failure Unit)).run s
    Disk.Written file content (disk s) r.1 (disk r.2) := by
  have hgrows := moves_makeAbove file s
  have hparent (error : OsError) := @exists_parent_of_makeAbove _ _ file s error
  rw [writeOutput_eq, run_bind]
  generalize (makeAbove file : StateM σ (Except OsError Unit)).run s = made at hgrows hparent ⊢
  obtain ⟨result, s₁⟩ := made
  cases result with
  | error error =>
      obtain ⟨directory, hdirectory⟩ := hparent error rfl
      refine ⟨hgrows, error, directory, ?_, Or.inr hdirectory⟩
      rw [hdirectory]
  | ok _ =>
      dsimp only
      rw [run_bind]
      have hwrite := OnDisk.write file content s₁
      generalize (Storage.write file content : StateM σ (Except OsError Unit)).run s₁ = written
        at hwrite ⊢
      obtain ⟨result, s₂⟩ := written
      cases result with
      | error error =>
          have hsame : disk s₂ = disk s₁ := hwrite
          refine ⟨?_, error, file, rfl, Or.inl rfl⟩
          show Disk.Grows file.Above (disk s) (disk s₂)
          rw [hsame]
          exact hgrows
      | ok _ => exact hgrows.delivers hwrite

/-! ### Runs -/

/-- The conversion of the document that the arguments ask for, in a state and in the given time. -/
def Arguments.answerIn (arguments : Arguments) (settings : Settings) (time : Nat) (s : σ) :
    Except Failure Conversion :=
  ((arguments.answer settings (Clock.milliseconds time) :
    StateM σ (Except Failure Conversion)).run s).1

/-- **What a run can do**: fail before it has a statement, print it, or write it. -/
theorem runIn_cases (arguments : Arguments) (settings : Settings) (time : Nat) (s : σ) :
    let result := (arguments.runIn settings time s).1.result
    let after := disk (arguments.runIn settings time s).2
    (∃ failure, arguments.answerIn settings time s = .error failure ∧ result = .error failure ∧
      after = disk s) ∨
    ∃ conversion, arguments.answerIn settings time s = .ok conversion ∧
      (arguments.print = true ∧ result = .ok conversion ∧ after = disk s ∨
        arguments.print = false ∧ ∃ written : Except Failure Unit,
          result = written.map (fun _ => conversion) ∧
            Disk.Written arguments.outputPath conversion.content (disk s) written after) := by
  have hanswer := moves_answer arguments settings (Clock.milliseconds time) s
  dsimp only
  rw [Arguments.runIn_eq, Arguments.run_work, Arguments.answerIn]
  dsimp only
  generalize (arguments.answer settings (Clock.milliseconds time) :
    StateM σ (Except Failure Conversion)).run s = answer at hanswer ⊢
  obtain ⟨answer, s₁⟩ := answer
  have hsame : disk s₁ = disk s := hanswer.symm
  cases answer with
  | error failure => exact Or.inl ⟨failure, rfl, rfl, hsame⟩
  | ok conversion =>
      refine Or.inr ⟨conversion, rfl, ?_⟩
      cases hprint : arguments.print with
      | true => exact Or.inl ⟨rfl, rfl, hsame⟩
      | false =>
          have hwritten := written_writeOutput arguments.outputPath conversion.content s₁
          rw [hsame] at hwritten
          refine Or.inr ⟨rfl, _, ?_, hwritten⟩
          dsimp only
          generalize (writeOutput arguments.outputPath conversion.content :
            StateM σ (Except Failure Unit)).run s₁ = written
          obtain ⟨result, s₂⟩ := written
          cases result <;> rfl

/-- **A run touches nothing but its output file**, whatever state with a disk it is carried out in
and however long its conversion takes.  The disks meant are those of `OnDisk` and `Disk`: trees of
directories and files without links, in which nobody else makes changes.

* A run that prints, and one that fails before it has a statement, leaves the disk as it is.
* A run that writes its statement has put it into the output file, and nothing else has changed but
  for directories above it that were missing.
* A run that fails to write its statement says so of the output file or of its directory; no file
  has come, gone or changed, and nothing but directories above it is new. -/
theorem run_touches_output_only (arguments : Arguments) (settings : Settings) (time : Nat)
    (s : σ) :
    let result := (arguments.runIn settings time s).1.result
    let after := disk (arguments.runIn settings time s).2
    (arguments.print = true → after = disk s) ∧
    (∀ failure, arguments.answerIn settings time s = .error failure →
      result = .error failure ∧ after = disk s) ∧
    (∀ conversion, arguments.print = false → result = .ok conversion →
      arguments.answerIn settings time s = .ok conversion ∧
        (disk s).Delivers arguments.outputPath.Above arguments.outputPath
          conversion.content.toUTF8 after) ∧
    (∀ conversion failure, arguments.answerIn settings time s = .ok conversion →
      result = .error failure →
        (∃ text path sources, failure = .conversion (.io text (some path)) sources ∧
          (path = arguments.outputPath ∨ arguments.outputPath.parent? = some path)) ∧
        (∀ place content, after.node? place = some (.file content) ↔
          (disk s).node? place = some (.file content)) ∧
        (disk s).Grows arguments.outputPath.Above after) := by
  have hcases := runIn_cases arguments settings time s
  generalize (arguments.runIn settings time s).1.result = result at hcases ⊢
  generalize disk (arguments.runIn settings time s).2 = after at hcases ⊢
  obtain ⟨failure, hanswer, rfl, rfl⟩ | ⟨conversion, hanswer, hdone⟩ := hcases
  · refine ⟨fun _ => rfl, ?_, ?_, ?_⟩
    · intro _ h
      cases hanswer.symm.trans h
      exact ⟨rfl, rfl⟩
    · intro _ _ h
      cases h
    · intro _ _ h
      cases hanswer.symm.trans h
  obtain ⟨hprint, rfl, rfl⟩ | ⟨hprint, written, rfl, hwritten⟩ := hdone
  · refine ⟨fun _ => rfl, ?_, ?_, ?_⟩
    · intro _ h
      cases hanswer.symm.trans h
    · intro _ h
      cases hprint.symm.trans h
    · intro _ _ _ h
      cases h
  · refine ⟨fun h => absurd (hprint.symm.trans h) Bool.false_ne_true, ?_, ?_, ?_⟩
    · intro _ h
      cases hanswer.symm.trans h
    · intro _ _ h
      cases written with
      | error failure => cases h
      | ok _ =>
          cases h
          exact ⟨hanswer, hwritten⟩
    · intro _ _ _ h
      cases written with
      | error failure =>
          cases h
          obtain ⟨hgrows, error, path, rfl, hpath⟩ := hwritten
          exact ⟨⟨_, path, _, rfl, hpath⟩, fun place content => hgrows.file_iff, hgrows⟩
      | ok _ => cases h

end Moves

/-- A number on standard input, for an output directory that is missing together with the one
above it. -/
theorem run_touches_output_only_missing_directories :
    let arguments :=
      { Arguments.standard with fromStandardInput := true, outputDirectory := some "a/b" }
    let world : World := ⟨⟨[(["c.json"], .file "2".toUTF8)], []⟩, "1".toUTF8⟩
    let time := 5000000
    let conversion := Conversion.ofValue .standard (.number "1") (Clock.milliseconds time)
    (arguments.runIn .standard time world).1.result = .ok conversion ∧
      world.disk.Delivers (Path.Above "a/b/GeneratedInitialization.cs")
        "a/b/GeneratedInitialization.cs" conversion.content.toUTF8
        (arguments.runIn .standard time world).2.disk := by
  intro arguments world time conversion
  have hparse : Json.parse "1" = .ok (.number "1") :=
    Json.parse_eq_ok_iff.2 (.number (Json.isNumeral_singleton rfl))
  have hload : (arguments.load .standard : StateM World (Except Failure Json)).run world =
      (.ok (.number "1"), world) := by
    show (Input.standardInput.load .standard : StateM World (Except Failure Json)).run world = _
    have hread : world.snapshot.parse .standardInput = .ok (.number "1") := by
      show Input.parseRead "stdin" (ReadError.decode (.ok "1".toUTF8)) = _
      rw [ReadError.decode, fromUTF8?_toUTF8, Input.parseRead, hparse]
    rw [World.run_load, Snapshot.load, hread]
    rfl
  have hanswer : (arguments.answer .standard (Clock.milliseconds time) :
      StateM World (Except Failure Conversion)).run world = (.ok conversion, world) := by
    rw [Arguments.answer, run_bind, hload]
    exact congrArg (·, world)
      (convert_number_one ((Settings.validate_eq_ok_iff _).2 Settings.flaw?_standard) _)
  have hancestors : Path.ancestors "a/b" = ["a/b", "a"] := by
    rw [Path.ancestors_of_parent? (q := "a") (by decide) (by decide),
      Path.ancestors_of_parent? (q := "") (by decide) (by decide), Path.ancestors]
    rfl
  have hpath : arguments.outputPath = "a/b/GeneratedInitialization.cs" := by decide
  have hwrite (content : String) :
      ((writeOutput "a/b/GeneratedInitialization.cs" content :
        StateM World (Except Failure Unit)).run world).1 = .ok () := by
    have hparent : Path.parent? "a/b/GeneratedInitialization.cs" = some "a/b" := by decide
    rw [writeOutput_eq, makeAbove, hparent]
    simp only [Storage.makeDirectories, hancestors]
    rfl
  have hresult : (arguments.runIn .standard time world).1.result = .ok conversion := by
    rw [Arguments.runIn_eq, Arguments.run_work, hanswer]
    dsimp only
    rw [if_neg (by decide)]
    simp only [Arguments.tell, hpath, hwrite]
  have hdelivers :=
    ((run_touches_output_only arguments .standard time world).2.2.1 conversion rfl hresult).2
  rw [hpath] at hdelivers
  exact ⟨hresult, hdelivers⟩

end ObjectInitializer
