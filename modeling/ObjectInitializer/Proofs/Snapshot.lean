/-
**What a conversion sees of the files.**

A conversion asks about files and reads them, but changes none, so that all of the file system that
matters to it is a table of answers.  A `Snapshot` is such a table, with any answers at all: files
that are there but cannot be read, or whose size is not that of their bytes.  The time that the
conversion takes is one of the answers.  The operations on files are those of `Storage`, and the
conversion is the same program as elsewhere; an operation that would change something is refused.

Main definitions:

* `Snapshot` — the answers;
* `Snapshot.load`, `Snapshot.convert` — the value of a document and its conversion in view of a
  snapshot;
* `World.snapshot` — what can be seen of a world.

Main results:

* `convertInput_world` — **a conversion in a world sees its snapshot, and leaves the world as it
  is**.
-/

import ObjectInitializer.Conversion
import ObjectInitializer.Disk

set_option relaxedAutoImplicit false
set_option autoImplicit false

namespace ObjectInitializer

/-! ### Snapshots -/

/-- The answers to what can be asked of files, of standard input and of the clock. -/
structure Snapshot where
  isFile : Path → Bool
  isDirectory : Path → Bool
  size? : Path → Option Nat
  read : Path → Except OsError ByteArray
  standardInput : Except OsError ByteArray
  /-- The time that a conversion takes, in nanoseconds. -/
  time : Nat

/-- The file system cannot be changed. -/
def OsError.readOnly : OsError := .code 30

namespace Snapshot

instance : Storage (ReaderM Snapshot) where
  isFile p := return (← MonadReader.read).isFile p
  isDirectory p := return (← MonadReader.read).isDirectory p
  size? p := return (← MonadReader.read).size? p
  read p := return (← MonadReader.read).read p
  write _ _ := return .error .readOnly
  makeDirectory _ := return .error .readOnly
  readStandardInput := return (← MonadReader.read).standardInput

instance : Clock (ReaderM Snapshot) where
  now := return 0
  since _ := return (← MonadReader.read).time

/-- The conversion of a document in view of the snapshot. -/
def convert (files : Snapshot) (settings : Settings) (input : Input) :
    Except Failure Conversion :=
  (convertInput settings input : ReaderM Snapshot (Except Failure Conversion)).run files

/-- The file that is missing, if the document should be in one and is not. -/
def missing? (files : Snapshot) : Input → Option Path
  | .file path => if files.isFile path then none else some path
  | _ => none

/-- The size of a document in bytes, if it is known before reading. -/
def knownSize? (files : Snapshot) : Input → Option Nat
  | .text content => some content.utf8ByteSize
  | .file path => files.size? path
  | .standardInput => none

/-- The outcome of parsing a document. -/
def parse (files : Snapshot) : Input → Except Json.ParseError Json
  | .text content => Json.parse content
  | .file path => Input.parseRead ("file " ++ path) (ReadError.decode (files.read path))
  | .standardInput => Input.parseRead "stdin" (ReadError.decode files.standardInput)

/-- The time that a conversion takes, in milliseconds. -/
def milliseconds (files : Snapshot) : Nat := Clock.milliseconds files.time

theorem run_missing? (files : Snapshot) (input : Input) :
    (input.missing? : ReaderM Snapshot (Option Path)).run files = files.missing? input := by
  cases input <;> rfl

theorem run_size? (files : Snapshot) (input : Input) :
    (input.size? : ReaderM Snapshot (Option Nat)).run files = files.knownSize? input := by
  cases input <;> rfl

theorem run_parse (files : Snapshot) (input : Input) :
    (input.parse : ReaderM Snapshot (Except Json.ParseError Json)).run files =
      files.parse input := by
  cases input <;> rfl

/-- The value of a document in view of the snapshot, if it is there and not too large. -/
def load (files : Snapshot) (settings : Settings) (input : Input) : Except Failure Json :=
  match files.missing? input with
  | some path => .error (.ofKind (.inputNotFound path))
  | none =>
    match Limits.checkSize settings (files.knownSize? input) with
    | .error failure => .error failure
    | .ok () => parsedValue (files.parse input)

theorem run_load (files : Snapshot) (settings : Settings) (input : Input) :
    (input.load settings : ReaderM Snapshot (Except Failure Json)).run files =
      files.load settings input := by
  -- each question is asked only if the answers before it let the conversion go on
  rw [Input.load, load, ReaderT.run_bind, run_missing?]
  cases files.missing? input with
  | some path => rfl
  | none =>
      show ReaderT.run (bind _ _) files = _
      rw [ReaderT.run_bind, run_size?]
      show ReaderT.run _ files = _
      cases Limits.checkSize settings (files.knownSize? input) with
      | error failure => rfl
      | ok =>
          show ReaderT.run (bind _ _) files = _
          rw [ReaderT.run_bind, run_parse]
          rfl

theorem run_convertTimed (files : Snapshot) (settings : Settings) (v : Json) :
    (convertTimed settings v : ReaderM Snapshot (Except Failure Conversion)).run files =
      ObjectInitializer.convert settings v files.milliseconds := by
  rw [convertTimed, ObjectInitializer.convert, ReaderT.run_bind]
  cases checkValue settings v <;> rfl

/-- A conversion loads the value of the document, and converts it in the time that it takes. -/
theorem convert_eq (files : Snapshot) (settings : Settings) (input : Input) :
    files.convert settings input =
      files.load settings input >>= fun v =>
        ObjectInitializer.convert settings v files.milliseconds := by
  rw [convert, convertInput, ReaderT.run_bind, run_load]
  cases files.load settings input with
  | error failure => rfl
  | ok v => exact run_convertTimed files settings v

end Snapshot

/-! ### Worlds -/

namespace World

/-- What can be seen of a world. -/
def snapshot (world : World) : Snapshot where
  isFile := world.disk.isFile
  isDirectory := world.disk.isDirectory
  size? := world.disk.size?
  read := world.disk.read
  standardInput := .ok world.standardInput
  time := 0

/-- In a world, conversions take no time. -/
@[simp] theorem milliseconds_snapshot (world : World) : world.snapshot.milliseconds = 0 :=
  Clock.milliseconds_zero

theorem run_missing? (world : World) (input : Input) :
    (input.missing? : StateM World (Option Path)).run world =
      (world.snapshot.missing? input, world) := by
  cases input <;> rfl

theorem run_size? (world : World) (input : Input) :
    (input.size? : StateM World (Option Nat)).run world =
      (world.snapshot.knownSize? input, world) := by
  cases input <;> rfl

theorem run_parse (world : World) (input : Input) :
    (input.parse : StateM World (Except Json.ParseError Json)).run world =
      (world.snapshot.parse input, world) := by
  cases input <;> rfl

theorem run_load (world : World) (settings : Settings) (input : Input) :
    (input.load settings : StateM World (Except Failure Json)).run world =
      (world.snapshot.load settings input, world) := by
  rw [Input.load, Snapshot.load, StateT.run_bind, run_missing?]
  cases world.snapshot.missing? input with
  | some path => rfl
  | none =>
      show StateT.run (bind _ _) world = _
      rw [StateT.run_bind, run_size?]
      show StateT.run _ world = _
      cases Limits.checkSize settings (world.snapshot.knownSize? input) with
      | error failure => rfl
      | ok =>
          show StateT.run (bind _ _) world = _
          rw [StateT.run_bind, run_parse]
          rfl

end World

/-- **A conversion in a world sees its snapshot, and leaves the world as it is.** -/
theorem convertInput_world (settings : Settings) (input : Input) (world : World) :
    (convertInput settings input : StateM World (Except Failure Conversion)).run world =
      (world.snapshot.convert settings input, world) := by
  rw [Snapshot.convert_eq, convertInput, StateT.run_bind, World.run_load]
  cases world.snapshot.load settings input with
  | error failure => rfl
  | ok v =>
      show StateT.run (convertTimed settings v) world = _
      rw [convertTimed_taking]
      rfl

end ObjectInitializer
