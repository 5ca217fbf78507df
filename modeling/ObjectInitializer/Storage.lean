/-
**Access to files.**

The operations on files that a conversion needs, whatever carries them out: the file system of a
machine, or a model of one.  A text is read from a file only if its bytes are valid UTF-8, and a
directory is made together with the directories above it that are missing.

Main definitions:

* `Storage` — the operations;
* `ReadError` — why no text could be read;
* `Storage.makeDirectories` — makes a directory and those above it.
-/

import ObjectInitializer.OsError
import ObjectInitializer.Path

set_option relaxedAutoImplicit false
set_option autoImplicit false

namespace ObjectInitializer

/-- The operations on files and on standard input. -/
class Storage (m : Type → Type) where
  /-- Whether the path leads to a file. -/
  isFile : Path → m Bool
  /-- Whether the path leads to a directory. -/
  isDirectory : Path → m Bool
  /-- The size of what the path leads to, in bytes. -/
  size? : Path → m (Option Nat)
  /-- The bytes of a file. -/
  read : Path → m (Except OsError ByteArray)
  /-- Writes a file, which is made or loses its contents. -/
  write : Path → String → m (Except OsError Unit)
  /-- Makes a directory. -/
  makeDirectory : Path → m (Except OsError Unit)
  /-- The bytes of standard input. -/
  readStandardInput : m (Except OsError ByteArray)

/-! ### Texts -/

/-- Why no text could be read. -/
inductive ReadError where
  | os (error : OsError)
  | invalidUtf8
  deriving Repr, DecidableEq

/-- The wording of a read error. -/
def ReadError.message : ReadError → String
  | .os error => error.message
  | .invalidUtf8 => "stream did not contain valid UTF-8"

/-- The text that was read, if bytes were read and they are valid UTF-8. -/
def ReadError.decode (bytes : Except OsError ByteArray) : Except ReadError String :=
  match bytes with
  | .ok bytes =>
    match String.fromUTF8? bytes with
    | some text => .ok text
    | none => .error .invalidUtf8
  | .error error => .error (.os error)

/-! ### Directories -/

namespace Storage

variable {m : Type → Type} [Monad m] [Storage m]

/-- Makes the first directory of a list of ancestors, after those above it if they are missing.  A
directory that exists already is fine. -/
def makeDirectoryBelow : List Path → m (Except OsError Unit)
  | [] => return .ok ()
  | p :: ancestors => do
    match ← makeDirectory p with
    | .ok () => return .ok ()
    | .error error =>
      if error = .noSuchFile then
        match ← makeDirectoryBelow ancestors with
        | .error error => return .error error
        | .ok () =>
          match ← makeDirectory p with
          | .ok () => return .ok ()
          | .error error => if ← isDirectory p then return .ok () else return .error error
      else if ← isDirectory p then return .ok ()
      else return .error error

/-- Makes a directory and those above it, as far as they are missing. -/
def makeDirectories (p : Path) : m (Except OsError Unit) :=
  makeDirectoryBelow p.ancestors

end Storage

end ObjectInitializer
