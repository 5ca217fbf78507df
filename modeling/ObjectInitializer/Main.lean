/-
**The program.**

The outer layer: files and clock are those of the machine, and the report of a session goes to the
output streams and the exit code.

Main definitions:

* `Machine.osError` — an error of the machine as one of the library;
* `main` — the program.
-/

import ObjectInitializer.CommandLine.Session

set_option relaxedAutoImplicit false
set_option autoImplicit false

namespace ObjectInitializer.Machine

/-- The number of the error that an operation of the machine ended with. -/
def osError : IO.Error → OsError
  | .alreadyExists _ code _ => .code code.toNat
  | .otherError code _ => .code code.toNat
  | .resourceBusy code _ => .code code.toNat
  | .resourceVanished code _ => .code code.toNat
  | .unsupportedOperation code _ => .code code.toNat
  | .hardwareFault code _ => .code code.toNat
  | .unsatisfiedConstraints code _ => .code code.toNat
  | .illegalOperation code _ => .code code.toNat
  | .protocolError code _ => .code code.toNat
  | .timeExpired code _ => .code code.toNat
  | .interrupted _ code _ => .code code.toNat
  | .noFileOrDirectory _ code _ => .code code.toNat
  | .invalidArgument _ code _ => .code code.toNat
  | .permissionDenied _ code _ => .code code.toNat
  | .resourceExhausted _ code _ => .code code.toNat
  | .inappropriateType _ code _ => .code code.toNat
  | .noSuchThing _ code _ => .code code.toNat
  | .unexpectedEof => .code 5
  | .userError _ => .code 5

/-- Carries out an operation, and catches the error that it may end with. -/
def attempt {α : Type} (act : IO α) : IO (Except OsError α) := do
  match ← act.toBaseIO with
  | .ok a => return .ok a
  | .error error => return .error (osError error)

/-- What the machine knows of the file or directory at a path. -/
def metadata? (path : Path) : IO (Option IO.FS.Metadata) := do
  let entry : IO.FS.DirEntry := { root := path, fileName := "" }
  match ← entry.root.metadata.toBaseIO with
  | .ok metadata => return some metadata
  | .error _ => return none

/-- The bytes of standard input. -/
def readStandardInput : IO ByteArray := do
  let stream ← IO.getStdin
  let mut bytes := ByteArray.empty
  repeat
    let chunk ← stream.read 65536
    if chunk.isEmpty then break
    bytes := bytes ++ chunk
  return bytes

instance : Storage IO where
  isFile path := return (← metadata? path).any fun metadata => metadata.type == .file
  isDirectory path := return (← metadata? path).any fun metadata => metadata.type == .dir
  size? path := return (← metadata? path).map fun metadata => metadata.byteSize.toNat
  read path := attempt (IO.FS.readBinFile path)
  write path text := attempt (IO.FS.writeFile path text)
  makeDirectory path := attempt (IO.FS.createDir path)
  readStandardInput := attempt readStandardInput

instance : Clock IO where
  now := IO.monoNanosNow
  since reading := return (← IO.monoNanosNow) - reading

end ObjectInitializer.Machine

/-- Carries out a session with the files of the machine. -/
def main (words : List String) : IO UInt32 := do
  let report ← ObjectInitializer.session words
  IO.print report.out
  IO.eprint report.err
  return report.code.toUInt32
