/-
**A model of a file system.**

Directories and files in one tree, without links or permissions, and a working directory.  Paths
are followed name by name: each name is looked up in a directory, a path that ends with a slash
leads to a directory, and neither names nor paths may be too long.

Main definitions:

* `Disk`, `Disk.node?`, `Disk.put` — the nodes of the tree by their places;
* `Disk.resolve` — the place that a path leads to;
* `Disk.makeDirectory`, `Disk.write` — the two changes;
* `World` — a disk and what stands ready on standard input, with its access to files and a clock
  that stands still.
-/

import ObjectInitializer.Clock
import ObjectInitializer.Storage

set_option relaxedAutoImplicit false
set_option autoImplicit false

namespace ObjectInitializer

/-! ### Nodes -/

/-- What stands at a place of a file system. -/
inductive Node where
  | directory
  | file (content : ByteArray)

/-- A place of a file system: the names from the root. -/
abbrev Place := List String

/-- A file system and a working directory. -/
structure Disk where
  /-- The nodes other than the root, with their places. -/
  nodes : List (Place × Node)
  workingDirectory : Place

namespace Disk

/-- The node at a place. -/
def node? (disk : Disk) (place : Place) : Option Node :=
  if place = [] then some .directory else disk.nodes.lookup place

/-- Puts a node at a place. -/
def put (disk : Disk) (place : Place) (node : Node) : Disk :=
  { disk with nodes := (place, node) :: disk.nodes.filter fun entry => entry.1 ≠ place }

theorem lookup_filter_ne (nodes : List (Place × Node)) {place other : Place} (h : other ≠ place) :
    (nodes.filter fun entry => entry.1 ≠ place).lookup other = nodes.lookup other := by
  induction nodes with
  | nil => rfl
  | cons entry nodes ih =>
    obtain ⟨key, node⟩ := entry
    by_cases hk : key = place
    · have ho : (other == key) = false := by simpa [hk] using h
      rw [List.filter_cons_of_neg (by simpa using hk), List.lookup_cons, ho, ih]
    · rw [List.filter_cons_of_pos (by simpa using hk), List.lookup_cons, List.lookup_cons, ih]

/-- A node that was put at a place is the only change. -/
theorem node?_put (disk : Disk) {place : Place} (hp : place ≠ []) (node : Node) (other : Place) :
    (disk.put place node).node? other = if other = place then some node else disk.node? other := by
  by_cases ho : other = place
  · simp [node?, put, ho, hp]
  · have hb : (other == place) = false := by simpa using ho
    simp only [node?, put, List.lookup_cons, hb, ho, if_false, lookup_filter_ne disk.nodes ho]

/-! ### Following paths -/

/-- The greatest length of a name, in bytes. -/
def nameLimit : Nat := 255

/-- The length, in bytes, from which a path is too long. -/
def pathLimit : Nat := 4096

/-- Refuses a path that no call accepts. -/
def checkPath (p : Path) : Except OsError Unit :=
  if p.toList.any (· == Char.ofNat 0) then .error .nulInName
  else if p = "" then .error .noSuchFile
  else if pathLimit ≤ p.utf8ByteSize then .error .nameTooLong
  else .ok ()

/-- Refuses a place at which there is no directory. -/
def checkDirectory (disk : Disk) (place : Place) : Except OsError Unit :=
  match disk.node? place with
  | some .directory => .ok ()
  | some (.file _) => .error .notDirectory
  | none => .error .noSuchFile

/-- Goes from a place to the one that a name leads to. -/
def follow (disk : Disk) (place : Place) (name : String) : Except OsError Place := do
  disk.checkDirectory place
  if name = "." then return place
  else if name = ".." then return place.dropLast
  else if nameLimit < name.utf8ByteSize then .error .nameTooLong
  else
    match disk.node? (place ++ [name]) with
    | some _ => return place ++ [name]
    | none => .error .noSuchFile

/-- Where a path starts. -/
def start (disk : Disk) (p : Path) : Place :=
  if p.isAbsolute then [] else disk.workingDirectory

/-- The place that a path leads to. -/
def resolve (disk : Disk) (p : Path) : Except OsError Place := do
  checkPath p
  let place ← p.names.foldlM disk.follow (disk.start p)
  if p.endsWithSlash then disk.checkDirectory place
  return place

/-- The node that a path leads to. -/
def find (disk : Disk) (p : Path) : Except OsError Node := do
  match disk.node? (← disk.resolve p) with
  | some node => return node
  | none => .error .noSuchFile

/-- The size that a directory is reported with, in bytes. -/
def directorySize : Nat := 4096

/-! ### Reading -/

/-- Whether a path leads to a file. -/
def isFile (disk : Disk) (p : Path) : Bool :=
  match disk.find p with
  | .ok (.file _) => true
  | _ => false

/-- Whether a path leads to a directory. -/
def isDirectory (disk : Disk) (p : Path) : Bool :=
  match disk.find p with
  | .ok .directory => true
  | _ => false

/-- The size of what a path leads to, in bytes. -/
def size? (disk : Disk) (p : Path) : Option Nat :=
  match disk.find p with
  | .ok (.file content) => some content.size
  | .ok .directory => some directorySize
  | .error _ => none

/-- The bytes of the file that a path leads to. -/
def read (disk : Disk) (p : Path) : Except OsError ByteArray := do
  match ← disk.find p with
  | .file content => return content
  | .directory => .error .isDirectory

/-! ### Writing -/

/-- The place of the directory in which the last name of a path stands, and that name; a path
without names has none. -/
def target? (disk : Disk) (p : Path) : Except OsError (Option (Place × String)) := do
  checkPath p
  match p.names.getLast? with
  | none => return none
  | some name =>
    let place ← p.names.dropLast.foldlM disk.follow (disk.start p)
    disk.checkDirectory place
    if nameLimit < name.utf8ByteSize then .error .nameTooLong
    else return some (place, name)

/-- Makes the directory that a path names. -/
def makeDirectory (disk : Disk) (p : Path) : Except OsError Disk := do
  match ← disk.target? p with
  | none => .error .fileExists
  | some (place, name) =>
    if name = "." || name = ".." then .error .fileExists
    else
      match disk.node? (place ++ [name]) with
      | some _ => .error .fileExists
      | none => return disk.put (place ++ [name]) .directory

/-- Writes the file that a path names. -/
def write (disk : Disk) (p : Path) (content : ByteArray) : Except OsError Disk := do
  match ← disk.target? p with
  | none => .error .isDirectory
  | some (place, name) =>
    if name = "." || name = ".." || p.endsWithSlash then .error .isDirectory
    else
      match disk.node? (place ++ [name]) with
      | some .directory => .error .isDirectory
      | _ => return disk.put (place ++ [name]) (.file content)

end Disk

/-! ### The world of a run -/

/-- A file system, and the bytes on standard input. -/
structure World where
  disk : Disk
  standardInput : ByteArray

namespace World

/-- Carries out a change of the disk, if it succeeds. -/
def change (act : Disk → Except OsError Disk) : StateM World (Except OsError Unit) := do
  let world ← get
  match act world.disk with
  | .ok disk =>
    set { world with disk }
    return .ok ()
  | .error error => return .error error

instance : Storage (StateM World) where
  isFile p := return (← get).disk.isFile p
  isDirectory p := return (← get).disk.isDirectory p
  size? p := return (← get).disk.size? p
  read p := return (← get).disk.read p
  write p text := change fun disk => disk.write p text.toUTF8
  makeDirectory p := change fun disk => disk.makeDirectory p
  readStandardInput := return .ok (← get).standardInput

instance : Clock (StateM World) := .taking 0

end World

end ObjectInitializer
