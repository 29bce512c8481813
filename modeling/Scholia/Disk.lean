import Scholia.Disk.Directory
import Scholia.Path
import Scholia.Text.Quoted

/-! # Files on disk

A disk holds files and directories by their resolved paths. A path is followed name by name, and
every name before the last has to be that of a directory.
-/

namespace Scholia

/-- A disk, with the paths of files that cannot be written. -/
structure Disk where
  entries : List (List String × DiskEntry) := []
  readOnly : List Path := []

namespace Disk

/-- Why a file cannot be read or written. -/
inductive Fault where
  | notFound
  | denied
  | notADirectory
  | isADirectory
  deriving Repr, DecidableEq

/-- The message of a fault at a path. -/
def Fault.message (path : Path) (fault : Fault) : String :=
  let (number, text) := match fault with
    | .notFound => (2, "No such file or directory")
    | .denied => (13, "Permission denied")
    | .notADirectory => (20, "Not a directory")
    | .isADirectory => (21, "Is a directory")
  s!"[Errno {number}] {text}: {quote path.toString}"

def entry? (disk : Disk) (place : List String) : Option DiskEntry :=
  disk.entries.lookup place

/-- There is a directory at a resolved path; the one that relative paths start from is always
    there. -/
def isDirectory (disk : Disk) (place : List String) : Bool :=
  place.isPrefixOf Path.workingDirectory.names || (disk.entry? place).any (· matches .directory)

/-- One name further from a place; two dots lead one up. -/
def step (place : List String) (name : String) : List String :=
  if name = ".." then place.dropLast else place ++ [name]

/-- Where paths with a root of some kind start. -/
def start (root : PathRoot) : List String :=
  if root = .relative then Path.workingDirectory.names else []

def follow (disk : Disk) (place : List String) : List String → Except Fault (List String)
  | [] => .ok place
  | name :: rest =>
    if disk.isDirectory place then follow disk (step place name) rest
    else if (disk.entry? place).isSome then .error .notADirectory
    else .error .notFound

/-- The place that a path leads to. -/
def locate (disk : Disk) (path : Path) : Except Fault (List String) :=
  disk.follow (start path.root) path.names

def read (disk : Disk) (path : Path) : Except Fault (List UInt8) := do
  let place ← disk.locate path
  match disk.entry? place with
  | some (.file content) => return content
  | _ => .error (if disk.isDirectory place then .isADirectory else .notFound)

/-- The size that is reported for directories. -/
def directorySize : Nat := 4096

/-- The size of a file, zero if there is none. -/
def size (disk : Disk) (path : Path) : Nat :=
  match disk.locate path with
  | .error _ => 0
  | .ok place =>
    match disk.entry? place with
    | some (.file content) => content.length
    | _ => if disk.isDirectory place then directorySize else 0

/-- Put an entry at a resolved path. -/
def put (disk : Disk) (place : List String) (entry : DiskEntry) : Disk :=
  { disk with entries := (place, entry) :: disk.entries.filter (·.1 ≠ place) }

/-- Make the directories at some names below a place, each in the one before, where they are
    missing: the last place, unless a file is in the way, which leaves those made so far. -/
def makeBelow (disk : Disk) (place : List String) :
    List String → Except Fault (List String) × Disk
  | [] => (.ok place, disk)
  | name :: rest =>
    let next := step place name
    if disk.isDirectory next then makeBelow disk next rest
    else if (disk.entry? next).isSome then (.error .notADirectory, disk)
    else makeBelow (disk.put next .directory) next rest

/-- Make a directory and those that it lies in. -/
def makeDirectory (disk : Disk) (path : Path) : Except Fault (List String) × Disk :=
  disk.makeBelow (start path.root) path.names

/-- Put an entry at a path, together with the directories that it lies in. -/
def install (disk : Disk) (path : Path) (entry : DiskEntry) : Disk :=
  let place := path.resolve
  let disk := (disk.makeBelow [] place.dropLast).2
  disk.put place entry

/-- Write a file that was read before. -/
def write (disk : Disk) (path : Path) (bytes : List UInt8) : Except Fault Disk := do
  if disk.readOnly.contains path then .error .denied
  else return disk.put (← disk.locate path) (.file bytes)

/-- Add bytes at the end of a file, which is made together with the directories that it lies in.
    Nothing is added where there is no way to do so. -/
def append (disk : Disk) (path : Path) (bytes : List UInt8) : Disk :=
  let (made, disk) := disk.makeDirectory path.parent
  match made, disk.locate path with
  | .ok _, .ok place =>
    match disk.entry? place with
    | some (.file content) => disk.put place (.file (content ++ bytes))
    | some .directory => disk
    | none => if disk.isDirectory place then disk else disk.put place (.file bytes)
  | _, _ => disk

/-- The name of a place directly in a directory. -/
def nameIn? (directory place : List String) : Option String :=
  if place.dropLast = directory then place.getLast? else none

def directory (disk : Disk) (place : List String) : Directory :=
  if disk.isDirectory place then
    .present (disk.entries.filterMap fun (other, entry) =>
      (nameIn? place other).map fun name => (name, entry))
  else if (disk.entry? place).isSome then .blocked
  else .missing

/-- Put what lies in a directory into the place of what lay at its place. -/
def keep (disk : Disk) (place : List String) (directory : Directory) : Disk :=
  { disk with
    entries :=
      directory.entries.map (fun (name, entry) => (place ++ [name], entry)) ++
        disk.entries.filter fun (other, _) => (nameIn? place other).isNone }

end Disk

end Scholia
