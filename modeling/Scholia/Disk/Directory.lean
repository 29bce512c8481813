import Scholia.Table

/-! # Directories

A directory holds files and further directories by name. A file holds bytes.
-/

namespace Scholia

/-- What stands at a place on disk. -/
inductive DiskEntry where
  | file (content : List UInt8)
  | directory
  deriving Repr, DecidableEq

/-- A place for a directory: nothing yet, a file where the directory should be, or a directory with
    what lies in it. -/
inductive Directory where
  | missing
  | blocked
  | present (entries : Table DiskEntry)

namespace Directory

def entries : Directory → Table DiskEntry
  | present entries => entries
  | missing | blocked => []

/-- Create the directory; false if a file is in its place. -/
def create : Directory → Bool × Directory
  | missing => (true, present [])
  | blocked => (false, blocked)
  | present entries => (true, present entries)

/-- There is a directory of a name. -/
def isOccupied (name : String) (entries : Table DiskEntry) : Bool :=
  (entries.get? name).any (· matches .directory)

/-- Put a file into the directory, which is created for it. Nothing is put into a blocked place or
    over a directory. -/
def put (name : String) (content : List UInt8) : Directory → Directory
  | missing => present [(name, .file content)]
  | blocked => blocked
  | present entries =>
    if isOccupied name entries then present entries else present (entries.set name (.file content))

def remove (name : String) : Directory → Directory
  | present entries =>
    if isOccupied name entries then present entries else present (entries.erase name)
  | directory => directory

end Directory

end Scholia
