import Scholia.Cache.Entry
import Scholia.Disk.Directory
import Scholia.Numeral
import Scholia.Text.Basic

/-! # The cache

Each key has a file of its own in one directory, named by the digest of the key. An entry is
served while it is young enough, was written under the store's version, and fits the content it is
asked for with. An entry that cannot be served is removed when it is read, unless it was only
asked for without the content that it is bound to. An entry that cannot be written is not stored.
-/

namespace Scholia.Cache

/-- The name of the file of a key. -/
def fileName (key : String) : String :=
  Sha256.hashText key.toList ++ ".json"

/-- The entry that something on disk holds. -/
def entry? (codec : Codec) : DiskEntry → Option Entry
  | .file content => codec.read content
  | .directory => none

/-- A view on a cache: how entries are written, their greatest age in milliseconds, and their
    version. -/
structure Store where
  codec : Codec
  maxAge : Int
  version : String

namespace Store

def milliseconds (hours : Number) : Except Number.NotFinite Int :=
  ((hours.mul (.int 3600)).mul (.int 1000)).truncate

/-- The store whose entries live for some hours. -/
def ofHours (codec : Codec) (hours : Number) (version : String) :
    Except Number.NotFinite Store :=
  (milliseconds hours).map fun maxAge => { codec, maxAge, version }

/-- The entry may be served at a time and for a content. -/
def isValid (store : Store) (now : Int) (entry : Entry) (content : Option Text) : Bool :=
  now - entry.timestamp ≤ store.maxAge && entry.version = store.version && entry.fits content

/-- Look a key up, and remove its file if it cannot be served. -/
def get (store : Store) (now : Int) (key : String) (content : Option Text)
    (directory : Directory) : Option Json × Directory :=
  match directory.entries.get? (fileName key) with
  | none => (none, directory)
  | some found =>
    match entry? store.codec found with
    | none => (none, directory.remove (fileName key))
    | some entry =>
      if entry.isBound && content.isNone then (none, directory)
      else if store.isValid now entry content then (entry.value?, directory)
      else (none, directory.remove (fileName key))

/-- Look up whether a key has a value. -/
def has (store : Store) (now : Int) (key : String) (content : Option Text)
    (directory : Directory) : Bool × Directory :=
  let (value, directory) := store.get now key content directory
  (value.isSome, directory)

/-- The entry for a value that was derived from some content or from none. -/
def entryFor (store : Store) (now : Int) (data : Json) (content : Option Text) : Entry :=
  { data
    timestamp := now
    version := store.version
    hash := (content.map Sha256.hashText).getD "" }

/-- Store a value under a key, unless it cannot be written. -/
def set (store : Store) (now : Int) (key : String) (data : Json) (content : Option Text)
    (directory : Directory) : Directory :=
  match store.codec.write (store.entryFor now data content) with
  | some bytes => directory.put (fileName key) bytes
  | none => directory

end Store

def delete (key : String) (directory : Directory) : Directory :=
  directory.remove (fileName key)

/-- Something on disk is the file of an entry. -/
def isEntryFile (name : String) (found : DiskEntry) : Bool :=
  Text.endsWith ".json".toList name.toList && found matches .file _

/-- Remove all entries, and count them. -/
def clear : Directory → Nat × Directory
  | .present entries =>
    let (cleared, rest) := entries.partition fun (name, found) => isEntryFile name found
    (cleared.length, .present rest)
  | directory => (0, directory)

end Scholia.Cache
