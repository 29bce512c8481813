import Scholia.Json.Basic
import Scholia.Sha256

/-! # Cache entries

An entry keeps a value with the time and the version of its writing, and the digest of the content
that the value was derived from. How entries are written to files is left to a codec, which may
refuse to write some of them, and to read what is in some files.
-/

namespace Scholia.Cache

/-- A value in a cache. -/
structure Entry where
  data : Json
  /-- When the entry was written, in milliseconds. -/
  timestamp : Int
  version : String
  /-- The digest of the content that the value was derived from, empty if there is none. -/
  hash : String := ""

namespace Entry

/-- The value, if it is one at all: null counts as none. -/
def value? (entry : Entry) : Option Json :=
  match entry.data with
  | .null => none
  | value => some value

/-- The entry was derived from some content. -/
def isBound (entry : Entry) : Bool :=
  entry.hash ≠ ""

/-- The entry fits a content: it is not bound to any, or bound to this very one. -/
def fits (entry : Entry) (content : Option Text) : Bool :=
  !entry.isBound || content.any fun text => entry.hash = Sha256.hashText text

end Entry

/-- How entries are written to files, and read from them. -/
structure Codec where
  write : Entry → Option (List UInt8)
  read : List UInt8 → Option Entry

end Scholia.Cache
