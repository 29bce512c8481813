import Scholia.Disk
import Scholia.Source.Language

/-! # Reading source files

A source file is read if its language is supported. Its path as seen from a base directory is part
of the ids of its declarations.
-/

namespace Scholia

/-- How sources are read: from where they are seen, and what a parser makes of them. -/
structure SourceReader where
  base : Option Path := none
  parse : Text → Document.Parsed

/-- Why a source file cannot be read. -/
inductive SourceFault where
  | unsupported (path : Path)
  | unreadable (path : Path) (fault : Disk.Fault)
  | malformed (path : Path) (fault : Utf8.Malformed)
  | unparsed (message : String)

def SourceFault.message : SourceFault → String
  | unsupported path => s!"Unsupported file type: {path.toString}"
  | unreadable path fault => s!"Cannot read {path.toString}: {fault.message path}"
  | malformed path fault => s!"Cannot read {path.toString}: {fault.message}"
  | unparsed message => message

namespace SourceReader

def open? (reader : SourceReader) (disk : Disk) (path : Path) : Except SourceFault Document :=
  if !Grammar.supports path then .error (.unsupported path)
  else
    match disk.read path with
    | .error fault => .error (.unreadable path fault)
    | .ok bytes =>
      match Utf8.decode bytes with
      | .error fault => .error (.malformed path fault)
      | .ok text =>
        (Document.parse path text (path.relativeTo reader.base) (reader.parse text)).mapError
          .unparsed

end SourceReader

end Scholia
