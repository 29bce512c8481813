import Scholia.Comment.Markers
import Scholia.Source.Declaration

/-! # Source files with pending comment edits

The edits of a file are spliced into its bytes: each changed declaration has a region that ends at
its anchor and starts at its old comment, or at the anchor itself if there was none. All other
bytes stay as they are.
-/

namespace Scholia

/-- An import statement. -/
structure Import where
  text : String
  source : String
  line : Nat
  deriving Repr, DecidableEq, BEq

/-- A region of bytes and what takes its place. -/
structure Splice where
  start : Nat
  stop : Nat
  bytes : List UInt8
  deriving Repr, DecidableEq, BEq

namespace Splice

/-- Put the bytes of a splice into the place of its region. -/
def apply (splice : Splice) (source : List UInt8) : List UInt8 :=
  source.take splice.start ++ splice.bytes ++ source.drop splice.stop

/-- Add a splice that ends at a position; it takes the place of an earlier one there. -/
def insert (splice : Splice) : List Splice → List Splice
  | [] => [splice]
  | other :: rest =>
    if other.stop = splice.stop then splice :: rest else other :: insert splice rest

end Splice

/-- A parsed source file. -/
structure Document where
  path : String
  relativePath : String
  source : List UInt8
  language : String
  declarations : List Declaration
  imports : List Import
  exportNames : List String

namespace Document

def text (document : Document) : Text :=
  Utf8.decodeLossy document.source

def changed (document : Document) : Bool :=
  document.declarations.any (·.changed)

/-- The line ending of a source, told from its first line feed. -/
def newlineOf : List UInt8 → Text
  | 13 :: 10 :: _ => ['\r', '\n']
  | 10 :: _ => ['\n']
  | _ :: rest => newlineOf rest
  | [] => ['\n']

def newline (document : Document) : Text :=
  newlineOf document.source

/-- What is written above an anchor for a comment: the indented comment and a line break with the
    indentation of the anchor, or nothing for an empty comment. -/
def written (newline : Text) (d : Declaration) : Text :=
  match d.doc with
  | none | some [] => []
  | some doc => Comment.indentBlock doc d.indent newline ++ newline ++ d.indent

/-- The splice of a changed declaration. -/
def spliceOf (newline : Text) (d : Declaration) : Splice where
  start := (d.comment.map (·.start)).getD d.anchor.start
  stop := d.anchor.start
  bytes := Utf8.encode (written newline d)

/-- The splices of all changed declarations; of several at one anchor the last one stands. -/
def splices (document : Document) : List Splice :=
  (document.declarations.filter (·.changed)).foldl
    (fun splices d => (spliceOf document.newline d).insert splices) []

/-- The edited source, the splices being applied from the end backwards. -/
def editedBytes (document : Document) : List UInt8 :=
  (document.splices.mergeSort (fun a b => b.start ≤ a.start)).foldl
    (fun source splice => splice.apply source) document.source

/-- The text of the edited source. -/
def render (document : Document) : Text :=
  Utf8.decodeLossy document.editedBytes

/-- Change the declaration at a position. -/
def modify (document : Document) (index : Nat) (change : Declaration → Declaration) : Document :=
  { document with declarations := document.declarations.modify index change }

end Document

end Scholia
