import Scholia.Unicode.Case

/-! # Paths

A path is a root and the names below it. Repeated slashes and single dots vanish; two dots stay
until the path is resolved.
-/

namespace Scholia

/-- Where a path starts: anywhere, at the root, or at the root written with two slashes. -/
inductive PathRoot where
  | relative
  | absolute
  | twoSlashes
  deriving Repr, DecidableEq, BEq

/-- A path in a file system. -/
structure Path where
  root : PathRoot
  names : List String
  deriving Repr, DecidableEq, BEq

namespace Path

/-- The fields of a text between slashes. -/
def fields : List Char → List (List Char)
  | [] => [[]]
  | c :: rest =>
    if c = '/' then [] :: fields rest
    else
      match fields rest with
      | [] => [[c]]
      | name :: names => (c :: name) :: names

def ofString (text : String) : Path :=
  let chars := text.toList
  let root := match chars with
    | '/' :: '/' :: '/' :: _ => .absolute
    | '/' :: '/' :: _ => .twoSlashes
    | '/' :: _ => .absolute
    | _ => .relative
  let names := (fields chars).filter fun name => !name.isEmpty && name != ['.']
  ⟨root, names.map String.ofList⟩

def rootText : PathRoot → String
  | .relative => ""
  | .absolute => "/"
  | .twoSlashes => "//"

/-- The text of a path; the empty path is a dot. -/
def toString (path : Path) : String :=
  if path.root = .relative && path.names.isEmpty then "."
  else rootText path.root ++ String.intercalate "/" path.names

/-- The path below another one; one that has a root stands for itself. -/
def join (base path : Path) : Path :=
  if path.root = .relative then { base with names := base.names ++ path.names } else path

/-- The path with the last name taken off. -/
def parent (path : Path) : Path :=
  { path with names := path.names.dropLast }

/-- The last name. -/
def name (path : Path) : String :=
  path.names.getLast?.getD ""

/-- The end of the last name from its last dot, unless that dot is its first or last character. -/
def suffix (path : Path) : String :=
  let reversed := path.name.toList.reverse
  let ending := reversed.takeWhile (· != '.')
  let start := (reversed.dropWhile (· != '.')).drop 1
  if ending.isEmpty || start.isEmpty then "" else String.ofList ('.' :: ending.reverse)

/-- Follow names from a list of names, two dots leading one up and never above the root. -/
def follow : List String → List String → List String
  | reached, [] => reached
  | reached, name :: rest =>
    if name = ".." then follow reached.dropLast rest else follow (reached ++ [name]) rest

/-- The directory that relative paths start from. -/
def workingDirectory : Path :=
  ⟨.absolute, ["work"]⟩

/-- The names of the absolute path without two dots. -/
def resolve (path : Path) : List String :=
  if path.root = .relative then follow workingDirectory.names path.names
  else follow [] path.names

/-- A resolved path lies in a resolved directory or is the directory. -/
def isWithin (directory path : List String) : Bool :=
  directory.isPrefixOf path

/-- The path as seen from a directory, or as it is if it lies elsewhere. -/
def relativeTo (path : Path) (directory : Option Path) : String :=
  match directory with
  | none => path.toString
  | some directory =>
    let base := directory.resolve
    let full := path.resolve
    if isWithin base full then toString ⟨.relative, full.drop base.length⟩ else path.toString

end Path

end Scholia
