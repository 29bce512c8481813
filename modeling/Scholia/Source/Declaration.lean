import Scholia.Comment.Slot
import Scholia.Reconcile
import Scholia.Source.Node
import Scholia.Text.Basic

/-! # Declarations

A declaration is a node of the source that may carry a doc comment. The comment attaches to the
declaration's anchor: the outermost statement around it, or the node itself for members.
-/

namespace Scholia

/-- The kinds of declarations. -/
inductive Kind where
  | function
  | method
  | constructor
  | getAccessor
  | setAccessor
  | property
  | propertySignature
  | methodSignature
  | classDecl
  | interface
  | typeAlias
  | enum
  | variable
  | module
  deriving Repr, DecidableEq, BEq

namespace Kind

/-- The word for a kind in settings and reports. -/
def label : Kind → String
  | function => "function"
  | method => "method"
  | constructor => "constructor"
  | getAccessor => "get_accessor"
  | setAccessor => "set_accessor"
  | property => "property"
  | propertySignature => "property_signature"
  | methodSignature => "method_signature"
  | classDecl => "class"
  | interface => "interface"
  | typeAlias => "type_alias"
  | enum => "enum"
  | .variable => "variable"
  | module => "module"

/-- Declarations with parameters and a result. -/
def isFunctionLike : Kind → Bool
  | function | method | constructor | methodSignature => true
  | _ => false

/-- Declarations that stand in the body of a class or an interface. -/
def isMember : Kind → Bool
  | method | constructor | getAccessor | setAccessor | property | propertySignature
  | methodSignature => true
  | _ => false

/-- Declarations that stand in the body of an interface only. -/
def isSignature : Kind → Bool
  | propertySignature | methodSignature => true
  | _ => false

/-- Declarations whose source is shown with their members. -/
def isSurrounding : Kind → Bool
  | classDecl | interface | module | enum => true
  | _ => false

end Kind

/-- A doc comment found in the source. -/
structure DocComment where
  text : Text
  start : Nat
  stop : Nat
  deriving Repr, DecidableEq, BEq

/-- The node that a comment attaches to, and its previous sibling. -/
structure Anchor where
  start : Nat
  stop : Nat
  previous : Option Node

namespace Anchor

def ofNode (previous : Option Node) (node : Node) : Anchor :=
  ⟨node.start, node.stop, previous⟩

/-- White space among bytes. -/
def isBlankByte (byte : UInt8) : Bool :=
  byte == 32 || (9 ≤ byte && byte ≤ 13)

/-- The blanks between the start of the anchor's line and the anchor, none if there is more. -/
def indent (anchor : Anchor) (source : List UInt8) : Text :=
  let line := ((source.take anchor.start).reverse.takeWhile (· != 10)).reverse
  let text := Utf8.decodeLossy line
  if Text.isBlankText text then text else []

/-- The doc comment directly above the anchor. -/
def comment? (anchor : Anchor) (source : List UInt8) : Option DocComment :=
  match anchor.previous with
  | none => none
  | some node =>
    let text := node.textIn source
    if node.type == "comment" && Text.startsWith ['/', '*', '*'] text &&
        !Text.startsWith ['/', '*', '*', '/'] text &&
        (sliceBytes source node.stop anchor.start).all isBlankByte then
      some ⟨text, node.start, node.stop⟩
    else none

end Anchor

/-- A declaration of a source file. -/
structure Declaration where
  kind : Kind
  name : String
  node : Node
  /-- The types of the nodes around it, from the inside. -/
  ancestry : List String
  anchor : Anchor
  relativePath : String
  firstLine : Nat
  lastLine : Nat
  /-- The position of the enclosing declaration among those of the file. -/
  parent : Option Nat
  modifiers : List String
  /-- Whether it is exported, where the declaration itself tells. -/
  exported : Option Bool
  /-- The type of the node that a variable starts out with. -/
  initializerType : Option String
  indent : Text
  comment : Option DocComment
  slot : Slot

namespace Declaration

/-- The range of bytes of the declaration. -/
def span (d : Declaration) : Nat × Nat :=
  (d.node.start, d.node.stop)

/-- The identity of a declaration: path, line and offset. -/
def id (d : Declaration) : String :=
  s!"{d.relativePath}:{d.firstLine}:{d.node.start}"

/-- The declaration is private by a keyword or by its name. -/
def isPrivate (d : Declaration) : Bool :=
  d.modifiers.contains "private" || Text.startsWith ['#'] d.name.toList

def isAsync (d : Declaration) : Bool :=
  d.modifiers.contains "async"

/-- Whose declaration may be used: private, protected or public. -/
def access (d : Declaration) : String :=
  if d.isPrivate then "private"
  else if d.modifiers.contains "protected" then "protected"
  else "public"

def doc (d : Declaration) : Option Text :=
  d.slot.current

/-- The comment differs from the one in the source. -/
def changed (d : Declaration) : Bool :=
  d.slot.changed

/-- Set the comment. -/
def setDoc (d : Declaration) (text : Text) : Declaration :=
  { d with slot := d.slot.write text }

/-- Remove the comment. -/
def removeDoc (d : Declaration) : Declaration :=
  { d with slot := d.slot.clear }

/-- Reconcile a generated comment with the declaration's own. -/
def reconcile (rules : Reconciler) (d : Declaration) (generated : Text) : Outcome × Declaration :=
  let (outcome, slot) := rules.reconcile d.slot generated
  (outcome, { d with slot })

end Declaration

end Scholia
