import Scholia.Source.Declaration

/-! # The structure of declarations

Parameters, types and members of a declaration, as far as its syntax tree shows them.
-/

namespace Scholia

/-- A formal parameter. -/
structure Parameter where
  name : String
  type : Option String := none
  optional : Bool := false
  default : Option String := none
  deriving Repr, DecidableEq, BEq

namespace Parameter

/-- The parameter as written in a signature. -/
def text (p : Parameter) : String :=
  let mark :=
    if p.optional && p.default.isNone && !Text.endsWith ['?'] p.name.toList then "?" else ""
  let type := match p.type with
    | none | some "" => ""
    | some type => s!": {type}"
  let default := match p.default with
    | none => ""
    | some value => s!" = {value}"
  p.name ++ mark ++ type ++ default

end Parameter

namespace Structure

variable (source : List UInt8)

/-- The trimmed text of a type annotation without its colon; nothing if that is empty. -/
def annotation? (node : Node) : Option String :=
  let text := Text.trim (node.textIn source)
  let text := match text with
    | ':' :: rest => if node.type == "type_annotation" then Text.trim rest else text
    | _ => text
  if text.isEmpty then none else some (String.ofList text)

/-- The annotation that plays a part in a node. -/
def annotationAt? (field : String) (node : Node) : Option String :=
  (node.child? field).bind (annotation? source)

def isFunctionValue (node : Node) : Bool :=
  node.type == "arrow_function" || node.type == "function_expression" || node.type == "function"

/-- The node with the parameters: of a variable the function it starts out with, if any, of any
    other declaration its own node. -/
def callable? (d : Declaration) : Option Node :=
  match d.kind with
  | .variable => (d.node.child? "value").filter isFunctionValue
  | _ => some d.node

/-- The text of the child that plays a part, or else of the node itself. -/
def partOrAll (field : String) (node : Node) : String :=
  ((node.child? field).getD node).stringIn source

/-- The parameter that a node in a parameter list stands for; comments stand for none. -/
def parameter? (node : Node) : Option Parameter :=
  match node.type with
  | "required_parameter" | "optional_parameter" =>
    let value := (node.child? "value").map (·.stringIn source)
    some
      { name := partOrAll source "pattern" node
        type := annotationAt? source "type" node
        optional := node.type == "optional_parameter" || value.isSome
        default := value }
  | "assignment_pattern" =>
    some
      { name := partOrAll source "left" node
        optional := true
        default := (node.child? "right").map (·.stringIn source) }
  | "comment" => none
  | _ => some { name := node.stringIn source }

def parameters (d : Declaration) : List Parameter :=
  match callable? d with
  | none => []
  | some node =>
    match node.child? "parameter", node.child? "parameters" with
    | some single, _ => [{ name := single.stringIn source }]
    | none, some list => list.namedChildren.filterMap (parameter? source)
    | none, none => []

def returnType? (d : Declaration) : Option String :=
  (callable? d).bind (annotationAt? source "return_type")

/-- The declared type of a property, an accessor or a variable, given its parameters. -/
def valueTypeGiven? (parameters : List Parameter) (d : Declaration) : Option String :=
  match d.kind with
  | .getAccessor => returnType? source d
  | .setAccessor => parameters.head?.bind (·.type)
  | _ => annotationAt? source "type" d.node

/-- The declared type of a property, an accessor or a variable. -/
def valueType? (d : Declaration) : Option String :=
  valueTypeGiven? source (parameters source d) d

/-- The name of a member of a body. -/
def memberName? (node : Node) : Option String :=
  match node.type with
  | "property_identifier" | "string" => some (node.stringIn source)
  | _ => (node.child? "name").map (·.stringIn source)

/-- The names of the members of an interface or enumeration. -/
def memberNames (d : Declaration) : List String :=
  match d.node.child? "body" with
  | none => []
  | some body => body.namedChildren.filterMap (memberName? source)

/-- The type that a type alias stands for. -/
def aliasType? (d : Declaration) : Option String :=
  (d.node.child? "value").map (·.stringIn source)

end Structure

end Scholia
