import Scholia.Source.Document

/-! # The walk over a syntax tree

Statements are visited in order. A declaration is recorded where it is met, before those inside
it, so each one comes after the declaration that encloses it.
-/

namespace Scholia.Walk

/-- What the whole walk knows of the file. -/
structure File where
  relativePath : String
  source : List UInt8
  exportNames : List String

/-- Where in the tree a node stands. -/
structure Scope where
  /-- The enclosing declaration, if any. -/
  parent : Option Nat := none
  /-- The types of the nodes around it, from the inside. -/
  ancestry : List String := []

/-- The scope of the children of a node. -/
def Scope.inside (scope : Scope) (node : Node) : Scope :=
  { scope with ancestry := node.type :: scope.ancestry }

/-- The scope of the children of a node inside a declaration. -/
def Scope.under (scope : Scope) (parent : Nat) (node : Node) : Scope :=
  { scope.inside node with parent := some parent }

/-- What a walk records. -/
structure Found where
  declarations : List Declaration := []
  imports : List Import := []

/-- What two walks record, one after the other. -/
def Found.append (first second : Found) : Found :=
  ⟨first.declarations ++ second.declarations, first.imports ++ second.imports⟩

instance : Append Found := ⟨Found.append⟩

/-- The kind that a statement declares by its type. -/
def statementKind? : String → Option Kind
  | "function_declaration" | "generator_function_declaration" | "function_signature" =>
    some .function
  | "class_declaration" | "abstract_class_declaration" => some .classDecl
  | "interface_declaration" => some .interface
  | "type_alias_declaration" => some .typeAlias
  | "enum_declaration" => some .enum
  | "internal_module" | "module" => some .module
  | _ => none

def isVariableStatement (type : String) : Bool :=
  type == "lexical_declaration" || type == "variable_declaration"

/-- The node is a namespace, which may stand in an expression statement. -/
def isNamespace (node : Node) : Bool :=
  node.type == "internal_module" || node.type == "module"

/-- The modifier that a child of a declaration stands for. -/
def modifier? (source : List UInt8) (child : Node) : Option String :=
  match child.type with
  | "accessibility_modifier" => some (child.stringIn source)
  | "override_modifier" => some "override"
  | "private_property_identifier" => some "private"
  | "static" | "readonly" | "async" | "abstract" | "override" | "declare" | "get" | "set" =>
    some child.type
  | _ => none

def modifiers (source : List UInt8) (node : Node) : List String :=
  node.children.filterMap (modifier? source)

/-- The names in the export clauses of an export statement, or the name it exports by default. -/
def exportedBy (source : List UInt8) (statement : Node) : List String :=
  statement.namedChildren.flatMap fun child =>
    match child.type with
    | "export_clause" =>
      child.namedChildren.filterMap fun specifier =>
        (specifier.child? "name").map (·.stringIn source)
    | "identifier" => [child.stringIn source]
    | _ => []

/-- The names that a program exports apart from its declarations, not those of other modules. -/
def exportNames (source : List UInt8) (root : Node) : List String :=
  root.namedChildren.flatMap fun statement =>
    if statement.type == "export_statement" && (statement.child? "declaration").isNone &&
        (statement.child? "source").isNone then
      exportedBy source statement
    else []

/-- What is particular to one declaration. -/
structure Particulars where
  kind : Kind
  name : String
  exported : Option Bool
  modifiers : List String
  initializerType : Option String := none

def declare (file : File) (scope : Scope) (anchor : Anchor) (node : Node) (own : Particulars) :
    Declaration :=
  let comment := anchor.comment? file.source
  { kind := own.kind
    name := own.name
    node
    ancestry := scope.ancestry
    anchor
    relativePath := file.relativePath
    firstLine := lineAt file.source node.start
    lastLine := lineAt file.source node.stop
    parent := scope.parent
    modifiers := own.modifiers
    exported := own.exported
    initializerType := own.initializerType
    indent := anchor.indent file.source
    comment
    slot := ⟨comment.map (·.text), none⟩ }

def importOf? (file : File) (node : Node) : Option Import :=
  (node.child? "source").map fun module =>
    { text := node.stringIn file.source
      source := String.ofList (Text.trimChars ['\'', '"', '\x60'] (module.textIn file.source))
      line := lineAt file.source node.start }

/-- The declaration of one declarator; destructuring patterns have no single name. -/
def declarator? (file : File) (scope : Scope) (anchor : Anchor) (node : Node) :
    Option Declaration :=
  match node.child? "name" with
  | none => none
  | some nameNode =>
    if nameNode.type != "identifier" then none
    else
      let name := nameNode.stringIn file.source
      let value := node.child? "value"
      some <| declare file scope anchor node
        { kind := .variable
          name
          exported :=
            if scope.parent.isNone && file.exportNames.contains name then some true else none
          modifiers := (value.map (modifiers file.source)).getD []
          initializerType := value.map (·.type) }

/-- The declarators among the children of a statement: the first one shares the anchor of the
    statement, if it is given, and the others are anchors themselves. -/
def declarators (file : File) (scope : Scope) (anchor : Option Anchor) (previous : Option Node) :
    List Node → List Declaration
  | [] => []
  | child :: rest =>
    if child.named && child.type == "variable_declarator" then
      (declarator? file scope (anchor.getD (.ofNode previous child)) child).toList ++
        declarators file scope none (some child) rest
    else
      declarators file scope anchor (some child) rest

/-- The kind of a method: by its name, or by a keyword in front. -/
def methodKind (source : List UInt8) (node : Node) : Kind :=
  if (node.child? "name").any fun name => name.stringIn source == "constructor" then .constructor
  else
    match node.children.find? fun child => child.type == "get" || child.type == "set" with
    | some keyword => if keyword.type == "get" then .getAccessor else .setAccessor
    | none => .method

/-- The kind of a member of a class. -/
def classMemberKind? (source : List UInt8) (node : Node) : Option Kind :=
  match node.type with
  | "method_definition" => some (methodKind source node)
  | "public_field_definition" | "field_definition" => some .property
  | "method_signature" | "abstract_method_signature" => some .method
  | _ => none

/-- The kind of a member of an interface. -/
def interfaceMemberKind? (node : Node) : Option Kind :=
  match node.type with
  | "property_signature" => some .propertySignature
  | "method_signature" => some .methodSignature
  | _ => none

/-- The name of a member of a class. -/
def classMemberName? (node : Node) : Option Node :=
  (node.child? "name").or (node.child? "property")

/-- The members among the children of a body. -/
def members (file : File) (scope : Scope) (kind? : Node → Option Kind)
    (name? : Node → Option Node) (previous : Option Node) : List Node → List Declaration
  | [] => []
  | child :: rest =>
    let others := members file scope kind? name? (some child) rest
    match if child.named then kind? child else none, name? child with
    | some kind, some name =>
      declare file scope (.ofNode previous child) child
        { kind
          name := name.stringIn file.source
          exported := some false
          modifiers := modifiers file.source child } :: others
    | _, _ => others

mutual

/-- What one statement records, `next` being the position of its first declaration. -/
def statement (file : File) (scope : Scope) (exported : Option Bool) (anchor : Anchor)
    (next : Nat) (node : Node) : Found :=
  if node.type == "export_statement" then
    match _h : node.child? "declaration" with
    | some inner => statement file (scope.inside node) (some true) anchor next inner
    | none => {}
  else if node.type == "ambient_declaration" then
    wrapped file (scope.inside node) exported anchor (fun _ => true) next node.children
  else if node.type == "expression_statement" then
    wrapped file (scope.inside node) exported anchor isNamespace next node.children
  else if node.type == "import_statement" then
    { imports := (importOf? file node).toList }
  else if isVariableStatement node.type then
    { declarations := declarators file (scope.inside node) (some anchor) none node.children }
  else
    match statementKind? node.type, node.child? "name" with
    | some kind, some nameNode =>
      let name := String.ofList (Text.trimChars ['\'', '"'] (nameNode.textIn file.source))
      let own := declare file scope anchor node
        { kind
          name
          exported := some (exported.getD (scope.parent.isNone && file.exportNames.contains name))
          modifiers := modifiers file.source node }
      let inner : Found :=
        match _h : node.child? "body" with
        | none => {}
        | some body =>
          let scope := (scope.inside node).under next body
          match kind with
          | .classDecl =>
            { declarations :=
                members file scope (classMemberKind? file.source) classMemberName? none
                  body.children }
          | .interface =>
            { declarations :=
                members file scope interfaceMemberKind? (·.child? "name") none body.children }
          | .module => statements file scope none (next + 1) body.children
          | _ => {}
      { declarations := [own] } ++ inner
    | _, _ => {}
termination_by sizeOf node
decreasing_by
  · exact Node.sizeOf_child_lt _h
  · exact node.sizeOf_children_lt
  · exact node.sizeOf_children_lt
  · exact Nat.lt_trans body.sizeOf_children_lt (Node.sizeOf_child_lt _h)

/-- What the statements of a program or of the body of a namespace record. -/
def statements (file : File) (scope : Scope) (previous : Option Node) (next : Nat) :
    List Node → Found
  | [] => {}
  | child :: rest =>
    let found : Found :=
      if child.named then statement file scope none (.ofNode previous child) next child else {}
    found ++ statements file scope (some child) (next + found.declarations.length) rest
termination_by nodes => sizeOf nodes

/-- What the statements in a wrapper record, all sharing the anchor of the wrapper. -/
def wrapped (file : File) (scope : Scope) (exported : Option Bool) (anchor : Anchor)
    (admits : Node → Bool) (next : Nat) : List Node → Found
  | [] => {}
  | child :: rest =>
    let found : Found :=
      if child.named && admits child then statement file scope exported anchor next child else {}
    found ++ wrapped file scope exported anchor admits (next + found.declarations.length) rest
termination_by nodes => sizeOf nodes

end

def program (relativePath : String) (source : List UInt8) (root : Node) : Found :=
  let file : File := ⟨relativePath, source, exportNames source root⟩
  statements file (Scope.inside {} root) none 0 root.children

end Scholia.Walk
