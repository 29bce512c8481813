import Scholia.Settings.Basic
import Scholia.Source.Document

/-! # Selecting declarations

A declaration is documented if its kind is not excluded and it is exported while exports come
first, or else if it passes the rules on kinds, initial values, privacy and signatures.
-/

namespace Scholia.Selection

/-- The types of initial values that make a variable worth a comment. -/
def documentedInitializers : List String :=
  ["arrow_function", "function_expression", "function", "class", "call_expression",
    "new_expression", "object"]

/-- The node declares variables and may stand in an export statement. -/
def isVariableStatement (type : String) : Bool :=
  type == "lexical_declaration" || type == "variable_declaration"

/-- The types of the surrounding nodes show an export: an export statement directly around the
    node, or around the variable statement that the node is in. -/
def exportedByAncestry : List String → Bool
  | [] => false
  | parent :: others =>
    parent == "export_statement" ||
      (isVariableStatement parent && others.head? == some "export_statement")

/-- The declaration is exported, by its own account or else by the nodes around it. -/
def isExported (d : Declaration) : Bool :=
  d.exported.getD (exportedByAncestry d.ancestry)

variable (settings : DocSettings)

/-- The kind is on the list of included kinds, an empty list including all. -/
def includesKind (d : Declaration) : Bool :=
  settings.includeKinds.isEmpty || settings.includeKinds.contains d.kind.label

/-- A variable starts out with a value worth a comment; other declarations always pass. -/
def passesInitializer (d : Declaration) : Bool :=
  d.kind != .variable || d.initializerType.any documentedInitializers.contains

/-- Private declarations pass only if they are included. -/
def passesPrivacy (d : Declaration) : Bool :=
  settings.includePrivate || !d.isPrivate

/-- The declaration is excluded by its kind. -/
def isExcluded (d : Declaration) : Bool :=
  settings.excludeKinds.contains d.kind.label

/-- The declaration is taken because exports come first. -/
def isPriority (d : Declaration) : Bool :=
  settings.prioritizeExports && isExported d

/-- The declaration passes all rules but the one on signatures. -/
def passesAlone (d : Declaration) : Bool :=
  !isExcluded settings d &&
    (isPriority settings d ||
      (includesKind settings d && passesInitializer d && passesPrivacy settings d))

/-- The declaration is documented, given the declaration that encloses it. Signatures are left
    out where their interface is documented; what encloses a signature is never one itself. -/
def isDocumentable (d : Declaration) (parent : Option Declaration) : Bool :=
  passesAlone settings d &&
    (isPriority settings d || !(d.kind.isSignature && parent.any (passesAlone settings)))

/-- The declaration at a position of a document is documented. -/
def isDocumentableAt (document : Document) (index : Nat) : Bool :=
  match document.declarations[index]? with
  | none => false
  | some d => isDocumentable settings d (d.parent.bind fun parent => document.declarations[parent]?)

/-- The positions that come first with their span among those listed. -/
def firstOfSpan (document : Document) (seen : List (Nat × Nat)) : List Nat → List Nat
  | [] => []
  | index :: rest =>
    match document.declarations[index]? with
    | none => firstOfSpan document seen rest
    | some d =>
      if seen.contains d.span then firstOfSpan document seen rest
      else index :: firstOfSpan document (d.span :: seen) rest

/-- The positions of the declarations to document, among those listed. -/
def unitsAmong (document : Document) (listing : List Nat) : List Nat :=
  (firstOfSpan document [] listing).filter (isDocumentableAt settings document)

/-- The positions of the declarations to document. -/
def units (document : Document) : List Nat :=
  unitsAmong settings document (List.range document.declarations.length)

end Scholia.Selection
