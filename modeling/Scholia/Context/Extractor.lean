import Scholia.Context.Bundle
import Scholia.Context.Selection
import Scholia.Table

/-! # Extracting context

The extractor builds the bundle of a declaration from its document, the packages of the workspace
and two indices that are supplied from outside.
-/

namespace Scholia

/-- Builds bundles. -/
structure Extractor where
  settings : DocSettings
  packages : List Package := []
  /-- The usages of declarations by id. -/
  symbolIndex : Table (List Usage) := []
  /-- The vectors of declarations by id. -/
  embeddingIndex : Table (List Float) := []
  /-- Reads the parameters of a declaration, or says why they cannot be read. -/
  readParameters : List UInt8 → Declaration → Except String (List Parameter) :=
    fun source d => .ok (Structure.parameters source d)

namespace Extractor

/-- What marks the end of a truncated snippet. -/
def snippetMarker : String := "\n// ... (snippet truncated)"

/-- What marks the end of a truncated enclosing declaration. -/
def surroundingMarker : String := "\n// ... (surrounding context truncated)"

/-- Cut a text to a length, with a marker where it is cut. -/
def truncate (text : Text) (limit : Int) (marker : String) : Text :=
  if (text.length : Int) ≤ limit then text else Text.takeSigned limit text ++ marker.toList

/-- The source of a node, truncated. -/
def excerpt (source : List UInt8) (node : Node) (limit : Int) (marker : String) : String :=
  String.ofList (truncate (node.textIn source) limit marker)

/-- The signature of a declaration with parameters. -/
def callableSignature (name : String) (parameters : List Parameter) (result : Option String) :
    String :=
  let list := String.intercalate ", " (parameters.map Parameter.text)
  match result with
  | none | some "" => s!"{name}({list})"
  | some result => s!"{name}({list}): {result}"

/-- The members of a declaration between braces. -/
def braced (names : List String) : String :=
  "\x7b " ++ String.intercalate ", " names ++ " \x7d"

/-- The signature of a declaration, by its kind. -/
def signature (source : List UInt8) (d : Declaration) (parameters : List Parameter)
    (result : Option String) : String :=
  match d.kind with
  | .function | .method | .constructor | .methodSignature =>
    callableSignature d.name parameters result
  | .variable =>
    if (Structure.callable? d).isSome then callableSignature d.name parameters result
    else
      match Structure.valueType? source d with
      | some type => s!"{d.name}: {type}"
      | none => d.name
  | .property | .propertySignature | .getAccessor | .setAccessor =>
    let type := (Structure.valueTypeGiven? source parameters d).getD "unknown"
    s!"{d.name}: {type}"
  | .enum => s!"enum {d.name} " ++ braced (Structure.memberNames source d)
  | .interface => s!"interface {d.name} " ++ braced (Structure.memberNames source d)
  | .typeAlias =>
    let type := (Structure.aliasType? source d).getD "None"
    s!"type {d.name} = {type}"
  | .classDecl => s!"class {d.name}"
  | .module => s!"namespace {d.name}"

/-- What is derived from the structure of a declaration. -/
structure Shape where
  parameters : List Parameter
  returnType : Option String
  signature : String

/-- The shape of a declaration; a note stands for the signature if parameters cannot be read. -/
def shape (extractor : Extractor) (source : List UInt8) (d : Declaration) : Shape :=
  match extractor.readParameters source d with
  | .error message => ⟨[], none, s!"(Error extracting signature details: {message})"⟩
  | .ok parameters =>
    let result := Structure.returnType? source d
    ⟨parameters, result, signature source d parameters result⟩

/-- The package with the deepest directory that holds a resolved path. -/
def owner (packages : List Package) (path : List String) : Option Package :=
  packages.foldl
    (fun best package =>
      let root := package.path.resolve
      if Path.isWithin root path && best.all (fun b => b.path.resolve.length < root.length) then
        some package
      else best)
    none

/-- The first package that a module specifier names, or names a part of. -/
def packageNamed? (packages : List Package) (specifier : String) : Option Package :=
  packages.find? fun package =>
    specifier == package.name || Text.startsWith (package.name ++ "/").toList specifier.toList

/-- An import that leaves the package: one of another package, or of none. -/
def isRelevant (packages : List Package) (directory : Path) (own : Option Package)
    (statement : Import) : Bool :=
  let elsewhere (target : Package) : Bool := own.all (·.name != target.name)
  if Text.startsWith ['.'] statement.source.toList then
    (owner packages (directory.join (Path.ofString statement.source)).resolve).any elsewhere
  else
    (packageNamed? packages statement.source).all elsewhere

/-- The texts of the imports worth showing. -/
def relevantImports (packages : List Package) (directory : Path) (own : Option Package)
    (imports : List Import) : List String :=
  (imports.filter (isRelevant packages directory own)).map (·.text)

/-- The source of the enclosing declaration, truncated. -/
def surrounding (extractor : Extractor) (document : Document) (d : Declaration) :
    Option String :=
  (d.parent.bind fun parent => document.declarations[parent]?).bind fun parent =>
    if parent.kind.isSurrounding then
      some (excerpt document.source parent.node extractor.settings.surroundingMaxLength
        surroundingMarker)
    else none

/-- The known usages of a declaration outside of itself. -/
def usages (extractor : Extractor) (d : Declaration) : List Usage :=
  ((extractor.symbolIndex.get? d.id).getD []).filter fun usage =>
    !(usage.filePath == d.relativePath && d.firstLine ≤ usage.line && usage.line ≤ d.lastLine)

def bundle (extractor : Extractor) (document : Document) (d : Declaration) : Bundle :=
  let settings := extractor.settings
  let shape := extractor.shape document.source d
  let path := Path.ofString document.path
  let package := owner extractor.packages path.resolve
  { id := d.id
    kind := d.kind.label
    name := d.name
    snippet := excerpt document.source d.node settings.maxSnippetLength snippetMarker
    signature := shape.signature
    filePath := document.path
    relativePath := d.relativePath
    package
    imports := relevantImports extractor.packages path.parent package document.imports
    surrounding := extractor.surrounding document d
    usages := if settings.includeSymbolReferences then extractor.usages d else []
    embedding := extractor.embeddingIndex.get? d.id
    parameters := shape.parameters
    returnType := shape.returnType
    isAsync := d.isAsync
    isExported := Selection.isExported d
    access := d.access
    existingDoc := d.doc }

end Extractor

end Scholia
