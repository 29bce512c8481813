import Scholia.Context.Bundle
import Scholia.Json.Fields

/-! # Bundles as records

Bundles and their parts are written as JSON objects, and read with a default for each field.
-/

namespace Scholia

def Parameter.toJson (parameter : Parameter) : Json :=
  .object
    [("name", .str parameter.name), ("type", .textOrNull parameter.type),
      ("optional", .bool parameter.optional), ("default", .textOrNull parameter.default)]

def Parameter.ofJson (value : Json) : Parameter :=
  { name := value.textAt "name"
    type := (value.get "type").text?
    optional := value.flagAt "optional"
    default := (value.get "default").text? }

def Package.toJson (package : Package) : Json :=
  .object
    [("name", .str package.name), ("path", .str package.path.toString),
      ("type", .str package.type)]

def Package.ofJson (value : Json) : Package :=
  { name := value.textAt "name"
    path := .ofString (value.textAt "path")
    type := value.textAt "type" "library" }

def Usage.toJson (usage : Usage) : Json :=
  .object
    [("file_path", .str usage.filePath), ("line", .int usage.line),
      ("snippet", .str usage.snippet)]

/-- Read a usage from a list of path, line and snippet. -/
def Usage.ofJson (value : Json) : Usage :=
  { filePath := (value.item 0).text
    line := (value.item 1).int?.getD 0
    snippet := (value.item 2).text }

def Related.toJson (related : Related) : Json :=
  .object
    [("id", .str related.id), ("name", .str related.name), ("kind", .str related.kind),
      ("file_path", .str related.filePath), ("score", .float related.score),
      ("snippet", .str related.snippet)]

def Related.ofJson (value : Json) : Related :=
  { id := value.textAt "id"
    name := value.textAt "name"
    kind := value.textAt "kind"
    filePath := value.textAt "file_path"
    score := (value.get "score").toFloat
    snippet := value.textAt "snippet" }

namespace Bundle

/-- Set the field of a name; fields of other names are passed over. -/
def setField (bundle : Bundle) (name : String) (value : Json) : Bundle :=
  match name with
  | "id" => { bundle with id := value.text }
  | "kind" => { bundle with kind := value.text }
  | "name" => { bundle with name := value.text }
  | "snippet" => { bundle with snippet := value.text }
  | "signature" => { bundle with signature := value.text }
  | "file_path" => { bundle with filePath := value.text }
  | "relative_path" => { bundle with relativePath := value.text }
  | "package" =>
    { bundle with
      package := match value with
        | .object _ => some (Package.ofJson value)
        | _ => none }
  | "imports" => { bundle with imports := value.toTexts }
  | "surrounding" => { bundle with surrounding := value.text? }
  | "usages" => { bundle with usages := value.items.map Usage.ofJson }
  | "related" => { bundle with related := value.items.map Related.ofJson }
  | "embedding" => { bundle with embedding := value.list?.map fun _ => value.toVector }
  | "parameters" => { bundle with parameters := value.items.map Parameter.ofJson }
  | "return_type" => { bundle with returnType := value.text? }
  | "is_async" => { bundle with isAsync := value.flag?.getD false }
  | "is_exported" => { bundle with isExported := value.flag?.getD false }
  | "access" => { bundle with access := value.text }
  | "existing_doc" => { bundle with existingDoc := value.chars? }
  | "custom_data" => { bundle with customData := value.fields }
  | _ => bundle

/-- Set the fields that a record gives. -/
def setFields (bundle : Bundle) (record : Json) : Bundle :=
  record.fields.foldl (fun bundle (name, value) => bundle.setField name value) bundle

def toJson (bundle : Bundle) : Json :=
  .object
    [("id", .str bundle.id), ("kind", .str bundle.kind), ("name", .str bundle.name),
      ("snippet", .str bundle.snippet), ("signature", .str bundle.signature),
      ("file_path", .str bundle.filePath), ("relative_path", .str bundle.relativePath),
      ("package", .ofOption Package.toJson bundle.package), ("imports", .texts bundle.imports),
      ("surrounding", .textOrNull bundle.surrounding),
      ("usages", .array (bundle.usages.map Usage.toJson)),
      ("related", .array (bundle.related.map Related.toJson)),
      ("embedding", .ofOption .ofVector bundle.embedding),
      ("parameters", .array (bundle.parameters.map Parameter.toJson)),
      ("return_type", .textOrNull bundle.returnType), ("is_async", .bool bundle.isAsync),
      ("is_exported", .bool bundle.isExported), ("access", .str bundle.access),
      ("existing_doc", .ofOption .ofChars bundle.existingDoc),
      ("custom_data", .object bundle.customData)]

end Bundle

end Scholia
