import Scholia.Context.Record
import Scholia.Source.Language
import Scholia.Source.Structure

/-! # Documents as records

Declarations, and the documents that hold them, are written as JSON objects.
-/

namespace Scholia

def Json.positions (numbers : List Nat) : Json :=
  .array (numbers.map fun (number : Nat) => .int number)

/-- Texts sorted by code points, each of them once. -/
def Json.sortedTexts (texts : List String) : Json :=
  .texts ((texts.mergeSort fun a b => !(b < a)).eraseDups)

def DocComment.toJson (comment : DocComment) : Json :=
  .object
    [("text", .ofChars comment.text), ("start_byte", .int comment.start),
      ("end_byte", .int comment.stop)]

def Import.toJson (statement : Import) : Json :=
  .object
    [("text", .str statement.text), ("source", .str statement.source),
      ("line", .int statement.line)]

namespace Declaration

def toJson (d : Declaration) : Json :=
  .object
    [("kind", .str d.kind.label), ("name", .str d.name), ("id", .str d.id),
      ("span", .positions [d.span.1, d.span.2]),
      ("lines", .positions [d.firstLine, d.lastLine]),
      ("anchor", .positions [d.anchor.start, d.anchor.stop]),
      ("parent", .ofOption (fun index => .int index) d.parent),
      ("modifiers", .texts d.modifiers), ("exported", .ofOption .bool d.exported),
      ("initializer_type", .textOrNull d.initializerType), ("indent", .ofChars d.indent),
      ("doc", .ofOption DocComment.toJson d.comment), ("private", .bool d.isPrivate),
      ("async", .bool d.isAsync), ("member", .bool d.kind.isMember),
      ("function_like", .bool d.kind.isFunctionLike)]

/-- What the source of a declaration tells about its structure, as a record. -/
def structureJson (source : List UInt8) (d : Declaration) : Json :=
  .object
    [("name", .str d.name), ("kind", .str d.kind.label),
      ("callable", .ofOption
        (fun node => .array [.str node.type, .int node.start, .int node.stop])
        (Structure.callable? d)),
      ("parameters", .array ((Structure.parameters source d).map fun parameter =>
        .object (parameter.toJson.fields ++ [("text", .str parameter.text)]))),
      ("return_type", .textOrNull (Structure.returnType? source d)),
      ("value_type", .textOrNull (Structure.valueType? source d)),
      ("members", .texts (Structure.memberNames source d)),
      ("alias", .textOrNull (Structure.aliasType? source d))]

end Declaration

def Document.toJson (document : Document) : Json :=
  let grammar := Grammar.ofSuffix (Path.ofString document.path).suffix
  .object
    [("ok", .bool true), ("path", .str document.path),
      ("relative_path", .str document.relativePath), ("language", .str document.language),
      ("grammar", .str grammar.label), ("newline", .ofChars document.newline),
      ("chars", .int document.text.length), ("export_names", .sortedTexts document.exportNames),
      ("imports", .array (document.imports.map Import.toJson)),
      ("declarations", .array (document.declarations.map Declaration.toJson))]

end Scholia
