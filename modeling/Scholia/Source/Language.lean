import Scholia.Path
import Scholia.Source.Walk

/-! # Supported files

Files are told by their suffix. A file in a supported language is parsed from its text and the
tree that a parser found for it.
-/

namespace Scholia

/-- The grammars that files are parsed with. -/
inductive Grammar where
  | typescript
  | tsx
  | javascript
  deriving Repr, DecidableEq, BEq

namespace Grammar

def label : Grammar → String
  | typescript => "typescript"
  | tsx => "tsx"
  | javascript => "javascript"

/-- The language that files of a grammar are written in. -/
def language : Grammar → String
  | typescript | tsx => "typescript"
  | javascript => "javascript"

def suffixes : List String :=
  [".ts", ".tsx", ".mts", ".cts", ".js", ".jsx", ".mjs", ".cjs"]

/-- The grammar for a file with a suffix. -/
def ofSuffix (suffix : String) : Grammar :=
  match Unicode.lower suffix with
  | ".tsx" => tsx
  | ".ts" | ".mts" | ".cts" => typescript
  | _ => javascript

def supports (path : Path) : Bool :=
  suffixes.contains (Unicode.lower path.suffix)

end Grammar

namespace Document

/-- The name of the supported languages. -/
def languageName : String := "TypeScript"

/-- What a parser makes of a source: a tree, or the message of its failure. -/
abbrev Parsed := Except String Node

/-- The document of a source text, or the message why it has none. -/
def parse (path : Path) (text : Text) (relativePath : String) (tree : Parsed) :
    Except String Document :=
  match tree with
  | .error message => .error s!"Parse error: {message}"
  | .ok root =>
    let source := Utf8.encode text
    let relativePath := if relativePath = "" then path.toString else relativePath
    let found := Walk.program relativePath source root
    .ok
      { path := path.toString
        relativePath
        source
        language := (Grammar.ofSuffix path.suffix).language
        declarations := found.declarations
        imports := found.imports
        exportNames := Walk.exportNames source root }

end Document

end Scholia
