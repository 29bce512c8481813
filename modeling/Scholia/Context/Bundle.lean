import Scholia.Json.Basic
import Scholia.Path
import Scholia.Source.Structure

/-! # Context bundles

A bundle is everything that the oracle is told about one declaration.
-/

namespace Scholia

/-- A package of the workspace. -/
structure Package where
  name : String
  path : Path
  type : String := "library"
  deriving Repr, DecidableEq, BEq

/-- A place where a declaration is used. -/
structure Usage where
  filePath : String
  line : Int
  snippet : String := ""
  deriving Repr, DecidableEq, BEq

/-- A similar declaration. -/
structure Related where
  id : String
  name : String
  kind : String
  filePath : String
  score : Float
  snippet : String := ""

/-- What the oracle is told about one declaration. -/
structure Bundle where
  id : String := ""
  kind : String := ""
  name : String := ""
  snippet : String := ""
  signature : String := ""
  filePath : String := ""
  relativePath : String := ""
  package : Option Package := none
  imports : List String := []
  surrounding : Option String := none
  usages : List Usage := []
  related : List Related := []
  embedding : Option (List Float) := none
  parameters : List Parameter := []
  returnType : Option String := none
  isAsync : Bool := false
  isExported : Bool := false
  access : String := "public"
  existingDoc : Option Text := none
  customData : List (String × Json) := []

namespace Bundle

/-- The text that stands for the declaration when similar ones are looked for. -/
def embeddingText (bundle : Bundle) : String :=
  s!"{bundle.kind} {bundle.name}\n{bundle.signature}\n{bundle.snippet}"

end Bundle

end Scholia
