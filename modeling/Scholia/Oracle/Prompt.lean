import Scholia.Binary64.Decimal
import Scholia.Context.Bundle
import Scholia.Reply

/-! # Prompts

The oracle is given the rules for doc comments, and then what is known of one declaration.
-/

namespace Scholia

/-- A message of a conversation. -/
structure Message where
  role : String
  content : String
  deriving Repr, DecidableEq, BEq

namespace Prompt

/-- The rules for the oracle. -/
def rules : String :=
  "You are an expert TypeScript developer writing JSDoc comments.\n\n" ++
  "Rules:\n" ++
  "1. Return a single complete JSDoc block starting with /** and ending with */\n" ++
  "2. Describe every parameter with @param and the result with @returns\n" ++
  "3. Use standard JSDoc tags (@param, @returns, @throws, @example)\n" ++
  "4. Be concise but informative, and only describe what the code does\n" ++
  "5. Do not wrap the block in Markdown fences or add any other text\n\n" ++
  "If the declaration is trivial and needs no documentation, reply with exactly " ++
  String.ofList Reply.decline ++ "."

def titled (title body : String) : String :=
  s!"\n## {title}\n{body}\n"

/-- A section that is left out if there is nothing in it. -/
def titledLines (title : String) (lines : List String) : String :=
  if lines.isEmpty then "" else titled title (String.intercalate "\n" lines)

/-- A section with a text that may be missing or empty. -/
def titledText (title : String) : Option String → String
  | none | some "" => ""
  | some body => titled title body

def usageLine (usage : Usage) : String :=
  let place := s!"- {usage.filePath}:{usage.line}"
  if usage.snippet = "" then place
  else s!"{place}: {String.ofList (Text.trim usage.snippet.toList)}"

def relatedLine (related : Related) : String :=
  let score := Binary64.hundredths related.score
  s!"- {related.kind} {related.name} ({related.filePath}, similarity {score})"

def word (b : Bool) : String :=
  if b then "true" else "false"

/-- The sections on what surrounds the declaration. -/
def sections (bundle : Bundle) : String :=
  let enclosing := bundle.surrounding.bind fun text =>
    if text = "" then none else some s!"```typescript\n{text}\n```"
  titledLines "Relevant Imports" bundle.imports ++
    titledText "Enclosing Declaration" enclosing ++
    titledText "Existing Documentation" (bundle.existingDoc.map String.ofList) ++
    titledLines "Usages" (bundle.usages.map usageLine) ++
    titledLines "Related Symbols" (bundle.related.map relatedLine)

/-- What is known of the declaration of a bundle. -/
def describe (bundle : Bundle) (examples : Bool) : String :=
  let package := match bundle.package with
    | some package => s!"\nPackage: {package.name}"
    | none => ""
  let hint := if examples then "\n\nInclude an @example block." else ""
  s!"Generate a JSDoc comment for this {bundle.kind}:\n\n" ++
    s!"Name: {bundle.name}\nSignature: {bundle.signature}\n" ++
    s!"File: {bundle.relativePath}{package}\n" ++
    s!"Exported: {word bundle.isExported}  Async: {word bundle.isAsync}  " ++
    s!"Access: {bundle.access}\n{sections bundle}\nCode Snippet:\n" ++
    s!"```typescript\n{bundle.snippet}\n```{hint}"

/-- The conversation that asks for a comment. -/
def messages (bundle : Bundle) (examples : Bool) : List Message :=
  [⟨"system", rules⟩, ⟨"user", describe bundle examples⟩]

end Prompt

end Scholia
