import Scholia.Comment.Markers
import Scholia.Unicode.Classes

/-! # Doc comments as descriptions and tags

A doc comment is a description followed by block tags. Inline tags and type expressions stay as
they are inside the text of a tag.
-/

namespace Scholia

/-- A block tag with its text, such as `@param x the input`. -/
structure Tag where
  name : Text
  text : Text := []
  deriving Repr, DecidableEq, BEq

/-- The content of a doc comment. -/
structure Block where
  description : Text := []
  tags : List Tag := []
  deriving Repr, DecidableEq, BEq

namespace Tag

/-- A character that may follow the first one of a tag name. -/
def isNameChar (c : Char) : Bool :=
  Unicode.isWord c || c == '-'

/-- Read the first line of a tag: an at sign, a name that starts with an ASCII letter, a text. -/
def ofLine? (line : Text) : Option Tag :=
  match Text.trim line with
  | '@' :: first :: rest =>
    if first.isAlpha then
      some ⟨first :: rest.takeWhile isNameChar, Text.trim (rest.dropWhile isNameChar)⟩
    else none
  | _ => none

/-- Add a line to the text of a tag; an empty text is replaced by the line. -/
def addLine (tag : Tag) (line : Text) : Tag :=
  { tag with text := if tag.text.isEmpty then line else tag.text ++ '\n' :: line }

/-- The lines of a tag: the name with the first line of the text, then the other lines. -/
def lines (tag : Tag) : List Text :=
  match Text.splitLines tag.text with
  | [] => [Text.trimEnd ('@' :: tag.name ++ [' '])]
  | first :: rest => Text.trimEnd ('@' :: tag.name ++ ' ' :: first) :: rest

end Tag

namespace Block

/-- The texts of tags that hold the description. -/
def descriptionTags : List Text := ["description".toList, "desc".toList]

/-- The name of the tag that holds a summary. -/
def summaryTag : Text := "summary".toList

/-- Why a text is not read as a doc comment. -/
inductive Refusal where
  | notABlock
  deriving Repr, DecidableEq

def Refusal.message : Refusal → String
  | .notABlock => "Not a /** ... */ documentation block"

/-- Append a line to the last tag. -/
def addToLastTag (line : Text) : List Tag → List Tag
  | [] => []
  | [tag] => [tag.addLine line]
  | tag :: tags => tag :: addToLastTag line tags

/-- Take in one more line of a comment, the description being kept as lines: a tag line starts a
    tag, any other line belongs to the last tag or, before the first tag, to the description. -/
def addLine (lines : List Text × List Tag) (line : Text) : List Text × List Tag :=
  match Tag.ofLine? line with
  | some tag => (lines.1, lines.2 ++ [tag])
  | none =>
    if lines.2.isEmpty then (lines.1 ++ [line], lines.2)
    else (lines.1, addToLastTag line lines.2)

/-- The content of a comment, whether or not it has markers. -/
def read (text : Text) : Block :=
  let (description, tags) := (Comment.contentLines text).foldl addLine ([], [])
  { description := Text.trim (Text.joinLines description)
    tags := tags.map fun tag => { tag with text := Text.trimEnd tag.text } }

/-- The content of a doc comment; any other text is refused. -/
def parse (text : Text) : Except Refusal Block :=
  if Comment.isBlock text then .ok (read text) else .error .notABlock

def tagNames (block : Block) : List Text :=
  block.tags.map (·.name)

def find? (block : Block) (name : Text) : Option Tag :=
  block.tags.find? (·.name = name)

/-- The lines between the markers: the description, an empty line, the tags. -/
def lines (block : Block) : List Text :=
  let description := if block.description.isEmpty then [] else Text.splitLines block.description
  let tags := block.tags.flatMap Tag.lines
  if description.isEmpty || block.tags.isEmpty then description ++ tags
  else description ++ [] :: tags

/-- A line of content as written into a comment, with its star. -/
def starred (line : Text) : Text :=
  Text.trimEnd (' ' :: '*' :: ' ' :: Comment.escapeTerminators line)

/-- The doc comment with this content. -/
def render (block : Block) : Text :=
  if block.lines.isEmpty then "/** */".toList
  else Text.joinLines (Comment.opener :: block.lines.map starred ++ [' ' :: Comment.terminator])

/-- The text that describes the declaration: that of a description tag before the description
    itself, and a summary tag in front if there is neither. -/
def descriptionRegion (block : Block) : Text :=
  match block.tags.find? (fun tag => descriptionTags.contains tag.name) with
  | some tag => Text.trim tag.text
  | none =>
    if !block.description.isEmpty then block.description
    else
      match block.tags with
      | tag :: _ => if tag.name = summaryTag then Text.trim tag.text else []
      | [] => []

/-- A text as a doc comment: as it is if it is one, else its content in a comment of its own. -/
def wrap (text : Text) : Text :=
  if Comment.isBlock text then Text.trim text else (read text).render

/-! ## Merging

A generated comment is merged into an existing one: descriptions add up, generated tags take the
place of existing ones, and the sticky tags of the existing comment stay.
-/

/-- The names of existing tags that survive unless the generated comment has one of the name. -/
def stickyTags : List Text :=
  ["deprecated", "ignore", "internal", "beta", "alpha", "todo", "fixme"].map String.toList

/-- How many characters of a generated description are looked for in the existing one. -/
def comparedLength : Nat := 50

/-- The existing description followed by the generated one, unless it holds its beginning. -/
def mergeDescriptions (existing generated : Text) : Text :=
  if generated.isEmpty || Text.occursIn (generated.take comparedLength) existing then existing
  else if existing.isEmpty then generated
  else existing ++ '\n' :: '\n' :: generated

/-- An existing tag that stays in a merge. -/
def survives (generated : Block) (tag : Tag) : Bool :=
  stickyTags.contains tag.name && !generated.tagNames.contains tag.name

/-- A generated tag that stays a tag in a merge, and is not part of the description. -/
def carries (tag : Tag) : Bool :=
  !descriptionTags.contains tag.name && tag.name != summaryTag

/-- A generated comment merged into an existing one. -/
def merge (existing generated : Block) : Block where
  description := mergeDescriptions (Text.trim existing.description) generated.descriptionRegion
  tags := existing.tags.filter generated.survives ++ generated.tags.filter carries

end Block

end Scholia
