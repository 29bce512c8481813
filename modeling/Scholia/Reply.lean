import Scholia.Comment.Markers
import Scholia.Unicode.Classes

/-! # Replies of the oracle

A reply should be a doc comment. It may come wrapped in a Markdown fence, which is taken off, and
it is refused if it could not stand in a source file.
-/

namespace Scholia.Reply

def fence : Text := ['\x60', '\x60', '\x60']

/-- The reply by which the oracle declines to document. -/
def decline : Text := "SKIP".toList

/-- A character of the language name after an opening fence. -/
def isLanguageChar (c : Char) : Bool :=
  Unicode.isWord c || c == '-'

/-- The trimmed content of a fence around a trimmed text: the opening fence is followed by a
    language name and a line break, and the closing fence ends the text. -/
def fenced? (text : Text) : Option Text :=
  if Text.startsWith fence text then
    let afterName := (text.drop 3).dropWhile isLanguageChar
    let content := Text.trimStart afterName
    if (afterName.takeWhile Text.isBlank).contains '\n' && Text.endsWith fence content then
      some (Text.trim (Text.dropLast 3 content))
    else none
  else none

/-- The trimmed text without a fence around all of it. -/
def stripFence (text : Text) : Text :=
  let trimmed := Text.trim text
  (fenced? trimmed).getD trimmed

/-- Why a reply is refused. -/
inductive Fault where
  | empty
  | noStar
  | innerTerminator
  deriving Repr, DecidableEq

def Fault.message : Fault → String
  | .empty => "Empty response from oracle"
  | .noStar => "Response does not look like a doc comment"
  | .innerTerminator => "Response contains '*/' before the end of the comment"

/-- What is wrong with a reply: it is empty, has no star, or would end the comment early. -/
def fault? (text : Text) : Option Fault :=
  if Text.isBlankText text then some .empty
  else if !text.contains '*' then some .noStar
  else if Comment.hasInnerTerminator text then some .innerTerminator
  else none

end Scholia.Reply
