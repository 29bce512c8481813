import Scholia.Text.Basic
import Scholia.Text.Lines

/-! # Markers of doc comments

A doc comment opens with `/**`, ends with its only `*/`, and may start each line with a star.
-/

namespace Scholia.Comment

/-- The opening marker. -/
def opener : Text := ['/', '*', '*']

/-- The closing marker. -/
def terminator : Text := ['*', '/']

/-- The trimmed text without a closing marker at its end. -/
def withoutTerminator (text : Text) : Text :=
  if Text.endsWith terminator text then Text.dropLast 2 text else text

/-- A closing marker occurs before the one at the end. -/
def hasInnerTerminator (text : Text) : Bool :=
  Text.occursIn terminator (withoutTerminator (Text.trim text))

/-- The text is one doc comment that no closing marker ends early. -/
def isBlock (text : Text) : Bool :=
  let trimmed := Text.trim text
  Text.startsWith opener trimmed && Text.endsWith terminator trimmed && 5 ≤ trimmed.length &&
    !hasInnerTerminator trimmed

/-- Break up every closing marker with a backslash, so that it closes nothing. -/
def escapeTerminators : Text → Text
  | '*' :: '/' :: rest => '*' :: '\\' :: '/' :: escapeTerminators rest
  | c :: rest => c :: escapeTerminators rest
  | [] => []

/-- A line without its indentation, its star and one space after that. -/
def stripStar (line : Text) : Text :=
  match Text.trim line with
  | '*' :: ' ' :: rest => Text.trimEnd rest
  | '*' :: rest => Text.trimEnd rest
  | trimmed => trimmed

/-- The lines without the blank ones at the start and at the end. -/
def dropBlankEnds (lines : List Text) : List Text :=
  ((lines.dropWhile Text.isBlankText).reverse.dropWhile Text.isBlankText).reverse

/-- The text without the opening marker at its start. -/
def withoutOpener (text : Text) : Text :=
  if Text.startsWith opener text then text.drop 3 else text

/-- The lines of a comment without markers. -/
def contentLines (text : Text) : List Text :=
  let body := withoutTerminator (withoutOpener (Text.trim text))
  dropBlankEnds ((Text.splitLines body).map stripStar)

/-- The form by which comments are compared: one line without markers and needless blanks. -/
def normalize (text : Text) : Text :=
  let lines := (contentLines text).filter fun line => !Text.isBlankText line
  Text.trim (Text.collapseBlanks (Text.join [' '] (lines.map Text.trim)))

/-! ## Indented comments

A comment that goes above a declaration takes over its indentation, the stars standing one column
to the right of the first slash.
-/

/-- A line after the first, with a star. -/
def indentLine (indent line : Text) : Text :=
  match line with
  | [] => indent ++ [' ', '*']
  | '*' :: _ => indent ++ ' ' :: line
  | _ => indent ++ ' ' :: '*' :: ' ' :: line

/-- The comment with its lines after the first indented, and joined by a line ending. -/
def indentBlock (block indent newline : Text) : Text :=
  match (Text.boundaryLines (Text.trim block)).map Text.trim with
  | [] => []
  | first :: rest => Text.join newline (first :: rest.map (indentLine indent))

end Scholia.Comment
