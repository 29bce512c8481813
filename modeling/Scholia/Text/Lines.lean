import Scholia.Text.Basic

/-! # Lines of a text

Two ways to cut a text into lines: at the line feed alone, which keeps every character of the
text but the line feeds, and at every line boundary that any script or device knows, where the
end of the text closes the last line.
-/

namespace Scholia.Text

/-- The fields between the occurrences of a separator; there is always at least one. -/
def splitAt (separator : Char) : Text → List Text
  | [] => [[]]
  | c :: rest =>
    if c = separator then
      [] :: splitAt separator rest
    else
      match splitAt separator rest with
      | [] => [[c]]
      | line :: lines => (c :: line) :: lines

/-- The lines between line feeds. -/
def splitLines (text : Text) : List Text :=
  splitAt '\n' text

def join (separator : Text) (texts : List Text) : Text :=
  separator.intercalate texts

def joinLines (lines : List Text) : Text :=
  join ['\n'] lines

/-- A character that ends a line on some device or in some script. -/
def isLineBoundary (c : Char) : Bool :=
  let n := c.toNat
  (0x0A ≤ n && n ≤ 0x0D) || (0x1C ≤ n && n ≤ 0x1E) || n == 0x85 || n == 0x2028 || n == 0x2029

/-- The lines ended by any line boundary, a carriage return and line feed being one; a text that
    ends with a boundary has no empty last line. -/
def boundaryLines : Text → List Text
  | [] => []
  | '\r' :: '\n' :: rest => [] :: boundaryLines rest
  | c :: rest =>
    if isLineBoundary c then
      [] :: boundaryLines rest
    else
      match boundaryLines rest with
      | [] => [[c]]
      | line :: lines => (c :: line) :: lines

end Scholia.Text
