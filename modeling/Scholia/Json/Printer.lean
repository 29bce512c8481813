import Scholia.Binary64.Decimal
import Scholia.Json.Basic
import Scholia.Text.Lines
import Scholia.Text.Quoted

/-! # Writing JSON

Values are written on one line. The spaced form has a space after each comma and colon, and
escapes for every character but the printable ones of ASCII. The compact form has no spaces, and
escapes only what a JSON text cannot hold.
-/

namespace Scholia.Json

def escapeUnit (unit : Nat) : Text :=
  '\\' :: 'u' :: Text.hexDigits 4 unit

/-- The escape of a character that has one of its own. -/
def shortEscape? (c : Char) : Option Text :=
  if c = '"' then some ['\\', '"']
  else if c = '\\' then some ['\\', '\\']
  else if c = '\n' then some ['\\', 'n']
  else if c = '\r' then some ['\\', 'r']
  else if c = '\t' then some ['\\', 't']
  else if c.toNat = 0x0C then some ['\\', 'f']
  else if c.toNat = 0x08 then some ['\\', 'b']
  else none

/-- The escape of a character by its UTF-16 units. -/
def escapeUnits (c : Char) : Text :=
  let n := c.toNat
  if n < 0x10000 then escapeUnit n
  else escapeUnit (0xD800 + (n - 0x10000) / 0x400) ++ escapeUnit (0xDC00 + (n - 0x10000) % 0x400)

/-- How values are written: what separates items, what follows a name, which characters stand for
    themselves unless they have an escape of their own, and how numbers are laid out. -/
structure Form where
  comma : Text
  colon : Text
  isBare : Char → Bool
  numbers : Binary64.Layout

def Form.spaced : Form where
  comma := [',', ' ']
  colon := [':', ' ']
  isBare c := 0x20 ≤ c.toNat && c.toNat < 0x7F
  numbers := .signed

/-- Without spaces, and with as few escapes as possible. -/
def Form.compact : Form where
  comma := [',']
  colon := [':']
  isBare c := 0x20 ≤ c.toNat
  numbers := .plain

/-- One character inside a JSON text. -/
def escapeChar (form : Form) (c : Char) : Text :=
  (shortEscape? c).getD (if form.isBare c then [c] else escapeUnits c)

def escapeText (form : Form) (value : String) : Text :=
  '"' :: value.toList.flatMap (escapeChar form) ++ ['"']

/-- A floating-point number; the ones that are not finite have words of their own. -/
def floatText (form : Form) (x : Float) : Text :=
  if Binary64.isNaN x then "NaN".toList
  else if Binary64.isInfinite x then
    if Binary64.isNegative x then "-Infinity".toList else "Infinity".toList
  else (Binary64.text x form.numbers).toList

mutual

/-- The text of a value in a form. -/
def writeIn (form : Form) : Json → Text
  | null => "null".toList
  | bool true => "true".toList
  | bool false => "false".toList
  | int value => Binary64.intText value
  | float value => floatText form value
  | str value => escapeText form value
  | array items => '[' :: Text.join form.comma (writeItems form items) ++ [']']
  | object fields => '\x7b' :: Text.join form.comma (writeFields form fields) ++ ['\x7d']

/-- The texts of the items of an array. -/
def writeItems (form : Form) : List Json → List Text
  | [] => []
  | item :: items => writeIn form item :: writeItems form items

/-- The texts of the fields of an object. -/
def writeFields (form : Form) : List (String × Json) → List Text
  | [] => []
  | (name, value) :: fields =>
    (escapeText form name ++ form.colon ++ writeIn form value) :: writeFields form fields

end

/-- The text of a value, with spaces. -/
def write (value : Json) : Text :=
  writeIn .spaced value

/-- The text of a value, without spaces. -/
def writeCompact (value : Json) : Text :=
  writeIn .compact value

end Scholia.Json
