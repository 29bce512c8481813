import Scholia.Json.Basic
import Scholia.Numeral

/-! # Reading JSON

A number with a point or an exponent is a floating-point number, any other an integer, which has
a bounded number of digits. Besides the standard's values the words `NaN`, `Infinity` and
`-Infinity` are read. A text may be read within limits.
-/

namespace Scholia.Json

def skipBlanks (text : Text) : Text :=
  text.dropWhile fun c => c == ' ' || c == '\n' || c == '\t' || c == '\r'

/-- Take a fixed word off the front. -/
def takeWord? (word : Text) (text : Text) : Option Text :=
  if word.isPrefixOf text then some (text.drop word.length) else none

def hexValue? (c : Char) : Option Nat :=
  if '0' ≤ c ∧ c ≤ '9' then some (c.toNat - 48)
  else if 'a' ≤ c ∧ c ≤ 'f' then some (c.toNat - 87)
  else if 'A' ≤ c ∧ c ≤ 'F' then some (c.toNat - 55)
  else none

/-- Read four hexadecimal digits. -/
def readHex4? : Text → Option (Nat × Text)
  | a :: b :: c :: d :: rest => do
    let a ← hexValue? a
    let b ← hexValue? b
    let c ← hexValue? c
    let d ← hexValue? d
    return (((a * 16 + b) * 16 + c) * 16 + d, rest)
  | _ => none

/-- Read the rest of a `\u` escape, two of which make a character beyond the first plane. -/
def readEscapedUnit? (text : Text) : Option (Char × Text) := do
  let (unit, rest) ← readHex4? text
  if 0xD800 ≤ unit ∧ unit < 0xDC00 then
    match rest with
    | '\\' :: 'u' :: rest =>
      let (low, rest) ← readHex4? rest
      if 0xDC00 ≤ low ∧ low < 0xE000 then
        return (Char.ofNat (0x10000 + (unit - 0xD800) * 0x400 + (low - 0xDC00)), rest)
      else none
    | _ => none
  else if 0xDC00 ≤ unit ∧ unit < 0xE000 then none
  else return (Char.ofNat unit, rest)

/-- The character that a one-letter escape stands for. -/
def escapedChar? : Char → Option Char
  | '"' => some '"'
  | '\\' => some '\\'
  | '/' => some '/'
  | 'b' => some '\x08'
  | 'f' => some '\x0C'
  | 'n' => some '\n'
  | 'r' => some '\r'
  | 't' => some '\t'
  | _ => none

/-- Read a text after its opening quote, its characters so far being given in reverse. Each step
    takes a character at least, and the fuel bounds their number. -/
def readText? : Nat → Text → Text → Option (String × Text)
  | 0, _, _ => none
  | _ + 1, _, [] => none
  | fuel + 1, seen, c :: rest =>
    if c = '"' then some (String.ofList seen.reverse, rest)
    else if c.toNat < 0x20 then none
    else if c = '\\' then
      match rest with
      | 'u' :: rest =>
        match readEscapedUnit? rest with
        | some (c, rest) => readText? fuel (c :: seen) rest
        | none => none
      | e :: rest =>
        match escapedChar? e with
        | some c => readText? fuel (c :: seen) rest
        | none => none
      | [] => none
    else readText? fuel (c :: seen) rest

/-- Split off the ASCII digits at the front. -/
def spanDigits (text : Text) : Text × Text :=
  text.span Char.isDigit

/-- Read an exponent part if one follows. -/
def readExponent? : Text → Option (Option Int × Text)
  | c :: rest =>
    if c = 'e' || c = 'E' then
      let (negative, rest) := Numeral.takeSign rest
      let (digits, rest) := spanDigits rest
      if digits.isEmpty then none
      else
        let n : Int := Numeral.ofDigits (digits.map (·.toNat - 48))
        some (some (if negative then -n else n), rest)
    else some (none, c :: rest)
  | [] => some (none, [])

def readUnsigned? (wholeLength : Nat) (negative : Bool) (text : Text) : Option (Json × Text) := do
  let (whole, rest) := spanDigits text
  if whole.isEmpty || (1 < whole.length && whole.head? == some '0') then none
  else if wholeLength < whole.length + (if negative then 1 else 0) then none
  else
    let (fraction, rest) ←
      match rest with
      | '.' :: rest =>
        let (fraction, rest) := spanDigits rest
        if fraction.isEmpty then none else pure (fraction, rest)
      | rest => pure ([], rest)
    let (power, rest) ← readExponent? rest
    let n := Numeral.ofDigits ((whole ++ fraction).map (·.toNat - 48))
    if fraction.isEmpty && power.isNone then
      if Numeral.maxIntegerDigits < whole.length then none
      else return (int (if negative then -n else n), rest)
    else
      let cap := Numeral.exponentCap
      let power := max (-cap) (min cap (power.getD 0)) - fraction.length
      return (float (Numeral.nearest negative n power), rest)

/-- Read a number or one of the words for numbers that are not finite. -/
def readNumber? (wholeLength : Nat) : Text → Option (Json × Text)
  | '-' :: 'I' :: rest =>
    (takeWord? "nfinity".toList rest).map fun rest => (float (Binary64.infinity true), rest)
  | '-' :: rest => readUnsigned? wholeLength true rest
  | 'I' :: rest =>
    (takeWord? "nfinity".toList rest).map fun rest => (float (Binary64.infinity false), rest)
  | 'N' :: rest => (takeWord? "aN".toList rest).map fun rest => (float Binary64.notANumber, rest)
  | text => readUnsigned? wholeLength false text

mutual

/-- Read a value at the front of a text. The fuel bounds the number of steps; two for each character
    and two more are enough, as no two steps in a row leave all characters. -/
def readValue? (wholeLength : Nat) : (fuel depth : Nat) → Text → Option (Json × Text)
  | 0, _, _ => none
  | fuel + 1, depth, text =>
    match skipBlanks text with
    | '"' :: rest => (readText? fuel [] rest).map fun (s, rest) => (str s, rest)
    | '[' :: rest =>
      match skipBlanks rest with
      | ']' :: rest => some (array [], rest)
      | rest =>
        if depth = 0 then none
        else
          (readItems? wholeLength fuel (depth - 1) rest).map fun (items, rest) =>
            (array items, rest)
    | '\x7b' :: rest =>
      match skipBlanks rest with
      | '\x7d' :: rest => some (object [], rest)
      | rest =>
        if depth = 0 then none
        else
          (readFields? wholeLength fuel (depth - 1) [] rest).map fun (fields, rest) =>
            (object fields, rest)
    | 't' :: rest => (takeWord? "rue".toList rest).map fun rest => (bool true, rest)
    | 'f' :: rest => (takeWord? "alse".toList rest).map fun rest => (bool false, rest)
    | 'n' :: rest => (takeWord? "ull".toList rest).map fun rest => (null, rest)
    | rest => readNumber? wholeLength rest

/-- Read the items of an array up to its closing bracket. -/
def readItems? (wholeLength : Nat) : (fuel depth : Nat) → Text → Option (List Json × Text)
  | 0, _, _ => none
  | fuel + 1, depth, text => do
    let (item, rest) ← readValue? wholeLength fuel depth text
    match skipBlanks rest with
    | ',' :: rest =>
      let (items, rest) ← readItems? wholeLength fuel depth rest
      return (item :: items, rest)
    | ']' :: rest => return ([item], rest)
    | _ => none

/-- Read the fields of an object up to its closing brace; the last of several fields of one name
    stands. -/
def readFields? (wholeLength : Nat) :
    (fuel depth : Nat) → List (String × Json) → Text → Option (List (String × Json) × Text)
  | 0, _, _, _ => none
  | fuel + 1, depth, fields, text =>
    match skipBlanks text with
    | '"' :: rest => do
      let (name, rest) ← readText? fuel [] rest
      match skipBlanks rest with
      | ':' :: rest =>
        let (value, rest) ← readValue? wholeLength fuel depth rest
        let fields := Table.set name value fields
        match skipBlanks rest with
        | ',' :: rest => readFields? wholeLength fuel depth fields rest
        | '\x7d' :: rest => return (fields, rest)
        | _ => none
      | _ => none
    | _ => none

end

/-- Read a text that holds one value within limits. -/
def readWithin? (limits : Limits) (source : Text) : Option Json := do
  let (value, rest) ← readValue? limits.wholeLength (2 * source.length + 2) limits.depth source
  if (skipBlanks rest).isEmpty then some value else none

/-- Read a text that holds one value. -/
def read? (source : Text) : Option Json :=
  readWithin? ⟨source.length, source.length⟩ source

end Scholia.Json
