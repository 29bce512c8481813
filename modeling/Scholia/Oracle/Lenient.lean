import Scholia.Cache.Entry
import Scholia.Json.Fields
import Scholia.Json.Printer
import Scholia.Json.Reader
import Scholia.Oracle.Response
import Scholia.Text.Lines
import Scholia.Utf8

/-! # A lenient codec

One way to keep entries and responses, for runs of the whole and for examples: they are JSON objects
without spaces, and are read leniently. Fields of other names are passed over, a truth value may be
a word, and the time of an entry is a whole number in any form: an integer, a floating-point number
without fraction, a truth value, or a text, which may have blanks around the number, a sign, zeros
in front, single underscores inside, and a fraction of zeros. What is proved of caches holds of any
codec and any form.
-/

namespace Scholia.Lenient

/-! ## Times -/

/-- Integers that a floating-point number may stand for lie strictly within these bounds. -/
def wordBound : Int := Binary64.twoTo 63

/-- The whole number that a floating-point number is equal to. -/
def wholeOfFloat? (x : Float) : Option Int :=
  let n := Binary64.truncate x
  if Binary64.isNaN x || Binary64.isInfinite x || !Binary64.isWhole x then none
  else if -wordBound < n && n < wordBound then some n
  else none

/-- The most characters that a number may have, its sign included and the zeros in front of it
    left off. -/
def maxLength : Nat := 4300

/-- Take the sign off a text; a plus in front of a minus is none. -/
def takeSign : Text → Text × Text
  | '-' :: rest => (['-'], rest)
  | '+' :: '-' :: rest => ([], '+' :: '-' :: rest)
  | '+' :: rest => ([], rest)
  | text => ([], text)

/-- A digit other than zero. -/
def isLeading (c : Char) : Bool :=
  c.isDigit && c != '0'

/-- Drop zeros and underscores up to the first digit of the number or to its minus; the last of
    them stays in front of a point, and if nothing follows. -/
def afterZeros? (last : Char) : Text → Option Text
  | [] => some [last]
  | c :: rest =>
    if c = '0' || c = '_' then afterZeros? c rest
    else if c = '.' then some (last :: c :: rest)
    else if c = '-' || isLeading c then some (c :: rest)
    else none

/-- Drop the zeros in front of a number. -/
def dropZeros? : Text → Option Text
  | [] => none
  | c :: rest =>
    if c = '0' then afterZeros? c rest
    else if isLeading c then some (c :: rest)
    else none

/-- Drop a fraction that consists of zeros. -/
def dropFraction (text : Text) : Text :=
  match text.span (· != '.') with
  | (whole, '.' :: '0' :: zeros) => if zeros.all (· = '0') then whole else text
  | _ => text

/-- Drop the underscores between digits, none of which may follow another one. -/
def dropUnderscores? (text : Text) : Option Text :=
  let groups := Text.splitAt '_' text
  if groups.any (·.isEmpty) then none else some groups.flatten

def timeOfText? (text : Text) : Option Int := do
  let (sign, body) := takeSign (Numeral.trim text)
  let digits ← dropUnderscores? (dropFraction (← dropZeros? body))
  match Json.readNumber? maxLength (sign ++ digits) with
  | some (.int n, []) => some n
  | _ => none

/-- The time that a value stands for. -/
def time? : Json → Option Int
  | .int n => some n
  | .bool b => some (if b then 1 else 0)
  | .float x => wholeOfFloat? x
  | .str s => timeOfText? s.toList
  | _ => none

/-! ## Entries -/

mutual

/-- The value with null in place of each number that is not finite, which has no JSON text. -/
def finiteOnly : Json → Json
  | .float x => if Binary64.isNaN x || Binary64.isInfinite x then .null else .float x
  | .array items => .array (finiteItems items)
  | .object fields => .object (finiteFields fields)
  | value => value

/-- The items of an array with null in place of numbers that are not finite. -/
def finiteItems : List Json → List Json
  | [] => []
  | item :: items => finiteOnly item :: finiteItems items

/-- The fields of an object with null in place of numbers that are not finite. -/
def finiteFields : List (String × Json) → List (String × Json)
  | [] => []
  | (name, value) :: fields => (name, finiteOnly value) :: finiteFields fields

end

def entryJson (entry : Cache.Entry) : Json :=
  .object
    [("data", finiteOnly entry.data), ("timestamp", .int entry.timestamp),
      ("version", .str entry.version), ("hash", .str entry.hash)]

/-- Read a digest, which may be left out. -/
def readHash? (value : Json) : Option String :=
  match value.field? "hash" with
  | none => some ""
  | some (.str hash) => some hash
  | some _ => none

def entryOf? (value : Json) : Option Cache.Entry := do
  let data ← value.field? "data"
  let timestamp ← time? (← value.field? "timestamp")
  let hash ← readHash? value
  match value.field? "version" with
  | some (.str version) => return { data, timestamp, version, hash }
  | _ => none

/-- The longest numbers and the deepest values that an entry is read with. -/
def readable : Json.Limits := ⟨4300, 200⟩

/-- The most levels of a value that is written. -/
def maxLevels : Nat := 254

def codec : Cache.Codec where
  write entry :=
    if maxLevels < entry.data.levels then none
    else some (Utf8.encode (Json.writeCompact (entryJson entry)))
  read content :=
    match Utf8.decode content with
    | .ok text => (Json.readWithin? readable text).bind entryOf?
    | .error _ => none

/-! ## Responses -/

def responseJson (response : Response) : Json :=
  .object
    [("status", .str response.status.label), ("content", .textOrNull response.content),
      ("reason", .textOrNull response.reason), ("model_id", .textOrNull response.modelId),
      ("cached", .bool response.cached)]

def trueWords : List String := ["1", "t", "y", "on", "yes", "true"]

def falseWords : List String := ["0", "f", "n", "off", "no", "false"]

/-- The truth value that a value stands for. -/
def truth? : Json → Option Bool
  | .bool b => some b
  | .int 0 => some false
  | .int 1 => some true
  | .float x =>
    if Binary64.magnitudeBits x = 0 then some false
    else if Binary64.bits x = Binary64.bits 1.0 then some true
    else none
  | .str word =>
    let word := String.ofList (word.toList.map Char.toLower)
    if trueWords.contains word then some true
    else if falseWords.contains word then some false
    else none
  | _ => none

/-- A text that may be left out or null. -/
def readText? (record : Json) (name : String) : Option (Option String) :=
  match record.field? name with
  | none | some .null => some none
  | some (.str text) => some (some text)
  | some _ => none

def readResponse? (record : Json) : Option Response := do
  let status ← ResponseStatus.ofLabel? (← (← record.field? "status").text?)
  let content ← readText? record "content"
  let reason ← readText? record "reason"
  let modelId ← readText? record "model_id"
  let cached ← truth? ((record.field? "cached").getD (.bool false))
  return { status, content, reason, modelId, cached }

def form : Response.Form where
  write := responseJson
  read := readResponse?

end Scholia.Lenient
