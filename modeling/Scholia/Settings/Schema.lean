import Scholia.Numeral
import Scholia.Settings.Ini

/-! # Options with a type and a range

Each option of a settings file has a type. Numbers have bounds, which a value that is given has to
keep; the text of other options is taken as it is.
-/

namespace Scholia.Settings

/-- Why settings are refused. -/
inductive Fault where
  | noWorkspace
  | file (fault : Ini.Fault)
  | notANumber (name key : String) (raw : Text) (type : String)
  | belowLeast (name key value least : String)
  | aboveGreatest (name key value greatest : String)
  | incompleteModel (name : String)
  | unknownModelType (name type : String)
  deriving Repr, DecidableEq

/-- The message of a fault, the file being the one at a path. -/
def Fault.message (path : Path) : Fault → String
  | noWorkspace => "WORKSPACE_PATH environment variable must be set"
  | file fault => fault.message path
  | notANumber name key raw type =>
    s!"Invalid value for [{name}].{key}: {String.ofList (Text.quoted raw)} (expected {type})"
  | belowLeast name key value least =>
    s!"Value for [{name}].{key} is {value}, but minimum is {least}"
  | aboveGreatest name key value greatest =>
    s!"Value for [{name}].{key} is {value}, but maximum is {greatest}"
  | incompleteModel name => s!"[{name}] requires a model id, provider and model"
  | unknownModelType name type =>
    s!"[{name}].type is {quote type}, expected one of ('generation', 'embedding')"

/-- The bounds of a number. -/
structure Range (α : Type) where
  least : Option α := none
  greatest : Option α := none

namespace Range

variable {α : Type}

/-- The number keeps the bounds, given which number is less than which. -/
def admits (lt : α → α → Bool) (range : Range α) (value : α) : Bool :=
  range.least.all (fun least => !lt value least) &&
    range.greatest.all (fun greatest => !lt greatest value)

/-- The number, or how it breaks the bounds of an option. -/
def check (lt : α → α → Bool) (text : α → String) (name key : String) (range : Range α)
    (value : α) : Except Fault α :=
  match range.least.filter (lt value), range.greatest.filter (lt · value) with
  | some least, _ => .error (.belowLeast name key (text value) (text least))
  | none, some greatest => .error (.aboveGreatest name key (text value) (text greatest))
  | none, none => .ok value

end Range

/-- An option that is a number with bounds. -/
structure Bounded (α : Type) where
  key : String
  range : Range α := {}

/-- A section of a file, which need not be there. -/
structure Reader where
  file : Ini.File
  name : String

namespace Reader

def text? (reader : Reader) (key : String) : Except Fault (Option Text) :=
  (reader.file.value? reader.name key).mapError .file

def trueWords : List String := ["true", "1", "yes", "on"]

def flag (reader : Reader) (key : String) (default : Bool) : Except Fault Bool := do
  match ← reader.text? key with
  | none => return default
  | some raw => return trueWords.contains (Unicode.lower (String.ofList (Text.trim raw)))

def string? (reader : Reader) (key : String) : Except Fault (Option String) :=
  (reader.text? key).map fun raw => raw.map String.ofList

/-- The items between commas, trimmed, empty ones left out. -/
def list? (reader : Reader) (key : String) : Except Fault (Option (List String)) := do
  match ← reader.text? key with
  | none => return none
  | some raw =>
    let items := (Text.splitAt ',' raw).map Text.trim
    return some ((items.filter fun item => !item.isEmpty).map String.ofList)

/-- A number that is read in some way, and checked against its bounds. -/
def number? {α : Type} (read? : Text → Option α) (type : String) (lt : α → α → Bool)
    (text : α → String) (reader : Reader) (option : Bounded α) : Except Fault (Option α) := do
  match ← reader.text? option.key with
  | none => return none
  | some raw =>
    match read? raw with
    | none => .error (.notANumber reader.name option.key raw type)
    | some value => (option.range.check lt text reader.name option.key value).map some

def int? (reader : Reader) (option : Bounded Int) : Except Fault (Option Int) :=
  number? Numeral.readInt? "int" (fun a b => decide (a < b))
    (fun n => String.ofList (Binary64.intText n)) reader option

def float? (reader : Reader) (option : Bounded Float) : Except Fault (Option Float) :=
  number? Numeral.readFloat? "float" Binary64.lt Binary64.text reader option

end Reader

end Scholia.Settings
