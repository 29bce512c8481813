import Scholia.Json.Basic
import Scholia.Numeral

/-! # Fields with defaults

Records are read from JSON objects leniently: a field that is missing or of another type counts as
not given.
-/

namespace Scholia.Json

/-- The field of an object, or null. -/
def get (value : Json) (name : String) : Json :=
  (value.field? name).getD null

def items : Json → List Json
  | array items => items
  | _ => []

/-- The item of an array at a position, or null. -/
def item (value : Json) (index : Nat) : Json :=
  value.items.getD index null

def fields : Json → List (String × Json)
  | object fields => fields
  | _ => []

def text? : Json → Option String
  | str value => some value
  | _ => none

def flag? : Json → Option Bool
  | bool value => some value
  | _ => none

def int? : Json → Option Int
  | int value => some value
  | _ => none

/-- A number of either kind. -/
def number? : Json → Option Number
  | int value => some (.int value)
  | float value => some (.float value)
  | _ => none

def list? : Json → Option (List Json)
  | array items => some items
  | _ => none

/-- A text, empty if it is none. -/
def text (value : Json) : String :=
  value.text?.getD ""

def chars (value : Json) : List Char :=
  value.text.toList

/-- The characters of a text, if it is one. -/
def chars? (value : Json) : Option (List Char) :=
  value.text?.map String.toList

/-- A number as a floating-point number, zero if it is none. -/
def toFloat (value : Json) : Float :=
  (value.number?.map Number.toFloat).getD 0

def toVector (value : Json) : List Float :=
  value.items.map toFloat

def toTexts (value : Json) : List String :=
  value.items.map text

def textAt (value : Json) (name : String) (default : String := "") : String :=
  (value.get name).text?.getD default

def flagAt (value : Json) (name : String) (default : Bool := false) : Bool :=
  (value.get name).flag?.getD default

def intAt (value : Json) (name : String) (default : Int := 0) : Int :=
  (value.get name).int?.getD default

def numberAt (value : Json) (name : String) (default : Number) : Number :=
  (value.get name).number?.getD default

/-- The items of a list in a field. -/
def itemsAt (value : Json) (name : String) : List Json :=
  (value.get name).items

def ofChars (text : List Char) : Json :=
  str (String.ofList text)

def ofNumber : Number → Json
  | .int value => int value
  | .float value => float value

def ofVector (vector : List Float) : Json :=
  array (vector.map float)

def ofOption {α : Type} (write : α → Json) : Option α → Json
  | some value => write value
  | none => null

end Scholia.Json
