import Scholia.Table

/-! # JSON values

Integers and floating-point numbers are kept apart, and the fields of an object keep their order.
-/

namespace Scholia

/-- A JSON value. -/
inductive Json where
  | null
  | bool (value : Bool)
  | int (value : Int)
  | float (value : Float)
  | str (value : String)
  | array (items : List Json)
  | object (fields : List (String × Json))
  deriving Inhabited

namespace Json

def field? (name : String) : Json → Option Json
  | object fields => Table.get? name fields
  | _ => none

def texts (items : List String) : Json :=
  array (items.map str)

/-- A text, or null where there is none. -/
def textOrNull : Option String → Json
  | some value => str value
  | none => null

/-! ## Sizes

A reader may take numbers of a bounded length only, and arrays and objects that lie in each other
up to a bounded depth, where an empty array or object needs no depth.
-/

/-- What a reader takes: the most characters of the whole part of a number, its sign included, and
    the greatest depth. -/
structure Limits where
  wholeLength : Nat
  depth : Nat
  deriving Repr, DecidableEq

mutual

/-- How many arrays and objects lie in each other, empty ones included. -/
def levels : Json → Nat
  | array items => levelsOfItems items + 1
  | object fields => levelsOfFields fields + 1
  | _ => 0

def levelsOfItems : List Json → Nat
  | [] => 0
  | item :: items => max (levels item) (levelsOfItems items)

def levelsOfFields : List (String × Json) → Nat
  | [] => 0
  | (_, value) :: fields => max (levels value) (levelsOfFields fields)

end

end Json

end Scholia
