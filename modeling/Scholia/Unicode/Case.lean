import Scholia.Unicode.CaseTable

/-! # Upper and lower case

Full case conversion of text. Only the capital sigma depends on its neighbours: at the end of a
word its lower case has a form of its own.
-/

namespace Scholia.Unicode

/-- Map one character through expansions first and runs second. -/
private def mapCase (expansions : List (Nat × List Nat)) (runs : List CaseRun) (c : Char) :
    List Char :=
  match expansions.find? (·.1 == c.toNat) with
  | some (_, codes) => codes.map Char.ofNat
  | none =>
    match runs.findSome? (·.target? c.toNat) with
    | some code => [Char.ofNat code]
    | none => [c]

/-- The lower case of a character that stands alone. -/
def lowerChar (c : Char) : List Char :=
  if c.toNat < 0x80 then [c.toLower] else mapCase lowerExpansions lowerRuns c

def upperChar (c : Char) : List Char :=
  if c.toNat < 0x80 then [c.toUpper] else mapCase upperExpansions upperRuns c

/-- The nearest character that case conversion does not skip is a letter with case. -/
def meetsCased (text : List Char) : Bool :=
  match text.find? (fun c => !caseIgnorableRanges.holds c.toNat) with
  | some c => casedRanges.holds c.toNat
  | none => false

/-- Lower case of the rest of a text, given what stands before it in reverse. -/
def lowerAfter : List Char → List Char → List Char
  | _, [] => []
  | before, c :: rest =>
    let lowered :=
      if c = 'Σ' then
        [if meetsCased before && !meetsCased rest then 'ς' else 'σ']
      else
        lowerChar c
    lowered ++ lowerAfter (c :: before) rest

def lower (text : String) : String :=
  String.ofList (lowerAfter [] text.toList)

def upper (text : String) : String :=
  String.ofList (text.toList.flatMap upperChar)

end Scholia.Unicode
