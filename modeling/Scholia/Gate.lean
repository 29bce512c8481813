import Scholia.Table

/-! # A gate of bounded width

A gate admits a bounded number of holders at a time. Those that find no room wait, and are admitted
first come, first served.
-/

namespace Scholia

/-- A gate: its width, the number of holders, and the greatest number of them so far. -/
structure Gate where
  limit : Int
  active : Int := 0
  peak : Int := 0
  deriving Repr, DecidableEq

namespace Gate

/-- A gate has no room for anyone. -/
structure TooNarrow where
  limit : Int
  deriving Repr, DecidableEq

/-- The message of a gate without room. -/
def TooNarrow.message (fault : TooNarrow) : String :=
  s!"Gate limit must be at least 1, got {fault.limit}"

def ofLimit (limit : Int) : Except TooNarrow Gate :=
  if limit < 1 then .error ⟨limit⟩ else .ok { limit }

def hasRoom (gate : Gate) : Bool :=
  gate.active < gate.limit

def enter (gate : Gate) : Gate :=
  { gate with active := gate.active + 1, peak := max gate.peak (gate.active + 1) }

def leave (gate : Gate) : Gate :=
  { gate with active := gate.active - 1 }

/-- Someone who comes to a gate. A guest stays until a signal is given, all others until the gate is
    left for them. -/
structure Visitor where
  name : String
  isGuest : Bool
  deriving Repr, DecidableEq

/-- A signal to the guests of one name: its number among those of the name, and whether it was
    given. -/
structure Signal where
  number : Nat
  isGiven : Bool := false
  deriving Repr, DecidableEq

/-- A gate with those who came to it. -/
structure Line where
  gate : Gate
  waiting : List Visitor := []
  /-- Who was admitted, in order. -/
  admitted : List String := []
  /-- The guests that are inside, and the numbers of the signals that they heed. -/
  inside : List (String × Nat) := []
  /-- The last signal to the guests of each name. -/
  signals : Table Signal := []

namespace Line

/-- The last signal to the guests of a name. -/
def signal (line : Line) (name : String) : Signal :=
  (line.signals.get? name).getD ⟨0, false⟩

/-- Admit a visitor. A guest heeds the last signal to its name. -/
def letIn (line : Line) (visitor : Visitor) : Line :=
  { line with
    gate := line.gate.enter
    admitted := line.admitted ++ [visitor.name]
    inside :=
      if visitor.isGuest then line.inside ++ [(visitor.name, (line.signal visitor.name).number)]
      else line.inside }

/-- Agree with a guest on a new signal. -/
def agree (line : Line) (visitor : Visitor) : Line :=
  if visitor.isGuest then
    { line with
      signals := line.signals.set visitor.name ⟨(line.signal visitor.name).number + 1, false⟩ }
  else line

def arrive (line : Line) (visitor : Visitor) : Line :=
  let line := line.agree visitor
  if line.gate.hasRoom then line.letIn visitor
  else { line with waiting := line.waiting ++ [visitor] }

/-- Admit the first of those who wait, if there is room. A guest whose signal was given already
    leaves at once, which lets the next one in. -/
def admitNext (line : Line) : List Visitor → Line
  | [] => { line with waiting := [] }
  | visitor :: rest =>
    if line.gate.hasRoom then
      if visitor.isGuest && (line.signal visitor.name).isGiven then
        admitNext
          { line with
            gate := line.gate.enter.leave
            admitted := line.admitted ++ [visitor.name] } rest
      else { line.letIn visitor with waiting := rest }
    else { line with waiting := visitor :: rest }

def depart (line : Line) : Line :=
  admitNext { line with gate := line.gate.leave } line.waiting

/-- Give the last signal to the guests of a name: those inside that heed it leave, one by one. -/
def dismiss (line : Line) (name : String) : Line :=
  let signal := line.signal name
  let (leaving, inside) := line.inside.partition (· = (name, signal.number))
  let line := { line with inside, signals := line.signals.set name { signal with isGiven := true } }
  leaving.foldl (fun line _ => line.depart) line

end Line

end Gate

end Scholia
