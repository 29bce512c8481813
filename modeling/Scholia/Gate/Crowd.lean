import Scholia.Gate

/-! # Tasks at a gate

Tasks come to a gate in any order. One that finds no room waits until it is notified, and then looks
again whether there is room. One that leaves notifies the first of those that wait; until that one
looks, others may come and take the room.
-/

namespace Scholia.Gate

/-- A gate with the tasks at it. A task that comes again while it is inside counts as another one. -/
structure Crowd (τ : Type) where
  gate : Gate
  /-- Those that wait and are not notified, first come first. -/
  waiting : List τ := []
  /-- Those that are notified and have not looked again. -/
  notified : List τ := []
  holders : List τ := []

/-- How the work of a holder ends. -/
inductive Ending where
  | returned
  | raised
  deriving Repr, DecidableEq

/-- What a task does at the gate. -/
inductive Move (τ : Type) where
  | come (task : τ)
  | look (task : τ)
  | leave (task : τ) (ending : Ending)

namespace Crowd

variable {τ : Type}

/-- All tasks at the gate. -/
def tasks (crowd : Crowd τ) : List τ :=
  crowd.waiting ++ (crowd.notified ++ crowd.holders)

/-- A task goes in if there is room, and waits otherwise. -/
def receive (crowd : Crowd τ) (task : τ) : Crowd τ :=
  if crowd.gate.hasRoom then
    { crowd with gate := crowd.gate.enter, holders := task :: crowd.holders }
  else { crowd with waiting := crowd.waiting ++ [task] }

/-- Notify the first of those that wait. -/
def notify (crowd : Crowd τ) : Crowd τ :=
  match crowd.waiting with
  | [] => crowd
  | first :: rest => { crowd with waiting := rest, notified := first :: crowd.notified }

/-- One of the tasks does something; the others stay as they are. -/
inductive Step [DecidableEq τ] : Crowd τ → Move τ → Crowd τ → Prop where
  | come {crowd : Crowd τ} {task : τ} (outside : task ∉ crowd.tasks) :
      Step crowd (.come task) (crowd.receive task)
  | look {crowd : Crowd τ} {task : τ} (notified : task ∈ crowd.notified) :
      Step crowd (.look task)
        ({ crowd with notified := crowd.notified.erase task }.receive task)
  | leave {crowd : Crowd τ} {task : τ} (ending : Ending) (inside : task ∈ crowd.holders) :
      Step crowd (.leave task ending)
        { crowd with gate := crowd.gate.leave, holders := crowd.holders.erase task }.notify

/-- A crowd comes about at a gate that was open to all, through the crowds of the past; the latest
    of these is the first of the list. -/
inductive Course [DecidableEq τ] (gate : Gate) : Crowd τ → List (Crowd τ) → Prop where
  | opened : Course gate { gate } []
  | next {crowd after : Crowd τ} {past : List (Crowd τ)} {move : Move τ}
      (before : Course gate crowd past) (step : Step crowd move after) :
      Course gate after (crowd :: past)

end Crowd

end Scholia.Gate
