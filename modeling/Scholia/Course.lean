/-! # Courses of steps

What is done on a state step by step may be interrupted between the steps, and others may change the
state meanwhile. A course is what is left to do: nothing, with a value to show for it, or a step and
what is left after it.
-/

namespace Scholia

/-- What is left to do on a state. A step, and what is left after it, go by the state that the step
    is taken in. -/
inductive Course (ω α : Type) where
  | ended (value : α)
  | step (act : ω → ω) (next : ω → Course ω α)

namespace Course

variable {ω α β : Type}

def bind : Course ω α → (α → Course ω β) → Course ω β
  | ended value, rest => rest value
  | step act next, rest => step act fun state => bind (next state) rest

instance : Monad (Course ω) where
  pure := ended
  bind := bind

/-- The course of one step. -/
def once (action : ω → α × ω) : Course ω α :=
  step (fun state => (action state).2) fun state => ended (action state).1

/-- Nothing is left to do. -/
def isOver : Course ω α → Bool
  | ended _ => true
  | step _ _ => false

/-- Take one step, if there is one left. -/
def advance : Course ω α → ω → Course ω α × ω
  | ended value, state => (ended value, state)
  | step act next, state => (next state, act state)

/-- Take all steps that are left, one right after another. -/
def run : Course ω α → ω → α × ω
  | ended value, state => (value, state)
  | step act next, state => run (next state) (act state)

end Course

end Scholia
