/-! # Hooks

Handlers run around each unit, in order of registration. A handler may put another value into the
place of the one it is given, or change that one in place, or fail; the first failure stops the
others.
-/

namespace Scholia

/-- When handlers run. -/
inductive Stage where
  | beforeProcessing
  | afterProcessing
  deriving Repr, DecidableEq, BEq

namespace Stage

def label : Stage → String
  | beforeProcessing => "before_processing"
  | afterProcessing => "after_processing"

/-- A word is not the word for a stage. -/
structure Unknown where
  word : String
  deriving Repr, DecidableEq

def Unknown.message (unknown : Unknown) : String :=
  s!"Unknown hook: {unknown.word}"

/-- The stage that a word stands for. -/
def ofLabel (word : String) : Except Unknown Stage :=
  if word = beforeProcessing.label then .ok beforeProcessing
  else if word = afterProcessing.label then .ok afterProcessing
  else .error ⟨word⟩

end Stage

/-- What a handler answers. -/
inductive Reaction (α : Type) where
  | keep
  | replace (value : α)
  | fail (message : String)

/-- A handler: what it makes of a value in place, and what it answers. -/
structure Handler (α : Type) where
  name : String
  run : α → α × Reaction α

/-- A handler failed. -/
structure HookFailure where
  stage : Stage
  handler : String
  reason : String
  deriving Repr, DecidableEq

def HookFailure.message (failure : HookFailure) : String :=
  s!"Hook {failure.stage.label} handler {failure.handler} failed: {failure.reason}"

namespace Handler

variable {α : Type}

/-- What came of running handlers: the names of those that ran, the value given to the first one
    as it is now, and the value of the last one or the failure. -/
structure Outcome (α : Type) where
  ran : List String
  given : α
  result : Except HookFailure α

/-- Run handlers on the value given to the first one, and on the current value from the first one
    that replaces it. -/
def runFrom (stage : Stage) : List (Handler α) → α → Option α → Outcome α
  | [], given, current => ⟨[], given, .ok (current.getD given)⟩
  | handler :: rest, given, current =>
    let (changed, reaction) := handler.run (current.getD given)
    let given := if current.isSome then given else changed
    let current := current.map fun _ => changed
    match reaction with
    | .fail reason => ⟨[handler.name], given, .error ⟨stage, handler.name, reason⟩⟩
    | .keep =>
      let outcome := runFrom stage rest given current
      { outcome with ran := handler.name :: outcome.ran }
    | .replace value =>
      let outcome := runFrom stage rest given (some value)
      { outcome with ran := handler.name :: outcome.ran }

def runAll (stage : Stage) (handlers : List (Handler α)) (value : α) : Outcome α :=
  runFrom stage handlers value none

end Handler

/-- The handlers of both stages, and the names of those to notify of errors. -/
structure Hooks (α β : Type) where
  before : List (Handler α) := []
  after : List (Handler β) := []
  callbacks : List String := []

end Scholia
