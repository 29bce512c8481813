import Scholia.Course
import Scholia.Oracle.Session

/-! # Trying again

A request is tried a bounded number of times. Before each further attempt there is a delay, which
doubles from one to the next.
-/

namespace Scholia.Retry

variable {σ α : Type}

/-- The delay after a failed attempt, in seconds: the attempts are counted from zero. -/
def delay (baseMs : Int) (attempt : Nat) : Except Tokens.Overflow Float :=
  match Binary64.ofQuotient? (baseMs * Binary64.twoTo attempt) 1000 with
  | some seconds => .ok seconds
  | none => .error .quotient

/-- The number of attempts for a number of retries. -/
def attempts (retries : Int) : Nat :=
  (retries + 1).toNat

/-- What came of trying: a value, or the last failure, or a delay that cannot be waited for. -/
inductive Result (α : Type) where
  | done (value : α)
  | gaveUp (last : Option OracleFailure)
  | overflow (reason : Tokens.Overflow)

/-- Try at most `left` times more, the next attempt having a number and the last one a failure. -/
def course (baseMs : Int) (attempt : Course (Session σ) (Except OracleFailure α)) :
    (left number : Nat) → Option OracleFailure → Course (Session σ) (Result α)
  | 0, _, last => return .gaveUp last
  | left + 1, number, _ => do
    match ← attempt with
    | .ok value => return .done value
    | .error failure =>
      if left = 0 then return .gaveUp (some failure)
      else
        match delay baseMs number with
        | .error reason => return .overflow reason
        | .ok seconds =>
          Course.once fun session => ((), session.sleep seconds)
          course baseMs attempt left (number + 1) (some failure)

/-- Try without an interruption. -/
def run (baseMs : Int) (attempt : Session σ → Except OracleFailure α × Session σ)
    (left number : Nat) (last : Option OracleFailure) (session : Session σ) :
    Result α × Session σ :=
  (course baseMs (Course.once attempt) left number last).run session

end Scholia.Retry
