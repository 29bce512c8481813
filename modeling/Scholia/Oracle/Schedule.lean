import Scholia.Oracle.Generation

/-! # Asking for many comments at once

Requests overlap as far as the gate allows. They take turns: a call lets a number of turns pass before
it is answered, and in the turn of its answer the request sends its next call, or finishes and lets in
the first of those that wait, whose turn comes next.
-/

namespace Scholia.Oracle.Schedule

variable {σ : Type}

/-- A request under way: how many more calls it may make, and how many it made. -/
structure Job where
  index : Nat
  entry : Registered
  bundle : Bundle
  request : CompletionRequest
  left : Nat
  made : Nat := 0

/-- What is next for a request: to pass the gate, or to receive a reply after some more turns. -/
inductive Turn where
  | start (job : Job)
  | reply (job : Job) (later : Nat)

/-- The response to a request, or why its delay cannot be waited for. -/
abbrev Result := Except Tokens.Overflow Response

/-- All requests. -/
structure State (σ : Type) where
  session : Session σ
  ready : List Turn := []
  waiting : List Job := []
  results : List (Nat × Result) := []

namespace State

/-- Add a turn to the end of the queue. -/
def push (state : State σ) (turn : Turn) : State σ :=
  { state with ready := state.ready ++ [turn] }

def note (state : State σ) (index : Nat) (result : Result) : State σ :=
  { state with results := state.results ++ [(index, result)] }

/-- Leave the gate, and let in the first of those that wait. -/
def leave (state : State σ) : State σ :=
  let state := { state with session := state.session.leave }
  match state.waiting with
  | [] => state
  | job :: rest => { state with waiting := rest, ready := state.ready ++ [.start job] }

def finish (oracle : Oracle) (state : State σ) (job : Job) (response : Response) : State σ :=
  let state := state.leave
  { state with session := oracle.keepComment job.entry job.bundle response state.session }.note
    job.index (.ok response)

/-- Make the next call of a request, which lets a number of turns pass. -/
def call (pause : Nat) (state : State σ) (job : Job) : State σ :=
  { state with session := state.session.send (.completion job.request) }.push
    (.reply { job with left := job.left - 1, made := job.made + 1 } pause)

/-- Finish a request all of whose calls failed. -/
def giveUp (oracle : Oracle) (state : State σ) (job : Job) (last : Option OracleFailure) :
    State σ :=
  finish oracle state job
    (exhausted job.entry.model.id (oracle.retries none) last)

/-- Pass the gate and make the first call. -/
def start (oracle : Oracle) (pause : Nat) (state : State σ) (job : Job) : State σ :=
  let state := { state with session := state.session.enter }
  if job.left = 0 then giveUp oracle state job none else call pause state job

/-- Go on after a failed call: after a delay if there are calls left. -/
def again (oracle : Oracle) (pause : Nat) (state : State σ) (job : Job) (failure : OracleFailure) :
    State σ :=
  if job.left = 0 then giveUp oracle state job (some failure)
  else
    match Retry.delay oracle.settings.retryDelayMs (job.made - 1) with
    | .error reason => state.leave.note job.index (.error reason)
    | .ok seconds => call pause { state with session := state.session.sleep seconds } job

def receive (provider : Provider σ) (oracle : Oracle) (pause : Nat) (state : State σ) (job : Job) :
    State σ :=
  let (reply, session) :=
    state.session.receiveCompletion provider job.entry.endpoint job.request
  let state := { state with session }
  match reply.bind (judge job.entry.model.id) with
  | .ok response => finish oracle state job response
  | .error failure => again oracle pause state job failure

def turn (provider : Provider σ) (oracle : Oracle) (pause : Nat) (state : State σ) : Turn → State σ
  | .start job => start oracle pause state job
  | .reply job 0 => receive provider oracle pause state job
  | .reply job (later + 1) => state.push (.reply job later)

/-- Take turns until none is left; the fuel bounds their number. -/
def run (provider : Provider σ) (oracle : Oracle) (pause : Nat) : Nat → State σ → State σ
  | 0, state => state
  | fuel + 1, state =>
    match state.ready with
    | [] => state
    | next :: rest =>
      run provider oracle pause fuel (turn provider oracle pause { state with ready := rest } next)

/-- Begin a request: it is answered at once, passes the gate, or waits. -/
def begin (oracle : Oracle) (pause : Nat) (state : State σ) (index : Nat) (bundle : Bundle) :
    State σ :=
  match oracle.resolve none generationType with
  | .error reason => state.note index (.ok (.failed reason.message none))
  | .ok entry =>
    match oracle.kept entry bundle {} state.session with
    | (some response, session) => { state with session }.note index (.ok response)
    | (none, session) =>
      let state := { state with session }
      let job : Job :=
        { index, entry, bundle
          request := oracle.commentRequest entry bundle {}
          left := Retry.attempts (oracle.retries none) }
      if session.gate.hasRoom then start oracle pause state job
      else { state with waiting := state.waiting ++ [job] }

/-- Begin requests for all bundles, which are known by their positions. -/
def beginAll (oracle : Oracle) (pause : Nat) (bundles : List Bundle) (session : Session σ) : State σ :=
  bundles.zipIdx.foldl (fun state (bundle, index) => begin oracle pause state index bundle) { session }

end State

/-- The turns that a number of requests can take. -/
def turns (oracle : Oracle) (pause count : Nat) : Nat :=
  count * (Retry.attempts (oracle.retries none) * (pause + 1) + 1)

/-- The state after all turns that requests for comments on some bundles take. -/
def settle (provider : Provider σ) (oracle : Oracle) (pause : Nat) (bundles : List Bundle)
    (session : Session σ) : State σ :=
  State.run provider oracle pause (turns oracle pause bundles.length)
    (State.beginAll oracle pause bundles session)

/-- Ask for comments on all bundles at once: the responses in the order of the bundles, or the
    first reason why a delay cannot be waited for. -/
def generateAll (provider : Provider σ) (oracle : Oracle) (pause : Nat) (bundles : List Bundle)
    (session : Session σ) : Except Tokens.Overflow (List Response) × Session σ :=
  let state := settle provider oracle pause bundles session
  let ordered := state.results.mergeSort fun a b => a.1 ≤ b.1
  let failed := state.results.findSome? fun (_, result) =>
    match result with
    | .error reason => some reason
    | .ok _ => none
  match failed with
  | some reason => (.error reason, state.session)
  | none => (.ok (ordered.filterMap fun (_, result) => result.toOption), state.session)

end Scholia.Oracle.Schedule
