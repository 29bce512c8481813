import Scholia.Run.Batch
import Scholia.Run.Units

/-! # A documentation pass

A pass takes its batches one after another. The files of a batch are documented at the same time,
first come, first served, as far as the number of files under way is bounded: each takes its steps
in turn with the others. The first failure in a batch ends the pass after that batch. The statistics
are finished in any case.
-/

namespace Scholia

/-- A file that was documented, and what came of it. -/
structure Visit where
  path : Path
  result : Except RunFailure Upshot

namespace Visit

/-- Why the file failed. -/
def failure? (visit : Visit) : Option RunFailure :=
  match visit.result with
  | .ok _ => none
  | .error failure => some failure

end Visit

namespace Pass

open RunM

variable {σ : Type}

/-- A file of a batch, and what is left to do for it. -/
structure Job (σ : Type) where
  path : Path
  rest : StepM σ Upshot

namespace Job

/-- A file of which nothing was done yet. -/
def start (plan : Plan σ) (path : Path) : Job σ where
  path
  rest := Units.fileCourse plan path

/-- Nothing is left to do. -/
def isOver (job : Job σ) : Bool :=
  Course.isOver job.rest

/-- Take the next step for the file. -/
def advance (job : Job σ) (world : World σ) : Job σ × World σ :=
  let (rest, world) := Course.advance job.rest world
  ({ job with rest }, world)

/-- Do all that is left to do for the file. -/
def finish (job : Job σ) (world : World σ) : Visit × World σ :=
  let (result, world) := Course.run job.rest world
  (⟨job.path, result⟩, world)

end Job

/-- A batch under way. -/
structure Round (σ : Type) where
  jobs : List (Job σ)
  world : World σ

namespace Round

/-- The file at a position is under way, or may start: there is room for it beside the files before
    it that are not over. -/
def admits (limit : Int) (round : Round σ) (position : Nat) : Bool :=
  ((round.jobs.take position).countP fun job => !job.isOver) < limit

/-- What happens next. A step for a file that is not admitted yet does nothing. -/
def take (limit : Int) (round : Round σ) : Move → Round σ
  | .wait milliseconds =>
    { round with
      world :=
        { round.world with
          session := { round.world.session with now := round.world.session.now + milliseconds } } }
  | .step position =>
    match round.jobs[position]? with
    | none => round
    | some job =>
      if round.admits limit position then
        let (job, world) := job.advance round.world
        { jobs := round.jobs.set position job, world }
      else round

end Round

/-- Do what is left to do for some files, one after another. -/
def finishAll : List (Job σ) → World σ → List Visit × World σ
  | [], world => ([], world)
  | job :: rest, world =>
    let (visit, world) := job.finish world
    let (visits, world) := finishAll rest world
    (visit :: visits, world)

/-- Document the files of a batch, in some order of their steps, and then what is left of them. -/
def processFiles (plan : Plan σ) (moves : List Move) (paths : List Path) (world : World σ) :
    List Visit × World σ :=
  let round := moves.foldl (Round.take plan.filesAtOnce) ⟨paths.map (Job.start plan), world⟩
  finishAll round.jobs round.world

/-- Report that the batch of a number is complete. -/
def report (number : Int) : RunM σ Unit :=
  modify fun world =>
    { world with
      progress := world.progress ++
        [{ batch := number
           total := world.batchTotal
           filesProcessed := world.stats.counts .filesProcessed
           filesTotal := world.stats.counts .filesTotal }] }

/-- Process a batch; batches are counted from zero. -/
def processBatch (plan : Plan σ) (batch : List Path) (index : Int) : RunM σ Unit := do
  let (visits, world) := processFiles plan (plan.moves index) batch (← get)
  set world
  count .batchesProcessed
  report (index + 1)
  match visits.filterMap Visit.failure? with
  | [] => return
  | failure :: _ => throw failure

/-- Process batches, the first of which has a number. -/
def processBatches (plan : Plan σ) : List (List Path) → Int → RunM σ Unit
  | [], _ => return
  | batch :: rest, index => do
    processBatch plan batch index
    processBatches plan rest (index + 1)

/-- Do something, and finish the statistics whether it fails or not. -/
def finishing (action : RunM σ Unit) : RunM σ Unit := do
  let result ← capture action
  modify fun world => { world with stats := world.stats.finish }
  match result with
  | .ok _ => return
  | .error failure => throw failure

def run (plan : Plan σ) (batches : List (List Path)) : RunM σ Unit := do
  modify fun world => { world with batchTotal := batches.length }
  count .batchesTotal batches.length
  count .filesTotal batches.flatten.length
  finishing do
    let _ ← Relations.setUp plan batches.flatten
    processBatches plan batches 0

/-- Pack files into batches by their sizes. -/
def pack (budget : Int) (paths : List Path) : RunM σ (List (List Path)) := do
  let disk := (← get).disk
  match Batch.pack budget (fun path => disk.size path) paths with
  | .ok batches => return batches
  | .error reason => throw (.overflow reason)

end Pass

end Scholia
