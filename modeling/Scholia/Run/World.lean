import Scholia.Context.Extractor
import Scholia.Oracle.Embedding
import Scholia.Oracle.Generation
import Scholia.Run.Feature
import Scholia.Run.Hook
import Scholia.Run.Statistics
import Scholia.Source.Reader

/-! # The world of a run

A run changes files, its statistics and features, the session with the provider and the index of
embedded declarations. It is a computation on all of these that may fail, and what was changed
before a failure stays changed.
-/

namespace Scholia

/-- Why a run or a part of it fails. -/
inductive RunFailure where
  | hook (failure : HookFailure)
  /-- The oracle gave no comment for a reason. -/
  | declined (reason : String)
  | oracle (failure : OracleFailure)
  | embedding (failure : OracleFailure)
  | unsaved (path : Path) (fault : Disk.Fault)
  | statistics (refusal : Statistics.Refusal)
  | setup (fault : Oracle.Fault)
  | fileGate (fault : Gate.TooNarrow)
  | cacheAge (fault : Number.NotFinite)
  | overflow (reason : Tokens.Overflow)
  /-- Declarations cannot be embedded zero at a time. -/
  | emptyBatches
  deriving Repr, DecidableEq

def RunFailure.message : RunFailure → String
  | hook failure => failure.message
  | declined reason => reason
  | oracle failure => failure.message
  | embedding failure => s!"Embedding batch failed: {failure.message}"
  | unsaved path fault => s!"Failed to save {path.toString}: {fault.message path}"
  | statistics refusal => refusal.message
  | setup fault => fault.message
  | fileGate fault => fault.message
  | cacheAge fault => fault.message
  | overflow reason => reason.message
  | emptyBatches => "range() arg 3 must not be zero"

/-- A declaration in the index, with its vector. -/
structure EmbeddedNode where
  id : String
  name : String
  kind : String
  filePath : String
  snippet : String
  vector : List Float

/-- A callback was told of a failure of one unit. -/
structure Notice where
  callback : String
  failure : RunFailure
  unitId : String

/-- A batch was completed. -/
structure Progress where
  batch : Int
  total : Nat
  filesProcessed : Int
  filesTotal : Int
  deriving Repr, DecidableEq

def Progress.message (progress : Progress) : String :=
  s!"Completed batch {progress.batch}/{progress.total}"

/-- What a run changes. -/
structure World (σ : Type) where
  session : Session σ
  disk : Disk
  /-- Where the cache is on disk. -/
  cachePlace : Option (List String) := none
  /-- The file of the query log. -/
  logPath : Option Path := none
  stats : Statistics := {}
  features : Features
  extractor : Extractor
  nodes : Table EmbeddedNode := []
  notices : List Notice := []
  progress : List Progress := []
  /-- The number of batches of the run under way. -/
  batchTotal : Nat := 0

/-- What happens next while the files of a batch are documented: a step for the file at a position, or
    nothing for some time. -/
inductive Move where
  | step (position : Nat)
  | wait (milliseconds : Nat)
  deriving Repr, DecidableEq

/-- What stays the same in a run. -/
structure Plan (σ : Type) where
  provider : Provider σ
  oracle : Oracle
  reader : SourceReader
  reconciler : Reconciler
  /-- The handlers as they are in a world: what they do may depend on all that happened so far. -/
  hooks : World σ → Hooks Bundle Text := fun _ => {}
  embedding : EmbeddingSettings := {}
  /-- Related declarations can be looked for. -/
  relates : Bool := true
  /-- No file is written. -/
  dryRun : Bool := false
  /-- The number of files that may be under way at a time. -/
  filesAtOnce : Int := 4
  /-- The order in which the files of a batch take their steps, as far as it is known. What is left
      of them then is done file by file. -/
  moves : Int → List Move := fun _ => []

/-- A part of a run. -/
abbrev RunM (σ : Type) := ExceptT RunFailure (StateM (World σ))

namespace RunM

variable {σ α : Type}

/-- The directory of the cache as it is on disk. -/
def cacheDirectory (world : World σ) : Directory :=
  match world.cachePlace with
  | some place => world.disk.directory place
  | none => .missing

/-- Keep the directory of the cache on disk. -/
def keepCache (disk : Disk) (place : Option (List String)) (directory : Directory) : Disk :=
  match place with
  | some place => disk.keep place directory
  | none => disk

/-- Write entries of the query log to disk, one a line. -/
def keepLog (disk : Disk) (path : Option Path) (entries : List Json) : Disk :=
  match path, entries with
  | some path, first :: rest =>
    disk.append path (Utf8.encode ((first :: rest).flatMap fun entry => Json.write entry ++ ['\n']))
  | _, _ => disk

/-- The session, with the directory of the cache as it is on disk. -/
def atCache (world : World σ) : Session σ :=
  { world.session with directory := cacheDirectory world }

/-- The world after requests that ended with a session: the cache and the query log are on disk. -/
def settled (world : World σ) (session : Session σ) : World σ :=
  let disk := keepCache world.disk world.cachePlace session.directory
  let entries := session.log.drop world.session.log.length
  { world with session, disk := keepLog disk world.logPath entries }

/-- Make requests, with the cache and the query log on disk. -/
def onSession (action : Session σ → α × Session σ) : RunM σ α := do
  let world ← get
  let (value, session) := action (atCache world)
  set (settled world session)
  return value

/-- Change the statistics, if they are open. -/
def changeStats (change : Statistics → Except Statistics.Refusal Statistics) : RunM σ Unit := do
  let world ← get
  match change world.stats with
  | .ok stats => set { world with stats }
  | .error refusal => throw (.statistics refusal)

def count (counter : Counter) (amount : Int := 1) : RunM σ Unit :=
  changeStats fun stats => stats.increment counter amount

def record (entry : ErrorRecord) : RunM σ Unit :=
  changeStats fun stats => stats.recordError entry

def degrade (feature : Feature) (reason : String) : RunM σ Unit :=
  modify fun world => { world with features := world.features.degrade feature reason }

def notify (plan : Plan σ) (failure : RunFailure) (unitId : String) : RunM σ Unit :=
  modify fun world =>
    { world with
      notices := world.notices ++ (plan.hooks world).callbacks.map fun callback =>
        { callback, failure, unitId } }

def openSource (plan : Plan σ) (path : Path) : RunM σ (Except SourceFault Document) := do
  return plan.reader.open? (← get).disk path

def capture (action : RunM σ α) : RunM σ (Except RunFailure α) :=
  ExceptT.mk do return .ok (← action.run)

end RunM

/-- A part of a run that may be interrupted. -/
abbrev StepM (σ : Type) := ExceptT RunFailure (Course (World σ))

namespace StepM

variable {σ α : Type}

/-- Do a part of a run in one step. -/
def atOnce (action : RunM σ α) : StepM σ α :=
  ExceptT.mk (Course.once action.run)

/-- Go through all steps without an interruption. -/
def inOneGo (steps : StepM σ α) : RunM σ α :=
  ExceptT.mk (ExceptT.run steps).run

end StepM

/-- The steps of a request, each with the cache and the query log on disk. -/
def Course.onSession {σ α : Type} : Course (Session σ) α → Course (World σ) α
  | ended value => ended value
  | step act next =>
    step (fun world => RunM.settled world (act (RunM.atCache world))) fun world =>
      onSession (next (RunM.atCache world))

/-- Ask for a comment on the declaration of a bundle. -/
def Plan.inquiry {σ : Type} (plan : Plan σ) (bundle : Bundle) :
    StepM σ (Except Tokens.Overflow Response) :=
  ExceptT.lift (plan.oracle.course plan.provider bundle {}).onSession

end Scholia
