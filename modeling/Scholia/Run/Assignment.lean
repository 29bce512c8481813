import Scholia.Run.Pass
import Scholia.Settings.Load

/-! # Documenting files

An assignment says what files to document and how. The cache and the oracle are set up first, and
optional features that cannot be had are switched off; then all files are documented in one pass.
-/

namespace Scholia

/-- What documentation is asked for. -/
structure Assignment (σ : Type) where
  settings : Settings
  options : RunOptions := {}
  packages : List Package := []
  symbolIndex : Table (List Usage) := []
  hooks : Hooks Bundle Text := {}
  environment : Table String := []
  provider : Provider σ
  codec : Cache.Codec
  form : Response.Form
  parse : Text → Document.Parsed
  paths : List Path
  /-- The order in which the files of a batch take their steps. -/
  moves : Int → List Move := fun _ => []

namespace Assignment

open RunM

variable {σ : Type}

/-- The version that entries of the cache are written under. -/
def version : String := "0.4.0"

/-- The world that a run starts with. -/
def world (assignment : Assignment σ) (provider : σ) (disk : Disk) (now : Int) : World σ :=
  let settings := assignment.settings
  { session :=
      { provider
        gate := { limit := settings.oracle.maxConcurrentRequests }
        now }
    disk
    logPath := if settings.oracle.logQueries then some settings.queryLogPath else none
    stats := { dryRun := assignment.options.dryRun }
    features :=
      Features.start settings.doc settings.embedding settings.cache assignment.options
    extractor :=
      { settings := settings.doc
        packages := assignment.packages
        symbolIndex := assignment.symbolIndex } }

/-- Open the cache; it is switched off if its directory cannot be used. -/
def openCache (codec : Cache.Codec) (settings : Settings) : RunM σ (Option Cache.Store) := do
  if !(← get).features.flags.cache then return none
  match Cache.Store.ofHours codec settings.cache.maxAgeHours version with
  | .error fault => throw (.cacheAge fault)
  | .ok store =>
    let world ← get
    let (made, disk) := world.disk.makeDirectory settings.cachePath
    match made with
    | .ok place =>
      set { world with disk, cachePlace := some place }
      return some store
    | .error _ =>
      set { world with disk }
      degrade .cache s!"cache directory {settings.cachePath.toString} is not writable"
      return none

/-- Set up the oracle; embeddings are switched off if there is no model for them. -/
def openOracle (assignment : Assignment σ) (cache : Option Cache.Store) : RunM σ Oracle := do
  let settings := assignment.settings
  match Oracle.create settings.oracle settings.models assignment.environment cache
      assignment.form settings.oracle.logQueries false settings.doc.generateExamples with
  | .error fault => throw (.setup fault)
  | .ok oracle =>
    if (← get).features.flags.embeddings && oracle.embeddingDefault.isNone then
      degrade .embeddings "no embedding model available"
    return oracle

/-- What stays the same in the run, given the oracle. -/
def plan (assignment : Assignment σ) (oracle : Oracle) (base : Option Path) (relates : Bool) :
    Plan σ :=
  let settings := assignment.settings
  let doc := settings.doc
  { provider := assignment.provider
    oracle
    reader := { base, parse := assignment.parse }
    reconciler :=
      { minLength := doc.minDocLength
        policy :=
          { overwriteExisting := doc.overwriteExisting
            mergeExisting := doc.mergeExisting
            forceOverwrite := assignment.options.forceOverwrite
            noMergeExisting := assignment.options.noMergeExisting } }
    hooks := fun _ => assignment.hooks
    embedding := settings.embedding
    relates
    dryRun := assignment.options.dryRun
    filesAtOnce := settings.batch.maxConcurrentFiles
    moves := assignment.moves }

/-- Check that files can be processed at all. -/
def checkFileGate (settings : Settings) : RunM σ Unit := do
  match Gate.ofLimit settings.batch.maxConcurrentFiles with
  | .ok _ => return
  | .error fault => throw (.fileGate fault)

def generate (assignment : Assignment σ) : RunM σ Unit := do
  let settings := assignment.settings
  count .packagesTotal assignment.packages.length
  let cache ← openCache assignment.codec settings
  let oracle ← assignment.openOracle cache
  let relates := (← get).features.flags.embeddings
  let plan := assignment.plan oracle (some settings.workspace) relates
  checkFileGate settings
  let batches ← Pass.pack settings.batch.maxTokensPerBatch assignment.paths
  Pass.run plan batches

/-- Document all files, starting from a state of the provider and a disk. -/
def run (assignment : Assignment σ) (provider : σ) (disk : Disk) (now : Int) :
    Except RunFailure Unit × World σ :=
  assignment.generate.run (assignment.world provider disk now)

end Assignment

end Scholia
