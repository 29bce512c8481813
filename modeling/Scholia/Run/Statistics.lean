/-! # Statistics of a run

A run counts what it does and records its errors. Once finished, the statistics cannot be changed.
-/

namespace Scholia

/-- What is counted. -/
inductive Counter where
  | packagesTotal
  | batchesTotal
  | batchesProcessed
  | filesTotal
  | filesProcessed
  | filesModified
  | unitsConsidered
  | unitsSucceeded
  | unitsFailed
  | unitsSkipped
  | embeddingsSucceeded
  | embeddingsFailed
  | relationshipsDiscovered
  deriving Repr, DecidableEq, BEq

namespace Counter

/-- The word for a counter in reports. -/
def label : Counter → String
  | packagesTotal => "packages_total"
  | batchesTotal => "batches_total"
  | batchesProcessed => "batches_processed"
  | filesTotal => "files_total"
  | filesProcessed => "files_processed"
  | filesModified => "files_modified"
  | unitsConsidered => "units_considered"
  | unitsSucceeded => "units_succeeded"
  | unitsFailed => "units_failed"
  | unitsSkipped => "units_skipped"
  | embeddingsSucceeded => "embeddings_succeeded"
  | embeddingsFailed => "embeddings_failed"
  | relationshipsDiscovered => "relationships_discovered"

/-- All counters, in the order of reports. -/
def all : List Counter :=
  [packagesTotal, batchesTotal, batchesProcessed, filesTotal, filesProcessed, filesModified,
    unitsConsidered, unitsSucceeded, unitsFailed, unitsSkipped, embeddingsSucceeded,
    embeddingsFailed, relationshipsDiscovered]

end Counter

/-- A recorded failure: of one unit, or of a whole file. -/
structure ErrorRecord where
  filePath : String
  message : String
  unitId : Option String := none
  unitName : Option String := none
  /-- The record shows where the failure came from. -/
  traced : Bool := false
  deriving Repr, DecidableEq, BEq

/-- The statistics of one run. -/
structure Statistics where
  dryRun : Bool := false
  counts : Counter → Int := fun _ => 0
  errors : List ErrorRecord := []
  finished : Bool := false

namespace Statistics

/-- Why statistics are not changed. -/
inductive Refusal where
  | unknownCounter (word : String)
  | readOnly
  deriving Repr, DecidableEq

def Refusal.message : Refusal → String
  | .unknownCounter word => s!"Unknown counter: {word}"
  | .readOnly => "Run statistics are read-only after finish()"

/-- Counts with an amount added to one of them. -/
def addTo (counts : Counter → Int) (counter : Counter) (amount : Int) : Counter → Int :=
  fun other => if other = counter then counts other + amount else counts other

def increment (stats : Statistics) (counter : Counter) (amount : Int) :
    Except Refusal Statistics :=
  if stats.finished then .error .readOnly
  else .ok { stats with counts := addTo stats.counts counter amount }

/-- Add an amount to the counter of a name. -/
def incrementNamed (stats : Statistics) (word : String) (amount : Int) :
    Except Refusal Statistics :=
  match Counter.all.find? (·.label = word) with
  | some counter => stats.increment counter amount
  | none => .error (.unknownCounter word)

def recordError (stats : Statistics) (record : ErrorRecord) : Except Refusal Statistics :=
  if stats.finished then .error .readOnly
  else .ok { stats with errors := stats.errors ++ [record] }

def finish (stats : Statistics) : Statistics :=
  { stats with finished := true }

end Statistics

end Scholia
