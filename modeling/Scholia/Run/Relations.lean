import Scholia.Run.World
import Scholia.Similarity

/-! # Related declarations

All declarations to document are embedded in batches before the run. For each of them those whose
vectors are most similar to its own are found.
-/

namespace Scholia.Relations

open RunM

variable {σ α : Type}

/-- The bundles of the units of a document. -/
def bundlesOf (extractor : Extractor) (document : Document) : List Bundle :=
  (Selection.units extractor.settings document).filterMap fun index =>
    (document.declarations[index]?).map (extractor.bundle document)

/-- The bundles of all units in some files; files that cannot be read have none. -/
def collect (plan : Plan σ) : List Path → RunM σ (List Bundle)
  | [] => return []
  | path :: rest => do
    let source ← openSource plan path
    let extractor := (← get).extractor
    let bundles := match source with
      | .ok document => bundlesOf extractor document
      | .error _ => []
    return bundles ++ (← collect plan rest)

/-- Cut a list into pieces of a size; a size of zero gives no piece. -/
def slices (size : Nat) (items : List α) : List (List α) :=
  if _h : size = 0 ∨ items = [] then []
  else items.take size :: slices size (items.drop size)
termination_by items.length
decreasing_by
  have := List.length_pos_iff.2 fun empty => _h (.inr empty)
  simp only [List.length_drop]
  omega

/-- A bundle with its vector, for the index. -/
def node (bundle : Bundle) (vector : List Float) : EmbeddedNode :=
  { id := bundle.id
    name := bundle.name
    kind := bundle.kind
    filePath := bundle.relativePath
    snippet := bundle.signature
    vector }

/-- Put bundles and their vectors into the index. -/
def index (entries : List (Bundle × List Float)) : RunM σ Unit :=
  modify fun world =>
    { world with
      nodes := world.nodes.update (entries.map fun (bundle, vector) =>
        (bundle.id, node bundle vector))
      extractor :=
        { world.extractor with
          embeddingIndex := world.extractor.embeddingIndex.update
            (entries.map fun (bundle, vector) => (bundle.id, vector)) } }

def embedBatch (plan : Plan σ) (batch : List Bundle) : RunM σ Unit := do
  let texts := batch.map (·.embeddingText)
  match ← onSession (plan.oracle.embed plan.provider texts {}) with
  | .ok vectors =>
    index (batch.zip (vectors.map Json.toVector))
    count .embeddingsSucceeded batch.length
  | .error failure =>
    if failure.isOwn then
      count .embeddingsFailed batch.length
      throw (.embedding failure)
    else throw (.oracle failure)

def embedAll (plan : Plan σ) : List (List Bundle) → RunM σ Unit
  | [] => return
  | batch :: rest => do
    embedBatch plan batch
    embedAll plan rest

/-- Embed all units in some files, and tell how many are in the index then. -/
def build (plan : Plan σ) (paths : List Path) : RunM σ Nat := do
  let bundles ← collect plan paths
  if plan.embedding.batchSize = 0 then throw .emptyBatches
  embedAll plan (slices plan.embedding.batchSize.toNat bundles)
  return (← get).nodes.length

/-- The vector that a bundle is compared by: its own, or the one in the index. -/
def query? (nodes : Table EmbeddedNode) (bundle : Bundle) : Option (List Float) :=
  bundle.embedding.or ((nodes.get? bundle.id).map (·.vector))

def related (node : EmbeddedNode) (score : Float) : Related :=
  { id := node.id
    name := node.name
    kind := node.kind
    filePath := node.filePath
    score
    snippet := node.snippet }

/-- The declarations in an index that are most similar to that of a bundle, itself left out. -/
def similar (settings : EmbeddingSettings) (nodes : Table EmbeddedNode) (bundle : Bundle) :
    List Related :=
  match query? nodes bundle with
  | none => []
  | some query =>
    let others := (nodes.map (·.2)).filter (·.id ≠ bundle.id)
    (Similarity.rank query (others.map fun node => (node, node.vector))
      settings.minRelationshipScore settings.maxRelatedSymbols).map fun (node, score) =>
        related node score

/-- Find related declarations, and count them if asked to. -/
def find (plan : Plan σ) (bundle : Bundle) (counted : Bool) : RunM σ (List Related) := do
  let found := similar plan.embedding (← get).nodes bundle
  if counted && !found.isEmpty then count .relationshipsDiscovered found.length
  return found

/-- Set up the index before a run. Without it, embeddings are switched off. -/
def setUp (plan : Plan σ) (paths : List Path) : RunM σ Bool := do
  if !(← get).features.flags.embeddings then return false
  if !plan.relates then
    degrade .embeddings "no relationship analyzer configured"
    return false
  match ← capture (build plan paths) with
  | .ok _ => return true
  | .error failure =>
    degrade .embeddings s!"relationship analysis setup failed: {failure.message}"
    return false

end Scholia.Relations
