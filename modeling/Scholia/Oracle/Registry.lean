import Scholia.Oracle.Cost
import Scholia.Oracle.Response
import Scholia.Oracle.Session
import Scholia.Settings.Basic
import Scholia.Settings.Model

/-! # The oracle

The oracle knows the models that can be used: those with a key in the environment, and those of
providers that need none. It has a default model for generation, and may have one for embeddings.
-/

namespace Scholia

/-- A model that can be used, and its endpoint. -/
structure Registered where
  model : Model
  endpoint : Endpoint

/-- The oracle: what stays the same while requests are made. -/
structure Oracle where
  settings : OracleSettings
  models : Table Registered
  generationDefault : String
  embeddingDefault : Option String
  /-- The gate as it is at first. -/
  gate : Gate
  cache : Option Cache.Store := none
  /-- How responses are kept in the cache. -/
  form : Response.Form
  /-- Ask for examples in comments. -/
  examples : Bool := true

namespace Oracle

/-- The type of models that write comments. -/
def generationType : String := "generation"

/-- The type of models that embed texts. -/
def embeddingType : String := "embedding"

/-- Providers that need no key. -/
def keylessProviders : List String := ["ollama"]

/-- Why the oracle cannot be set up. -/
inductive Fault where
  | narrowGate (fault : Gate.TooNarrow)
  | notConfigured (type id : String)
  | wrongType (type id : String)
  | noCredentials (type id keyVariable : String)
  deriving Repr, DecidableEq

def Fault.message : Fault → String
  | narrowGate fault => fault.message
  | notConfigured type id => s!"Default {type} model {quote id} is not configured"
  | wrongType type id => s!"Model {quote id} is not a {type} model"
  | noCredentials type id keyVariable =>
    s!"Default {type} model {quote id} has no credentials; set {keyVariable}"

/-- The entry of a model, if it can be used. -/
def usable? (environment : Table String) (logs : Bool) (model : Model) : Option Registered :=
  let key := environment.get? model.credentialVariable
  if (Endpoint.given? key).isSome || keylessProviders.contains model.provider then
    some
      { model
        endpoint :=
          { provider := model.provider
            model := model.name
            apiKey := key
            apiBase := model.baseUrl
            logs } }
  else none

/-- The models that can be used by id; of several with one id the last one stands. -/
def register (environment : Table String) (logs : Bool) (models : List Model) :
    Table Registered :=
  (models.filterMap (usable? environment logs)).foldl
    (fun table entry => table.set entry.model.id entry) []

def configured? (models : List Model) (id : String) : Option Model :=
  models.reverse.find? (·.id = id)

/-- Check that a default model can be used for its type. -/
def checkDefault (models : List Model) (usable : Table Registered) (type id : String) :
    Except Fault String :=
  match configured? models id with
  | none => .error (.notConfigured type id)
  | some model =>
    if model.type ≠ type then .error (.wrongType type id)
    else if (usable.get? id).isNone then .error (.noCredentials type id model.credentialVariable)
    else .ok id

/-- Set up the oracle. The default for embeddings may be unusable unless it is required. -/
def create (settings : OracleSettings) (models : List Model) (environment : Table String)
    (cache : Option Cache.Store) (form : Response.Form) (logs requireEmbedding examples : Bool) :
    Except Fault Oracle := do
  let gate ← (Gate.ofLimit settings.maxConcurrentRequests).mapError .narrowGate
  let usable := register environment logs models
  let generationDefault ←
    checkDefault models usable generationType settings.defaultGenerationModel
  let embeddingDefault ←
    match checkDefault models usable embeddingType settings.defaultEmbeddingModel with
    | .ok id => pure (some id)
    | .error fault => if requireEmbedding then .error fault else pure none
  return {
    settings, models := usable, generationDefault, embeddingDefault, gate, cache, form, examples }

def default? (oracle : Oracle) (type : String) : Option String :=
  if type = generationType then some oracle.generationDefault else oracle.embeddingDefault

/-- The model for a request: the one that is asked for, or the default. -/
def resolve (oracle : Oracle) (id : Option String) (type : String) :
    Except Unresolved Registered :=
  match id.or (oracle.default? type) with
  | none => .error (.noDefault type)
  | some id =>
    match oracle.models.get? id with
    | none => .error (.notAvailable id)
    | some entry => if entry.model.type = type then .ok entry else .error (.wrongType id type)

/-- The models that can be used, of one type or of all. -/
def available (oracle : Oracle) (type : Option String) : List Model :=
  (oracle.models.map (·.2.model)).filter fun model => type.all (model.type = ·)

def estimate (oracle : Oracle) (type : String) (length : Int) (id : Option String) :
    Except OracleFailure Cost.Estimate := do
  let entry ← (oracle.resolve id type).mapError .unresolved
  (Cost.estimate length entry.model.provider entry.model.name (type = embeddingType)).mapError
    .overflow

end Oracle

end Scholia
