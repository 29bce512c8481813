import Scholia.Cache.Store
import Scholia.Gate
import Scholia.Json.Fields
import Scholia.Oracle.Failure

/-! # Sessions with a provider

A session is what changes while requests are made: the state of the provider, the calls and the
delays so far, the query log, the gate and the cache. A request is sent and its reply is received
in two steps, so that requests can overlap.
-/

namespace Scholia

/-- What changes while requests are made. -/
structure Session (σ : Type) where
  provider : σ
  gate : Gate
  /-- The directory of the cache. -/
  directory : Directory := .missing
  /-- The time in milliseconds. Requests and the delays between them take none; it passes where a run
      waits. -/
  now : Int := 0
  /-- The number of requests that passed the gate. -/
  requests : Nat := 0
  calls : List Call := []
  /-- The delays between attempts, in seconds. -/
  sleeps : List Float := []
  /-- The entries of the query log. -/
  log : List Json := []
  /-- Calls without a reply so far, and the greatest number of them. -/
  pending : Nat := 0
  overlap : Nat := 0

/-- A model of a provider, and what is needed to reach it. -/
structure Endpoint where
  provider : String
  model : String
  apiKey : Option String := none
  apiBase : Option String := none
  /-- Queries are written to the log. -/
  logs : Bool := false

namespace Endpoint

/-- The name under which the model is called. -/
def modelName (endpoint : Endpoint) : String :=
  match endpoint.provider with
  | "openai" => endpoint.model
  | "google" => s!"gemini/{endpoint.model}"
  | provider => s!"{provider}/{endpoint.model}"

def given? : Option String → Option String
  | some "" => none
  | text => text

/-- The route of requests to the endpoint. -/
def route (endpoint : Endpoint) : Route where
  model := endpoint.modelName
  apiKey := given? endpoint.apiKey
  apiBase := given? endpoint.apiBase

/-- A request to complete a conversation at the endpoint. -/
def completion (endpoint : Endpoint) (messages : List Message) (temperature : Number)
    (maxTokens : Int) (stop : List String := []) (topP : Option Number := none) :
    CompletionRequest :=
  { route := endpoint.route, messages, temperature, maxTokens, stop, topP }

/-- A request to embed texts at the endpoint; zero dimensions count as none given. -/
def embedding (endpoint : Endpoint) (input : List String) (dimensions : Option Int := none) :
    EmbeddingRequest :=
  { route := endpoint.route, input, dimensions := dimensions.filter (· ≠ 0) }

end Endpoint

namespace QueryLog

/-- The names of headers that are kept with an error, in lower case. -/
def keptHeaders : List String :=
  ["retry-after", "x-ratelimit-remaining-requests", "x-ratelimit-remaining-tokens",
    "x-ratelimit-reset-requests", "x-request-id"]

/-- A field that is left out if it has no value. -/
def optional (name : String) : Option Json → List (String × Json)
  | some value => [(name, value)]
  | none => []

/-- What is known of an error: the status, that of the response coming first, the headers worth
    keeping, and the provider. -/
def details (error : ProviderError) : List (String × Json) :=
  let status := (error.response.bind (·.statusCode)).or error.statusCode
  let headers := ((error.response.map (·.headers)).getD []).filter fun (name, _) =>
    keptHeaders.contains (Unicode.lower name)
  optional "status_code" status ++
    optional "response_headers" (if headers.isEmpty then none else some (.object headers)) ++
    optional "llm_provider" error.llmProvider

/-- The entry for a request, with the response if there is one. -/
def entry (endpoint : Endpoint) (request response : Json) (error : Option ProviderError) : Json :=
  let details := (error.map details).getD []
  .object
    ([("provider", .str endpoint.provider), ("model", .str endpoint.model),
      ("request", request), ("response", response),
      ("error", .textOrNull (error.map (·.message)))] ++
      if details.isEmpty then [] else [("error_details", .object details)])

def messageJson (message : Message) : Json :=
  .object [("role", .str message.role), ("content", .str message.content)]

def completionJson (request : CompletionRequest) : Json :=
  .object
    [("messages", .array (request.messages.map messageJson)),
      ("temperature", .ofNumber request.temperature), ("max_tokens", .int request.maxTokens)]

def embeddingJson (request : EmbeddingRequest) : Json :=
  .object [("input_count", .int request.input.length)]

end QueryLog

namespace Session

variable {σ α : Type}

/-- Write an entry to the query log. -/
def write (session : Session σ) (endpoint : Endpoint) (entry : Json) : Session σ :=
  if endpoint.logs then { session with log := session.log ++ [entry] } else session

def send (call : Call) (session : Session σ) : Session σ :=
  { session with
    calls := session.calls ++ [call]
    pending := session.pending + 1
    overlap := max session.overlap (session.pending + 1) }

/-- Judge and log a reply: foreign errors are not logged. -/
def settle (endpoint : Endpoint) (request : Json) (reply : Except ProviderError α)
    (write : α → Json) (session : Session σ) : Except OracleFailure α × Session σ :=
  match reply with
  | .ok value =>
    (.ok value, session.write endpoint (QueryLog.entry endpoint request (write value) none))
  | .error error =>
    let logged :=
      if error.kind = .foreign then session
      else session.write endpoint (QueryLog.entry endpoint request .null (some error))
    (.error (.ofProvider error), logged)

/-- Have the provider answer a request that was sent. -/
def answer (provider : Provider σ) (request : CompletionRequest) (session : Session σ) :
    Except ProviderError (Option String) × Session σ :=
  let (reply, state) := provider.complete request session.provider
  (reply, { session with provider := state })

/-- Receive a reply; missing content counts as an empty text. -/
def hear (endpoint : Endpoint) (request : CompletionRequest)
    (reply : Except ProviderError (Option String)) (session : Session σ) :
    Except OracleFailure String × Session σ :=
  settle endpoint (QueryLog.completionJson request) (reply.map fun content => content.getD "")
    .str { session with pending := session.pending - 1 }

/-- Have a request that was sent answered, and receive the reply. -/
def receiveCompletion (provider : Provider σ) (endpoint : Endpoint) (request : CompletionRequest)
    (session : Session σ) : Except OracleFailure String × Session σ :=
  let (reply, session) := session.answer provider request
  session.hear endpoint request reply

/-- Receive the vectors for texts that were sent. -/
def receiveEmbeddings (provider : Provider σ) (endpoint : Endpoint) (request : EmbeddingRequest)
    (session : Session σ) : Except OracleFailure (List (List Float)) × Session σ :=
  let (reply, state) := provider.embed request session.provider
  settle endpoint (QueryLog.embeddingJson request) reply
    (fun vectors => .object [("vectors", .int vectors.length)])
    { session with provider := state, pending := session.pending - 1 }

def complete (provider : Provider σ) (endpoint : Endpoint) (request : CompletionRequest)
    (session : Session σ) : Except OracleFailure String × Session σ :=
  receiveCompletion provider endpoint request (session.send (.completion request))

def embed (provider : Provider σ) (endpoint : Endpoint) (request : EmbeddingRequest)
    (session : Session σ) : Except OracleFailure (List (List Float)) × Session σ :=
  receiveEmbeddings provider endpoint request (session.send (.embedding request))

/-- Pass the gate, which has room, and count the request. -/
def enter (session : Session σ) : Session σ :=
  { session with gate := session.gate.enter, requests := session.requests + 1 }

def leave (session : Session σ) : Session σ :=
  { session with gate := session.gate.leave }

def sleep (seconds : Float) (session : Session σ) : Session σ :=
  { session with sleeps := session.sleeps ++ [seconds] }

/-- Look a key up in the cache, if there is one. -/
def lookUp (cache : Option Cache.Store) (key : String) (content : Option Text)
    (session : Session σ) : Option Json × Session σ :=
  match cache with
  | none => (none, session)
  | some store =>
    let (value, directory) := store.get session.now key content session.directory
    (value, { session with directory })

/-- Keep a value in the cache, if there is one. -/
def keep (cache : Option Cache.Store) (key : String) (value : Json) (content : Option Text)
    (session : Session σ) : Session σ :=
  match cache with
  | none => session
  | some store =>
    { session with directory := store.set session.now key value content session.directory }

end Session

end Scholia
