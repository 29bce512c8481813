import Scholia.Json.Basic
import Scholia.Numeral
import Scholia.Oracle.Prompt

/-! # Providers

A provider completes conversations and embeds texts. What it does may depend on its own state, so
that a provider is a pair of functions on that state. Its errors carry what is known of them.
-/

namespace Scholia

/-- Where a request goes: the model, and how it is reached. -/
structure Route where
  model : String
  apiKey : Option String := none
  apiBase : Option String := none
  deriving Repr, DecidableEq

/-- A request to complete a conversation. -/
structure CompletionRequest where
  route : Route
  messages : List Message
  temperature : Number
  maxTokens : Int
  stop : List String := []
  topP : Option Number := none

/-- A request to embed texts. -/
structure EmbeddingRequest where
  route : Route
  input : List String
  dimensions : Option Int := none

/-- A request of either kind. -/
inductive Call where
  | completion (request : CompletionRequest)
  | embedding (request : EmbeddingRequest)

/-- What kind of error a provider reports. A foreign error is none of a provider's own. -/
inductive ProviderError.Kind where
  | authentication
  | rateLimit
  | connection
  | api
  | foreign
  deriving Repr, DecidableEq

/-- The response that came with an error. -/
structure ErrorResponse where
  statusCode : Option Json := none
  headers : List (String × Json) := []

/-- An error that a provider reports. -/
structure ProviderError where
  kind : ProviderError.Kind
  message : String
  statusCode : Option Json := none
  llmProvider : Option Json := none
  response : Option ErrorResponse := none

/-- The content of a completed conversation, which may be missing, or an error. -/
abbrev Completion := Except ProviderError (Option String)

/-- One vector for each text, or an error. -/
abbrev Embeddings := Except ProviderError (List (List Float))

/-- A provider with a state of its own. -/
structure Provider (σ : Type) where
  complete : CompletionRequest → σ → Completion × σ
  embed : EmbeddingRequest → σ → Embeddings × σ

end Scholia
