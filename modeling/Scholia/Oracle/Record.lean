import Scholia.Json.Fields
import Scholia.Oracle.Cost
import Scholia.Oracle.Session

/-! # Requests as records

Requests to a provider, and estimates of their cost, are written as JSON objects. What a request
does not give has no field.
-/

namespace Scholia

def Route.fields (route : Route) : List (String × Json) :=
  ("model", .str route.model) ::
    (QueryLog.optional "api_key" (route.apiKey.map .str) ++
      QueryLog.optional "api_base" (route.apiBase.map .str))

namespace CompletionRequest

/-- The content of the last message, empty if there is none. -/
def prompt (request : CompletionRequest) : String :=
  (request.messages.getLast?.map (·.content)).getD ""

def fields (request : CompletionRequest) : List (String × Json) :=
  request.route.fields ++
    [("temperature", .ofNumber request.temperature), ("max_tokens", .int request.maxTokens),
      ("prompt", .str request.prompt)] ++
    QueryLog.optional "stop" (if request.stop.isEmpty then none else some (.texts request.stop)) ++
    QueryLog.optional "top_p" (request.topP.map .ofNumber)

end CompletionRequest

def EmbeddingRequest.fields (request : EmbeddingRequest) : List (String × Json) :=
  request.route.fields ++ [("input", .texts request.input)] ++
    QueryLog.optional "dimensions" (request.dimensions.map .int)

def Call.toJson : Call → Json
  | .completion request => .object (("kind", .str "complete") :: request.fields)
  | .embedding request => .object (("kind", .str "embed") :: request.fields)

def Cost.Estimate.toJson (estimate : Estimate) : Json :=
  .object
    [("tokens", .int estimate.tokens), ("estimated_cost", .float estimate.cost),
      ("provider", .str estimate.provider), ("model", .str estimate.model)]

end Scholia
