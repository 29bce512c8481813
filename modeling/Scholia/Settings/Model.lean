import Scholia.Numeral
import Scholia.Unicode.Case

/-! # Models

A model is one that a provider offers, registered under an id of its own.
-/

namespace Scholia

/-- A registered model. -/
structure Model where
  id : String
  provider : String
  /-- The name that the provider knows the model by. -/
  name : String
  /-- What the model is for: `generation` or `embedding`. -/
  type : String := "generation"
  /-- The environment variable that holds the key. -/
  keyVariable : Option String := none
  baseUrl : Option String := none
  temperature : Option Number := none
  maxTokens : Option Int := none
  topP : Option Number := none
  stop : List String := []
  dimensions : Option Int := none

namespace Model

def types : List String := ["generation", "embedding"]

/-- The environment variable that is looked up for the key. -/
def credentialVariable (model : Model) : String :=
  match model.keyVariable with
  | none | some "" => Unicode.upper model.provider ++ "_API_KEY"
  | some chosen => chosen

/-- The models that are used if none are registered. -/
def defaults : List Model :=
  [{ id := "openai-gpt4o"
     provider := "openai"
     name := "gpt-4o"
     keyVariable := some "OPENAI_API_KEY"
     temperature := some (.float 0.2)
     maxTokens := some 4096
     topP := some (.float 0.8) },
   { id := "google-gemini-pro"
     provider := "google"
     name := "gemini-1.5-pro"
     keyVariable := some "GOOGLE_API_KEY"
     temperature := some (.float 0.2)
     maxTokens := some 4096
     topP := some (.float 0.8) },
   { id := "ollama-codellama"
     provider := "ollama"
     name := "codellama"
     baseUrl := some "http://localhost:11434"
     temperature := some (.float 0.2)
     maxTokens := some 4096
     topP := some (.float 0.8) },
   { id := "openai-embedding"
     provider := "openai"
     name := "text-embedding-3-large"
     type := "embedding"
     keyVariable := some "OPENAI_API_KEY"
     dimensions := some 1536 }]

end Model

end Scholia
