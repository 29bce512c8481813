import Scholia.Numeral

/-! # Settings

The settings of a run by section, each with its default, and the switches of one run.
-/

namespace Scholia

/-- Which declarations are documented, what the oracle is shown, and how comments are treated. -/
structure DocSettings where
  prioritizeExports : Bool := true
  includePrivate : Bool := false
  includeKinds : List String :=
    ["class", "function", "method", "interface", "type_alias", "enum", "variable"]
  excludeKinds : List String := ["constructor", "get_accessor", "set_accessor"]
  maxSnippetLength : Int := 3500
  surroundingMaxLength : Int := 1500
  generateExamples : Bool := true
  overwriteExisting : Bool := false
  mergeExisting : Bool := true
  minDocLength : Int := 100
  includeSymbolReferences : Bool := true
  includeRelatedSymbols : Bool := true

/-- How the oracle is asked. -/
structure OracleSettings where
  defaultGenerationModel : String := "openai-gpt4o"
  defaultEmbeddingModel : String := "openai-embedding"
  maxConcurrentRequests : Int := 3
  maxRetries : Int := 5
  retryDelayMs : Int := 1000
  temperature : Number := .float 0.2
  maxTokens : Int := 4096
  logQueries : Bool := false

/-- How related declarations are found. -/
structure EmbeddingSettings where
  enabled : Bool := true
  minRelationshipScore : Float := 0.75
  maxRelatedSymbols : Int := 5
  batchSize : Int := 10

/-- How files are batched. -/
structure BatchSettings where
  maxConcurrentFiles : Int := 4
  maxTokensPerBatch : Int := 8000

/-- How replies are kept. -/
structure CacheSettings where
  enabled : Bool := true
  directory : String := ".docsmith-cache"
  maxAgeHours : Number := .float 24.0

/-- Where logs go. -/
structure LogSettings where
  directory : String := ".docsmith-logs"

/-- The switches of one run. -/
structure RunOptions where
  /-- Count changes and write no file. -/
  dryRun : Bool := false
  /-- Replace existing comments whatever the settings say. -/
  forceOverwrite : Bool := false
  /-- Replace existing comments where they would be merged. -/
  noMergeExisting : Bool := false
  /-- Look for no related declarations. -/
  disableEmbeddings : Bool := false

end Scholia
