import Scholia.Json.Fields
import Scholia.Settings.Load

/-! # Settings as records

Settings are written as JSON objects by section, and taken over from such objects without regard to
bounds.
-/

namespace Scholia

namespace DocSettings

/-- Take over the fields that a record gives. -/
def setFields (settings : DocSettings) (record : Json) : DocSettings :=
  { prioritizeExports := record.flagAt "prioritize_exports" settings.prioritizeExports
    includePrivate := record.flagAt "include_private" settings.includePrivate
    includeKinds :=
      ((record.get "include_kinds").list?.map (·.map Json.text)).getD settings.includeKinds
    excludeKinds :=
      ((record.get "exclude_kinds").list?.map (·.map Json.text)).getD settings.excludeKinds
    maxSnippetLength := record.intAt "max_snippet_length" settings.maxSnippetLength
    surroundingMaxLength := record.intAt "surrounding_max_length" settings.surroundingMaxLength
    generateExamples := record.flagAt "generate_examples" settings.generateExamples
    overwriteExisting := record.flagAt "overwrite_existing" settings.overwriteExisting
    mergeExisting := record.flagAt "merge_existing" settings.mergeExisting
    minDocLength := record.intAt "min_doc_length" settings.minDocLength
    includeSymbolReferences :=
      record.flagAt "include_symbol_references" settings.includeSymbolReferences
    includeRelatedSymbols :=
      record.flagAt "include_related_symbols" settings.includeRelatedSymbols }

def toJson (settings : DocSettings) : Json :=
  .object
    [("prioritize_exports", .bool settings.prioritizeExports),
      ("include_private", .bool settings.includePrivate),
      ("include_kinds", .texts settings.includeKinds),
      ("exclude_kinds", .texts settings.excludeKinds),
      ("max_snippet_length", .int settings.maxSnippetLength),
      ("surrounding_max_length", .int settings.surroundingMaxLength),
      ("generate_examples", .bool settings.generateExamples),
      ("overwrite_existing", .bool settings.overwriteExisting),
      ("merge_existing", .bool settings.mergeExisting),
      ("min_doc_length", .int settings.minDocLength),
      ("include_symbol_references", .bool settings.includeSymbolReferences),
      ("include_related_symbols", .bool settings.includeRelatedSymbols)]

end DocSettings

namespace OracleSettings

/-- Take over the fields that a record gives. -/
def setFields (settings : OracleSettings) (record : Json) : OracleSettings :=
  { defaultGenerationModel :=
      record.textAt "default_generation_model" settings.defaultGenerationModel
    defaultEmbeddingModel :=
      record.textAt "default_embedding_model" settings.defaultEmbeddingModel
    maxConcurrentRequests := record.intAt "max_concurrent_requests" settings.maxConcurrentRequests
    maxRetries := record.intAt "max_retries" settings.maxRetries
    retryDelayMs := record.intAt "retry_delay_ms" settings.retryDelayMs
    temperature := record.numberAt "temperature" settings.temperature
    maxTokens := record.intAt "max_tokens" settings.maxTokens
    logQueries := record.flagAt "log_queries" settings.logQueries }

def toJson (settings : OracleSettings) : Json :=
  .object
    [("default_generation_model", .str settings.defaultGenerationModel),
      ("default_embedding_model", .str settings.defaultEmbeddingModel),
      ("max_concurrent_requests", .int settings.maxConcurrentRequests),
      ("max_retries", .int settings.maxRetries), ("retry_delay_ms", .int settings.retryDelayMs),
      ("temperature", .ofNumber settings.temperature), ("max_tokens", .int settings.maxTokens),
      ("log_queries", .bool settings.logQueries)]

end OracleSettings

namespace EmbeddingSettings

/-- Take over the fields that a record gives. -/
def setFields (settings : EmbeddingSettings) (record : Json) : EmbeddingSettings :=
  { enabled := record.flagAt "enabled" settings.enabled
    minRelationshipScore :=
      ((record.get "min_relationship_score").number?.map Number.toFloat).getD
        settings.minRelationshipScore
    maxRelatedSymbols := record.intAt "max_related_symbols" settings.maxRelatedSymbols
    batchSize := record.intAt "batch_size" settings.batchSize }

def toJson (settings : EmbeddingSettings) : Json :=
  .object
    [("enabled", .bool settings.enabled),
      ("min_relationship_score", .float settings.minRelationshipScore),
      ("max_related_symbols", .int settings.maxRelatedSymbols),
      ("batch_size", .int settings.batchSize)]

end EmbeddingSettings

namespace BatchSettings

/-- Take over the fields that a record gives. -/
def setFields (settings : BatchSettings) (record : Json) : BatchSettings :=
  { maxConcurrentFiles := record.intAt "max_concurrent_files" settings.maxConcurrentFiles
    maxTokensPerBatch := record.intAt "max_tokens_per_batch" settings.maxTokensPerBatch }

def toJson (settings : BatchSettings) : Json :=
  .object
    [("max_concurrent_files", .int settings.maxConcurrentFiles),
      ("max_tokens_per_batch", .int settings.maxTokensPerBatch)]

end BatchSettings

namespace CacheSettings

/-- Take over the fields that a record gives. -/
def setFields (settings : CacheSettings) (record : Json) : CacheSettings :=
  { enabled := record.flagAt "enabled" settings.enabled
    directory := record.textAt "directory" settings.directory
    maxAgeHours := record.numberAt "max_age_hours" settings.maxAgeHours }

def toJson (settings : CacheSettings) : Json :=
  .object
    [("enabled", .bool settings.enabled), ("directory", .str settings.directory),
      ("max_age_hours", .ofNumber settings.maxAgeHours)]

end CacheSettings

namespace RunOptions

def ofJson (record : Json) : RunOptions :=
  { dryRun := record.flagAt "dry_run"
    forceOverwrite := record.flagAt "force_overwrite"
    noMergeExisting := record.flagAt "no_merge_existing"
    disableEmbeddings := record.flagAt "disable_embeddings" }

end RunOptions

namespace Model

def ofJson (record : Json) : Model :=
  { id := record.textAt "id"
    provider := record.textAt "provider"
    name := record.textAt "model"
    type := record.textAt "type" "generation"
    keyVariable := (record.get "api_key_env_var").text?
    baseUrl := (record.get "base_url").text?
    temperature := (record.get "temperature").number?
    maxTokens := (record.get "max_tokens").int?
    topP := (record.get "top_p").number?
    stop := (record.get "stop").toTexts
    dimensions := (record.get "dimensions").int? }

/-- A model as a record, with the variable that is looked up for its key. -/
def toJson (model : Model) : Json :=
  .object
    [("id", .str model.id), ("provider", .str model.provider), ("model", .str model.name),
      ("type", .str model.type), ("api_key_env_var", .textOrNull model.keyVariable),
      ("base_url", .textOrNull model.baseUrl),
      ("temperature", .ofOption .ofNumber model.temperature),
      ("max_tokens", .ofOption .int model.maxTokens), ("top_p", .ofOption .ofNumber model.topP),
      ("stop", .texts model.stop), ("dimensions", .ofOption .int model.dimensions),
      ("key_env_var", .str model.credentialVariable)]

end Model

namespace Settings

/-- Take over the sections that a record gives. -/
def setFields (settings : Settings) (record : Json) : Settings :=
  { settings with
    doc := settings.doc.setFields (record.get "jsdoc")
    oracle := settings.oracle.setFields (record.get "client")
    embedding := settings.embedding.setFields (record.get "embedding")
    batch := settings.batch.setFields (record.get "performance")
    cache := settings.cache.setFields (record.get "cache")
    log := { directory := (record.get "paths").textAt "logs_dir" settings.log.directory } }

/-- Settings as a record, with the paths that follow from them. -/
def toJson (settings : Settings) : List (String × Json) :=
  [("jsdoc", settings.doc.toJson), ("client", settings.oracle.toJson),
    ("embedding", settings.embedding.toJson), ("performance", settings.batch.toJson),
    ("cache", settings.cache.toJson),
    ("paths", .object [("logs_dir", .str settings.log.directory)]),
    ("models", .array (settings.models.map Model.toJson)),
    ("workspace_path", .str settings.workspace.toString),
    ("cache_path", .str settings.cachePath.toString),
    ("llm_log_path", .str settings.queryLogPath.toString)]

end Settings

end Scholia
