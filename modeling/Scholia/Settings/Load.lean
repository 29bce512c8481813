import Scholia.Settings.Basic
import Scholia.Settings.Model
import Scholia.Settings.Schema

/-! # Loading settings

The settings of a workspace come from a file in it. Every option has a default, so without a file
the settings are complete too. Sections are read in a fixed order, and the first fault is reported.
-/

namespace Scholia

/-- All settings. -/
structure Settings where
  workspace : Path
  doc : DocSettings := {}
  oracle : OracleSettings := {}
  embedding : EmbeddingSettings := {}
  batch : BatchSettings := {}
  cache : CacheSettings := {}
  log : LogSettings := {}
  models : List Model := Model.defaults

namespace Settings

/-- The name of the settings file in a workspace. -/
def fileName : String := "docsmith.ini"

def cachePath (settings : Settings) : Path :=
  settings.workspace.join (.ofString settings.cache.directory)

def queryLogPath (settings : Settings) : Path :=
  (settings.workspace.join (.ofString settings.log.directory)).join (.ofString "llm-queries.jsonl")

def model? (settings : Settings) (id : String) : Option Model :=
  settings.models.find? (·.id = id)

/-! ## The numbers and their bounds -/

/-- How long the source of a declaration may be shown. -/
def maxSnippetLength : Bounded Int := ⟨"max_snippet_length", ⟨some 200, some 100000⟩⟩

/-- How long the source of the enclosing declaration may be shown. -/
def surroundingMaxLength : Bounded Int := ⟨"surrounding_max_length", ⟨some 100, some 50000⟩⟩

/-- How long a comment has to be. -/
def minDocLength : Bounded Int := ⟨"min_doc_length", ⟨some 0, some 10000⟩⟩

def maxConcurrentRequests : Bounded Int := ⟨"max_concurrent_requests", ⟨some 1, some 100⟩⟩

/-- How often a request is tried again. -/
def maxRetries : Bounded Int := ⟨"max_retries", ⟨some 0, some 20⟩⟩

/-- The delay before the second attempt, in milliseconds. -/
def retryDelayMs : Bounded Int := ⟨"retry_delay_ms", ⟨some 0, some 600000⟩⟩

def temperature : Bounded Float := ⟨"temperature", ⟨some 0.0, some 2.0⟩⟩

def maxTokens : Bounded Int := ⟨"max_tokens", ⟨some 64, some 32768⟩⟩

/-- How similar related declarations have to be. -/
def minRelationshipScore : Bounded Float := ⟨"min_relationship_score", ⟨some 0.0, some 1.0⟩⟩

def maxRelatedSymbols : Bounded Int := ⟨"max_related_symbols", ⟨some 0, some 100⟩⟩

def batchSize : Bounded Int := ⟨"batch_size", ⟨some 1, some 2048⟩⟩

def maxConcurrentFiles : Bounded Int := ⟨"max_concurrent_files", ⟨some 1, some 64⟩⟩

/-- How large a batch of files may be. -/
def maxTokensPerBatch : Bounded Int := ⟨"max_tokens_per_batch", ⟨some 100, none⟩⟩

def maxAgeHours : Bounded Float := ⟨"max_age_hours", ⟨some 0.0, none⟩⟩

/-- How long a reply of one model may be. -/
def modelMaxTokens : Bounded Int := ⟨"max_tokens", ⟨some 1, none⟩⟩

/-- The share of likely words that a model chooses from. -/
def topP : Bounded Float := ⟨"top_p", ⟨some 0.0, some 1.0⟩⟩

def dimensions : Bounded Int := ⟨"dimensions", ⟨some 1, none⟩⟩

/-! ## The sections -/

def readDoc (file : Ini.File) : Except Fault DocSettings := do
  let r : Reader := ⟨file, "jsdoc"⟩
  let d : DocSettings := {}
  return {
    prioritizeExports := ← r.flag "prioritize_exports" d.prioritizeExports
    includePrivate := ← r.flag "include_private" d.includePrivate
    includeKinds := (← r.list? "include_kinds").getD d.includeKinds
    excludeKinds := (← r.list? "exclude_kinds").getD d.excludeKinds
    maxSnippetLength := (← r.int? maxSnippetLength).getD d.maxSnippetLength
    surroundingMaxLength := (← r.int? surroundingMaxLength).getD d.surroundingMaxLength
    generateExamples := ← r.flag "generate_examples" d.generateExamples
    overwriteExisting := ← r.flag "overwrite_existing" d.overwriteExisting
    mergeExisting := ← r.flag "merge_existing" d.mergeExisting
    minDocLength := (← r.int? minDocLength).getD d.minDocLength
    includeSymbolReferences :=
      ← r.flag "include_symbol_references" d.includeSymbolReferences
    includeRelatedSymbols := ← r.flag "include_related_symbols" d.includeRelatedSymbols }

def readOracle (file : Ini.File) : Except Fault OracleSettings := do
  let r : Reader := ⟨file, "client"⟩
  let d : OracleSettings := {}
  return {
    defaultGenerationModel :=
      (← r.string? "default_generation_model").getD d.defaultGenerationModel
    defaultEmbeddingModel :=
      (← r.string? "default_embedding_model").getD d.defaultEmbeddingModel
    maxConcurrentRequests := (← r.int? maxConcurrentRequests).getD d.maxConcurrentRequests
    maxRetries := (← r.int? maxRetries).getD d.maxRetries
    retryDelayMs := (← r.int? retryDelayMs).getD d.retryDelayMs
    temperature := ((← r.float? temperature).map .float).getD d.temperature
    maxTokens := (← r.int? maxTokens).getD d.maxTokens
    logQueries := ← r.flag "log_queries" d.logQueries }

def readEmbedding (file : Ini.File) : Except Fault EmbeddingSettings := do
  let r : Reader := ⟨file, "embedding"⟩
  let d : EmbeddingSettings := {}
  return {
    enabled := ← r.flag "enabled" d.enabled
    minRelationshipScore := (← r.float? minRelationshipScore).getD d.minRelationshipScore
    maxRelatedSymbols := (← r.int? maxRelatedSymbols).getD d.maxRelatedSymbols
    batchSize := (← r.int? batchSize).getD d.batchSize }

def readBatch (file : Ini.File) : Except Fault BatchSettings := do
  let r : Reader := ⟨file, "performance"⟩
  let d : BatchSettings := {}
  return {
    maxConcurrentFiles := (← r.int? maxConcurrentFiles).getD d.maxConcurrentFiles
    maxTokensPerBatch := (← r.int? maxTokensPerBatch).getD d.maxTokensPerBatch }

def readCache (file : Ini.File) : Except Fault CacheSettings := do
  let r : Reader := ⟨file, "cache"⟩
  let d : CacheSettings := {}
  return {
    enabled := ← r.flag "enabled" d.enabled
    directory := (← r.string? "directory").getD d.directory
    maxAgeHours := ((← r.float? maxAgeHours).map .float).getD d.maxAgeHours }

def readLog (file : Ini.File) : Except Fault LogSettings := do
  let r : Reader := ⟨file, "paths"⟩
  let d : LogSettings := {}
  return { directory := (← r.string? "logs_dir").getD d.directory }

/-- The beginning of the name of a section that registers a model. -/
def modelMark : Text := "model:".toList

/-- The model that a section registers under an id. -/
def readModel (file : Ini.File) (name : String) (id : String) : Except Fault Model := do
  let r : Reader := ⟨file, name⟩
  let provider := (← r.string? "provider").getD ""
  let model := (← r.string? "model").getD ""
  let type := (← r.string? "type").getD "generation"
  let registered : Model :=
    { id
      provider
      name := model
      type
      keyVariable := ← r.string? "api_key_env_var"
      baseUrl := ← r.string? "base_url"
      temperature := (← r.float? temperature).map .float
      maxTokens := ← r.int? modelMaxTokens
      topP := (← r.float? topP).map .float
      stop := (← r.list? "stop").getD []
      dimensions := ← r.int? dimensions }
  if id = "" || provider = "" || model = "" then .error (.incompleteModel name)
  else if Model.types.contains type then return registered
  else .error (.unknownModelType name type)

/-- The models that the sections with given names register. -/
def readModels (file : Ini.File) : List String → Except Fault (List Model)
  | [] => return []
  | name :: names =>
    let chars := name.toList
    if Text.startsWith modelMark chars then do
      let id := String.ofList (Text.trim (chars.drop modelMark.length))
      let model ← readModel file name id
      return model :: (← readModels file names)
    else readModels file names

/-- The settings in a file for a workspace; without registered models the defaults are taken. -/
def ofFile (workspace : Path) (file : Ini.File) : Except Fault Settings := do
  let doc ← readDoc file
  let oracle ← readOracle file
  let embedding ← readEmbedding file
  let batch ← readBatch file
  let cache ← readCache file
  let log ← readLog file
  let models ← readModels file file.sections.names
  return {
    workspace, doc, oracle, embedding, batch, cache, log
    models := if models.isEmpty then Model.defaults else models }

/-- The settings of the workspace at a path, given the text of its settings file. -/
def load (workspace : String) (text : Option Text) : Except Fault Settings := do
  if workspace = "" then .error .noWorkspace
  else
    let file ← match text with
      | none => pure {}
      | some text => (Ini.File.read text).mapError .file
    ofFile (.ofString workspace) file

/-- The settings that are loaded once and kept: those kept already, or else those of a workspace. -/
def loadOnce (kept : Option Settings) (workspace : String) (text : Option Text) :
    Except Fault Settings :=
  match kept with
  | some settings => .ok settings
  | none => load workspace text

end Settings

end Scholia
