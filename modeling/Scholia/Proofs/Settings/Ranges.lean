import Mathlib.Data.List.Basic
import Scholia.Cache.Store
import Scholia.Gate
import Scholia.Proofs.Settings.Options
import Scholia.Settings.Load

/-! # The numbers in settings

Settings that were loaded have every integer within the bounds of its option, and every
floating-point number that is a number. All numbers that the file gives were read.
-/

namespace Scholia.Settings

variable {file : Ini.File} {name : String}

/-! ## The sections -/

/-- A number that was read as a floating-point one. -/
def SoundNumber (file : Ini.File) (name : String) (option : Bounded Float) (value : Number) : Prop :=
  ∃ x, value = .float x ∧ SoundFloat file name option (some x)

theorem soundNumber_of_float? {option : Bounded Float} {result : Option Float} {default : Float}
    (read : Reader.float? ⟨file, name⟩ option = .ok result) (solid : option.range.isSolid = true)
    (defaults : (some default).all (option.range.admits Binary64.lt) = true) :
    SoundNumber file name option ((result.map .float).getD (.float default)) := by
  refine ⟨result.getD default, Option.getD_map _ _ _, ?_⟩
  rw [← Option.or_some]
  exact Reader.sound_of_float? read solid defaults

theorem readDoc_sound {doc : DocSettings} (read : readDoc file = .ok doc) :
    SoundInt file "jsdoc" maxSnippetLength (some doc.maxSnippetLength) ∧
    SoundInt file "jsdoc" surroundingMaxLength (some doc.surroundingMaxLength) ∧
    SoundInt file "jsdoc" minDocLength (some doc.minDocLength) := by
  simp only [readDoc, Fallible.bind_eq_ok] at read
  obtain ⟨_, -, _, -, _, -, _, -, snippet, snippets, surrounding, surroundings, _, -, _, -, _, -,
    least, leasts, _, -, _, -, read⟩ := read
  cases read
  simp only [← Option.or_some]
  exact ⟨Reader.sound_of_int? snippets (by decide), Reader.sound_of_int? surroundings (by decide),
    Reader.sound_of_int? leasts (by decide)⟩

theorem readOracle_sound {oracle : OracleSettings} (read : readOracle file = .ok oracle) :
    SoundInt file "client" maxConcurrentRequests (some oracle.maxConcurrentRequests) ∧
    SoundInt file "client" maxRetries (some oracle.maxRetries) ∧
    SoundInt file "client" retryDelayMs (some oracle.retryDelayMs) ∧
    SoundNumber file "client" temperature oracle.temperature ∧
    SoundInt file "client" maxTokens (some oracle.maxTokens) := by
  simp only [readOracle, Fallible.bind_eq_ok] at read
  obtain ⟨_, -, _, -, requests, requested, retries, retried, delay, delayed, heat, heated, tokens,
    tokened, _, -, read⟩ := read
  cases read
  simp only [← Option.or_some]
  exact ⟨Reader.sound_of_int? requested (by decide), Reader.sound_of_int? retried (by decide),
    Reader.sound_of_int? delayed (by decide),
    soundNumber_of_float? heated (by decide +kernel) (by decide +kernel),
    Reader.sound_of_int? tokened (by decide)⟩

theorem readEmbedding_sound {embedding : EmbeddingSettings}
    (read : readEmbedding file = .ok embedding) :
    SoundFloat file "embedding" minRelationshipScore (some embedding.minRelationshipScore) ∧
    SoundInt file "embedding" maxRelatedSymbols (some embedding.maxRelatedSymbols) ∧
    SoundInt file "embedding" batchSize (some embedding.batchSize) := by
  simp only [readEmbedding, Fallible.bind_eq_ok] at read
  obtain ⟨_, -, score, scores, related, relates, size, sizes, read⟩ := read
  cases read
  simp only [← Option.or_some]
  exact ⟨Reader.sound_of_float? scores (by decide +kernel) (by decide +kernel),
    Reader.sound_of_int? relates (by decide), Reader.sound_of_int? sizes (by decide)⟩

theorem readBatch_sound {batch : BatchSettings} (read : readBatch file = .ok batch) :
    SoundInt file "performance" maxConcurrentFiles (some batch.maxConcurrentFiles) ∧
    SoundInt file "performance" maxTokensPerBatch (some batch.maxTokensPerBatch) := by
  simp only [readBatch, Fallible.bind_eq_ok] at read
  obtain ⟨files, filed, tokens, tokened, read⟩ := read
  cases read
  simp only [← Option.or_some]
  exact ⟨Reader.sound_of_int? filed (by decide), Reader.sound_of_int? tokened (by decide)⟩

theorem readCache_sound {cache : CacheSettings} (read : readCache file = .ok cache) :
    SoundNumber file "cache" maxAgeHours cache.maxAgeHours := by
  simp only [readCache, Fallible.bind_eq_ok] at read
  obtain ⟨_, -, _, -, age, aged, read⟩ := read
  cases read
  exact soundNumber_of_float? aged (by decide +kernel) (by decide +kernel)

/-- The numbers of a model are sound, those that are set. -/
structure SoundModel (file : Ini.File) (name : String) (model : Model) : Prop where
  temperature : ∃ value : Option Float, model.temperature = value.map .float ∧
    SoundFloat file name temperature value
  maxTokens : SoundInt file name modelMaxTokens model.maxTokens
  topP : ∃ value : Option Float, model.topP = value.map .float ∧ SoundFloat file name topP value
  dimensions : SoundInt file name dimensions model.dimensions

theorem readModel_sound {id : String} {model : Model} (read : readModel file name id = .ok model) :
    SoundModel file name model := by
  simp only [readModel, Fallible.bind_eq_ok] at read
  obtain ⟨_, -, _, -, _, -, _, -, _, -, heat, heated, tokens, tokened, share, shared, _, -, size,
    sized, read⟩ := read
  split at read
  · cases read
  · split at read
    · cases read
      have heats : SoundFloat file name temperature (heat.or none) :=
        Reader.sound_of_float? heated (by decide +kernel) rfl
      have tokens : SoundInt file name modelMaxTokens (tokens.or none) :=
        Reader.sound_of_int? tokened rfl
      have shares : SoundFloat file name topP (share.or none) :=
        Reader.sound_of_float? shared (by decide +kernel) rfl
      have sizes : SoundInt file name dimensions (size.or none) :=
        Reader.sound_of_int? sized rfl
      rw [Option.or_none] at heats tokens shares sizes
      exact ⟨⟨heat, rfl, heats⟩, tokens, ⟨share, rfl, shares⟩, sizes⟩
    · cases read

/-! ## The models -/

/-- The sections of a file that register models. -/
def modelSections (file : Ini.File) : List String :=
  file.sections.names.filter fun name => Text.startsWith modelMark name.toList

/-- Each model comes from a section that registers one, and each such section gives one. -/
theorem readModels_sound {names : List String} {models : List Model}
    (read : readModels file names = .ok models) :
    (∀ model ∈ models, ∃ name, SoundModel file name model) ∧
    ∀ name ∈ names, Text.startsWith modelMark name.toList = true →
      ∃ model ∈ models, SoundModel file name model := by
  induction names generalizing models with
  | nil =>
      cases read
      exact ⟨nofun, nofun⟩
  | cons name names ih =>
      unfold readModels at read
      dsimp only at read
      by_cases marked : Text.startsWith modelMark name.toList = true
      · rw [if_pos marked] at read
        obtain ⟨model, one, read⟩ := Fallible.bind_eq_ok.mp read
        obtain ⟨others, rest, same⟩ := Fallible.bind_eq_ok.mp read
        cases same
        obtain ⟨sound, given⟩ := ih rest
        have first := readModel_sound one
        refine ⟨List.forall_mem_cons.mpr ⟨⟨name, first⟩, sound⟩, fun other inside marks => ?_⟩
        rcases List.mem_cons.mp inside with same | inside
        · exact ⟨model, List.mem_cons_self, same ▸ first⟩
        · obtain ⟨found, among, fits⟩ := given other inside marks
          exact ⟨found, List.mem_cons_of_mem _ among, fits⟩
      · rw [if_neg marked] at read
        obtain ⟨sound, given⟩ := ih read
        refine ⟨sound, fun other inside marks => ?_⟩
        rcases List.mem_cons.mp inside with same | inside
        · exact absurd (same ▸ marks) marked
        · exact given other inside marks

/-! ## All numbers -/

/-- The integers of a model that are set, with their options. -/
def modelIntegers (model : Model) : List (Bounded Int × Int) :=
  (model.maxTokens.map (modelMaxTokens, ·)).toList ++ (model.dimensions.map (dimensions, ·)).toList

/-- The other numbers of a model that are set, with their options. -/
def modelFloats (model : Model) : List (Bounded Float × Number) :=
  (model.temperature.map (temperature, ·)).toList ++ (model.topP.map (topP, ·)).toList

/-- The integers of all settings, with their options. -/
def integers (settings : Settings) : List (Bounded Int × Int) :=
  [(maxSnippetLength, settings.doc.maxSnippetLength),
    (surroundingMaxLength, settings.doc.surroundingMaxLength),
    (minDocLength, settings.doc.minDocLength),
    (maxConcurrentRequests, settings.oracle.maxConcurrentRequests),
    (maxRetries, settings.oracle.maxRetries),
    (retryDelayMs, settings.oracle.retryDelayMs),
    (maxTokens, settings.oracle.maxTokens),
    (maxRelatedSymbols, settings.embedding.maxRelatedSymbols),
    (batchSize, settings.embedding.batchSize),
    (maxConcurrentFiles, settings.batch.maxConcurrentFiles),
    (maxTokensPerBatch, settings.batch.maxTokensPerBatch)] ++
  settings.models.flatMap modelIntegers

/-- The other numbers of all settings, with their options. -/
def floats (settings : Settings) : List (Bounded Float × Number) :=
  [(temperature, settings.oracle.temperature),
    (minRelationshipScore, .float settings.embedding.minRelationshipScore),
    (maxAgeHours, settings.cache.maxAgeHours)] ++
  settings.models.flatMap modelFloats

/-- The options of a file that are integers, with their sections. -/
def integerOptions (file : Ini.File) : List (String × Bounded Int) :=
  [("jsdoc", maxSnippetLength), ("jsdoc", surroundingMaxLength), ("jsdoc", minDocLength),
    ("client", maxConcurrentRequests), ("client", maxRetries), ("client", retryDelayMs),
    ("client", maxTokens), ("embedding", maxRelatedSymbols), ("embedding", batchSize),
    ("performance", maxConcurrentFiles), ("performance", maxTokensPerBatch)] ++
  (modelSections file).flatMap fun name => [(name, modelMaxTokens), (name, dimensions)]

/-- The options of a file that are other numbers, with their sections. -/
def floatOptions (file : Ini.File) : List (String × Bounded Float) :=
  [("client", temperature), ("embedding", minRelationshipScore), ("cache", maxAgeHours)] ++
  (modelSections file).flatMap fun name => [(name, temperature), (name, topP)]

/-- A number of the settings that keeps its bounds unless it is no number. -/
def Fits (option : Bounded Float) (value : Number) : Prop :=
  ∃ x, value = .float x ∧ (option.HoldsFloat x ↔ Binary64.isNaN x = false)

/-- All numbers of settings keep their bounds, apart from those that are no numbers. -/
structure Bound (settings : Settings) : Prop where
  integers : ∀ number ∈ settings.integers, number.1.Holds number.2
  floats : ∀ number ∈ settings.floats, Fits number.1 number.2

/-- All numbers that a file gives for options can be read, and keep their bounds as well. -/
structure Converted (file : Ini.File) : Prop where
  integers : ∀ option ∈ integerOptions file, ∀ raw,
    file.value? option.1 option.2.key = .ok (some raw) →
      ∃ n, Numeral.readInt? raw = some n ∧ option.2.Holds n
  floats : ∀ option ∈ floatOptions file, ∀ raw,
    file.value? option.1 option.2.key = .ok (some raw) →
      ∃ x, Numeral.readFloat? raw = some x ∧ Fits option.2 (.float x)

theorem SoundNumber.fits {option : Bounded Float} {value : Number}
    (sound : SoundNumber file name option value) : Fits option value := by
  obtain ⟨x, same, sound⟩ := sound
  exact ⟨x, same, sound.fine x rfl⟩

theorem reads_of_soundFloat {option : Bounded Float} {value : Option Float}
    (sound : SoundFloat file name option value) (raw : Text)
    (given : file.value? name option.key = .ok (some raw)) :
    ∃ x, Numeral.readFloat? raw = some x ∧ Fits option (.float x) := by
  obtain ⟨x, reads, fits⟩ := sound.reads given
  exact ⟨x, reads, x, rfl, fits⟩

theorem SoundNumber.reads {option : Bounded Float} {value : Number}
    (sound : SoundNumber file name option value) (raw : Text)
    (given : file.value? name option.key = .ok (some raw)) :
    ∃ x, Numeral.readFloat? raw = some x ∧ Fits option (.float x) := by
  obtain ⟨x, -, sound⟩ := sound
  exact reads_of_soundFloat sound raw given

/-- The numbers of a model keep their bounds, apart from those that are no numbers. -/
structure BoundModel (model : Model) : Prop where
  integers : ∀ number ∈ modelIntegers model, number.1.Holds number.2
  floats : ∀ number ∈ modelFloats model, Fits number.1 number.2

theorem SoundModel.bound {model : Model} (sound : SoundModel file name model) :
    BoundModel model := by
  obtain ⟨⟨heat, heated, heats⟩, tokens, ⟨share, shared, shares⟩, sizes⟩ := sound
  constructor
  · simp only [modelIntegers, List.mem_append, Option.mem_toList,
      Option.map_eq_some_iff]
    rintro _ (⟨n, set, rfl⟩ | ⟨n, set, rfl⟩)
    · exact tokens.fine n set
    · exact sizes.fine n set
  · simp only [modelFloats, heated, shared, List.mem_append, Option.mem_toList,
      Option.map_eq_some_iff]
    rintro _ (⟨_, ⟨x, set, rfl⟩, rfl⟩ | ⟨_, ⟨x, set, rfl⟩, rfl⟩)
    · exact ⟨x, rfl, heats.fine x set⟩
    · exact ⟨x, rfl, shares.fine x set⟩

/-- A number passes the check of an option that has a least number. -/
def passes (option : Bounded Float) : Number → Bool
  | .float x => option.range.isSolid && option.range.admits Binary64.lt x
  | .int _ => false

theorem fits_of_passes {option : Bounded Float} {value : Number} (passed : passes option value) :
    Fits option value := by
  cases value with
  | int n => cases passed
  | float x =>
      obtain ⟨solid, admitted⟩ := Bool.and_eq_true_iff.mp passed
      exact ⟨x, rfl, Range.holds_iff_of_admits solid admitted⟩

/-- The models that are used if none are registered keep their bounds. -/
theorem bound_defaults {model : Model} (inside : model ∈ Model.defaults) : BoundModel model := by
  have integers : ∀ model ∈ Model.defaults, ∀ number ∈ modelIntegers model,
      number.1.range.admits (fun a b => decide (a < b)) number.2 = true := by decide
  have floats : ∀ model ∈ Model.defaults, ∀ number ∈ modelFloats model,
      passes number.1 number.2 = true := by decide +kernel
  exact ⟨fun number among => Range.holds_of_admits (integers model inside number among),
    fun number among => fits_of_passes (floats model inside number among)⟩

theorem ofFile_bound {workspace : Path} {settings : Settings}
    (read : ofFile workspace file = .ok settings) : Bound settings := by
  simp only [ofFile, Fallible.bind_eq_ok] at read
  obtain ⟨doc, docs, oracle, oracles, embedding, embeddings, batch, batches, cache, caches, log, -,
    models, registered, read⟩ := read
  cases read
  obtain ⟨snippet, surrounding, least⟩ := readDoc_sound docs
  obtain ⟨requests, retries, delay, heat, tokens⟩ := readOracle_sound oracles
  obtain ⟨score, related, size⟩ := readEmbedding_sound embeddings
  obtain ⟨files, perBatch⟩ := readBatch_sound batches
  have bound : ∀ model ∈ if models.isEmpty then Model.defaults else models, BoundModel model := by
    split
    · exact fun _ => bound_defaults
    · intro model inside
      obtain ⟨name, sound⟩ := (readModels_sound registered).1 model inside
      exact sound.bound
  constructor
  · unfold integers
    rw [List.forall_mem_append]
    refine ⟨?_, fun number inside => ?_⟩
    · simp only [List.forall_mem_cons]
      exact ⟨snippet.fine _ rfl, surrounding.fine _ rfl, least.fine _ rfl, requests.fine _ rfl,
        retries.fine _ rfl, delay.fine _ rfl, tokens.fine _ rfl, related.fine _ rfl,
        size.fine _ rfl, files.fine _ rfl, perBatch.fine _ rfl, nofun⟩
    · obtain ⟨model, among, inside⟩ := List.mem_flatMap.mp inside
      exact (bound model among).integers number inside
  · unfold floats
    rw [List.forall_mem_append]
    refine ⟨?_, fun number inside => ?_⟩
    · simp only [List.forall_mem_cons]
      exact ⟨heat.fits, ⟨_, rfl, score.fine _ rfl⟩, (readCache_sound caches).fits, nofun⟩
    · obtain ⟨model, among, inside⟩ := List.mem_flatMap.mp inside
      exact (bound model among).floats number inside

theorem ofFile_converted {workspace : Path} {settings : Settings}
    (read : ofFile workspace file = .ok settings) : Converted file := by
  simp only [ofFile, Fallible.bind_eq_ok] at read
  obtain ⟨doc, docs, oracle, oracles, embedding, embeddings, batch, batches, cache, caches, log, -,
    models, registered, -⟩ := read
  obtain ⟨snippet, surrounding, least⟩ := readDoc_sound docs
  obtain ⟨requests, retries, delay, heat, tokens⟩ := readOracle_sound oracles
  obtain ⟨score, related, size⟩ := readEmbedding_sound embeddings
  obtain ⟨files, perBatch⟩ := readBatch_sound batches
  have model : ∀ name ∈ modelSections file, ∃ model, SoundModel file name model := by
    intro name inside
    obtain ⟨among, marks⟩ := List.mem_filter.mp inside
    obtain ⟨model, -, sound⟩ := (readModels_sound registered).2 name among marks
    exact ⟨model, sound⟩
  constructor
  · unfold integerOptions
    rw [List.forall_mem_append]
    refine ⟨?_, fun option inside => ?_⟩
    · simp only [List.forall_mem_cons]
      exact ⟨fun _ => snippet.reads, fun _ => surrounding.reads, fun _ => least.reads,
        fun _ => requests.reads, fun _ => retries.reads, fun _ => delay.reads,
        fun _ => tokens.reads, fun _ => related.reads, fun _ => size.reads,
        fun _ => files.reads, fun _ => perBatch.reads, nofun⟩
    · obtain ⟨name, among, inside⟩ := List.mem_flatMap.mp inside
      obtain ⟨model, sound⟩ := model name among
      rcases List.mem_pair.mp inside with rfl | rfl
      · exact fun _ => sound.maxTokens.reads
      · exact fun _ => sound.dimensions.reads
  · unfold floatOptions
    rw [List.forall_mem_append]
    refine ⟨?_, fun option inside => ?_⟩
    · simp only [List.forall_mem_cons]
      exact ⟨heat.reads, reads_of_soundFloat score, (readCache_sound caches).reads, nofun⟩
    · obtain ⟨name, among, inside⟩ := List.mem_flatMap.mp inside
      obtain ⟨model, sound⟩ := model name among
      rcases List.mem_pair.mp inside with rfl | rfl
      · obtain ⟨_, -, sound⟩ := sound.temperature
        exact reads_of_soundFloat sound
      · obtain ⟨_, -, sound⟩ := sound.topP
        exact reads_of_soundFloat sound

/-! ## What is made of the numbers -/

theorem load_eq_ok {workspace : String} {text : Text} {settings : Settings}
    (loaded : load workspace (some text) = .ok settings) :
    ∃ file, Ini.File.read text = .ok file ∧ ofFile (.ofString workspace) file = .ok settings := by
  unfold load at loaded
  split at loaded
  · cases loaded
  · obtain ⟨file, read, loaded⟩ := Fallible.bind_eq_ok.mp loaded
    exact ⟨file, Fallible.mapError_eq_ok.mp read, loaded⟩

theorem exists_gate {limit : Int} (least : 1 ≤ limit) : ∃ gate, Gate.ofLimit limit = .ok gate :=
  ⟨_, if_neg (by omega)⟩

/-- A store can be made for an age whose milliseconds are finite. -/
theorem exists_store_iff (codec : Cache.Codec) (hours : Float) (version : String) :
    (∃ store, Cache.Store.ofHours codec (.float hours) version = .ok store) ↔
      Binary64.isNaN (hours * Binary64.ofInt 3600 * Binary64.ofInt 1000) = false ∧
      Binary64.isInfinite (hours * Binary64.ofInt 3600 * Binary64.ofInt 1000) = false := by
  have product : Cache.Store.milliseconds (.float hours) =
      (Number.float (hours * Binary64.ofInt 3600 * Binary64.ofInt 1000)).truncate := rfl
  simp only [Cache.Store.ofHours, Fallible.map_eq_ok, product, Number.truncate]
  split
  · simp_all
  · split
    · simp_all
    · simp_all

/-- Settings that are loaded from a text have every integer within its bounds, and each other number
    unless it is no number at all, and so has the text. Their gates can be opened, and their cache
    can be made if its age in milliseconds is finite. -/
theorem load_bounded (workspace : String) (text : Text) (settings : Settings)
    (loaded : load workspace (some text) = .ok settings) :
    Bound settings ∧
    (∃ gate, Gate.ofLimit settings.oracle.maxConcurrentRequests = .ok gate) ∧
    (∃ gate, Gate.ofLimit settings.batch.maxConcurrentFiles = .ok gate) ∧
    (∃ hours, settings.cache.maxAgeHours = .float hours ∧ ∀ codec version,
      (∃ store, Cache.Store.ofHours codec settings.cache.maxAgeHours version = .ok store) ↔
        Binary64.isNaN (hours * Binary64.ofInt 3600 * Binary64.ofInt 1000) = false ∧
        Binary64.isInfinite (hours * Binary64.ofInt 3600 * Binary64.ofInt 1000) = false) ∧
    ∃ file, Ini.File.read text = .ok file ∧ Converted file := by
  obtain ⟨file, read, made⟩ := load_eq_ok loaded
  have bound := ofFile_bound made
  have requests := bound.integers
    (maxConcurrentRequests, settings.oracle.maxConcurrentRequests) (by simp [integers])
  have files := bound.integers
    (maxConcurrentFiles, settings.batch.maxConcurrentFiles) (by simp [integers])
  obtain ⟨hours, same, -⟩ := bound.floats (maxAgeHours, settings.cache.maxAgeHours)
    (by simp [floats])
  have same : settings.cache.maxAgeHours = .float hours := same
  refine ⟨bound, exists_gate (requests.least _ rfl), exists_gate (files.least _ rfl),
    ⟨hours, same, fun codec version => ?_⟩, file, read, ofFile_converted made⟩
  rw [same]
  exact exists_store_iff codec hours version

/-- The greatest number of attempts keeps its bounds. -/
theorem load_bounded_greatest : ∃ settings,
    load "/ws" (some "[client]\nmax_retries = 20\n".toList) = .ok settings ∧
    settings.oracle.maxRetries = 20 ∧ Bound settings ∧
    ∃ gate, Gate.ofLimit settings.oracle.maxConcurrentRequests = .ok gate := by
  let file : Ini.File := { sections := [("client", [("max_retries", "20".toList)])] }
  have value (name option : String) : file.value? name option = .ok (file.raw? name option) :=
    Ini.File.value?_of_isPlain (by decide) name option
  have made : ∃ settings, ofFile (.ofString "/ws") file = .ok settings ∧
      settings.oracle.maxRetries = 20 := by
    simp only [ofFile, readDoc, readOracle, readEmbedding, readBatch, readCache, readLog,
      Reader.flag, Reader.int?, Reader.float?, Reader.string?, Reader.list?, Reader.number?,
      Reader.text?, value]
    exact ⟨_, rfl, rfl⟩
  obtain ⟨settings, made, retries⟩ := made
  have loaded : load "/ws" (some "[client]\nmax_retries = 20\n".toList) = .ok settings := made
  obtain ⟨bound, gate, -⟩ := load_bounded _ _ _ loaded
  exact ⟨settings, loaded, retries, bound, gate⟩

/-- A temperature that is no number and an age without end are loaded. The one is not within its
    bounds, and no cache can be made for the other. -/
theorem load_unbounded : ∃ settings,
    load "/ws" (some "[client]\ntemperature = nan\n[cache]\nmax_age_hours = inf\n".toList) =
      .ok settings ∧
    (∃ x, settings.oracle.temperature = .float x ∧ ¬temperature.HoldsFloat x) ∧
    ∀ codec version,
      Cache.Store.ofHours codec settings.cache.maxAgeHours version = .error .infinite := by
  let file : Ini.File :=
    { sections :=
        [("client", [("temperature", "nan".toList)]),
          ("cache", [("max_age_hours", "inf".toList)])] }
  have value (name option : String) : file.value? name option = .ok (file.raw? name option) :=
    Ini.File.value?_of_isPlain (by decide) name option
  have made : ∃ settings, ofFile (.ofString "/ws") file = .ok settings ∧
      settings.oracle.temperature = .float Binary64.notANumber ∧
      settings.cache.maxAgeHours = .float (Binary64.infinity false) := by
    simp only [ofFile, readDoc, readOracle, readEmbedding, readBatch, readCache, readLog,
      Reader.flag, Reader.int?, Reader.float?, Reader.string?, Reader.list?, Reader.number?,
      Reader.text?, value]
    exact ⟨_, rfl, rfl, rfl⟩
  obtain ⟨settings, made, heat, age⟩ := made
  refine ⟨settings, made, ⟨_, heat, fun holds => ?_⟩, fun codec version => ?_⟩
  · have number := (Binary64.isNaN_of_le (holds.least _ rfl)).2
    exact absurd number (by decide +kernel)
  · rw [age]
    rfl

end Scholia.Settings
