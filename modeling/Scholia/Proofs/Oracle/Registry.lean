import Mathlib.Data.List.Basic
import Scholia.Oracle.Lenient
import Scholia.Oracle.Registry
import Scholia.Proofs.Settings.Options
import Scholia.Settings.Load

/-! # The default models of an oracle

An oracle is checked when it is set up: the last model of a default id has to be of the type that is
needed, and some model of the id has to be usable. Requests are sent to the last model of the id that
can be used, and the settings name the first one. Where ids are repeated these can be three models;
the default supplies its requests where they agree.
-/

namespace Scholia.Oracle

variable {settings : Settings} {models : List Model} {environment : Table String} {logs : Bool}
  {cache : Option Cache.Store} {form : Response.Form} {requireEmbedding examples : Bool}
  {oracle : Oracle}
  {type id : String} {entry : Registered}

/-- The last model of an id that can be used. -/
def lastUsable? (environment : Table String) (models : List Model) (id : String) : Option Model :=
  configured? (models.filter fun model => (usable? environment false model).isSome) id

/-- A model supplies requests of a type: those that name no model are sent to it, with a key unless
    its provider needs none, and it is the one that the settings have under the id. -/
structure Supplies (settings : Settings) (oracle : Oracle) (type id : String) (entry : Registered) :
    Prop where
  resolved : oracle.resolve none type = .ok entry
  suits : entry.model.type = type
  authorised : entry.endpoint.route.apiKey.isSome = true ∨
    entry.model.provider ∈ keylessProviders
  configured : settings.model? id = some entry.model

/-! ## The table of usable models -/

theorem usable?_eq_some {model : Model} (usable : usable? environment logs model = some entry) :
    entry.model = model ∧ (entry.endpoint.route.apiKey.isSome = true ∨
      entry.model.provider ∈ keylessProviders) := by
  unfold usable? at usable
  dsimp only at usable
  split at usable
  · next given =>
    cases usable
    rw [Bool.or_eq_true, List.contains_iff_mem] at given
    exact ⟨rfl, given⟩
  · cases usable

/-- Whether a model can be used does not depend on the log. -/
theorem isSome_usable? (environment : Table String) (logs : Bool) (model : Model) :
    (usable? environment logs model).isSome = (usable? environment false model).isSome := by
  unfold usable?
  dsimp only
  split
  · rfl
  · rfl

/-- Of several entries with one id the last one stands. -/
theorem get?_foldl_set (entries : List Registered) (table : Table Registered) (id : String) :
    (entries.foldl (fun table entry => table.set entry.model.id entry) table).get? id =
      (entries.reverse.find? (·.model.id = id)).or (table.get? id) := by
  induction entries generalizing table with
  | nil => rfl
  | cons first rest ih =>
      rw [List.foldl_cons, ih, List.reverse_cons, List.find?_append, Option.or_assoc]
      congr 1
      by_cases same : first.model.id = id
      · rw [← same, Table.get?_set_same, List.find?_cons_of_pos (by simp), Option.some_or]
      · rw [Table.get?_set_other _ _ same, List.find?_cons_of_neg (by simpa using same),
          List.find?_nil, Option.none_or]

theorem get?_register (environment : Table String) (logs : Bool) (models : List Model)
    (id : String) : (register environment logs models).get? id =
      (lastUsable? environment models id).bind (usable? environment logs) := by
  unfold register lastUsable? configured?
  rw [get?_foldl_set, Table.get?, Option.or_none, ← List.filterMap_reverse, List.find?_filterMap,
    ← List.filter_reverse, List.find?_filter]
  congr 2
  funext model
  rw [← isSome_usable? environment logs]
  cases usable : usable? environment logs model with
  | none => rfl
  | some entry => simp [(usable?_eq_some usable).1]

/-- An entry of the table is that of the last usable model, which needs no key or has one. -/
theorem get?_register_eq_some (found : (register environment logs models).get? id = some entry) :
    lastUsable? environment models id = some entry.model ∧
      (entry.endpoint.route.apiKey.isSome = true ∨ entry.model.provider ∈ keylessProviders) := by
  rw [get?_register] at found
  obtain ⟨model, last, usable⟩ := Option.bind_eq_some_iff.mp found
  obtain ⟨same, authorised⟩ := usable?_eq_some usable
  exact ⟨same ▸ last, authorised⟩

theorem isSome_get?_register (environment : Table String) (logs : Bool) (models : List Model)
    (id : String) : ((register environment logs models).get? id).isSome =
      (lastUsable? environment models id).isSome := by
  rw [get?_register]
  cases last : lastUsable? environment models id with
  | none => rfl
  | some model =>
      have usable := List.of_mem_filter (List.mem_reverse.mp (List.mem_of_find?_eq_some last))
      rw [← isSome_usable? environment logs] at usable
      exact usable

/-! ## The checks -/

theorem lastUsable?_eq_some {model : Model}
    (last : lastUsable? environment models id = some model) : model ∈ models ∧ model.id = id := by
  have inside := List.mem_reverse.mp (List.mem_of_find?_eq_some last)
  have same := List.find?_some last
  exact ⟨List.mem_of_mem_filter inside, of_decide_eq_true same⟩

/-- A default that was checked: a model of its id suits, and one of its id is usable. -/
theorem checkDefault_eq_ok {usable : Table Registered} {checked : String}
    (passes : checkDefault models usable type id = .ok checked) :
    checked = id ∧ (usable.get? id).isSome = true ∧
      ∃ model ∈ models, model.id = id ∧ model.type = type := by
  unfold checkDefault at passes
  split at passes
  · cases passes
  · next model last =>
    split at passes
    · cases passes
    · next suits =>
      split at passes
      · cases passes
      · next usable =>
        cases passes
        have same := List.find?_some last
        refine ⟨rfl, ?_, model, ?_, of_decide_eq_true same, not_not.mp suits⟩
        · rwa [Bool.not_eq_true, Option.isNone_eq_false_iff] at usable
        · exact List.mem_reverse.mp (List.mem_of_find?_eq_some last)

/-- An oracle that was set up, and the defaults that were checked. -/
structure SetUp (settings : OracleSettings) (registered : List Model) (environment : Table String)
    (logs : Bool) (oracle : Oracle) : Prop where
  models : oracle.models = register environment logs registered
  generation : checkDefault registered oracle.models generationType
    settings.defaultGenerationModel = .ok oracle.generationDefault
  embedding : ∀ id, oracle.embeddingDefault = some id →
    checkDefault registered oracle.models embeddingType settings.defaultEmbeddingModel = .ok id

theorem setUp_of_create {settings : OracleSettings}
    (created : create settings models environment cache form logs requireEmbedding examples =
      .ok oracle) : SetUp settings models environment logs oracle := by
  unfold create at created
  obtain ⟨gate, -, created⟩ := Fallible.bind_eq_ok.mp created
  obtain ⟨generation, generates, created⟩ := Fallible.bind_eq_ok.mp created
  dsimp only at created
  split at created
  · next checked =>
    cases created
    exact ⟨rfl, generates, fun _ same => by cases same; exact checked⟩
  · split at created
    · cases created
    · cases created
      exact ⟨rfl, generates, nofun⟩

/-- What an oracle keeps responses in, and how, is what it was given. -/
theorem keeping_of_create {settings : OracleSettings}
    (created : create settings models environment cache form logs requireEmbedding examples =
      .ok oracle) : oracle.cache = cache ∧ oracle.form = form := by
  unfold create at created
  obtain ⟨gate, -, created⟩ := Fallible.bind_eq_ok.mp created
  obtain ⟨generation, -, created⟩ := Fallible.bind_eq_ok.mp created
  dsimp only at created
  split at created
  · cases created
    exact ⟨rfl, rfl⟩
  · split at created
    · cases created
    · cases created
      exact ⟨rfl, rfl⟩

namespace SetUp

/-- The defaults are those of the settings; one of each id is usable, and one suits. -/
theorem checked {settings : OracleSettings} (setUp : SetUp settings models environment logs oracle)
    (known : type ∈ Model.types) (default : oracle.default? type = some id) :
    (lastUsable? environment models id).isSome = true ∧
      ∃ model ∈ models, model.id = id ∧ model.type = type := by
  suffices passes : ∃ chosen, checkDefault models oracle.models type chosen = .ok id by
    obtain ⟨chosen, passes⟩ := passes
    obtain ⟨same, usable, suits⟩ := checkDefault_eq_ok passes
    subst same
    rw [setUp.models, isSome_get?_register] at usable
    exact ⟨usable, suits⟩
  rcases List.mem_pair.mp known with generates | embeds
  · subst generates
    cases default
    exact ⟨_, setUp.generation⟩
  · subst embeds
    exact ⟨_, setUp.embedding id default⟩

/-- A request that names no model is sent to the last usable model of the default. -/
theorem resolve_eq_ok {settings : OracleSettings}
    (setUp : SetUp settings models environment logs oracle)
    (default : oracle.default? type = some id) : oracle.resolve none type = .ok entry ↔
      (register environment logs models).get? id = some entry ∧ entry.model.type = type := by
  rw [resolve, Option.none_or, default, setUp.models]
  dsimp only
  cases (register environment logs models).get? id with
  | none => simp
  | some found =>
      dsimp only
      by_cases suits : found.model.type = type
      · rw [if_pos suits]
        exact ⟨fun same => by cases same; exact ⟨rfl, suits⟩, fun ⟨same, _⟩ => by cases same; rfl⟩
      · rw [if_neg suits]
        exact ⟨nofun, fun ⟨same, suited⟩ => by cases same; exact absurd suited suits⟩

theorem exists_entry {settings : OracleSettings}
    (_ : SetUp settings models environment logs oracle) {model : Model}
    (last : lastUsable? environment models id = some model) :
    ∃ entry, (register environment logs models).get? id = some entry ∧ entry.model = model := by
  have some : ((register environment logs models).get? id).isSome = true := by
    rw [isSome_get?_register, last]
    rfl
  obtain ⟨entry, found⟩ := Option.isSome_iff_exists.mp some
  exact ⟨entry, found, Option.some.inj ((get?_register_eq_some found).1.symm.trans last)⟩

end SetUp

/-! ## When the defaults supply their requests -/

section

variable (setUp : SetUp settings.oracle settings.models environment logs oracle)
  (default : oracle.default? type = some id)
include setUp default

theorem exists_resolved_iff : (∃ entry, oracle.resolve none type = .ok entry) ↔
    ∃ model, lastUsable? environment settings.models id = some model ∧ model.type = type := by
  constructor
  · rintro ⟨entry, resolved⟩
    obtain ⟨found, suits⟩ := (setUp.resolve_eq_ok default).mp resolved
    exact ⟨entry.model, (get?_register_eq_some found).1, suits⟩
  · rintro ⟨model, last, suits⟩
    obtain ⟨entry, found, same⟩ := setUp.exists_entry last
    exact ⟨entry, (setUp.resolve_eq_ok default).mpr ⟨found, same ▸ suits⟩⟩

theorem exists_supplies_iff : (∃ entry, Supplies settings oracle type id entry) ↔
    ∃ model, settings.model? id = some model ∧
      lastUsable? environment settings.models id = some model ∧ model.type = type := by
  constructor
  · rintro ⟨entry, resolved, suits, -, configured⟩
    obtain ⟨found, -⟩ := (setUp.resolve_eq_ok default).mp resolved
    exact ⟨entry.model, configured, (get?_register_eq_some found).1, suits⟩
  · rintro ⟨model, configured, last, suits⟩
    obtain ⟨entry, found, same⟩ := setUp.exists_entry last
    subst same
    exact ⟨entry, (setUp.resolve_eq_ok default).mpr ⟨found, suits⟩, suits,
      (get?_register_eq_some found).2, configured⟩

/-- A default whose id stands for one model only supplies its requests. -/
theorem exists_supplies_of_single (known : type ∈ Model.types)
    (single : ∀ one ∈ settings.models, ∀ other ∈ settings.models,
      one.id = id → other.id = id → one = other) : ∃ entry, Supplies settings oracle type id entry := by
  rw [exists_supplies_iff setUp default]
  obtain ⟨usable, model, inside, named, suits⟩ := setUp.checked known default
  obtain ⟨last, found⟩ := Option.isSome_iff_exists.mp usable
  obtain ⟨lastInside, lastNamed⟩ := lastUsable?_eq_some found
  cases single model inside last lastInside named lastNamed
  refine ⟨model, ?_, found, suits⟩
  have some : (settings.model? id).isSome = true := by
    rw [Settings.model?, List.find?_isSome]
    exact ⟨model, inside, decide_eq_true named⟩
  obtain ⟨first, configured⟩ := Option.isSome_iff_exists.mp some
  have firstNamed := List.find?_some configured
  cases single first (List.mem_of_find?_eq_some configured) model inside
    (of_decide_eq_true firstNamed) named
  exact configured

end

/-- When an oracle is set up, its defaults are those of the settings. A request that names no model
    is sent to one if the last usable model of the default suits, and the default supplies its
    requests if that is also the first model of the id, as it is if the id is not repeated. -/
theorem default_supplies_iff (settings : Settings) (environment : Table String)
    (cache : Option Cache.Store) (form : Response.Form) (logs requireEmbedding examples : Bool)
    (oracle : Oracle)
    (created : create settings.oracle settings.models environment cache form logs requireEmbedding
      examples = .ok oracle) :
    oracle.default? generationType = some settings.oracle.defaultGenerationModel ∧
    (∀ id, oracle.default? embeddingType = some id →
      id = settings.oracle.defaultEmbeddingModel) ∧
    ∀ type ∈ Model.types, ∀ id, oracle.default? type = some id →
      ((∃ entry, oracle.resolve none type = .ok entry) ↔
        ∃ model, lastUsable? environment settings.models id = some model ∧ model.type = type) ∧
      ((∃ entry, Supplies settings oracle type id entry) ↔
        ∃ model, settings.model? id = some model ∧
          lastUsable? environment settings.models id = some model ∧ model.type = type) ∧
      ((∀ one ∈ settings.models, ∀ other ∈ settings.models,
        one.id = id → other.id = id → one = other) → ∃ entry, Supplies settings oracle type id entry) := by
  have setUp := setUp_of_create created
  refine ⟨?_, ?_, ?_⟩
  · exact congrArg some (checkDefault_eq_ok setUp.generation).1
  · intro id default
    exact (checkDefault_eq_ok (setUp.embedding id default)).1
  · intro type known id default
    exact ⟨exists_resolved_iff setUp default, exists_supplies_iff setUp default,
      exists_supplies_of_single setUp default known⟩

/-- The last model of a default id has no key, and the first supplies the requests. -/
theorem default_supplies_keyed :
    let settings : Settings :=
      { workspace := .ofString "/ws"
        oracle := { defaultGenerationModel := "m", defaultEmbeddingModel := "e" }
        models :=
          [{ id := "m", provider := "openai", name := "gpt-4o" },
            { id := "m", provider := "google", name := "gemini-1.5-pro" },
            { id := "e", provider := "ollama", name := "nomic", type := "embedding" }] }
    ∃ oracle,
      create settings.oracle settings.models [("OPENAI_API_KEY", "sk")] none Lenient.form false true
        true = .ok oracle ∧
      (∃ entry, Supplies settings oracle generationType "m" entry) ∧
      ∃ entry, Supplies settings oracle embeddingType "e" entry := by
  intro settings
  have created : create settings.oracle settings.models [("OPENAI_API_KEY", "sk")] none
      Lenient.form false true true = .ok _ := rfl
  obtain ⟨-, -, supplies⟩ :=
    default_supplies_iff settings _ none Lenient.form false true true _ created
  refine ⟨_, created, ?_⟩
  obtain ⟨-, generates, -⟩ := supplies generationType (by decide) "m" rfl
  obtain ⟨-, embeds, -⟩ := supplies embeddingType (by decide) "e" rfl
  exact ⟨generates.mpr ⟨_, rfl, rfl, rfl⟩, embeds.mpr ⟨_, rfl, rfl, rfl⟩⟩

/-- The last model of an id is for generation and has no key; the first needs none and embeds. The
    oracle is set up, and has no model for its requests. -/
theorem default_unsupplied :
    let settings : Settings :=
      { workspace := .ofString "/ws"
        oracle := { defaultGenerationModel := "m" }
        models :=
          [{ id := "m", provider := "ollama", name := "nomic", type := "embedding" },
            { id := "m", provider := "openai", name := "gpt-4o" }] }
    ∃ oracle,
      create settings.oracle settings.models [] none Lenient.form false false true = .ok oracle ∧
      oracle.resolve none generationType = .error (.wrongType "m" "generation") ∧
      ¬∃ entry, Supplies settings oracle generationType "m" entry := by
  refine ⟨_, rfl, rfl, ?_⟩
  rintro ⟨entry, resolved, -⟩
  cases resolved

end Scholia.Oracle
