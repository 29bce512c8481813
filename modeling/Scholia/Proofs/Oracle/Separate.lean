import Scholia.Proofs.Cache.Comments
import Scholia.Proofs.Oracle.Asking
import Scholia.Proofs.Oracle.Constancy
import Scholia.Proofs.Oracle.Fairness

/-! # Requests for vectors on the side

A provider may keep what it answers to requests for comments apart from requests for vectors. Then
requests for vectors leave alone what comments depend on, and two sessions that differ in such
requests, and in what is kept of them, go on to come to the same comments.
-/

namespace Scholia

variable {σ ρ α β : Type}

/-- What a provider replies to a request for a comment depends on a view of its state, which
    requests for vectors do not change. -/
structure Provider.Separate (provider : Provider σ) (view : σ → ρ) : Prop where
  reply : ∀ request one two, view one = view two →
    (provider.complete request one).1 = (provider.complete request two).1
  complete : ∀ request one two, view one = view two →
    view (provider.complete request one).2 = view (provider.complete request two).2
  embed : ∀ request state, view (provider.embed request state).2 = view state

/-- The request, if it is one for a comment. -/
def Call.completion? : Call → Option CompletionRequest
  | completion request => some request
  | embedding _ => none

namespace Session

/-- The requests for comments that were sent so far. -/
def completions (session : Session σ) : List CompletionRequest :=
  session.calls.filterMap Call.completion?

/-- What of a session has to do with comments, the directory of the cache apart. -/
def talk (view : σ → ρ) (session : Session σ) : ρ × Int × List CompletionRequest :=
  (view session.provider, session.now, session.completions)

/-- Two sessions differ in nothing that comments depend on. -/
structure Abreast (view : σ → ρ) (heard : List UInt8 → Option Response) (differ : String → Prop)
    (first second : Session σ) : Prop where
  talk : second.talk view = first.talk view
  directory : Directory.Abreast heard differ first.directory second.directory

/-- In sessions that are abreast an action comes to the same, and leaves them abreast. -/
def Even (view : σ → ρ) (heard : List UInt8 → Option Response) (differ : String → Prop)
    (action : Session σ → α × Session σ) : Prop :=
  ∀ one two, Abreast view heard differ one two →
    (action one).1 = (action two).1 ∧ Abreast view heard differ (action one).2 (action two).2

/-- From one session to another nothing happened but that files of some names were touched. -/
structure Aside (view : σ → ρ) (heard : List UInt8 → Option Response) (names : String → Prop)
    (before after : Session σ) : Prop where
  talk : after.talk view = before.talk view
  directory : Directory.Touched heard names before.directory after.directory

variable {view : σ → ρ} {heard : List UInt8 → Option Response} {differ : String → Prop}

theorem Aside.refl (view : σ → ρ) (heard : List UInt8 → Option Response) (names : String → Prop)
    (session : Session σ) : Aside view heard names session session :=
  ⟨rfl, .refl heard names _⟩

theorem Aside.trans {names : String → Prop} {before between after : Session σ}
    (first : Aside view heard names before between)
    (second : Aside view heard names between after) : Aside view heard names before after :=
  ⟨second.talk.trans first.talk, first.directory.trans second.directory⟩

theorem Even.pure (view : σ → ρ) (heard : List UInt8 → Option Response) (differ : String → Prop)
    (value : α) : Even view heard differ fun session => (value, session) :=
  fun _ _ abreast => ⟨rfl, abreast⟩

theorem Even.andThen {action : Session σ → α × Session σ} {whole : Session σ → β × Session σ}
    (first : Even view heard differ action) (next : α → Session σ → β × Session σ)
    (second : ∀ value, Even view heard differ (next value))
    (steps : ∀ session, whole session = next (action session).1 (action session).2) :
    Even view heard differ whole := by
  intro one two abreast
  obtain ⟨same, between⟩ := first one two abreast
  rw [steps, steps, same]
  exact second _ _ _ between

/-! ## Conversations -/

theorem talk_settle (view : σ → ρ) (endpoint : Endpoint) (request : Json)
    (reply : Except ProviderError α) (write : α → Json) (session : Session σ) :
    (settle endpoint request reply write session).2.talk view = session.talk view := by
  obtain ⟨log, same⟩ := exists_log_settle endpoint request reply write session
  rw [same]
  rfl

section

variable {provider : Provider σ} (separate : provider.Separate view) (endpoint : Endpoint)

include separate

theorem even_answer (request : CompletionRequest) :
    Even view heard differ fun session => session.answer provider request := by
  rintro one two ⟨talk, directory⟩
  obtain ⟨state, now, calls⟩ : view two.provider = view one.provider ∧ two.now = one.now ∧
      two.completions = one.completions := by simpa [Session.talk] using talk
  refine ⟨(separate.reply request _ _ state).symm, ?_, directory⟩
  exact congrArg₂ Prod.mk (separate.complete request _ _ state) (congrArg₂ Prod.mk now calls)

omit separate in
theorem even_hear (request : CompletionRequest) (reply : Except ProviderError (Option String)) :
    Even (σ := σ) view heard differ (hear endpoint request reply) := by
  rintro one two ⟨talk, directory⟩
  refine ⟨constant_settle endpoint _ _ _ _ _, ?_, ?_⟩
  · unfold hear
    rw [talk_settle, talk_settle]
    exact talk
  · rwa [(blind_hear endpoint request reply).directory_eq,
      (blind_hear endpoint request reply).directory_eq]

omit separate in
theorem even_send (request : CompletionRequest) :
    Even (σ := σ) view heard differ fun session => ((), session.send (.completion request)) := by
  rintro one two ⟨talk, directory⟩
  refine ⟨rfl, ?_, directory⟩
  obtain ⟨state, now, calls⟩ : view two.provider = view one.provider ∧ two.now = one.now ∧
      two.completions = one.completions := by simpa [Session.talk] using talk
  simp only [Session.talk, completions, send, List.filterMap_append, state, now]
  rw [← completions, ← completions, calls]

/-- A request for vectors is no business of comments. -/
theorem talk_embed (request : EmbeddingRequest) (session : Session σ) :
    (embed provider endpoint request session).2.talk view = session.talk view := by
  refine (talk_settle view endpoint _ _ _ _).trans ?_
  simp only [Session.talk, completions, send, List.filterMap_append, separate.embed]
  simp [Call.completion?]

end

end Session

open Session

variable {view : σ → ρ} {differ : String → Prop}

namespace Oracle

/-- The response that is heard from the bytes of a file in the cache. -/
def heard (oracle : Oracle) (bytes : List UInt8) : Option Response :=
  oracle.cache.bind fun store => store.heard oracle.form bytes

theorem heard_eq {oracle : Oracle} {store : Cache.Store} (cache : oracle.cache = some store) :
    oracle.heard = store.heard oracle.form := by
  funext bytes
  rw [heard, cache]
  rfl

/-- What is kept of the vectors that a provider gives is not heard as a response. -/
def Hushes (oracle : Oracle) (provider : Provider σ) (now : Int) : Prop :=
  ∀ store, oracle.cache = some store → ∀ request state vectors,
    (provider.embed request state).1 = .ok vectors → ∀ bytes,
      store.codec.write (store.entryFor now (.array (vectors.map .ofVector)) none) = some bytes →
        oracle.heard bytes = none

/-- The file that the vectors of some texts are kept in, if there is a model for them. -/
def vectorFile? (oracle : Oracle) (texts : List String) : Option String :=
  (oracle.resolve none embeddingType).toOption.map fun entry =>
    Cache.fileName (embeddingKey texts entry.model.id)

variable {provider : Provider σ} (separate : provider.Separate view) (oracle : Oracle)
  (entry : Registered) (bundle : Bundle) (options : GenerationOptions)

theorem even_lookUp (content : Option Text) :
    Even view oracle.heard differ fun session =>
      ((session.lookUp oracle.cache (cacheKey bundle.id entry.model.id) content).1.bind
          oracle.form.read,
        (session.lookUp oracle.cache (cacheKey bundle.id entry.model.id) content).2) := by
  cases cache : oracle.cache with
  | none => exact .pure view _ differ _
  | some store =>
      rintro one two ⟨talk, directory⟩
      have now : two.now = one.now := congrArg (·.2.1) talk
      rw [heard_eq cache] at directory ⊢
      obtain ⟨same, after⟩ := store.abreast_get oracle.form one.now
        (cacheKey bundle.id entry.model.id) content directory ⟨_, _, rfl⟩
      refine ⟨?_, talk, ?_⟩
      · simpa only [lookUp, now] using same.symm
      · simpa only [lookUp, now] using after

theorem even_keep (value : Json) (content : Option Text) :
    Even view oracle.heard differ fun session =>
      ((), session.keep oracle.cache (cacheKey bundle.id entry.model.id) value content) := by
  cases cache : oracle.cache with
  | none => exact .pure view _ differ _
  | some store =>
      rintro one two ⟨talk, directory⟩
      have now : two.now = one.now := congrArg (·.2.1) talk
      rw [heard_eq cache] at directory ⊢
      have after := store.abreast_set oracle.form one.now (cacheKey bundle.id entry.model.id) content
        directory ⟨_, _, rfl⟩ value
      refine ⟨rfl, talk, ?_⟩
      simpa only [keep, now] using after

theorem even_kept : Even view oracle.heard differ (oracle.kept entry bundle options) := by
  unfold kept
  split
  · exact .pure view oracle.heard differ _
  · exact (even_lookUp oracle entry bundle _).andThen
      (fun found session => (found.map fun response => { response with cached := true }, session))
      (fun _ => .pure view oracle.heard differ _) fun _ => rfl

theorem even_keepComment (response : Response) : Even (σ := σ) view oracle.heard differ
    fun session => ((), oracle.keepComment entry bundle response session) := by
  unfold keepComment
  split
  · exact even_keep oracle entry bundle _ _
  · exact .pure view oracle.heard differ ()

include separate

/-- Each step of a request for a comment is taken alike in sessions that are abreast. -/
theorem even_step {β : Type} {action : Session σ → β × Session σ}
    (step : Step provider oracle β action) : Even view oracle.heard differ action := by
  cases step with
  | kept entry bundle options => exact even_kept oracle entry bundle options
  | send request => exact even_send request
  | answer request => exact even_answer separate request
  | hear endpoint request reply => exact even_hear endpoint request reply
  | keep entry bundle response => exact even_keepComment oracle entry bundle response
  | enter | sleep _ | leave => exact fun _ _ abreast => ⟨rfl, abreast.talk, abreast.directory⟩

omit separate

/-- No step of a request for a comment takes away a directory. -/
theorem directories_step {β : Type} {action : Session σ → β × Session σ}
    (step : Step provider oracle β action) (session : Session σ) {name : String}
    (there : session.directory.entries.get? name = some .directory) :
    (action session).2.directory.entries.get? name = some .directory := by
  cases step with
  | kept entry bundle options =>
      unfold kept lookUp
      split
      · exact there
      · cases oracle.cache with
        | none => exact there
        | some store => exact (store.touched_get _ _ _ oracle.heard _).directories name there
  | hear endpoint request reply =>
      rwa [(blind_hear endpoint request reply).directory_eq]
  | keep entry bundle response =>
      unfold keepComment Session.keep
      split
      · cases oracle.cache with
        | none => exact there
        | some store => exact store.directories_set _ _ _ _ _ there
      · exact there
  | enter | send _ | answer _ | sleep _ | leave => exact there

include separate

theorem talk_askVectors (texts : List String) (session : Session σ) :
    (askVectors provider entry texts session).2.talk view = session.talk view := by
  have same := Session.talk_embed separate entry.endpoint
    (entry.endpoint.embedding texts entry.model.dimensions) session
  unfold askVectors
  dsimp only
  split
  · next answer =>
    rw [answer] at same
    split
    · exact same
    · exact same
  · next answer => rwa [answer] at same

theorem aside_freshVectors (names : String → Prop) (texts : List String) (maxRetries : Option Int)
    (session : Session σ) :
    Aside view oracle.heard names session
      (freshVectors provider oracle entry texts maxRetries session).2 := by
  have talk := Retry.run_same (talk view) (talk_askVectors separate entry texts) (fun _ _ => rfl)
    oracle.settings.retryDelayMs (Retry.attempts (maxRetries.getD oracle.settings.maxRetries)) 0 none
    session.enter
  have directory := (oracle.blind_tries (blind_askVectors provider entry texts)
    (maxRetries.getD oracle.settings.maxRetries)).directory_eq session
  have tried : Aside view oracle.heard names session (oracle.tries (askVectors provider entry texts)
      (maxRetries.getD oracle.settings.maxRetries) session).2 := by
    refine ⟨talk, ?_⟩
    rw [directory]
    exact .refl _ names _
  rw [freshVectors_eq]
  cases (oracle.tries (askVectors provider entry texts)
    (maxRetries.getD oracle.settings.maxRetries) session).1 with
  | done _ | gaveUp _ | overflow _ => exact tried

omit separate

/-- Some values are what is kept of vectors that the provider may give. -/
def Given (provider : Provider σ) (found : List Json) : Prop :=
  ∃ request state vectors, (provider.embed request state).1 = .ok vectors ∧
    found = vectors.map .ofVector

theorem given_of_askVectors {texts : List String} {session next : Session σ} {found : List Json}
    (asked : askVectors provider entry texts session = (.ok found, next)) :
    Given provider found := by
  unfold askVectors at asked
  dsimp only at asked
  split at asked
  · next vectors _ answer =>
    split at asked
    · cases asked
      refine ⟨entry.endpoint.embedding texts entry.model.dimensions, session.provider, vectors, ?_,
        rfl⟩
      have settled := congrArg Prod.fst answer
      unfold Session.embed Session.receiveEmbeddings Session.settle at settled
      dsimp only at settled
      split at settled
      · next value given =>
        cases settled
        exact given
      · cases settled
    · cases asked
  · cases asked

/-- Vectors that are asked for come from a reply of the provider. -/
theorem given_of_freshVectors {texts : List String} {maxRetries : Option Int}
    {session next : Session σ} {found : List Json}
    (asked : freshVectors provider oracle entry texts maxRetries session = (.ok found, next)) :
    Given provider found := by
  unfold freshVectors at asked
  dsimp only at asked
  split at asked
  · next vectors done =>
    cases asked
    exact Retry.run_done oracle.settings.retryDelayMs (fun _ _ _ => given_of_askVectors entry)
      (Prod.ext done rfl)
  · cases asked
  · cases asked

theorem aside_lookUp (key : String) (session : Session σ) :
    Aside view oracle.heard (· = Cache.fileName key) session
      (session.lookUp oracle.cache key none).2 := by
  cases oracle.cache with
  | none => exact .refl view _ _ session
  | some store => exact ⟨rfl, store.touched_get session.now key none _ session.directory⟩

theorem aside_keep {provider : Provider σ} {session : Session σ}
    (hushes : oracle.Hushes provider session.now) {request : EmbeddingRequest} {state : σ}
    {vectors : List (List Float)} (given : (provider.embed request state).1 = .ok vectors)
    (key : String) :
    Aside view oracle.heard (· = Cache.fileName key) session
      (session.keep oracle.cache key (.array (vectors.map .ofVector)) none) := by
  cases cache : oracle.cache with
  | none => exact .refl view _ _ session
  | some store =>
      exact ⟨rfl, store.touched_set session.now key none (hushes store cache _ _ _ given)
        session.directory⟩

include separate

/-- Vectors are asked for without touching anything but their own file. -/
theorem aside_embed (texts : List String) {session : Session σ}
    (hushes : oracle.Hushes provider session.now) :
    Aside view oracle.heard (· ∈ oracle.vectorFile? texts) session
      (embed provider oracle texts {} session).2 := by
  unfold embed
  split
  · exact .refl view _ _ session
  · rw [vectorFile?]
    dsimp only
    cases oracle.resolve none embeddingType with
    | error reason => exact .refl view _ _ session
    | ok entry =>
        have named : (Except.ok entry : Except Unresolved Registered).toOption.map
            (fun entry => Cache.fileName (embeddingKey texts entry.model.id)) =
              some (Cache.fileName (embeddingKey texts entry.model.id)) := rfl
        rw [named]
        dsimp only
        generalize embeddingKey texts entry.model.id = key
        suffices aside : Aside view oracle.heard (· = Cache.fileName key) session _ from
          ⟨aside.talk, aside.directory.weaken fun _ same => congrArg some same.symm⟩
        have looked : Aside view oracle.heard _ session _ := aside_lookUp oracle key session
        rw [if_pos rfl]
        split
        · exact looked
        · refine looked.trans ?_
          have asked := aside_freshVectors separate oracle entry (· = Cache.fileName key) texts none
            (session.lookUp oracle.cache key none).2
          split
          · next done =>
            obtain ⟨request, state, vectors, given, rfl⟩ := given_of_freshVectors oracle entry done
            rw [done] at asked
            have now : (_ : Session σ).now = session.now :=
              congrArg (·.2.1) (asked.talk.trans looked.talk)
            exact asked.trans (aside_keep oracle (now ▸ hushes) given key)
          · next failed => rwa [failed] at asked

end Oracle

end Scholia
