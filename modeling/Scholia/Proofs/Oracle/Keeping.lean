import Scholia.Proofs.Cache.Expiry
import Scholia.Proofs.Oracle.Asking

/-! # Kept responses are as good as fresh ones

Requests are made one after another, at any times and with a provider in any state. What the cache
has for a declaration and a model is at every moment the most recent comment that the provider gave
for them, so that a served response repeats it.
-/

namespace Scholia.Oracle

variable {σ : Type}

/-- A request for a comment, and what is the case when it is made: the state of the provider, and
    the time in milliseconds. -/
structure Inquiry (σ : Type) where
  provider : σ
  now : Int
  bundle : Bundle
  options : GenerationOptions := {}

/-- The declaration and the model that a request is about, by their ids. -/
structure Subject where
  unitId : String
  modelId : String
  deriving DecidableEq

def Subject.key (subject : Subject) : String :=
  cacheKey subject.unitId subject.modelId

namespace Inquiry

/-- What a request is about, if there is a model for it. -/
def subject? (oracle : Oracle) (inquiry : Inquiry σ) : Option Subject :=
  (oracle.resolve inquiry.options.modelId generationType).toOption.map fun entry =>
    ⟨inquiry.bundle.id, entry.model.id⟩

def snippet (inquiry : Inquiry σ) : Text :=
  inquiry.bundle.snippet.toList

end Inquiry

/-- A request with what came of it. -/
structure Exchange (σ : Type) where
  inquiry : Inquiry σ
  before : Session σ
  result : Except Tokens.Overflow Response
  after : Session σ

/-- Make a request. -/
def Inquiry.exchange (provider : Provider σ) (oracle : Oracle) (inquiry : Inquiry σ)
    (session : Session σ) : Exchange σ :=
  let before := { session with provider := inquiry.provider, now := inquiry.now }
  let (result, after) := oracle.generate provider inquiry.bundle inquiry.options before
  { inquiry, before, result, after }

/-- Make some requests one after another. -/
def history (provider : Provider σ) (oracle : Oracle) :
    List (Inquiry σ) → Session σ → List (Exchange σ)
  | [], _ => []
  | inquiry :: rest, session =>
    let exchange := inquiry.exchange provider oracle session
    exchange :: history provider oracle rest exchange.after

/-- The provider gave a comment on a subject. -/
structure Exchange.Gives (oracle : Oracle) (subject : Subject) (exchange : Exchange σ)
    (response : Response) : Prop where
  about : exchange.inquiry.subject? oracle = some subject
  result : exchange.result = .ok response
  success : response.isSuccess = true
  fresh : response.cached = false

/-- The most recent comment on a subject that the provider gave. -/
def Latest (oracle : Oracle) (past : List (Exchange σ)) (subject : Subject)
    (source : Exchange σ) (response : Response) : Prop :=
  ∃ earlier later, past = earlier ++ source :: later ∧ source.Gives oracle subject response ∧
    ∀ exchange ∈ later, ∀ other, ¬exchange.Gives oracle subject other

namespace Latest

variable {oracle : Oracle} {past : List (Exchange σ)} {subject : Subject}
  {source exchange : Exchange σ} {response : Response}

theorem append (latest : Latest oracle past subject source response)
    (gives : ∀ other, ¬exchange.Gives oracle subject other) :
    Latest oracle (past ++ [exchange]) subject source response := by
  obtain ⟨earlier, later, rfl, given, silent⟩ := latest
  refine ⟨earlier, later ++ [exchange], by simp, given, fun late member => ?_⟩
  rcases List.mem_append.mp member with old | new
  · exact silent late old
  · rwa [List.mem_singleton.mp new]

theorem of_gives (past : List (Exchange σ)) (gives : exchange.Gives oracle subject response) :
    Latest oracle (past ++ [exchange]) subject exchange response :=
  ⟨past, [], rfl, gives, by simp⟩

end Latest

/-- A comment that is written is read back as it was, as a response and, at some times, as an
    entry. -/
structure Keeps (oracle : Oracle) (times : List Int) : Prop where
  form : ∀ response : Response, response.isSuccess = true → oracle.form.Keeps response
  entries : ∀ store, oracle.cache = some store → ∀ now ∈ times, ∀ response : Response,
    response.isSuccess = true → ∀ content,
      store.codec.Keeps (store.entryFor now (oracle.form.write response) content)

/-- What the cache has on each of some subjects is the most recent comment that the provider
    gave. -/
def Remembers (oracle : Oracle) (texts : List Text) (subjects : List Subject)
    (past : List (Exchange σ)) (directory : Directory) : Prop :=
  directory = .blocked ∨ ∀ store, oracle.cache = some store → ∃ ledger,
    Cache.Refines store.codec texts directory ledger ∧ ∀ subject ∈ subjects, ∀ stored,
      ledger subject.key = some stored → ∃ source response,
        Latest oracle past subject source response ∧ response.HasComment ∧
        stored = store.stored source.inquiry.now (oracle.form.write response)
          (some source.inquiry.snippet)

/-- A served response repeats the most recent comment on its subject: it was given for the same
    snippet not too long ago, and serving it neither asks the provider nor counts as a request. -/
structure Exchange.Repeats (oracle : Oracle) (past : List (Exchange σ)) (exchange : Exchange σ)
    (response : Response) (subject : Subject) (store : Cache.Store) (source : Exchange σ)
    (original : Response) : Prop where
  about : exchange.inquiry.subject? oracle = some subject
  latest : Latest oracle past subject source original
  same : response = { original with cached := true }
  snippet : source.inquiry.bundle.snippet = exchange.inquiry.bundle.snippet
  cache : oracle.cache = some store
  young : exchange.inquiry.now - source.inquiry.now ≤ store.maxAge
  calls : exchange.after.calls = exchange.before.calls
  provider : exchange.after.provider = exchange.before.provider
  requests : exchange.after.requests = exchange.before.requests

section

variable {oracle : Oracle} {texts : List Text} {subjects : List Subject}
  {past : List (Exchange σ)} {directory : Directory}

theorem Remembers.of_empty (nothing : directory.entries = []) :
    Remembers oracle texts subjects ([] : List (Exchange σ)) directory := by
  cases directory with
  | blocked => exact .inl rfl
  | missing => exact .inr fun store _ => ⟨_, .empty store.codec texts (.inl rfl), by simp⟩
  | present entries =>
      cases nothing
      exact .inr fun store _ => ⟨_, .empty store.codec texts (.inr rfl), by simp⟩

/-- A look-up changes nothing but that entries may get lost. -/
theorem Remembers.get (remembers : Remembers oracle texts subjects past directory)
    (free : Sha256.CollisionFree texts) {store : Cache.Store} (cache : oracle.cache = some store)
    (now : Int) {key : String} (inside : key.toList ∈ texts) {content : Option Text}
    (asked : ∀ text ∈ content, text ∈ texts) :
    Remembers oracle texts subjects past (store.get now key content directory).2 := by
  rcases remembers with rfl | remembers
  · exact .inl rfl
  · refine .inr fun own owned => ?_
    obtain rfl : store = own := Option.some.inj (cache.symm.trans owned)
    obtain ⟨ledger, refines, latest⟩ := remembers store cache
    refine ⟨_, (refines.get free rfl now inside asked).2, ?_⟩
    intro subject member stored found
    rw [Cache.Ledger.get_eq_some_iff] at found
    exact latest subject member stored found.1

/-- What is remembered stays the most recent comment after an exchange that gives none. -/
theorem Remembers.append (remembers : Remembers oracle texts subjects past directory)
    {exchange : Exchange σ} (silent : ∀ subject other, ¬exchange.Gives oracle subject other) :
    Remembers oracle texts subjects (past ++ [exchange]) directory := by
  rcases remembers with blocked | remembers
  · exact .inl blocked
  · refine .inr fun store cache => ?_
    obtain ⟨ledger, refines, latest⟩ := remembers store cache
    refine ⟨ledger, refines, fun subject member stored found => ?_⟩
    obtain ⟨source, response, recent, rest⟩ := latest subject member stored found
    exact ⟨source, response, recent.append (silent subject), rest⟩

/-- A comment that is kept under the key of its subject is the most recent one from then on. -/
theorem Remembers.set (remembers : Remembers oracle texts subjects past directory)
    (free : Sha256.CollisionFree texts)
    (inside : ∀ subject ∈ subjects, subject.key.toList ∈ texts)
    (distinct : ∀ first ∈ subjects, ∀ second ∈ subjects, first.key = second.key → first = second)
    {store : Cache.Store} (cache : oracle.cache = some store) {exchange : Exchange σ}
    {subject : Subject} (member : subject ∈ subjects) (snippet : exchange.inquiry.snippet ∈ texts)
    {response : Response} (gives : exchange.Gives oracle subject response)
    (comment : response.HasComment)
    (keeps : store.codec.Keeps (store.entryFor exchange.inquiry.now (oracle.form.write response)
      (some exchange.inquiry.snippet))) :
    Remembers oracle texts subjects (past ++ [exchange]) (store.set exchange.inquiry.now
      subject.key (oracle.form.write response) (some exchange.inquiry.snippet) directory) := by
  obtain ⟨bytes, writes, -⟩ := id keeps
  rw [Cache.Store.set, writes]
  rcases remembers with rfl | remembers
  · exact .inl rfl
  · refine .inr fun own owned => ?_
    obtain rfl : store = own := Option.some.inj (cache.symm.trans owned)
    obtain ⟨ledger, refines, latest⟩ := remembers store cache
    let stored := store.stored exchange.inquiry.now (oracle.form.write response)
      (some exchange.inquiry.snippet)
    have sound : stored.Sound store.codec texts :=
      ⟨Option.isSome_of_eq_some writes, keeps.honest, by rintro _ ⟨⟩; exact snippet⟩
    refine ⟨_, refines.put free (inside subject member) sound writes, ?_⟩
    intro other among found same
    rw [Function.update_apply] at same
    split at same
    · next equal =>
      cases same
      obtain rfl := distinct other among subject member equal
      exact ⟨exchange, response, .of_gives past gives, comment, rfl⟩
    · next differ =>
      obtain ⟨source, original, recent, rest⟩ := latest other among found same
      refine ⟨source, original, recent.append fun again given => ?_, rest⟩
      exact differ (congrArg Subject.key (Option.some.inj (given.about.symm.trans gives.about)))

theorem Remembers.keep {session : Session σ}
    (remembers : Remembers oracle texts subjects past session.directory)
    (free : Sha256.CollisionFree texts)
    (inside : ∀ subject ∈ subjects, subject.key.toList ∈ texts)
    (distinct : ∀ first ∈ subjects, ∀ second ∈ subjects, first.key = second.key → first = second)
    {exchange : Exchange σ} (clock : session.now = exchange.inquiry.now) {subject : Subject}
    (member : subject ∈ subjects) (snippet : exchange.inquiry.snippet ∈ texts)
    {response : Response} (gives : exchange.Gives oracle subject response)
    (comment : response.HasComment) {times : List Int} (keeps : oracle.Keeps times)
    (timed : exchange.inquiry.now ∈ times) :
    Remembers oracle texts subjects (past ++ [exchange]) (session.keep oracle.cache subject.key
      (oracle.form.write response) (some exchange.inquiry.snippet)).directory := by
  cases cache : oracle.cache with
  | none => exact .inr fun store owned => nomatch cache.symm.trans owned
  | some store =>
      dsimp only [Session.keep]
      rw [clock]
      exact remembers.set free inside distinct cache member snippet gives comment
        (keeps.entries store cache _ timed response gives.success _)

/-- A value that is found is the most recent comment, for this snippet and not too old. -/
theorem Remembers.found (remembers : Remembers oracle texts subjects past directory)
    (free : Sha256.CollisionFree texts)
    (inside : ∀ subject ∈ subjects, subject.key.toList ∈ texts)
    {store : Cache.Store} (cache : oracle.cache = some store) {subject : Subject}
    (member : subject ∈ subjects) {snippet : Text} (known : snippet ∈ texts) {now : Int}
    {value : Json}
    (hit : (store.get now subject.key (some snippet) directory).1 = some value) :
    ∃ source original, Latest oracle past subject source original ∧ original.HasComment ∧
      value = oracle.form.write original ∧ source.inquiry.snippet = snippet ∧
      now - source.inquiry.now ≤ store.maxAge := by
  rcases remembers with rfl | remembers
  · cases hit
  · have asked : ∀ text ∈ some snippet, text ∈ texts := by
      rintro _ ⟨⟩
      exact known
    obtain ⟨ledger, refines, latest⟩ := remembers store cache
    rw [(refines.get free rfl now (inside subject member) asked).1,
      Cache.Ledger.get_fst_eq_some_iff] at hit
    obtain ⟨-, stored, found, rfl, -, valid⟩ := hit
    obtain ⟨source, original, recent, comment, rfl⟩ :=
      latest subject member stored found
    simp only [Cache.Stored.isValid, Cache.Store.stored, Bool.and_eq_true, Bool.or_eq_true,
      decide_eq_true_eq, reduceCtorEq, false_or, Option.some.injEq] at valid
    exact ⟨source, original, recent, comment, rfl, valid.2, of_decide_eq_true valid.1.1⟩

/-- What holds of an exchange after some others: a comment is fit to stand in a source, a served
    response repeats the most recent comment, and any other exchange with a model counts. -/
structure Exchange.Sound (oracle : Oracle) (past : List (Exchange σ)) (exchange : Exchange σ) :
    Prop where
  comment : ∀ response, exchange.result = .ok response → response.isSuccess = true →
    response.HasComment
  repeats : ∀ response, exchange.result = .ok response → response.cached = true →
    ∃ subject store source original,
      exchange.Repeats oracle past response subject store source original
  success : ∀ response, exchange.result = .ok response → response.cached = true →
    response.isSuccess = true
  counted : ∀ subject, exchange.inquiry.subject? oracle = some subject →
    (∀ response, exchange.result = .ok response → response.cached = false) →
    exchange.after.requests = exchange.before.requests + 1

/-- One exchange is sound after what is remembered, and is remembered itself. -/
theorem Remembers.step (exchange : Exchange σ)
    (remembers : Remembers oracle texts subjects past exchange.before.directory)
    (free : Sha256.CollisionFree texts)
    (inside : ∀ subject ∈ subjects, subject.key.toList ∈ texts)
    (distinct : ∀ first ∈ subjects, ∀ second ∈ subjects, first.key = second.key → first = second)
    (clock : exchange.before.now = exchange.inquiry.now)
    (about : ∀ subject ∈ exchange.inquiry.subject? oracle, subject ∈ subjects)
    (known : exchange.inquiry.snippet ∈ texts) {times : List Int} (keeps : oracle.Keeps times)
    (timed : exchange.inquiry.now ∈ times)
    (ending : Ending oracle exchange.inquiry.bundle exchange.inquiry.options exchange.before
      exchange.result exchange.after) :
    exchange.Sound oracle past ∧
      Remembers oracle texts subjects (past ++ [exchange]) exchange.after.directory := by
  obtain ⟨inquiry, before, result, after⟩ := exchange
  dsimp only at *
  cases ending with
  | unresolved missing =>
      have nobody : inquiry.subject? oracle = none := by
        rw [Inquiry.subject?, missing]
        rfl
      refine ⟨⟨?_, ?_, ?_, ?_⟩, remembers.append fun _ _ given => ?_⟩
      · rintro _ ⟨⟩ ⟨⟩
      · rintro _ ⟨⟩ ⟨⟩
      · rintro _ ⟨⟩ ⟨⟩
      · intro subject some
        cases nobody.symm.trans some
      · cases nobody.symm.trans given.about
  | @served entry store response found serves =>
      have subject : inquiry.subject? oracle = some ⟨inquiry.bundle.id, entry.model.id⟩ := by
        rw [Inquiry.subject?, found]
        rfl
      have member := about _ subject
      obtain ⟨value, read, hit⟩ := serves.value
      rw [clock] at hit
      obtain ⟨source, original, recent, comment, rfl, snippet, young⟩ :=
        remembers.found free inside serves.cache member known hit
      have success : original.isSuccess = true := by
        obtain ⟨_, _, -, given, -⟩ := recent
        exact given.success
      obtain rfl : original = response :=
        Option.some.inj ((keeps.form original success).symm.trans read)
      have asked : ∀ text ∈ some inquiry.snippet, text ∈ texts := by
        rintro _ ⟨⟩
        exact known
      refine ⟨⟨?_, ?_, ?_, ?_⟩, ?_⟩
      · rintro _ ⟨⟩ -
        exact comment
      · rintro _ ⟨⟩ -
        exact ⟨_, store, source, original, subject, recent, rfl, String.toList_inj.mp snippet,
          serves.cache, young, rfl, rfl, rfl⟩
      · rintro _ ⟨⟩ -
        exact success
      · intro _ _ uncached
        cases uncached _ rfl
      · refine (remembers.get free serves.cache before.now (inside _ member) asked).append ?_
        rintro _ _ ⟨-, ⟨⟩, -, ⟨⟩⟩
  | @asked entry looked _ _ found looking asked =>
      have subject : inquiry.subject? oracle = some ⟨inquiry.bundle.id, entry.model.id⟩ := by
        rw [Inquiry.subject?, found]
        rfl
      have member := about _ subject
      have sound : Exchange.Sound oracle past ⟨inquiry, before, result, after⟩ := by
        refine ⟨fun response same success => (asked.comment response same success).1, ?_, ?_, ?_⟩
        · intro response same cached
          cases cached.symm.trans (asked.uncached response same)
        · intro response same cached
          cases cached.symm.trans (asked.uncached response same)
        · intro _ _ _
          exact asked.counted.trans (congrArg (· + 1) looking.requests)
      refine ⟨sound, ?_⟩
      have remembered : Remembers oracle texts subjects past looked.directory := by
        rcases looking with rfl | ⟨store, cache, rfl⟩
        · exact remembers
        · refine remembers.get free cache before.now (inside _ member) ?_
          rintro _ ⟨⟩
          exact known
      by_cases gives : ∃ response, result = .ok response ∧ response.isSuccess = true
      · obtain ⟨response, same, success⟩ := gives
        obtain ⟨comment, kept⟩ := asked.comment response same success
        rw [kept]
        exact remembered.keep free inside distinct (looking.now.trans clock) member known
          ⟨subject, same, success, asked.uncached response same⟩ comment keeps timed
      · rw [asked.nothing fun response same => ?_]
        · exact remembered.append fun _ response given => gives ⟨response, given.result, given.success⟩
        · exact Bool.not_eq_true _ ▸ fun success => gives ⟨response, same, success⟩

end

/-! ## Whole histories -/

/-- The texts that requests are told apart by: keys and snippets. -/
def texts (oracle : Oracle) (inquiries : List (Inquiry σ)) : List Text :=
  (inquiries.filterMap (·.subject? oracle)).map (·.key.toList) ++ inquiries.map (·.snippet)

theorem sound_history {provider : Provider σ} {oracle : Oracle} {texts : List Text}
    {subjects : List Subject} (free : Sha256.CollisionFree texts)
    (inside : ∀ subject ∈ subjects, subject.key.toList ∈ texts)
    (distinct : ∀ first ∈ subjects, ∀ second ∈ subjects, first.key = second.key → first = second)
    {inquiries : List (Inquiry σ)}
    (about : ∀ inquiry ∈ inquiries, ∀ subject ∈ inquiry.subject? oracle, subject ∈ subjects)
    (known : ∀ inquiry ∈ inquiries, inquiry.snippet ∈ texts) {times : List Int}
    (keeps : oracle.Keeps times) (timed : ∀ inquiry ∈ inquiries, inquiry.now ∈ times)
    {past : List (Exchange σ)}
    {session : Session σ} (remembers : Remembers oracle texts subjects past session.directory)
    {before after : List (Exchange σ)} {exchange : Exchange σ}
    (cut : history provider oracle inquiries session = before ++ exchange :: after) :
    exchange.Sound oracle (past ++ before) := by
  induction inquiries generalizing past session before with
  | nil => simp [history] at cut
  | cons first rest ih =>
      obtain ⟨aboutFirst, about⟩ := List.forall_mem_cons.mp about
      obtain ⟨knownFirst, known⟩ := List.forall_mem_cons.mp known
      obtain ⟨timedFirst, timed⟩ := List.forall_mem_cons.mp timed
      obtain ⟨sound, remembered⟩ := Remembers.step (first.exchange provider oracle session)
        remembers free inside distinct rfl aboutFirst knownFirst keeps timedFirst
        (ending_generate provider oracle first.bundle first.options _)
      rw [history] at cut
      cases before with
      | nil =>
          cases cut
          simpa using sound
      | cons head before =>
          obtain ⟨rfl, tail⟩ := List.cons.inj cut
          simpa using ih about known timed remembered tail

/-- Keeping comments does not show, whatever requests are made one after another on an empty
    cache, if different declarations and models have different keys, and what is written of a comment
    is read back as it was. -/
theorem keeping_sound {provider : Provider σ} {oracle : Oracle} {inquiries : List (Inquiry σ)}
    {session : Session σ} (nothing : session.directory.entries = [])
    (distinct : ∀ first ∈ inquiries.filterMap (·.subject? oracle),
      ∀ second ∈ inquiries.filterMap (·.subject? oracle), first.key = second.key → first = second)
    (free : Sha256.CollisionFree (texts oracle inquiries))
    (keeps : oracle.Keeps (inquiries.map (·.now))) {before after : List (Exchange σ)}
    {exchange : Exchange σ}
    (cut : history provider oracle inquiries session = before ++ exchange :: after) :
    exchange.Sound oracle before := by
  refine sound_history free ?_ distinct ?_ ?_ keeps ?_ (.of_empty nothing) cut
  · intro subject member
    exact List.mem_append_left _ (List.mem_map_of_mem member)
  · intro inquiry member subject about
    exact List.mem_filterMap.mpr ⟨inquiry, member, about⟩
  · intro inquiry member
    exact List.mem_append_right _ (List.mem_map_of_mem member)
  · intro inquiry member
    exact List.mem_map_of_mem member

/-- A provider whose state is the reply that it gives to everything. -/
def echo : Provider String where
  complete _ reply := (.ok (some reply), reply)
  embed _ reply := (.ok [], reply)

/-- An oracle with one model and a cache. -/
def single : Oracle where
  settings := {}
  models := [("m", ⟨⟨"m", "ollama", "llama", "generation", none, none, none, none, none, [], none⟩,
    ⟨"ollama", "llama", none, none, false⟩⟩)]
  generationDefault := "m"
  embeddingDefault := none
  gate := ⟨1, 0, 0⟩
  cache := some ⟨Lenient.codec, 1000, "v1"⟩
  form := Lenient.form

/-- The same request is made again after half a second, and the provider would reply otherwise: the
    first comment is served. -/
theorem keeping_sound_repeated :
    let inquiry : Inquiry String := ⟨"/** Adds. */", 0, { id := "add", snippet := "f()" }, {}⟩
    let again := { inquiry with provider := "SKIP", now := 500 }
    let session : Session String := { provider := "", gate := single.gate }
    let first := inquiry.exchange echo single session
    let second := again.exchange echo single first.after
    history echo single [inquiry, again] session = [first] ++ second :: [] ∧
      second.result.toOption = some { Response.ok "/** Adds. */" "m" with cached := true } ∧
      Sha256.CollisionFree (texts single [inquiry, again]) ∧
      single.Keeps ([inquiry, again].map (·.now)) ∧ second.Sound single [first] := by
  intro inquiry again session first second
  have free : Sha256.CollisionFree (texts single [inquiry, again]) := by
    unfold Sha256.CollisionFree
    decide +kernel
  have keeps : single.Keeps ([inquiry, again].map (·.now)) := by
    refine ⟨fun response _ => Lenient.form_keeps response, ?_⟩
    rintro _ ⟨⟩ now member response - content
    refine Lenient.codec_keeps_response response _ ?_ content
    obtain rfl | rfl : now = 0 ∨ now = 500 := by simpa [inquiry, again] using member
    · decide
    · decide
  refine ⟨rfl, by decide +kernel, free, keeps, ?_⟩
  have distinct : ∀ one ∈ [inquiry, again].filterMap (·.subject? single),
      ∀ two ∈ [inquiry, again].filterMap (·.subject? single), one.key = two.key → one = two := by
    decide +kernel
  exact @keeping_sound _ echo single [inquiry, again] session rfl distinct free keeps [first] []
    second rfl

end Scholia.Oracle
