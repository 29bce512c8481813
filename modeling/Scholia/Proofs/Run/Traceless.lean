import Scholia.Proofs.Oracle.Lenient
import Scholia.Proofs.Oracle.Registry
import Scholia.Proofs.Run.Faithful
import Scholia.Proofs.Run.Marks

/-! # A set-up that fails leaves no trace

An assignment may fail to set up the index of embedded declarations, be it at the first batch or
after some that succeeded. What comes of it is what comes of the same assignment with embeddings
switched off, but for the marks that are left on the side.
-/

namespace Scholia

open RunM

variable {σ ρ : Type}

namespace Pass.Disabled

variable {before other : World σ}

theorem charge (disabled : Disabled before other) (bill : Bill) :
    Disabled { before with stats := before.stats.charge bill }
      { other with stats := other.stats.charge bill } :=
  { disabled with rest := by rw [disabled.rest] }

theorem chargeable : Chargeable (Disabled (σ := σ)) := by
  intro before other disabled
  refine ⟨disabled.isOpen, ?_, disabled.charge⟩
  rw [disabled.rest]
  exact disabled.isOpen

/-- One more feature is switched off on the first side. -/
theorem degrade_left (disabled : Disabled before other) (reason : String) :
    Disabled ((degrade .embeddings reason).run before).2 other :=
  { disabled with
    rest := by
      refine disabled.rest.trans ?_
      rfl
    depends := fun related => nomatch related }

theorem twins_degradeCache (reason : String) :
    Twins (Disabled (σ := σ)) (degrade .cache reason) (degrade .cache reason) := by
  refine .modify fun one two disabled => { disabled with rest := ?_, cache := rfl }
  rw [disabled.rest]

/-- The cache is opened alike. -/
theorem twins_openCache (codec : Cache.Codec) (settings : Settings) :
    Twins (Disabled (σ := σ)) (Assignment.openCache codec settings)
      (Assignment.openCache codec settings) := by
  have disks {one two : World σ} (disabled : Disabled one two) : two.disk = one.disk := by
    rw [disabled.rest]
  refine Assignment.twins_openCache codec settings (fun one two disabled => disabled.cache)
    twins_degradeCache (fun one two disabled => ?_) (fun one two disabled => ?_)
    fun one two disabled place there => ?_
  · rw [disks disabled]
  · have keeps : Disk.Keeps one.disk (one.disk.makeDirectory settings.cachePath).2 :=
      (Disk.Keeps.refl one.disk).makeBelow _ _
    rw [disks disabled]
    exact
      { disabled with
        rest := by rw [disabled.rest]
        cacheThere := fun place same => keeps.isDirectory (disabled.cacheThere place same) }
  · exact
      { disabled with
        rest := by rw [disabled.rest]
        cacheThere := by
          rintro _ ⟨⟩
          exact there }

/-- Embeddings may be switched off for want of a model, where they are on. -/
theorem twins_openOracle (assignment : Assignment σ) (cache : Option Cache.Store) :
    Twins Disabled (assignment.openOracle cache) (assignment.openOracle cache) := by
  unfold Assignment.openOracle
  dsimp only
  split
  · exact .throw _ _
  · refine .get_bind fun one two disabled => ?_
    rw [disabled.embeddings, Bool.false_and, if_neg Bool.false_ne_true]
    split
    · exact fun one two disabled => ⟨rfl, disabled.degrade_left _⟩
    · exact .pure _ _

/-- The oracle and the batches that come out of the preparations. -/
def core (prepared : Oracle × Bool × List (List Path)) : Oracle × List (List Path) :=
  (prepared.1, prepared.2.2)

/-- Whether embeddings are on makes no difference to the oracle and the batches. -/
theorem twins_prepare (assignment : Assignment σ) :
    Twins Disabled (core <$> assignment.prepare) (core <$> assignment.prepare) := by
  unfold Assignment.prepare
  simp only [map_bind, map_pure]
  refine (chargeable.count _ _).bind fun _ => (twins_openCache _ _).bind fun cache => ?_
  refine (twins_openOracle assignment cache).bind fun oracle => .get_bind fun one two _ => ?_
  refine (Assignment.twins_checkFileGate _ _).bind fun _ => ?_
  refine (Assignment.twins_pack _ _ fun one two disabled path => ?_).bind fun batches => .pure _ _
  rw [disabled.rest]

end Pass.Disabled

/-- What a run whose index was not set up has in common with the same run without embeddings. -/
structure Traceless (marks : List (List String)) (failed disabled : Except RunFailure Unit × World σ) :
    Prop where
  result : failed.1 = disabled.1
  /-- The same comments have been asked for, in the same order. -/
  requests : failed.2.session.completions = disabled.2.session.completions
  /-- Whatever is not a mark is there in both or in neither, with the same bytes. -/
  entries : ∀ place, place ∉ marks →
    Disk.entry? failed.2.disk place = Disk.entry? disabled.2.disk place
  /-- All counters are the same but those of embeddings. -/
  counts : ∀ counter, counter ≠ .embeddingsSucceeded → counter ≠ .embeddingsFailed →
    failed.2.stats.counts counter = disabled.2.stats.counts counter
  errors : failed.2.stats.errors = disabled.2.stats.errors
  notices : failed.2.notices = disabled.2.notices
  progress : failed.2.progress = disabled.2.progress

/-- A provider that answers with one comment, and embeds texts a number of times before it fails. -/
def Oracle.failing : Provider (String × Nat) where
  complete _ state := (.ok (some state.1), state)
  embed request state :=
    match state with
    | (_, 0) => (.error { kind := .api, message := "down" }, state)
    | (reply, left + 1) => (.ok (request.input.map fun _ => []), (reply, left))

theorem Oracle.separate_failing : failing.Separate Prod.fst where
  reply _ one two same := by
    change Except.ok (some one.1) = Except.ok (some two.1)
    rw [same]
  complete _ _ _ same := same
  embed _ state := by
    obtain ⟨reply, left⟩ := state
    cases left with
    | zero => rfl
    | succ _ => rfl

namespace Traceless

variable {result : Except RunFailure Unit}

/-- Worlds that differ in features only have all of that in common. -/
theorem of_features {before : World σ} (features : Features) :
    Traceless [] (result, before) (result, { before with features }) :=
  ⟨rfl, rfl, fun _ _ => rfl, fun _ _ _ => rfl, rfl, rfl, rfl⟩

/-- So do worlds that are abreast, once their statistics are finished. -/
theorem of_abreast {view : σ → ρ} {heard : List UInt8 → Option Response} {origin : Disk}
    {marks : List (List String)} {one two : World σ}
    (abreast : Abreast view heard origin marks one two) :
    Traceless marks (result, { one with stats := one.stats.finish })
      (result, { two with stats := two.stats.finish }) where
  result := rfl
  requests := by
    have talk := abreast.talk
    rw [Session.talk, Session.talk, Prod.mk.injEq, Prod.mk.injEq] at talk
    exact talk.2.2.symm
  entries place unmarked := (abreast.disks.same.entries place unmarked).symm
  counts counter succeeded failed := (abreast.stats.counts counter succeeded failed).symm
  errors := abreast.stats.errors.symm
  notices := by rw [abreast.rest]
  progress := by rw [abreast.rest]

end Traceless

namespace Assignment

variable (assignment : Assignment σ)

/-- The cache tells vectors from responses: a list is no response, and where vectors are written as
    an entry, nothing is read back but a list. -/
structure TellsApart (now : Int) : Prop where
  form : ∀ items, assignment.form.read (.array items) = none
  codec : ∀ request state vectors, (assignment.provider.embed request state).1 = .ok vectors →
    ∀ bytes, assignment.codec.write
        { data := .array (vectors.map .ofVector), timestamp := now, version } = some bytes →
      ∀ entry, assignment.codec.read bytes = some entry → ∃ items, entry.data = .array items

section

variable {assignment} {world after : World σ}

/-- A store that is opened writes as the codec does, under the version of the program. -/
theorem store_of_openCache {codec : Cache.Codec} {settings : Settings} {store : Cache.Store}
    (opened : (openCache codec settings).run world = (.ok (some store), after)) :
    store.codec = codec ∧ store.version = version := by
  unfold openCache at opened
  rw [run_get_bind] at opened
  split at opened
  · cases opened
  · unfold Cache.Store.ofHours at opened
    cases aged : Cache.Store.milliseconds settings.cache.maxAgeHours with
    | error fault =>
        rw [aged] at opened
        cases opened
    | ok maxAge =>
        rw [aged] at opened
        dsimp only [Except.map] at opened
        rw [run_get_bind] at opened
        split at opened
        · cases opened
          exact ⟨rfl, rfl⟩
        · obtain ⟨_, _, -, opened⟩ := of_run_bind_ok opened
          obtain ⟨_, _, -, opened⟩ := of_run_bind_ok opened
          cases opened

/-- The oracle that is set up reads and writes as the assignment says. -/
theorem keeping_of_prepare {prepared : Oracle × Bool × List (List Path)}
    (done : assignment.prepare.run world = (.ok prepared, after)) :
    prepared.1.form = assignment.form ∧ ∀ store, prepared.1.cache = some store →
      store.codec = assignment.codec ∧ store.version = version := by
  unfold prepare at done
  obtain ⟨_, _, -, done⟩ := of_run_bind_ok done
  obtain ⟨cache, _, opened, done⟩ := of_run_bind_ok done
  obtain ⟨oracle, _, opening, done⟩ := of_run_bind_ok done
  obtain ⟨_, _, -, done⟩ := of_run_bind_ok done
  obtain ⟨_, _, -, done⟩ := of_run_bind_ok done
  obtain ⟨_, _, -, done⟩ := of_run_bind_ok done
  cases done
  unfold openOracle at opening
  dsimp only at opening
  split at opening
  · cases opening
  · next made created =>
    have same : made = oracle := by
      rw [run_get_bind] at opening
      split at opening
      · obtain ⟨_, _, -, opening⟩ := of_run_bind_ok opening
        cases opening
        rfl
      · cases opening
        rfl
    obtain ⟨kept, form⟩ := Oracle.keeping_of_create created
    rw [same] at kept form
    refine ⟨form, fun store cached => ?_⟩
    obtain rfl : cache = some store := kept.symm.trans cached
    exact store_of_openCache opened

/-- No request is made before the pass. -/
theorem stays_prepare (assignment : Assignment σ) (session : Session σ) :
    Stays (fun world : World σ => world.session = session) assignment.prepare := by
  have counts (counter : Counter) (amount : Int) :
      Stays (fun world : World σ => world.session = session) (count counter amount) := by
    intro world here
    unfold count changeStats
    rw [run_get_bind]
    split
    · exact here
    · exact here
  have degrades (feature : Feature) (reason : String) :
      Stays (fun world : World σ => world.session = session) (degrade feature reason) :=
    .modify fun _ here => here
  have opens : Stays (fun world : World σ => world.session = session)
      (openCache assignment.codec assignment.settings) := by
    intro world here
    unfold openCache
    rw [run_get_bind]
    split
    · exact here
    · split
      · exact here
      · rw [run_get_bind]
        dsimp only
        split
        · exact here
        · exact here
  have creates (cache : Option Cache.Store) :
      Stays (fun world : World σ => world.session = session) (assignment.openOracle cache) := by
    intro world here
    unfold openOracle
    dsimp only
    split
    · exact here
    · rw [run_get_bind]
      split
      · exact here
      · exact here
  have checks : Stays (fun world : World σ => world.session = session)
      (checkFileGate assignment.settings) := by
    unfold checkFileGate
    split
    · exact .pure _ _
    · exact .throw _ _
  have packs (budget : Int) (paths : List Path) :
      Stays (fun world : World σ => world.session = session) (Pass.pack budget paths) := by
    intro world here
    unfold Pass.pack
    rw [run_get_bind]
    dsimp only
    split
    · exact here
    · exact here
  unfold prepare
  refine (counts _ _).bind fun _ => opens.bind fun cache => (creates cache).bind fun oracle => ?_
  intro world here
  rw [run_get_bind]
  exact checks.bind (fun _ => (packs _ _).bind fun _ => .pure _ _) world here

/-- So what is kept of vectors is not heard as a response. -/
theorem hushes_of_prepare {now : Int} (apart : assignment.TellsApart now)
    {prepared : Oracle × Bool × List (List Path)}
    (done : assignment.prepare.run world = (.ok prepared, after)) :
    prepared.1.Hushes assignment.provider now := by
  obtain ⟨form, kept⟩ := keeping_of_prepare done
  intro store cache request state vectors given bytes written
  obtain ⟨codec, same⟩ := kept store cache
  rw [Oracle.heard_eq cache, Cache.Store.heard, codec, form]
  rw [codec, Cache.Store.entryFor, same] at written
  cases read : assignment.codec.read bytes with
  | none => rfl
  | some entry =>
      obtain ⟨items, data⟩ := apart.codec request state vectors given bytes written entry read
      rw [Option.bind_some, Cache.Entry.value?, data]
      exact apart.form items

end

/-- The assignment with embeddings switched off. -/
def withoutEmbeddings : Assignment σ :=
  { assignment with options := { assignment.options with disableEmbeddings := true } }

section

variable (provider : σ) (disk : Disk) (now : Int)

/-- The plan of a run, and its world when the index is to be set up, if it gets that far. -/
def outset : Option (Plan σ × World σ) :=
  match assignment.prepare.run (assignment.world provider disk now) with
  | (.ok prepared, world) => some (assignment.planOf prepared, Pass.opened prepared.2.2 world)
  | (.error _, _) => none

/-- The index of embedded declarations is set up. -/
def indexes : Bool :=
  (assignment.outset provider disk now).any fun (plan, world) =>
    ((Relations.setUp plan assignment.paths).run world).1.toOption == some true

/-- Where setting up the index leaves its marks. -/
def marks : List (List String) :=
  (assignment.outset provider disk now).elim [] fun (plan, world) =>
    Pass.marks plan world assignment.paths

/-- Its marks are in nobody's way. -/
def Harmless : Prop :=
  ∀ plan world, assignment.outset provider disk now = some (plan, world) →
    Pass.Harmless plan world assignment.paths

end

section

variable {assignment} {provider : σ} {disk : Disk} {now : Int} {after : World σ}

theorem outset_of_prepare_error {failure : RunFailure} (failed :
      assignment.prepare.run (assignment.world provider disk now) = (.error failure, after)) :
    assignment.outset provider disk now = none := by
  rw [outset, failed]

theorem outset_of_prepare_ok {prepared : Oracle × Bool × List (List Path)} (done :
      assignment.prepare.run (assignment.world provider disk now) = (.ok prepared, after)) :
    assignment.outset provider disk now =
      some (assignment.planOf prepared, Pass.opened prepared.2.2 after) := by
  rw [outset, done]

/-- Setting up the index is no failure of the run, so it tells that the index was not set up. -/
theorem setUp_of_not_indexes {plan : Plan σ} {world : World σ}
    (outset : assignment.outset provider disk now = some (plan, world))
    (isOpen : world.stats.finished = false) (failed : assignment.indexes provider disk now = false) :
    ((Relations.setUp plan assignment.paths).run world).1 = .ok false := by
  obtain ⟨value, _, after, ran, -, -⟩ := Pass.run_setUp plan assignment.paths isOpen
  rw [indexes, outset, Option.any_some] at failed
  dsimp only at failed
  rw [ran] at failed ⊢
  cases value with
  | false => rfl
  | true => cases failed

end

/-- An assignment and the same one without embeddings start from the same world. -/
theorem disabled_world (provider : σ) (disk : Disk) (now : Int) :
    Pass.Disabled (assignment.world provider disk now)
      (assignment.withoutEmbeddings.world provider disk now) where
  rest := rfl
  isOpen := rfl
  cacheThere := fun _ same => nomatch same
  depends related := (Bool.and_eq_true_iff.mp related).1
  embeddings := Bool.and_false _
  relatedSymbols := by
    change (_ && !true && _) = false
    rw [Bool.not_true, Bool.and_false, Bool.false_and]
  cache := rfl

/-- With embeddings and without, an assignment either cannot be set up for the same reason, or is set
    up with the same oracle and the same batches. -/
theorem prepare_withoutEmbeddings (provider : σ) (disk : Disk) (now : Int) :
    (∃ failure before other,
      assignment.prepare.run (assignment.world provider disk now) = (.error failure, before) ∧
      assignment.withoutEmbeddings.prepare.run (assignment.withoutEmbeddings.world provider disk now) =
        (.error failure, other) ∧
      Pass.Disabled before other) ∨
    ∃ oracle relates relates' batches before other,
      assignment.prepare.run (assignment.world provider disk now) =
        (.ok (oracle, relates, batches), before) ∧
      assignment.withoutEmbeddings.prepare.run (assignment.withoutEmbeddings.world provider disk now) =
        (.ok (oracle, relates', batches), other) ∧
      Pass.Disabled before other := by
  have unchanged : assignment.withoutEmbeddings.prepare = assignment.prepare := rfl
  obtain ⟨same, after⟩ := Pass.Disabled.twins_prepare assignment _ _
    (assignment.disabled_world provider disk now)
  rw [unchanged]
  rw [run_map, run_map] at same after
  generalize assignment.prepare.run (assignment.world provider disk now) = first at same after ⊢
  generalize assignment.prepare.run (assignment.withoutEmbeddings.world provider disk now) = second
    at same after ⊢
  obtain ⟨prepared, before⟩ := first
  obtain ⟨prepared', other⟩ := second
  cases prepared with
  | error failure =>
      cases prepared' with
      | error failure' =>
          cases same
          exact .inl ⟨failure, before, other, rfl, rfl, after⟩
      | ok _ => cases same
  | ok prepared =>
      cases prepared' with
      | error _ => cases same
      | ok prepared' =>
          obtain ⟨oracle, relates, batches⟩ := prepared
          obtain ⟨oracle', relates', batches'⟩ := prepared'
          cases same
          exact .inr ⟨oracle, relates, relates', batches, before, other, rfl, rfl, after⟩

/-- Whatever the settings, the files, the packages, the uses of symbols and the contents of the cache
    are: where the index cannot be set up, be it at the first batch or after some that succeeded,
    the run comes to what it comes to without embeddings, but for marks that are in nobody's way.
    The handlers must not look at vectors, and what the provider replies to requests for comments
    not depend on requests for vectors. -/
theorem run_traceless {view : σ → ρ} (separate : assignment.provider.Separate view)
    (blind : ∀ handler ∈ assignment.hooks.before, handler.Blind Bundle.bare) (provider : σ)
    (disk : Disk) (now : Int) (apart : assignment.TellsApart now)
    (failed : assignment.indexes provider disk now = false)
    (harmless : assignment.Harmless provider disk now) :
    Traceless (assignment.marks provider disk now) (assignment.run provider disk now)
      (assignment.withoutEmbeddings.run provider disk now) := by
  rcases assignment.prepare_withoutEmbeddings provider disk now with
    ⟨failure, before, other, first, second, disabled⟩ |
      ⟨oracle, relates, relates', batches, before, other, first, second, disabled⟩
  · obtain ⟨ran, -⟩ := run_of_prepare_error first
    obtain ⟨ran', -⟩ := run_of_prepare_error second
    rw [ran, ran', marks, outset_of_prepare_error first, disabled.rest]
    exact .of_features _
  · obtain ⟨ran, -⟩ := run_of_prepare_ok first
    obtain ⟨ran', -⟩ := run_of_prepare_ok second
    have all : batches.flatten = assignment.paths := flatten_of_prepare _ first
    have outset := outset_of_prepare_ok first
    have isOpen : (Pass.opened batches before).stats.finished = false := disabled.isOpen
    have setUp := setUp_of_not_indexes outset isOpen failed
    have clear := harmless _ _ outset
    have time : before.session = (assignment.world provider disk now).session := by
      have stays := stays_prepare assignment _ (assignment.world provider disk now) rfl
      rwa [first] at stays
    have hushes : oracle.Hushes assignment.provider before.session.now := by
      rw [time]
      exact hushes_of_prepare apart first
    have unseeing : (assignment.planOf (oracle, relates, batches)).Unseeing view :=
      ⟨fun _ _ => rfl, fun _ => blind, separate⟩
    -- The pass without embeddings is one of the same plan, in which only `relates` may differ.
    have related : assignment.withoutEmbeddings.planOf (oracle, relates', batches) =
        (assignment.planOf (oracle, relates, batches)).relating relates' := rfl
    rw [marks, outset, Option.elim_some, ran, ran', related]
    rw [← all] at setUp clear ⊢
    obtain ⟨result, one, two, ended, ended', resumed⟩ :=
      Pass.run_abreast unseeing relates' disabled hushes clear setUp
    rw [ended, ended']
    exact .of_abreast resumed.toAbreast

/-- Some files, the units of which are embedded one at a time. Models that need no key are asked, and
    the queries are logged. -/
def logged (paths : List Path) (cached : Bool) : Assignment (String × Nat) where
  settings :=
    { workspace := ⟨.absolute, ["ws"]⟩
      doc := { minDocLength := 0 }
      oracle :=
        { defaultGenerationModel := "m", defaultEmbeddingModel := "v", maxRetries := 0,
          logQueries := true }
      embedding := { batchSize := 1 }
      cache := { enabled := cached, maxAgeHours := .int 24 }
      models :=
        [⟨"m", "ollama", "llama", "generation", none, none, none, none, none, [], none⟩,
          ⟨"v", "ollama", "llama", "embedding", none, none, none, none, none, [], none⟩] }
  provider := Oracle.failing
  codec := Lenient.codec
  form := Lenient.form
  parse := fun _ => .ok Pass.sampleTree
  paths

/-- Two files with a function each. -/
def loggedDisk : Disk where
  entries :=
    [(["ws"], .directory),
      (["ws", "a.ts"], .file (Utf8.encode "function f() {}\n".toList)),
      (["ws", "b.ts"], .file (Utf8.encode "function g() {}\n".toList))]

def straight : Assignment (String × Nat) :=
  logged [⟨.absolute, ["ws", "a.ts"]⟩, ⟨.absolute, ["ws", "b.ts"]⟩] true

theorem legible_empty {depth : Nat} (length : Nat) (items : List String) :
    Json.ItemsLegible length depth ((items.map fun _ => ([] : List Float)).map Json.ofVector) := by
  induction items with
  | nil => trivial
  | cons item items ih => exact ⟨.inl rfl, ih⟩

theorem tellsApart_logged (paths : List Path) (cached : Bool) : (logged paths cached).TellsApart 0 where
  form _ := rfl
  codec request state vectors given bytes written entry read := by
    obtain ⟨reply, left⟩ := state
    cases left with
    | zero => cases given
    | succ left =>
        cases given
        have keeps : Lenient.codec.Keeps
            { data := .array ((request.input.map fun _ => []).map .ofVector)
              timestamp := 0
              version } := by
          have time : (Binary64.intText 0).length ≤ Lenient.readable.wholeLength := by decide
          refine Lenient.codec_keeps ?_ (Lenient.legible_int time)
          exact Or.inr ⟨by decide, legible_empty _ request.input⟩
        obtain ⟨own, wrote, reads⟩ := keeps
        obtain rfl : own = bytes := Option.some.inj (wrote.symm.trans written)
        obtain rfl : _ = entry := Option.some.inj (reads.symm.trans read)
        exact ⟨_, rfl⟩

/-- One vector is embedded before the provider fails, and all that is left of it are that vector in
    the cache and the query log. -/
theorem run_traceless_straight :
    straight.TellsApart 0 ∧ straight.indexes ("/** A. */", 1) loggedDisk 0 = false ∧
      Traceless (straight.marks ("/** A. */", 1) loggedDisk 0)
        (straight.run ("/** A. */", 1) loggedDisk 0)
        (straight.withoutEmbeddings.run ("/** A. */", 1) loggedDisk 0) ∧
      (straight.run ("/** A. */", 1) loggedDisk 0).2.stats.counts .embeddingsSucceeded = 1 := by
  have failed : straight.indexes ("/** A. */", 1) loggedDisk 0 = false := by decide +kernel
  have check : (straight.outset ("/** A. */", 1) loggedDisk 0).all (fun (_, world) =>
      decide ((∀ path ∈ straight.paths, ∀ place ∈ path.way,
          place ∉ Pass.logMarks world ∧ world.cachePlace ≠ some place.dropLast) ∧
        (∀ mark ∈ Pass.logMarks world, world.cachePlace ≠ some mark.dropLast) ∧
        ∀ entry ∈ world.disk.entries, world.cachePlace ≠ some entry.1.dropLast)) = true := by
    decide +kernel
  have harmless : straight.Harmless ("/** A. */", 1) loggedDisk 0 := by
    intro plan world outset
    rw [outset, Option.all_some] at check
    obtain ⟨sources, log, empty⟩ := of_decide_eq_true check
    exact .of_apart sources log empty
  have traceless := straight.run_traceless Oracle.separate_failing (fun _ member => nomatch member)
    ("/** A. */", 1) loggedDisk 0 (tellsApart_logged _ _) failed harmless
  exact ⟨tellsApart_logged _ _, failed, traceless, by decide +kernel⟩

/-- The first file is reached through the directory of the query log. -/
def detour : Assignment (String × Nat) :=
  logged [⟨.absolute, ["ws", ".docsmith-logs", "..", "a.ts"]⟩, ⟨.absolute, ["ws", "b.ts"]⟩] false

/-- There requests for vectors make a difference although they fail: the directory is made for them,
    and without them the file is not found. -/
theorem run_detour :
    detour.provider.Separate Prod.fst ∧ detour.hooks.before = [] ∧
      detour.indexes ("/** A. */", 0) loggedDisk 0 = false ∧
      (detour.run ("/** A. */", 0) loggedDisk 0).2.session.completions.length = 2 ∧
      (detour.withoutEmbeddings.run ("/** A. */", 0) loggedDisk 0).2.session.completions.length = 1 ∧
      (detour.run ("/** A. */", 0) loggedDisk 0).2.disk.file? ["ws", "a.ts"] ≠
        (detour.withoutEmbeddings.run ("/** A. */", 0) loggedDisk 0).2.disk.file? ["ws", "a.ts"] ∧
      (detour.run ("/** A. */", 0) loggedDisk 0).2.stats.counts .filesProcessed ≠
        (detour.withoutEmbeddings.run ("/** A. */", 0) loggedDisk 0).2.stats.counts
          .filesProcessed ∧
      (detour.run ("/** A. */", 0) loggedDisk 0).2.stats.errors ≠
        (detour.withoutEmbeddings.run ("/** A. */", 0) loggedDisk 0).2.stats.errors ∧
      (detour.run ("/** A. */", 0) loggedDisk 0).2.disk.file?
          ["ws", ".docsmith-logs", "llm-queries.jsonl"] ≠
        (detour.withoutEmbeddings.run ("/** A. */", 0) loggedDisk 0).2.disk.file?
          ["ws", ".docsmith-logs", "llm-queries.jsonl"] := by
  refine ⟨Oracle.separate_failing, rfl, ?_, ?_, ?_, ?_, ?_, ?_, ?_⟩
  all_goals decide +kernel

end Assignment

end Scholia
