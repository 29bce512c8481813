import Scholia.Proofs.Run.Setback

/-! # The marks of a set-up that failed

Before a pass all declarations are embedded, batch by batch. If that fails at some batch, the
vectors of the batches before are kept and indexed, and requests have been logged. From there on
the pass keeps abreast of one that does not embed anything.
-/

namespace Scholia

open RunM

variable {σ ρ α β : Type}

namespace RunM

/-- What holds of the world before a part of a run still holds after it. -/
def Stays (holds : World σ → Prop) (action : RunM σ α) : Prop :=
  ∀ world, holds world → holds (action.run world).2

namespace Stays

variable {holds : World σ → Prop}

theorem pure (holds : World σ → Prop) (value : α) : Stays holds (pure value) :=
  fun _ here => here

theorem throw (holds : World σ → Prop) (failure : RunFailure) :
    Stays holds (throw failure : RunM σ α) :=
  fun _ here => here

theorem modify {change : World σ → World σ} (steps : ∀ world, holds world → holds (change world)) :
    Stays holds (modify change) :=
  steps

theorem bind {first : RunM σ α} {next : α → RunM σ β} (begin : Stays holds first)
    (rest : ∀ value, Stays holds (next value)) : Stays holds (first >>= next) := by
  intro world here
  have between := begin world here
  rw [run_bind]
  cases ran : first.run world with
  | mk result after =>
      rw [ran] at between
      cases result with
      | error failure => exact between
      | ok value => exact rest value after between

end Stays

end RunM

namespace Relations

/-- The bundles of the units of a file as it is in a world; one that cannot be read has none. -/
def bundlesAt (plan : Plan σ) (world : World σ) (path : Path) : List Bundle :=
  match plan.reader.open? world.disk path with
  | .ok document => bundlesOf world.extractor document
  | .error _ => []

/-- The bundles of all units in some files. -/
def bundlesIn (plan : Plan σ) (world : World σ) (paths : List Path) : List Bundle :=
  paths.flatMap (bundlesAt plan world)

theorem run_collect (plan : Plan σ) (paths : List Path) (world : World σ) :
    (collect plan paths).run world = (.ok (bundlesIn plan world paths), world) := by
  induction paths with
  | nil => rfl
  | cons path rest ih =>
      have cons : bundlesIn plan world (path :: rest) =
          bundlesAt plan world path ++ bundlesIn plan world rest := by
        rw [bundlesIn, bundlesIn, List.flatMap_cons]
      have read := run_openSource plan path world
      rw [cons]
      unfold bundlesAt
      cases source : plan.reader.open? world.disk path with
      | ok document =>
          rw [source] at read
          exact (run_bind_ok _ read).trans (run_bind_ok _ ih)
      | error fault =>
          rw [source] at read
          exact (run_bind_ok _ read).trans (run_bind_ok _ ih)

/-- The files that vectors of some batches are kept in. -/
def vectorPlaces (plan : Plan σ) (cache : Option (List String)) (batches : List (List Bundle)) :
    List (List String) :=
  cache.toList.flatMap fun place =>
    batches.flatMap fun batch =>
      (plan.oracle.vectorFile? (batch.map (·.embeddingText))).toList.map fun name =>
        place ++ [name]

theorem mem_vectorPlaces {plan : Plan σ} {place : List String} {batch : List Bundle}
    {batches : List (List Bundle)} (member : batch ∈ batches) {name : String}
    (named : name ∈ plan.oracle.vectorFile? (batch.map (·.embeddingText))) :
    place ++ [name] ∈ vectorPlaces plan (some place) batches := by
  refine List.mem_flatMap.mpr ⟨place, List.mem_singleton.mpr rfl, ?_⟩
  refine List.mem_flatMap.mpr ⟨batch, member, ?_⟩
  exact List.mem_map.mpr ⟨name, Option.mem_toList.mpr named, rfl⟩

/-- The files that vectors are kept in are in the cache. -/
theorem dropLast_of_mem_vectorPlaces {plan : Plan σ} {cache : Option (List String)}
    {batches : List (List Bundle)} {mark : List String}
    (member : mark ∈ vectorPlaces plan cache batches) : cache = some mark.dropLast := by
  obtain ⟨place, isCache, member⟩ := List.mem_flatMap.mp member
  obtain ⟨batch, -, member⟩ := List.mem_flatMap.mp member
  obtain ⟨name, -, rfl⟩ := List.mem_map.mp member
  rw [List.dropLast_concat]
  exact Option.mem_toList.mp isCache

end Relations

namespace Pass

/-- The places that the query log needs. -/
def logMarks (world : World σ) : List (List String) :=
  world.logPath.toList.flatMap world.disk.needed

/-- The files that the vectors of all units in some files are kept in. -/
def vectorMarks (plan : Plan σ) (world : World σ) (paths : List Path) : List (List String) :=
  Relations.vectorPlaces plan world.cachePlace
    (Relations.slices plan.embedding.batchSize.toNat (Relations.bundlesIn plan world paths))

/-- Where setting up the index leaves its marks. -/
def marks (plan : Plan σ) (world : World σ) (paths : List Path) : List (List String) :=
  logMarks world ++ vectorMarks plan world paths

/-- The marks are in nobody's way: no path of a source file leads through one, and no comment is
    kept where the query log needs a directory, or in a file for vectors at the start. -/
structure Harmless (plan : Plan σ) (world : World σ) (paths : List Path) : Prop where
  sources : ∀ path ∈ paths, Grammar.supports path = true →
    Disk.Clear (marks plan world paths) path
  comments : ∀ place name, world.cachePlace = some place → Cache.IsComment name →
    place ++ [name] ∉ logMarks world
  vectors : ∀ place name, world.cachePlace = some place → Cache.IsComment name →
    place ++ [name] ∈ vectorMarks plan world paths →
      Cache.Mute plan.oracle.heard (Disk.entry? world.disk (place ++ [name]))

/-- So they are if the cache is empty, and neither the query log nor a source file is in it, and no
    source file is reached through what the query log needs. -/
theorem Harmless.of_apart {plan : Plan σ} {world : World σ} {paths : List Path}
    (sources : ∀ path ∈ paths, ∀ place ∈ path.way,
      place ∉ logMarks world ∧ world.cachePlace ≠ some place.dropLast)
    (log : ∀ mark ∈ logMarks world, world.cachePlace ≠ some mark.dropLast)
    (empty : ∀ entry ∈ world.disk.entries, world.cachePlace ≠ some entry.1.dropLast) :
    Harmless plan world paths where
  sources path member _ place onWay marked := by
    obtain ⟨unneeded, outside⟩ := sources path member place onWay
    rcases List.mem_append.mp marked with needed | vector
    · exact unneeded needed
    · exact outside (Relations.dropLast_of_mem_vectorPlaces vector)
  comments place name isCache _ needed := by
    refine log _ needed ?_
    rw [List.dropLast_concat, isCache]
  vectors place name isCache _ _ := by
    have nothing : Disk.entry? world.disk (place ++ [name]) = none := by
      refine List.lookup_eq_none_iff.mpr fun entry member => bne_iff_ne.mpr fun same => ?_
      refine empty entry member ?_
      rw [← same, List.dropLast_concat, isCache]
    rw [nothing]
    exact .none

/-- A world before a pass, and the same world with embeddings switched off. -/
structure Disabled (before other : World σ) : Prop where
  rest : other = { before with features := other.features }
  isOpen : before.stats.finished = false
  cacheThere : ∀ place, before.cachePlace = some place → before.disk.isDirectory place = true
  depends : before.features.flags.relatedSymbols = true → before.features.flags.embeddings = true
  embeddings : other.features.flags.embeddings = false
  relatedSymbols : other.features.flags.relatedSymbols = false
  cache : other.features.flags.cache = before.features.flags.cache

theorem Disabled.opened {before other : World σ} (disabled : Disabled before other)
    (batches : List (List Path)) : Disabled (opened batches before) (opened batches other) := by
  refine ⟨?_, disabled.isOpen, disabled.cacheThere, disabled.depends, disabled.embeddings,
    disabled.relatedSymbols, disabled.cache⟩
  rw [Pass.opened, Pass.opened, disabled.rest]

end Pass

namespace Abreast

variable {view : σ → ρ} {heard : List UInt8 → Option Response} {plan : Plan σ} {origin : Disk}
  {marks : List (List String)}
  {before other world : World σ} {paths : List Path}

/-- Both worlds start out from the same disk. -/
theorem start (disabled : Pass.Disabled before other)
    (harmless : Pass.Harmless plan before paths) (view : σ → ρ) :
    Abreast view plan.oracle.heard before.disk (Pass.marks plan before paths) before other where
  rest := by rw [disabled.rest]
  grounds :=
    { cacheThere := disabled.cacheThere
      marked := fun path isLog place needed => by
        rw [Pass.marks, Pass.logMarks, isLog]
        exact List.mem_append_left _ (List.mem_flatMap.mpr ⟨path, List.mem_singleton.mpr rfl, needed⟩)
      apart := fun path place name isLog isCache comment needed => by
        refine harmless.comments place name isCache comment ?_
        rw [Pass.logMarks, isLog]
        exact List.mem_flatMap.mpr ⟨path, List.mem_singleton.mpr rfl, needed⟩ }
  talk := by rw [disabled.rest]
  disks := by
    rw [disabled.rest]
    exact .refl _ _ _ _
  stats := by
    rw [disabled.rest]
    exact ⟨disabled.isOpen, disabled.isOpen, fun _ _ _ => rfl, rfl⟩

/-- What is counted of embeddings makes no difference. -/
theorem stays_count {counter : Counter}
    (embeddings : counter = .embeddingsSucceeded ∨ counter = .embeddingsFailed) (amount : Int) :
    Stays (Abreast view heard origin marks · other) (count counter amount) := by
  intro world abreast
  rw [run_count _ _ abreast.stats.first]
  refine ⟨by rw [abreast.rest], abreast.grounds, abreast.talk, abreast.disks, abreast.stats.first,
    abreast.stats.second, fun own succeeded failed => ?_, ?_⟩
  · have differ : own ≠ counter := by
      rintro rfl
      rcases embeddings with same | same
      · exact succeeded same
      · exact failed same
    rw [abreast.stats.counts own succeeded failed, Statistics.charge]
    dsimp only
    rw [Bill.counts_ofCount, if_neg differ, Int.add_zero]
  · rw [abreast.stats.errors, Statistics.charge]
    exact (List.append_nil _).symm

theorem stays_index (entries : List (Bundle × List Float)) :
    Stays (Abreast view heard origin marks · other) (Relations.index entries) :=
  .modify fun world abreast => ⟨by rw [abreast.rest], abreast.grounds, abreast.talk, abreast.disks,
    abreast.stats⟩

theorem stays_degrade (feature : Feature) (reason : String) :
    Stays (σ := σ) (Abreast view heard origin marks · other) (degrade feature reason) :=
  .modify fun world abreast => ⟨by rw [abreast.rest], abreast.grounds, abreast.talk, abreast.disks,
    abreast.stats⟩

/-- Requests that touch nothing but marks in the cache leave a world abreast. -/
theorem stays_onSession {action : Session σ → α × Session σ} {names : String → Prop}
    (aside : ∀ session : Session σ, session.now = other.session.now →
      Session.Aside view heard names session (action session).2)
    (marked : ∀ place name, other.cachePlace = some place → names name → place ++ [name] ∈ marks)
    (mute : ∀ place name, other.cachePlace = some place → names name → Cache.IsComment name →
      Cache.Mute heard (Disk.entry? other.disk (place ++ [name]))) :
    Stays (Abreast view heard origin marks · other) (onSession action) := by
  intro world abreast
  have cachePlace : other.cachePlace = world.cachePlace := by rw [abreast.rest]
  have now : other.session.now = world.session.now := congrArg (·.2.1) abreast.talk
  have touched := aside (atCache world) now.symm
  rw [run_onSession]
  refine ⟨?_, abreast.grounds, abreast.talk.trans touched.talk.symm, ?_, abreast.stats⟩
  · rw [settled, abreast.rest]
  · refine Disk.Abreast.keepLog_left ?_ abreast.grounds _
    have disks := abreast.disks
    have grounds := abreast.grounds
    cases cache : world.cachePlace with
    | none =>
        rw [cache] at disks
        exact disks
    | some place =>
        rw [cache] at disks cachePlace
        have directory : (atCache world).directory = world.disk.directory place := by
          rw [atCache, cacheDirectory, cache]
        have within := touched.directory
        rw [directory] at within
        exact disks.keep_left (grounds.cacheThere place cache) within
          (fun name named => marked place name cachePlace named)
          (fun name named comment => mute place name cachePlace named comment)

section

variable {batches : List (List Bundle)} (separate : plan.provider.Separate view)
  (hushes : plan.oracle.Hushes plan.provider other.session.now)
  (marked : ∀ place ∈ Relations.vectorPlaces plan other.cachePlace batches, place ∈ marks)
  (mute : ∀ place name, other.cachePlace = some place → Cache.IsComment name →
    place ++ [name] ∈ Relations.vectorPlaces plan other.cachePlace batches →
      Cache.Mute plan.oracle.heard (Disk.entry? other.disk (place ++ [name])))

include separate hushes marked mute

/-- A batch is embedded or not: the world is abreast in any case. -/
theorem stays_embedBatch {batch : List Bundle} (member : batch ∈ batches) :
    Stays (Abreast view plan.oracle.heard origin marks · other) (Relations.embedBatch plan batch) := by
  have placed {place : List String} (isCache : other.cachePlace = some place) {name : String}
      (named : name ∈ plan.oracle.vectorFile? (batch.map (·.embeddingText))) :
      place ++ [name] ∈ Relations.vectorPlaces plan other.cachePlace batches := by
    rw [isCache]
    exact Relations.mem_vectorPlaces member named
  have aside (session : Session σ) (now : session.now = other.session.now) :=
    plan.oracle.aside_embed separate (batch.map (·.embeddingText)) (now ▸ hushes)
  refine (stays_onSession aside ?_ ?_).bind fun result => ?_
  · exact fun place name isCache named => marked _ (placed isCache named)
  · exact fun place name isCache named comment =>
      mute place name isCache comment (placed isCache named)
  · cases result with
    | ok vectors => exact (stays_index _).bind fun _ => stays_count (.inl rfl) _
    | error failure =>
        dsimp only
        split
        · exact (stays_count (.inr rfl) _).bind fun _ => .throw _ _
        · exact .throw _ _

theorem stays_embedAll {some : List (List Bundle)} (within : ∀ batch ∈ some, batch ∈ batches) :
    Stays (Abreast view plan.oracle.heard origin marks · other) (Relations.embedAll plan some) := by
  induction some with
  | nil => exact .pure _ _
  | cons batch rest ih =>
      obtain ⟨member, within⟩ := List.forall_mem_cons.mp within
      exact (stays_embedBatch separate hushes marked mute member).bind fun _ => ih within

end

/-- However far the index gets, the world is abreast. -/
theorem of_build (separate : plan.provider.Separate view)
    (hushes : plan.oracle.Hushes plan.provider other.session.now) (disabled : Pass.Disabled before other)
    (harmless : Pass.Harmless plan before paths) :
    Abreast view plan.oracle.heard before.disk (Pass.marks plan before paths)
      ((Relations.build plan paths).run before).2 other := by
  have start := Abreast.start disabled harmless view
  have cachePlace : other.cachePlace = before.cachePlace := by rw [disabled.rest]
  have disk : other.disk = before.disk := by rw [disabled.rest]
  rw [Relations.build, run_bind_ok _ (Relations.run_collect plan paths before)]
  split
  · exact start
  · refine Stays.bind (stays_embedAll separate hushes ?_ ?_ fun _ member => member) (fun _ => ?_)
      before start
    · rw [cachePlace]
      exact fun place member => List.mem_append_right _ member
    · rw [cachePlace, disk]
      exact harmless.vectors
    · exact fun world abreast => abreast

end Abreast

namespace Resumed

variable {view : σ → ρ} {heard : List UInt8 → Option Response} {plan : Plan σ} {origin : Disk}
  {marks : List (List String)}
  {before other : World σ}

/-- Once embeddings are switched off, no related declarations are looked for. -/
theorem of_degrade {world : World σ} (abreast : Abreast view heard origin marks world other)
    (unrelated : other.features.flags.relatedSymbols = false) (reason : String) :
    Resumed view heard origin marks ((degrade .embeddings reason).run world).2 other :=
  ⟨Abreast.stays_degrade .embeddings reason world abreast, rfl, unrelated⟩

/-- A set-up that failed leaves a world abreast. -/
theorem of_setUp (separate : plan.provider.Separate view)
    (hushes : plan.oracle.Hushes plan.provider other.session.now) (disabled : Pass.Disabled before other)
    {paths : List Path} (harmless : Pass.Harmless plan before paths)
    (failed : ((Relations.setUp plan paths).run before).1 = .ok false) :
    Resumed view plan.oracle.heard before.disk (Pass.marks plan before paths)
      ((Relations.setUp plan paths).run before).2 other := by
  have start := Abreast.start disabled harmless view
  have built := Abreast.of_build separate hushes disabled harmless
  revert failed
  unfold Relations.setUp
  rw [run_get_bind]
  cases embeds : before.features.flags.embeddings with
  | false =>
      intro _
      refine ⟨start, ?_, disabled.relatedSymbols⟩
      cases related : before.features.flags.relatedSymbols with
      | false => exact related
      | true =>
          rw [disabled.depends related] at embeds
          cases embeds
  | true =>
      rw [Bool.not_true, if_neg Bool.false_ne_true]
      cases plan.relates with
      | false => exact fun _ => of_degrade start disabled.relatedSymbols _
      | true =>
          rw [Bool.not_true, if_neg Bool.false_ne_true, run_bind_ok _ (run_capture _ before)]
          cases result : ((Relations.build plan paths).run before).1 with
          | ok number => exact fun failed => nomatch failed
          | error failure => exact fun _ => of_degrade built disabled.relatedSymbols _

end Resumed

namespace Pass

/-! ## A pass in two worlds -/

section

variable {related : World σ → World σ → Prop} {first second : Plan σ}

/-- What is left to do for two files is done alike, step by step. -/
def Job.Twins (related : World σ → World σ → Prop) (one two : Job σ) : Prop :=
  one.path = two.path ∧ Course.Twins (fun _ : Unit => related) Eq one.rest.run two.rest.run

/-- In two batches under way the files are documented alike. -/
structure Round.Twins (related : World σ → World σ → Prop) (one two : Round σ) : Prop where
  jobs : List.Forall₂ (Job.Twins related) one.jobs two.jobs
  world : related one.world two.world

/-- So they are, whatever happens next, if it makes no difference that time passes. -/
theorem Round.kept_twins (later : ∀ one two milliseconds, related one two →
      related (one.later milliseconds) (two.later milliseconds)) :
    Kept (Round.Twins related) fun _ => False where
  overs twins := (map_eq_of_forall₂ (twins.jobs.imp fun _ _ job => job.2.isOver_eq)).symm
  waits milliseconds _ _ _ _ twins := ⟨twins.jobs, later _ _ milliseconds twins.world⟩
  lost := ⟨fun _ _ _ lost => lost, fun lost => lost⟩
  steps := by
    rintro before after before' after' job job' world world' length ⟨jobs, worlds⟩ -
    obtain ⟨front, ⟨path, rest⟩, back⟩ := forall₂_middle length jobs
    obtain ⟨onward, further⟩ := rest.advance () worlds
    exact ⟨List.rel_append front (.cons ⟨path, onward⟩ back), further⟩

/-- Batches whose files are documented alike come to the same in whatever order the steps are
    taken. -/
theorem twins_processFiles (later : ∀ one two milliseconds, related one two →
      related (one.later milliseconds) (two.later milliseconds))
    (limit : second.filesAtOnce = first.filesAtOnce) {paths : List Path}
    (files : ∀ path ∈ paths, StepM.Twins (fun _ : Unit => related) StepM.anything
      (Units.fileCourse first path) (Units.fileCourse second path))
    (moves : List Move) {one two : World σ} (holds : related one two) :
    (processFiles first moves paths one).1 = (processFiles second moves paths two).1 ∧
      related (processFiles first moves paths one).2 (processFiles second moves paths two).2 := by
  have start : Round.Twins related ⟨paths.map (Job.start first), one⟩
      ⟨paths.map (Job.start second), two⟩ := by
    refine ⟨?_, holds⟩
    rw [List.forall₂_map_left_iff, List.forall₂_map_right_iff, List.forall₂_same]
    exact fun path member => ⟨rfl, Course.Twins.weaken (files path member) fun _ _ same => same.1.symm⟩
  obtain ⟨jobs, worlds⟩ := (Round.kept_twins later).processFiles limit start moves id
  rw [List.forall₂_map_left_iff, List.forall₂_map_right_iff] at jobs
  refine ⟨List.forall₂_eq_eq_eq ▸ jobs.imp fun visit visit' ⟨path, ended⟩ => ?_, worlds⟩
  obtain ⟨place, result⟩ := visit
  obtain ⟨place', result'⟩ := visit'
  obtain rfl : place = place' := path
  cases ended with
  | ended same => exact congrArg (Visit.mk place) same

theorem twins_processBatches {batches : List (List Path)}
    (later : ∀ one two milliseconds, related one two →
      related (one.later milliseconds) (two.later milliseconds))
    (counts : Twins related (count .batchesProcessed) (count .batchesProcessed))
    (reports : ∀ number, Twins related (report number) (report number))
    (limit : second.filesAtOnce = first.filesAtOnce) (moves : second.moves = first.moves)
    (files : ∀ path ∈ batches.flatten, StepM.Twins (fun _ : Unit => related) StepM.anything
      (Units.fileCourse first path) (Units.fileCourse second path)) (index : Int) :
    Twins related (processBatches first batches index) (processBatches second batches index) := by
  induction batches generalizing index with
  | nil => exact .pure _ _
  | cons batch rest ih =>
      rw [List.flatten_cons] at files
      obtain ⟨here, others⟩ := List.forall_mem_append.mp files
      refine Twins.bind (fun one two holds => ?_) fun _ => ih others (index + 1)
      obtain ⟨visits, after⟩ := twins_processFiles later limit here (first.moves index) holds
      have closes (failures : List RunFailure) : Twins related (close failures index)
          (close failures index) := by
        refine counts.bind fun _ => (reports _).bind fun _ => ?_
        cases failures with
        | nil => exact .pure _ _
        | cons failure more => exact .throw _ _
      rw [run_processBatch, run_processBatch, Stop.make, Stop.make, moves, ← visits]
      exact closes _ _ _ after

end

variable {view : σ → ρ} {plan : Plan σ} {before other : World σ} {batches : List (List Path)}

theorem twins_report {heard : List UInt8 → Option Response} {origin : Disk}
    {marks : List (List String)} (number : Int) :
    Twins (Resumed (σ := σ) view heard origin marks) (report number) (report number) := by
  refine .modify fun one two resumed => ⟨⟨?_, resumed.grounds, resumed.talk, resumed.disks,
    resumed.stats⟩, resumed.firstUnrelated, resumed.secondUnrelated⟩
  have processed := resumed.stats.counts .filesProcessed (by simp) (by simp)
  have total := resumed.stats.counts .filesTotal (by simp) (by simp)
  rw [processed, total, resumed.rest]

/-- A pass whose set-up failed keeps abreast of the one without embeddings. -/
theorem run_abreast (unseeing : plan.Unseeing view) (relates : Bool)
    (disabled : Disabled before other)
    (hushes : plan.oracle.Hushes plan.provider before.session.now)
    (harmless : Harmless plan (opened batches before) batches.flatten)
    (failed : ((Relations.setUp plan batches.flatten).run (opened batches before)).1 = .ok false) :
    ∃ result one two,
      (run plan batches).run before = (result, { one with stats := one.stats.finish }) ∧
      (run (plan.relating relates) batches).run other =
        (result, { two with stats := two.stats.finish }) ∧
      Resumed view plan.oracle.heard before.disk
        (marks plan (opened batches before) batches.flatten) one two := by
  have opens := disabled.opened batches
  have now : other.session.now = before.session.now := by rw [disabled.rest]
  have start := Resumed.of_setUp unseeing.separate (now ▸ hushes) opens harmless failed
  have setUp : (Relations.setUp plan batches.flatten).run (opened batches before) =
      (.ok false, ((Relations.setUp plan batches.flatten).run (opened batches before)).2) :=
    Prod.ext failed rfl
  have off : (Relations.setUp (plan.relating relates) batches.flatten).run (opened batches other) =
      (.ok false, opened batches other) := run_setUp_off _ _ opens.embeddings
  have isOpen : other.stats.finished = false := by
    rw [disabled.rest]
    exact disabled.isOpen
  have files (path : Path) (member : path ∈ batches.flatten) : StepM.Twins (fun _ : Unit =>
        Resumed view plan.oracle.heard (opened batches before).disk
          (marks plan (opened batches before) batches.flatten)) StepM.anything
      (Units.fileCourse plan path) (Units.fileCourse (plan.relating relates) path) :=
    Resumed.twins_fileCourse unseeing (harmless.sources path member)
  have limit : (plan.relating relates).filesAtOnce = plan.filesAtOnce := rfl
  have moves : (plan.relating relates).moves = plan.moves := rfl
  have twins := twins_processBatches (fun _ _ milliseconds resumed => resumed.later milliseconds)
    (Resumed.chargeable.count _ _) twins_report limit moves files 0
  obtain ⟨same, after⟩ := twins _ _ start
  obtain ⟨result, one, processed⟩ : ∃ result one, (processBatches plan batches 0).run
      ((Relations.setUp plan batches.flatten).run (opened batches before)).2 = (result, one) :=
    ⟨_, _, rfl⟩
  obtain ⟨result', two, processed'⟩ : ∃ result' two,
      (processBatches (plan.relating relates) batches 0).run (opened batches other) =
        (result', two) := ⟨_, _, rfl⟩
  have ran := run_run plan batches disabled.isOpen setUp processed
  have ran' := run_run (plan.relating relates) batches isOpen off processed'
  rw [processed, processed'] at same after
  obtain rfl : result = result' := same
  exact ⟨result, one, two, ran, ran', after⟩

end Pass

end Scholia
