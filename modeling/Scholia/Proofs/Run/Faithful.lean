import Scholia.Oracle.Lenient
import Scholia.Proofs.Oracle.Separate
import Scholia.Proofs.Run.DryRun
import Scholia.Proofs.Run.Packing
import Scholia.Run.Assignment

/-! # Dry runs of an assignment

An assignment is set up before its pass, and what is set up does not depend on whether files are
written. So a dry run of it is faithful to the run that writes them.
-/

namespace Scholia

/-- The query log is no source file. -/
theorem Settings.not_isSource_queryLogPath (settings : Settings) :
    Path.isSource settings.queryLogPath.resolve = false := by
  have file : Path.ofString "llm-queries.jsonl" = ⟨.relative, ["llm-queries.jsonl"]⟩ := by decide
  have plain : "llm-queries.jsonl" ≠ ".." := by decide
  obtain ⟨reached, place⟩ := Path.resolve_concat
    (settings.workspace.join (.ofString settings.log.directory)).root
    (settings.workspace.join (.ofString settings.log.directory)).names plain
  rw [queryLogPath, file, Path.join, if_pos rfl, place, Path.isSource, Grammar.supports,
    Path.suffix_concat .absolute .absolute reached []]
  decide

namespace RunM

variable {σ α β : Type} {action : RunM σ α} {next : α → RunM σ β}

/-- Both parts of a run that succeeds have succeeded. -/
theorem of_run_bind_ok {world after : World σ} {value : β}
    (run : (action >>= next).run world = (.ok value, after)) : ∃ first between,
      action.run world = (.ok first, between) ∧ (next first).run between = (.ok value, after) := by
  rw [run_bind] at run
  cases ran : action.run world with
  | mk result between =>
      rw [ran] at run
      cases result with
      | ok first => exact ⟨first, between, rfl, run⟩
      | error failure => cases run

end RunM

namespace Assignment

open RunM

variable {σ : Type} (assignment : Assignment σ)

/-- The assignment for a run that writes no file, or for one that does, with some order of the steps. -/
def withDry (dryRun : Bool) (moves : Int → List Move) : Assignment σ :=
  { assignment with options := { assignment.options with dryRun }, moves }

/-- Set up everything before the pass: the oracle, whether related declarations are looked for, and
    the batches. -/
def prepare : RunM σ (Oracle × Bool × List (List Path)) := do
  let settings := assignment.settings
  count .packagesTotal assignment.packages.length
  let cache ← openCache assignment.codec settings
  let oracle ← assignment.openOracle cache
  let relates := (← get).features.flags.embeddings
  checkFileGate settings
  let batches ← Pass.pack settings.batch.maxTokensPerBatch assignment.paths
  return (oracle, relates, batches)

/-- The plan of the pass that follows the preparations. -/
def planOf (prepared : Oracle × Bool × List (List Path)) : Plan σ :=
  assignment.plan prepared.1 (some assignment.settings.workspace) prepared.2.1

theorem generate_eq : assignment.generate = assignment.prepare >>= fun prepared =>
    Pass.run (assignment.planOf prepared) prepared.2.2 := by
  unfold generate prepare
  simp only [bind_assoc, pure_bind]
  rfl

/-- All files are in the batches, in order. -/
theorem flatten_of_prepare {prepared : Oracle × Bool × List (List Path)} {world after : World σ}
    (done : assignment.prepare.run world = (.ok prepared, after)) :
    prepared.2.2.flatten = assignment.paths := by
  unfold prepare at done
  obtain ⟨_, _, -, done⟩ := of_run_bind_ok done
  obtain ⟨_, _, -, done⟩ := of_run_bind_ok done
  obtain ⟨_, _, -, done⟩ := of_run_bind_ok done
  obtain ⟨_, _, -, done⟩ := of_run_bind_ok done
  obtain ⟨_, _, -, done⟩ := of_run_bind_ok done
  obtain ⟨batches, _, packed, done⟩ := of_run_bind_ok done
  cases done
  unfold Pass.pack at packed
  rw [run_get_bind] at packed
  dsimp only at packed
  split at packed
  · next found =>
    cases packed
    exact Batch.flatten_pack found
  · cases packed

section

variable {related : World σ → World σ → Prop}

/-- The cache is opened alike where its directory is made alike. -/
theorem twins_openCache (codec : Cache.Codec) (settings : Settings)
    (cache : ∀ one two, related one two → two.features.flags.cache = one.features.flags.cache)
    (degrades : ∀ reason, Twins related (degrade .cache reason) (degrade .cache reason))
    (alike : ∀ one two, related one two → (two.disk.makeDirectory settings.cachePath).1 =
      (one.disk.makeDirectory settings.cachePath).1)
    (made : ∀ one two, related one two →
      related { one with disk := (one.disk.makeDirectory settings.cachePath).2 }
        { two with disk := (two.disk.makeDirectory settings.cachePath).2 })
    (placed : ∀ one two, related one two → ∀ place, one.disk.isDirectory place = true →
      related { one with cachePlace := some place } { two with cachePlace := some place }) :
    Twins related (openCache codec settings) (openCache codec settings) := by
  unfold openCache
  refine .get_bind fun one two holds => ?_
  rw [cache one two holds]
  split
  · exact .pure _ _
  · split
    · exact .throw _ _
    · intro one two holds
      have same := alike one two holds
      have between := made one two holds
      rw [run_get_bind, run_get_bind]
      cases done : one.disk.makeDirectory settings.cachePath with
      | mk result disk =>
        cases done' : two.disk.makeDirectory settings.cachePath with
        | mk result' disk' =>
          rw [done, done'] at same between
          obtain rfl : result' = result := same
          cases result' with
          | error fault => exact (degrades _).bind (fun _ => .pure _ _) _ _ between
          | ok place =>
              have there := Disk.isDirectory_target done (Disk.isDirectory_start _ _)
              exact ⟨rfl, placed _ _ between place there⟩

/-- Whether files can be processed has nothing to do with worlds. -/
theorem twins_checkFileGate (related : World σ → World σ → Prop) (settings : Settings) :
    Twins related (checkFileGate settings) (checkFileGate settings) := by
  unfold checkFileGate
  split
  · exact .pure _ _
  · exact .throw _ _

/-- Files are packed alike where they have the same sizes. -/
theorem twins_pack (budget : Int) (paths : List Path)
    (sizes : ∀ one two, related one two → ∀ path, two.disk.size path = one.disk.size path) :
    Twins related (Pass.pack budget paths) (Pass.pack budget paths) := by
  unfold Pass.pack
  refine .get_bind fun one two holds => ?_
  have same : (fun path => (two.disk.size path : Int)) = fun path => (one.disk.size path : Int) :=
    funext fun path => congrArg _ (sizes one two holds path)
  dsimp only
  rw [same]
  split
  · exact .pure _ _
  · exact .throw _ _

end

/-- Nothing that is set up depends on whether files are written. -/
theorem prepare_withDry (dryRun : Bool) (moves : Int → List Move) :
    (assignment.withDry dryRun moves).prepare = assignment.prepare :=
  rfl

theorem planOf_withDry (dryRun : Bool) (moves : Int → List Move)
    (prepared : Oracle × Bool × List (List Path)) :
    (assignment.withDry dryRun moves).planOf prepared =
      Shadow.withDry (assignment.planOf prepared) dryRun moves :=
  rfl

end Assignment

namespace Shadow

open RunM

variable {σ : Type} {origin : Disk} {edits : Edits}

/-- Other disks that mirror each other take the place of those that did. -/
theorem relocate {dry real : World σ} (shadow : Shadow origin edits dry real) {base disk : Disk}
    (disks : Disk.Mirrors origin edits dry.cachePlace base disk) :
    Shadow origin edits { dry with disk := base } { real with disk } where
  rest := by rw [shadow.rest]
  session := shadow.session
  stats := shadow.stats
  isOpen := shadow.isOpen
  disks := disks
  logApart := shadow.logApart

/-- The cache gets a place where both disks have a directory. -/
theorem settle {dry real : World σ} (shadow : Shadow origin edits dry real) {place : List String}
    (there : dry.disk.isDirectory place = true) : Shadow origin edits
      { dry with cachePlace := some place } { real with cachePlace := some place } where
  rest := by rw [shadow.rest]
  session := shadow.session
  stats := shadow.stats
  isOpen := shadow.isOpen
  disks :=
    { shadow.disks with
      cacheThere := by
        rintro _ ⟨⟩
        exact there }
  logApart := shadow.logApart

theorem twins_openCache (codec : Cache.Codec) (settings : Settings) :
    Twins (Shadow (σ := σ) origin edits) (Assignment.openCache codec settings)
      (Assignment.openCache codec settings) := by
  refine Assignment.twins_openCache codec settings (fun one two shadow => ?_) (twins_degrade _)
    (fun one two shadow => ?_) (fun one two shadow => ?_) fun one two shadow place => shadow.settle
  · rw [shadow.rest]
  · exact (shadow.disks.makeDirectory settings.cachePath).1
  · exact shadow.relocate (shadow.disks.makeDirectory settings.cachePath).2

theorem twins_openOracle (assignment : Assignment σ) (cache : Option Cache.Store) :
    Twins (Shadow origin edits) (assignment.openOracle cache) (assignment.openOracle cache) := by
  unfold Assignment.openOracle
  dsimp only
  split
  · exact .throw _ _
  · refine .get_bind fun one two shadow => ?_
    rw [shadow.rest]
    split
    · exact (twins_degrade _ _).bind fun _ => .pure _ _
    · exact .pure _ _

/-- Everything is set up alike before any file is written. -/
theorem twins_prepare (assignment : Assignment σ) :
    Twins (Shadow origin []) assignment.prepare assignment.prepare := by
  unfold Assignment.prepare
  refine (chargeable.count _ _).bind fun _ => (twins_openCache _ _).bind fun cache => ?_
  refine (twins_openOracle assignment cache).bind fun oracle => .get_bind fun one two shadow => ?_
  rw [shadow.rest]
  refine (Assignment.twins_checkFileGate _ _).bind fun _ => ?_
  refine (Assignment.twins_pack _ _ fun one two shadow path => ?_).bind fun batches => .pure _ _
  exact shadow.disks.like.size_eq Edits.not_has_nil

/-- Both runs of an assignment start alike. -/
theorem start (assignment : Assignment σ) (moves others : Int → List Move) (provider : σ)
    (disk : Disk) (now : Int) :
    Shadow disk [] ((assignment.withDry true moves).world provider disk now)
      ((assignment.withDry false others).world provider disk now) := by
  have logApart : ∀ path,
      ((assignment.withDry false others).world provider disk now).logPath = some path →
      Path.isSource path.resolve = false := by
    intro path same
    change (if assignment.settings.oracle.logQueries then some assignment.settings.queryLogPath
      else none) = some path at same
    rw [Option.ite_none_right_eq_some] at same
    rw [← Option.some.inj same.2, assignment.settings.not_isSource_queryLogPath]
  exact begin rfl rfl logApart

end Shadow

/-- What a dry run has in common with a run that writes files, and what the disks hold at the end.
    The documents are those of the files that could be read, as they are once their units were
    considered. -/
structure Faithful {σ : Type} (start : Disk) (revisions : List (Path × Document))
    (dry real : Except RunFailure Unit × World σ) : Prop where
  result : dry.1 = real.1
  /-- The provider has been asked the same, and everything else that came of it is the same. -/
  calls : dry.2.session.calls = real.2.session.calls
  session : dry.2.session = { real.2.session with directory := dry.2.session.directory }
  /-- All counters and error records are the same. -/
  stats : dry.2.stats = { real.2.stats with dryRun := true }
  features : dry.2.features = real.2.features
  progress : dry.2.progress = real.2.progress
  notices : dry.2.notices = real.2.notices
  cachePlace : dry.2.cachePlace = real.2.cachePlace
  /-- The cache holds the same entries. -/
  cached : ∀ place key, Disk.entry? dry.2.disk (place ++ [Cache.fileName key]) =
    Disk.entry? real.2.disk (place ++ [Cache.fileName key])
  /-- Wherever there can be no source file, the disks are the same. -/
  elsewhere : ∀ place, Path.isSource place = false →
    Disk.entry? dry.2.disk place = Disk.entry? real.2.disk place
  /-- The dry run leaves all source files as they were. -/
  unwritten : ∀ place, Path.isSource place = true → dry.2.disk.file? place = start.file? place
  /-- The other run writes the documents that changed. -/
  written : ∀ revision ∈ revisions, revision.2.changed = true →
    real.2.disk.file? revision.1.resolve = some (Utf8.encode revision.2.render)
  /-- The other run leaves all other source files as they were. -/
  untouched : ∀ place, Path.isSource place = true →
    (∀ revision ∈ revisions, revision.2.changed = true → revision.1.resolve ≠ place) →
    real.2.disk.file? place = start.file? place

namespace Faithful

variable {σ : Type} {disk : Disk} {revisions : List (Path × Document)} {dry real : World σ}
  {result : Except RunFailure Unit}

/-- A run that kept step is faithful. -/
theorem of_shadow (shadow : Shadow disk (Edits.ofRevisions revisions) dry real)
    (distinct : revisions.Pairwise (·.1.resolve ≠ ·.1.resolve)) :
    Faithful disk revisions (result, dry) (result, real) := by
  have elsewhere (place : List String) (other : Path.isSource place = false) :
      Disk.entry? dry.disk place = Disk.entry? real.disk place := by
    refine ((shadow.disks.like.entries place).eq_of_not fun has => ?_).symm
    exact Bool.false_ne_true (other.symm.trans (shadow.disks.edited place has))
  refine ⟨rfl, ?_, shadow.session, shadow.stats, ?_, ?_, ?_, ?_, ?_, elsewhere,
    shadow.disks.sources, ?_, ?_⟩
  · rw [shadow.session]
  · rw [shadow.rest]
  · rw [shadow.rest]
  · rw [shadow.rest]
  · rw [shadow.rest]
  · exact fun place key => elsewhere _ (Path.not_isSource_entry place key)
  · intro revision member changed
    exact shadow.disks.written _ _ (Edits.lookup_ofRevisions distinct member changed)
  · intro place source others
    rw [← shadow.disks.sources place source]
    refine shadow.disks.like.file?_eq fun has => ?_
    obtain ⟨revision, member, changed, same⟩ := Edits.changed_of_has has
    exact others revision member changed same

/-- Finishing the statistics makes no difference. -/
theorem finish (faithful : Faithful disk revisions (result, dry) (result, real)) :
    Faithful disk revisions (result, { dry with stats := dry.stats.finish })
      (result, { real with stats := real.stats.finish }) :=
  { faithful with stats := congrArg Statistics.finish faithful.stats }

end Faithful

namespace Assignment

open RunM

variable {σ : Type} (assignment : Assignment σ)

/-- The files that can be read, with their documents as they are once their units were
    considered. -/
def revisions (provider : σ) (disk : Disk) (now : Int) : List (Path × Document) :=
  match assignment.prepare.run (assignment.world provider disk now) with
  | (.error _, _) => []
  | (.ok prepared, world) =>
    let plan := assignment.planOf prepared
    Pass.revisions (Pass.journey plan prepared.2.2 world)

section

variable {assignment} {provider : σ} {disk : Disk} {now : Int} {after : World σ}

theorem run_of_prepare_error {failure : RunFailure} (failed :
      assignment.prepare.run (assignment.world provider disk now) = (.error failure, after)) :
    assignment.run provider disk now = (.error failure, after) ∧
      assignment.revisions provider disk now = [] := by
  rw [run, generate_eq, run_bind, failed, revisions, failed]
  exact ⟨rfl, rfl⟩

theorem run_of_prepare_ok {prepared : Oracle × Bool × List (List Path)} (done :
      assignment.prepare.run (assignment.world provider disk now) = (.ok prepared, after)) :
    assignment.run provider disk now =
        (Pass.run (assignment.planOf prepared) prepared.2.2).run after ∧
      assignment.revisions provider disk now =
        Pass.revisions (Pass.journey (assignment.planOf prepared) prepared.2.2 after) := by
  rw [run, generate_eq, run_bind, done, revisions, done]
  exact ⟨rfl, rfl⟩

end

/-- Whatever the settings, the files, the provider and the contents of the cache are, and in whatever
    order the files take their steps, a dry run is faithful to the run that writes files with the same
    order, unless that one fails to save a file: the two make the same calls and come to the same result
    with the same statistics. The order makes no difference where one file is under way at a time. -/
theorem run_withDry_faithful (moves others : Int → List Move)
    (orders : ∀ index,
      Move.Agree assignment.settings.batch.maxConcurrentFiles (moves index) (others index))
    (provider : σ) (disk : Disk) (now : Int)
    (distinct : assignment.paths.Pairwise (·.resolve ≠ ·.resolve))
    (saved : ∀ path fault,
      ((assignment.withDry false others).run provider disk now).1 ≠ .error (.unsaved path fault)) :
    (assignment.withDry true moves).revisions provider disk now =
        (assignment.withDry false others).revisions provider disk now ∧
      Faithful disk ((assignment.withDry false others).revisions provider disk now)
        ((assignment.withDry true moves).run provider disk now)
        ((assignment.withDry false others).run provider disk now) := by
  obtain ⟨same, after⟩ := Shadow.twins_prepare assignment _ _
    (Shadow.start assignment moves others provider disk now)
  cases dried : (assignment.withDry true moves).prepare.run
      ((assignment.withDry true moves).world provider disk now) with
  | mk prepared dry =>
    cases wrote : (assignment.withDry false others).prepare.run
        ((assignment.withDry false others).world provider disk now) with
    | mk prepared' real =>
      rw [← assignment.prepare_withDry true moves, dried, assignment.prepare_withDry,
        ← assignment.prepare_withDry false others, wrote] at same after
      obtain rfl : prepared = prepared' := same
      cases prepared with
      | error failure =>
          obtain ⟨ran, none⟩ := run_of_prepare_error dried
          obtain ⟨ran', none'⟩ := run_of_prepare_error wrote
          rw [ran, ran', none, none']
          exact ⟨rfl, .of_shadow after .nil⟩
      | ok prepared =>
          obtain ⟨ran, found⟩ := run_of_prepare_ok dried
          obtain ⟨ran', found'⟩ := run_of_prepare_ok wrote
          have all : prepared.2.2.flatten = assignment.paths := flatten_of_prepare _ wrote
          rw [planOf_withDry] at ran ran' found found'
          rw [ran'] at saved
          rw [← all] at distinct
          obtain ⟨result, one, two, ended, ended', taken, revised, after⟩ :=
            after.pass (fun _ _ => rfl) orders distinct saved
          rw [ran, ran', found, found', ended, ended']
          refine ⟨revised, (Faithful.of_shadow after (Pass.revisions_pairwise ?_)).finish⟩
          rw [taken]
          exact distinct

/-- Two files with a function each to document, for a model that needs no key, and a cache. -/
def sample : Assignment String where
  settings :=
    { workspace := ⟨.absolute, []⟩
      doc := { minDocLength := 0 }
      oracle := { defaultGenerationModel := "m" }
      embedding := { enabled := false }
      cache := { maxAgeHours := .int 24 }
      models := [⟨"m", "ollama", "llama", "generation", none, none, none, none, none, [], none⟩] }
  provider := Oracle.echo
  codec := Lenient.codec
  form := Lenient.form
  parse := fun _ => .ok Pass.sampleTree
  paths := [⟨.absolute, ["a.ts"]⟩, ⟨.absolute, ["b.ts"]⟩]

def sampleDisk : Disk where
  entries :=
    [(["a.ts"], .file (Utf8.encode "function f() {}\n".toList)),
      (["b.ts"], .file (Utf8.encode "function g() {}\n".toList))]

/-- The files take turns. -/
def sampleMoves : Int → List Move :=
  fun _ => [.step 1, .step 0, .step 0, .wait 20, .step 1, .step 1, .step 0]

/-- Both functions get a comment, which only the second run writes into their files; both runs put the
    comments into the cache. -/
theorem run_withDry_faithful_sample :
    (∀ index, Move.Agree sample.settings.batch.maxConcurrentFiles (sampleMoves index)
        (sampleMoves index)) ∧
      (∀ path fault, ((sample.withDry false sampleMoves).run "/** Adds. */" sampleDisk 0).1 ≠
        .error (.unsaved path fault)) ∧
      Faithful sampleDisk ((sample.withDry false sampleMoves).revisions "/** Adds. */" sampleDisk 0)
        ((sample.withDry true sampleMoves).run "/** Adds. */" sampleDisk 0)
        ((sample.withDry false sampleMoves).run "/** Adds. */" sampleDisk 0) ∧
      ((sample.withDry false sampleMoves).run "/** Adds. */" sampleDisk 0).2.disk.file? ["a.ts"] =
        some (Utf8.encode "/** Adds. */\nfunction f() {}\n".toList) ∧
      ((sample.withDry true sampleMoves).run "/** Adds. */" sampleDisk 0).2.session.calls.length = 2 ∧
      ((sample.withDry true sampleMoves).run "/** Adds. */" sampleDisk 0).2.disk.entries.length = 5 := by
  have orders : ∀ index, Move.Agree sample.settings.batch.maxConcurrentFiles (sampleMoves index)
      (sampleMoves index) := fun _ => .inl rfl
  have fine : errorOf? ((sample.withDry false sampleMoves).run "/** Adds. */" sampleDisk 0).1 = none := by
    decide +kernel
  have saved : ∀ path fault, ((sample.withDry false sampleMoves).run "/** Adds. */" sampleDisk 0).1 ≠
      .error (.unsaved path fault) := by
    intro path fault same
    rw [same] at fine
    cases fine
  have distinct : sample.paths.Pairwise (·.resolve ≠ ·.resolve) := by decide +kernel
  refine ⟨orders, saved,
    (sample.run_withDry_faithful sampleMoves sampleMoves orders _ sampleDisk 0 distinct saved).2,
    ?_, ?_, ?_⟩
  · decide +kernel
  · decide +kernel
  · decide +kernel

/-- A provider that gives the replies of a script, whatever it is asked. -/
def scripted : Provider (List String) where
  complete _ replies := (.ok replies.head?, replies.tail)
  embed _ replies := (.ok [], replies)

/-- Three files, of which two may be under way at a time; the second one has two functions. -/
def crowded : Assignment (List String) where
  settings :=
    { workspace := ⟨.absolute, []⟩
      doc := { minDocLength := 0 }
      oracle := { defaultGenerationModel := "m" }
      embedding := { enabled := false }
      cache := { enabled := false }
      batch := { maxConcurrentFiles := 2 }
      models := [⟨"m", "ollama", "llama", "generation", none, none, none, none, none, [], none⟩] }
  provider := scripted
  codec := Lenient.codec
  form := Lenient.form
  parse := fun text =>
    if text.length = 32 then
      .ok ⟨"program", 0, 32, true, none,
        [⟨"function_declaration", 0, 15, true, none, [⟨"identifier", 9, 10, true, some "name", []⟩]⟩,
          ⟨"function_declaration", 16, 31, true, none,
            [⟨"identifier", 25, 26, true, some "name", []⟩]⟩]⟩
    else .ok Pass.sampleTree
  paths := [⟨.absolute, ["a.ts"]⟩, ⟨.absolute, ["b.ts"]⟩, ⟨.absolute, ["c.ts"]⟩]

def crowdedDisk : Disk where
  entries :=
    [(["a.ts"], .file (Utf8.encode "function f() {}\n".toList)),
      (["b.ts"], .file (Utf8.encode "function g() {}\nfunction h() {}\n".toList)),
      (["c.ts"], .file (Utf8.encode "function i() {}\n".toList))]

def script : List String :=
  ["/** One. */", "/** Two. */", "/** Three. */", "/** Four. */"]

/-- The first file needs no time to be saved. The third one starts before the second function of the
    second file is considered. -/
def quick : Int → List Move :=
  fun _ => List.replicate 12 (.step 0) ++ List.replicate 10 (.step 1) ++ List.replicate 12 (.step 2)

/-- The first file is still being saved when the second function of the second file is considered. -/
def slow : Int → List Move :=
  fun _ => List.replicate 11 (.step 0) ++ List.replicate 20 (.step 1)

/-- The entry for the function in the first file of the sample. -/
def sampleEntry : Path :=
  sample.settings.cachePath.join
    ⟨.relative, [Cache.fileName (Oracle.cacheKey "a.ts:1:0" "m")]⟩

/-- An entry of the cache is listed with a source file. -/
def listing : Assignment String :=
  { sample with paths := [sampleEntry, ⟨.absolute, ["a.ts"]⟩] }

/-- The entry cannot be read. -/
def listingDisk : Disk where
  entries :=
    (sampleEntry.resolve, .file (Utf8.encode "broken".toList)) ::
      ([".docsmith-cache"], .directory) :: sampleDisk.entries

/-- Where two files may be under way, saving a file delays others, so that a dry run may come to make
    its requests in another order: the provider gives the same replies, and others get them. And an
    entry of the cache that is listed is written in both runs, although it has no document. -/
theorem run_withDry_unfaithful :
    let dry := crowded.withDry true quick
    let real := crowded.withDry false slow
    let idle := listing.withDry true fun _ => []
    let busy := listing.withDry false fun _ => []
    let entry := sampleEntry.resolve
    crowded.paths.Pairwise (·.resolve ≠ ·.resolve) ∧
      errorOf? (dry.run script crowdedDisk 0).1 = none ∧
      errorOf? (real.run script crowdedDisk 0).1 = none ∧
      (dry.run script crowdedDisk 0).2.session.calls ≠
        (real.run script crowdedDisk 0).2.session.calls ∧
      (dry.revisions script crowdedDisk 0).getLast?.map (·.2.render) =
        some "/** Three. */\nfunction i() {}\n".toList ∧
      (real.run script crowdedDisk 0).2.disk.file? ["c.ts"] =
        some (Utf8.encode "/** Four. */\nfunction i() {}\n".toList) ∧
      listing.paths.Pairwise (·.resolve ≠ ·.resolve) ∧
      (idle.run "/** Adds. */" listingDisk 0).2.disk.file? entry ≠ listingDisk.file? entry ∧
      (busy.revisions "/** Adds. */" listingDisk 0).map Prod.fst = [⟨.absolute, ["a.ts"]⟩] ∧
      (busy.run "/** Adds. */" listingDisk 0).2.disk.file? entry ≠ listingDisk.file? entry := by
  refine ⟨?_, ?_, ?_, ?_, ?_, ?_, ?_, ?_, ?_, ?_⟩
  · decide +kernel
  · decide +kernel
  · decide +kernel
  · intro same
    have asked := congrArg (fun calls => (calls.filterMap Call.completion?).map (·.messages)) same
    revert asked
    decide +kernel
  all_goals decide +kernel

end Assignment

end Scholia
