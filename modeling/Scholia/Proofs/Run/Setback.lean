import Scholia.Proofs.Disk.Marks
import Scholia.Proofs.Oracle.Separate
import Scholia.Proofs.Run.Blindness
import Scholia.Proofs.Run.Shadow

/-! # A run that was held up and one that was not

Vectors that were asked for, and came to nothing, leave their marks: entries in the cache, the
query log and the directories that it lies in, and an index that nobody looks into. A run that goes
on with these marks keeps abreast of one without them: it makes the same requests for comments,
writes the same files and counts and records the same.
-/

namespace Scholia

namespace Disk

/-- What marks on a disk have to do with: those of the query log are among them, and it needs no
    place where a comment is kept. -/
structure Grounds (origin : Disk) (marks : List (List String)) (cache : Option (List String))
    (log : Option Path) : Prop where
  cacheThere : ∀ place, cache = some place → origin.isDirectory place = true
  marked : ∀ path, log = some path → ∀ place ∈ origin.needed path, place ∈ marks
  apart : ∀ path place name, log = some path → cache = some place → Cache.IsComment name →
    place ++ [name] ∉ origin.needed path

/-- Two disks that came from one are the same but for marks, and a comment is kept on both or on
    neither. -/
structure Abreast (heard : List UInt8 → Option Response) (origin : Disk)
    (marks : List (List String)) (cache : Option (List String)) (one two : Disk) : Prop where
  same : SameBut marks one two
  first : Keeps origin one
  second : Keeps origin two
  comments : ∀ place name, cache = some place → Cache.IsComment name →
    Cache.Hushed heard (one.entry? (place ++ [name])) (two.entry? (place ++ [name]))

namespace Abreast

variable {heard : List UInt8 → Option Response} {origin one two : Disk}
  {marks : List (List String)} {cache : Option (List String)} {log : Option Path}

theorem refl (heard : List UInt8 → Option Response) (disk : Disk) (marks : List (List String))
    (cache : Option (List String)) : Abreast heard disk marks cache disk disk :=
  ⟨.refl marks disk, .refl disk, .refl disk, fun _ _ _ _ => .inl rfl⟩

theorem symm (abreast : Abreast heard origin marks cache one two) :
    Abreast heard origin marks cache two one where
  same := ⟨abreast.same.readOnly.symm, fun place other => (abreast.same.entries place other).symm⟩
  first := abreast.second
  second := abreast.first
  comments place name isCache comment := (abreast.comments place name isCache comment).symm

/-- The query log is written on one side. -/
theorem keepLog_left (abreast : Abreast heard origin marks cache one two)
    (grounds : Grounds origin marks cache log) (entries : List Json) :
    Abreast heard origin marks cache (RunM.keepLog one log entries) two := by
  cases log with
  | none => exact abreast
  | some path =>
      cases entries with
      | nil => exact abreast
      | cons entry rest =>
          dsimp only [RunM.keepLog]
          refine ⟨⟨?_, fun place other => ?_⟩, abreast.first.append _ _, abreast.second,
            fun place name isCache comment => ?_⟩
          · rw [readOnly_append, abreast.same.readOnly]
          · have unneeded : place ∉ origin.needed path := fun needed =>
              other (grounds.marked path rfl place needed)
            rw [abreast.first.entry?_append unneeded, abreast.same.entries place other]
          · rw [abreast.first.entry?_append (grounds.apart path place name rfl isCache comment)]
            exact abreast.comments place name isCache comment

theorem keepLog (abreast : Abreast heard origin marks cache one two)
    (grounds : Grounds origin marks cache log) (entries others : List Json) :
    Abreast heard origin marks cache (RunM.keepLog one log entries) (RunM.keepLog two log others) :=
  ((abreast.keepLog_left grounds entries).symm.keepLog_left grounds others).symm

theorem directory {place : List String} (abreast : Abreast heard origin marks (some place) one two)
    (there : origin.isDirectory place = true) :
    Directory.Abreast heard (fun name => place ++ [name] ∈ marks) (one.directory place)
      (two.directory place) := by
  have here := abreast.first.isDirectory there
  have too := abreast.second.isDirectory there
  refine ⟨?_, fun name other => ?_, fun name comment => ?_⟩
  · simp [Disk.directory, here, too, Directory.isBlocked]
  · rw [get?_directory here, get?_directory too, abreast.same.entries _ other]
  · rw [get?_directory here, get?_directory too]
    exact abreast.comments place name rfl comment

/-- A directory is kept that has lost none of those in it. -/
theorem keeps_keep {disk : Disk} (keeps : Keeps origin disk) {place : List String}
    (there : disk.isDirectory place = true) {directory : Directory}
    (directories : ∀ name, (disk.directory place).entries.get? name = some .directory →
      directory.entries.get? name = some .directory) : Keeps origin (disk.keep place directory) := by
  intro other held
  rw [entry?_keep]
  split
  · next name found =>
    refine directories name ?_
    rw [get?_directory there, ← nameIn?_eq_some_iff.mp found, keeps other held]
  · exact keeps other held

theorem keep {place : List String} (abreast : Abreast heard origin marks (some place) one two)
    (there : origin.isDirectory place = true) {left right : Directory}
    (kept : Directory.Abreast heard (fun name => place ++ [name] ∈ marks) left right)
    (first : ∀ name, (one.directory place).entries.get? name = some .directory →
      left.entries.get? name = some .directory)
    (second : ∀ name, (two.directory place).entries.get? name = some .directory →
      right.entries.get? name = some .directory) :
    Abreast heard origin marks (some place) (one.keep place left) (two.keep place right) := by
  have named (name : String) : nameIn? place (place ++ [name]) = some name :=
    nameIn?_eq_some_iff.mpr rfl
  refine ⟨⟨abreast.same.readOnly, fun other unmarked => ?_⟩,
    keeps_keep abreast.first (abreast.first.isDirectory there) first,
    keeps_keep abreast.second (abreast.second.isDirectory there) second, ?_⟩
  · rw [entry?_keep, entry?_keep]
    cases found : nameIn? place other with
    | none => exact abreast.same.entries other unmarked
    | some name => exact kept.same name (nameIn?_eq_some_iff.mp found ▸ unmarked)
  · rintro _ name ⟨⟩ comment
    rw [entry?_keep, entry?_keep, named]
    exact kept.comments name comment

/-- A directory is kept on one side in which nothing but marks was touched, and no comment where
    the other side has none. -/
theorem keep_left {place : List String} (abreast : Abreast heard origin marks (some place) one two)
    (there : origin.isDirectory place = true) {names : String → Prop} {directory : Directory}
    (touched : Directory.Touched heard names (one.directory place) directory)
    (marked : ∀ name, names name → place ++ [name] ∈ marks)
    (mute : ∀ name, names name → Cache.IsComment name → Cache.Mute heard (two.entry? (place ++ [name]))) :
    Abreast heard origin marks (some place) (one.keep place directory) two := by
  have here := abreast.first.isDirectory there
  have others (name : String) (other : ¬names name) :
      directory.entries.get? name = one.entry? (place ++ [name]) := by
    rw [touched.others name other, get?_directory here]
  refine ⟨⟨abreast.same.readOnly, fun other unmarked => ?_⟩,
    keeps_keep abreast.first here touched.directories, abreast.second, ?_⟩
  · rw [abreast.same.entries other unmarked, entry?_keep]
    split
    · next name found =>
      have placed := nameIn?_eq_some_iff.mp found
      rw [others name fun named => unmarked (placed ▸ marked name named), placed]
    · rfl
  · rintro _ name ⟨⟩ comment
    rw [entry?_keep, nameIn?_eq_some_iff.mpr rfl]
    dsimp only
    have hushed := abreast.comments place name rfl comment
    by_cases named : names name
    · have silent := mute name named comment
      have before : Cache.Mute heard ((one.directory place).entries.get? name) := by
        rw [get?_directory here]
        rcases hushed with same | ⟨own, -⟩
        · exact same ▸ silent
        · exact own
      exact .inr ⟨touched.mute name before, silent⟩
    · rw [others name named]
      exact hushed

/-- A file that is no directory is written on both sides. -/
theorem put (abreast : Abreast heard origin marks cache one two) {place : List String}
    (free : origin.entry? place ≠ some .directory) (entry : DiskEntry) :
    Abreast heard origin marks cache (one.put place entry) (two.put place entry) := by
  refine ⟨abreast.same.put place entry, abreast.first.put free entry,
    abreast.second.put free entry, fun cachePlace name isCache comment => ?_⟩
  rw [entry?_put, entry?_put]
  split
  · exact .inl rfl
  · exact abreast.comments cachePlace name isCache comment

end Abreast

end Disk

/-- Two open statistics are the same but for what is counted of embeddings. -/
structure Statistics.Abreast (one two : Statistics) : Prop where
  first : one.finished = false
  second : two.finished = false
  counts : ∀ counter, counter ≠ .embeddingsSucceeded → counter ≠ .embeddingsFailed →
    two.counts counter = one.counts counter
  errors : two.errors = one.errors

theorem Statistics.Abreast.charge {one two : Statistics} (abreast : Abreast one two) (bill : Bill) :
    Abreast (one.charge bill) (two.charge bill) where
  first := abreast.first
  second := abreast.second
  counts counter succeeded failed := by
    dsimp only [Statistics.charge]
    rw [abreast.counts counter succeeded failed]
  errors := by
    dsimp only [Statistics.charge]
    rw [abreast.errors]

variable {σ ρ α : Type}

/-- A run that asked for vectors in vain keeps abreast of one that did not: their worlds have come
    from one disk, and are the same but for marks and what nobody looks at. -/
structure Abreast (view : σ → ρ) (heard : List UInt8 → Option Response) (origin : Disk)
    (marks : List (List String)) (one two : World σ) : Prop where
  rest : two =
    { one with
      session := two.session
      disk := two.disk
      stats := two.stats
      features := two.features
      nodes := two.nodes
      extractor := { one.extractor with embeddingIndex := two.extractor.embeddingIndex } }
  grounds : Disk.Grounds origin marks one.cachePlace one.logPath
  talk : two.session.talk view = one.session.talk view
  disks : Disk.Abreast heard origin marks one.cachePlace one.disk two.disk
  stats : Statistics.Abreast one.stats two.stats

/-- Neither of two worlds that are abreast looks for related declarations any more. -/
structure Resumed (view : σ → ρ) (heard : List UInt8 → Option Response) (origin : Disk)
    (marks : List (List String)) (one two : World σ) : Prop
    extends Abreast view heard origin marks one two where
  firstUnrelated : one.features.flags.relatedSymbols = false
  secondUnrelated : two.features.flags.relatedSymbols = false

/-- Nothing in a plan looks at vectors: its handlers do not, which do the same at all times, and
    neither does what its provider replies to requests for comments. -/
structure Plan.Unseeing (plan : Plan σ) (view : σ → ρ) : Prop where
  hooks : ∀ one two, plan.hooks one = plan.hooks two
  handlers : ∀ world, ∀ handler ∈ (plan.hooks world).before, handler.Blind Bundle.bare
  separate : plan.provider.Separate view

/-- The plan, with related declarations being looked for or not. -/
def Plan.relating (plan : Plan σ) (relates : Bool) : Plan σ :=
  { plan with relates }

open RunM

namespace Resumed

variable {view : σ → ρ} {heard : List UInt8 → Option Response} {origin : Disk}
  {marks : List (List String)} {one two : World σ} {plan : Plan σ} {relates : Bool}

theorem cachePlace_eq (resumed : Resumed view heard origin marks one two) :
    two.cachePlace = one.cachePlace := by
  rw [resumed.rest]

theorem logPath_eq (resumed : Resumed view heard origin marks one two) : two.logPath = one.logPath := by
  rw [resumed.rest]

theorem extractor_eq (resumed : Resumed view heard origin marks one two) : two.extractor =
    { one.extractor with embeddingIndex := two.extractor.embeddingIndex } :=
  congrArg World.extractor resumed.rest

theorem charge (resumed : Resumed view heard origin marks one two) (bill : Bill) :
    Resumed view heard origin marks { one with stats := one.stats.charge bill }
      { two with stats := two.stats.charge bill } where
  rest := by rw [resumed.rest]
  grounds := resumed.grounds
  talk := resumed.talk
  disks := resumed.disks
  stats := resumed.stats.charge bill
  firstUnrelated := resumed.firstUnrelated
  secondUnrelated := resumed.secondUnrelated

theorem later (resumed : Resumed view heard origin marks one two) (milliseconds : Nat) :
    Resumed view heard origin marks (one.later milliseconds) (two.later milliseconds) where
  rest := by rw [World.later, World.later, resumed.rest]
  grounds := resumed.grounds
  talk := by
    have talk := resumed.talk
    rw [Session.talk, Session.talk, Prod.mk.injEq, Prod.mk.injEq] at talk
    obtain ⟨state, now, calls⟩ := talk
    exact congrArg₂ Prod.mk state (congrArg₂ Prod.mk (congrArg (· + (milliseconds : Int)) now) calls)
  disks := resumed.disks
  stats := resumed.stats
  firstUnrelated := resumed.firstUnrelated
  secondUnrelated := resumed.secondUnrelated

theorem chargeable : Chargeable (Resumed (σ := σ) view heard origin marks) :=
  fun _ _ resumed => ⟨resumed.stats.first, resumed.stats.second, resumed.charge⟩

theorem session (resumed : Resumed view heard origin marks one two) {differ : String → Prop}
    (directory : Directory.Abreast heard differ (cacheDirectory one) (cacheDirectory two)) :
    Session.Abreast view heard differ (atCache one) (atCache two) :=
  ⟨resumed.talk, directory⟩

/-- Requests that come to the same in sessions that are abreast do so in both worlds. -/
theorem twins_onSession {action : Session σ → α × Session σ}
    (even : ∀ differ, Session.Even view heard differ action)
    (directories : ∀ session name, session.directory.entries.get? name = some .directory →
      (action session).2.directory.entries.get? name = some .directory) :
    Twins (Resumed view heard origin marks) (onSession action) (onSession action) := by
  intro one two resumed
  obtain ⟨value, talk, disks⟩ : (action (atCache one)).1 = (action (atCache two)).1 ∧
      (action (atCache two)).2.talk view = (action (atCache one)).2.talk view ∧
      Disk.Abreast heard origin marks one.cachePlace
        (keepCache one.disk one.cachePlace (action (atCache one)).2.directory)
        (keepCache two.disk one.cachePlace (action (atCache two)).2.directory) := by
    have disks := resumed.disks
    have grounds := resumed.grounds
    cases cache : one.cachePlace with
    | none =>
        have missing : cacheDirectory two = cacheDirectory one := by
          rw [cacheDirectory, cacheDirectory, resumed.cachePlace_eq, cache]
        obtain ⟨value, after⟩ := even (fun _ => False) _ _ (resumed.session (missing ▸ .refl _ _ _))
        rw [cache] at disks
        exact ⟨value, after.talk, disks⟩
    | some place =>
        rw [cache] at disks
        have there := grounds.cacheThere place cache
        have ones : cacheDirectory one = one.disk.directory place := by rw [cacheDirectory, cache]
        have twos : cacheDirectory two = two.disk.directory place := by
          rw [cacheDirectory, resumed.cachePlace_eq, cache]
        obtain ⟨value, after⟩ := even (fun name => place ++ [name] ∈ marks) _ _
          (resumed.session (by rw [ones, twos]; exact disks.directory there))
        refine ⟨value, after.talk, disks.keep there after.directory ?_ ?_⟩
        · rw [← ones]
          exact directories (atCache one)
        · rw [← twos]
          exact directories (atCache two)
  rw [run_onSession, run_onSession, value]
  refine ⟨rfl, ⟨?_, resumed.grounds, talk, ?_, resumed.stats⟩, resumed.firstUnrelated,
    resumed.secondUnrelated⟩
  · rw [settled, settled, resumed.rest]
  · rw [settled, settled, resumed.cachePlace_eq, resumed.logPath_eq]
    exact disks.keepLog resumed.grounds _ _

/-- Where related declarations are not looked for, the bundle stays as it is. -/
theorem run_withRelated_off (plan : Plan σ) (bundle : Bundle) {world : World σ}
    (unrelated : world.features.flags.relatedSymbols = false) :
    (capture (Units.withRelated plan bundle)).run world = (.ok (.ok bundle), world) := by
  unfold Units.withRelated
  rw [run_capture, run_get_bind, unrelated]
  rfl

section

variable (unseeing : plan.Unseeing view)

include unseeing

theorem common : Common (Resumed view heard origin marks) plan (plan.relating relates) where
  reconciler := rfl
  hooks one two _ := unseeing.hooks two one
  count := chargeable.count
  record := chargeable.record
  notify failure unitId := by
    refine .modify fun one two resumed => ⟨⟨?_, resumed.grounds, resumed.talk, resumed.disks,
      resumed.stats⟩, resumed.firstUnrelated, resumed.secondUnrelated⟩
    dsimp only [Plan.relating]
    rw [unseeing.hooks two one, resumed.rest]

/-- Whatever the vector of its bundle is, a unit is begun with alike. -/
theorem twins_begin (document : Document) (unit : Declaration) :
    Twins (Resumed view heard origin marks) (Units.sightless <$> Units.begin plan document unit)
      (Units.sightless <$> Units.begin (plan.relating relates) document unit) := by
  have fails (unitId : String) (failure : RunFailure) : Twins (Resumed view heard origin marks)
      (do return Sum.inl (← Units.fail plan document unit unitId failure) : RunM σ (Declaration ⊕ Bundle))
      (do return Sum.inl (← Units.fail (plan.relating relates) document unit unitId failure)) :=
    (Units.twins_fail (common unseeing) document unit _ _).bind fun _ => .pure _ _
  have same : (plan.relating relates).reconciler = plan.reconciler := rfl
  unfold Units.begin
  rw [map_bind, map_bind, same]
  refine (chargeable.count _ _).bind fun _ => ?_
  split
  · exact ((chargeable.count _ _).bind fun _ => .pure _ _).map _
  · rw [map_bind, map_bind]
    refine .get_bind fun one two resumed => ?_
    have hooks : (plan.relating relates).hooks two = plan.hooks one := unseeing.hooks two one
    have built : (one.extractor.bundle document unit).bare = (two.extractor.bundle document unit).bare := by
      rw [resumed.extractor_eq]
      exact (Extractor.bare_bundle _ _ document unit).symm
    have agree := Handler.agree_runAll .beforeProcessing (unseeing.handlers one) built
    rw [hooks]
    dsimp only
    generalize Handler.runAll .beforeProcessing (plan.hooks one).before
      (one.extractor.bundle document unit) = left at agree
    generalize Handler.runAll .beforeProcessing (plan.hooks one).before
      (two.extractor.bundle document unit) = right at agree
    obtain ⟨given, result⟩ := agree
    cases first : left.result with
    | error failure =>
        cases second : right.result with
        | ok bundle =>
            rw [first, second] at result
            cases result
        | error other =>
            rw [first, second] at result
            cases result
            have unitId : right.given.id = left.given.id := Bundle.id_eq given
            dsimp only
            rw [unitId]
            exact (fails _ _).map _
    | ok bundle =>
        cases second : right.result with
        | error other =>
            rw [first, second] at result
            cases result
        | ok other =>
            rw [first, second] at result
            have same : bundle.bare = other.bare := by injection result
            intro one two resumed
            dsimp only
            rw [run_map, run_map, run_bind_ok _ (run_withRelated_off plan bundle resumed.firstUnrelated),
              run_bind_ok _ (run_withRelated_off (plan.relating relates) other resumed.secondUnrelated)]
            exact ⟨congrArg (fun bundle => Except.ok (Sum.inr bundle)) same, resumed⟩

/-- A unit is considered alike, step by step. -/
theorem twins_unitCourse (document : Document) (unit : Declaration) :
    StepM.Twins (fun _ : Unit => Resumed view plan.oracle.heard origin marks) StepM.anything
      (Units.unitCourse plan document unit) (Units.unitCourse (plan.relating relates) document unit) := by
  rw [Units.unitCourse_sightless, Units.unitCourse_sightless]
  refine (StepM.Twins.atOnce fun _ => twins_begin unseeing document unit).bind fun begun _ => ?_
  cases begun with
  | inl changed => exact .pure True.intro
  | inr bundle =>
      have asks : StepM.Twins (fun _ : Unit => Resumed view plan.oracle.heard origin marks)
          StepM.anything (plan.inquiry bundle) ((plan.relating relates).inquiry bundle) :=
        .inquiry rfl rfl (fun _ _ step _ => twins_onSession
          (fun _ => Oracle.even_step unseeing.separate plan.oracle step)
          fun session _ there => Oracle.directories_step plan.oracle step session there) bundle
      refine asks.bind fun result _ => ?_
      exact .atOnce fun _ => Units.twins_answer (common unseeing) document unit _ _

end

/-- A file that no mark is in the way of is saved alike. -/
theorem twins_save {path : Path} (clear : Disk.Clear marks path)
    (free : origin.entry? path.resolve ≠ some .directory) (document : Document) :
    Twins (Resumed (σ := σ) view heard origin marks) (Units.save path document)
      (Units.save path document) := by
  intro one two resumed
  rcases resumed.disks.same.write_eq clear (Utf8.encode document.render) with
    ⟨fault, first, second⟩ | ⟨first, second⟩
  · rw [Units.run_save_error first resumed.stats.first,
      Units.run_save_error second resumed.stats.second]
    exact ⟨rfl, resumed.charge _⟩
  · rw [Units.run_save_ok first, Units.run_save_ok second]
    refine ⟨rfl, ⟨?_, resumed.grounds, resumed.talk, resumed.disks.put free _, resumed.stats⟩,
      resumed.firstUnrelated, resumed.secondUnrelated⟩
    rw [resumed.rest]

/-- A document is saved alike, or not at all. -/
theorem twins_store {path : Path} (clear : Disk.Clear marks path)
    (free : origin.entry? path.resolve ≠ some .directory) (document : Document) :
    Twins (Resumed view heard origin marks) (Units.store plan path document)
      (Units.store (plan.relating relates) path document) := by
  have same : Units.store (plan.relating relates) path document = Units.store plan path document := rfl
  rw [same]
  unfold Units.store
  split
  · exact .pure _ _
  · exact twins_save clear free document

/-- A file that can be read is no directory of the disk at the start. -/
theorem free_of_open (resumed : Resumed view heard origin marks one two) {reader : SourceReader}
    {path : Path} {document : Document} (opened : reader.open? one.disk path = .ok document) :
    origin.entry? path.resolve ≠ some .directory := by
  intro there
  obtain ⟨-, -, held⟩ := SourceReader.open?_ok opened
  rw [Disk.file?, resumed.disks.first _ there] at held
  cases held

theorem open?_eq (resumed : Resumed view heard origin marks one two) (reader : SourceReader) {path : Path}
    (clear : Grammar.supports path = true → Disk.Clear marks path) :
    reader.open? two.disk path = reader.open? one.disk path := by
  unfold SourceReader.open?
  cases supported : Grammar.supports path with
  | false => rfl
  | true => rw [resumed.disks.same.read_eq (clear supported) supported]

/-- A file that no mark is in the way of is documented alike, step by step. -/
theorem twins_fileCourse (unseeing : plan.Unseeing view) {path : Path}
    (clear : Grammar.supports path = true → Disk.Clear marks path) :
    StepM.Twins (fun _ : Unit => Resumed view plan.oracle.heard origin marks) StepM.anything
      (Units.fileCourse plan path) (Units.fileCourse (plan.relating relates) path) := by
  have revised : StepM.Twins (fun _ : Unit => Resumed view plan.oracle.heard origin marks)
      (Units.Known (Grammar.supports path = true ∧ origin.entry? path.resolve ≠ some .directory))
      (Units.reviseCourse plan path) (Units.reviseCourse (plan.relating relates) path) := by
    refine Units.twins_reviseCourse (fun _ => common unseeing) (twins_unitCourse unseeing)
      (fun _ one two resumed => ?_) (fun _ one two resumed => resumed.open?_eq plan.reader clear)
      fun _ one two document resumed opened => ?_
    · rw [resumed.extractor_eq]
    · exact ⟨(SourceReader.open?_ok opened).1, resumed.free_of_open opened⟩
  refine revised.bind fun upshot known => ?_
  cases upshot with
  | unparsed fault => exact .pure True.intro
  | processed document =>
      obtain ⟨supported, free⟩ := known
      unfold Units.close
      dsimp only
      split
      · refine (StepM.Twins.atOnce fun _ => twins_store (clear supported) free document).bind
          fun _ _ => ?_
        exact .pure True.intro
      · exact .pure True.intro

end Resumed

end Scholia
