import Scholia.Proofs.Oracle.Constancy
import Scholia.Proofs.Run.Shadow

/-! # Files that are documented by themselves

With a provider that always replies the same to a request, and nothing kept or embedded, what is done
with a file has nothing to do with the other files of a run: the disk changes in the query log and in
other files only. So each file takes the steps that it would take if it were alone, comes to the same,
and charges the same bill, whatever steps the other files take in between.
-/

namespace Scholia

/-- Reading a source file does not depend on what other files hold. -/
theorem SourceReader.open?_of_like (reader : SourceReader) {differ : List String → Prop}
    {first second : Disk} (like : Disk.Like differ first second)
    (others : ∀ place, differ place → Path.isSource place = false) (path : Path) :
    reader.open? second path = reader.open? first path := by
  unfold open?
  cases supported : Grammar.supports path with
  | false => rfl
  | true =>
      rw [like.read_eq fun may => ?_]
      exact Bool.false_ne_true ((others _ may).symm.trans (Path.isSource_resolve supported))

namespace Disk

/-- The disk is as it was, but that the query log may have been written. -/
def Logged (log : Option Path) (origin disk : Disk) : Prop :=
  disk = origin ∨ ∃ path, log = some path ∧
    Like (fun place => place = path.resolve) (origin.append path []) disk

namespace Logged

variable {log : Option Path} {origin disk : Disk}

theorem append {path : Path} (logged : Logged (some path) origin disk) (bytes : List UInt8) :
    Logged (some path) origin (disk.append path bytes) := by
  rcases logged with rfl | ⟨_, ⟨⟩, like⟩
  · exact .inr ⟨path, rfl, .append_any disk path [] bytes⟩
  · exact .inr ⟨path, rfl, (Like.append_append origin path [] bytes).trans (like.append path bytes)⟩

theorem keepLog (logged : Logged log origin disk) (entries : List Json) :
    Logged log origin (RunM.keepLog disk log entries) := by
  cases log with
  | none => exact logged
  | some path =>
      cases entries with
      | nil => exact logged
      | cons first rest => exact logged.append _

theorem file?_eq (logged : Logged log origin disk) {place : List String}
    (other : ∀ path, log = some path → place ≠ path.resolve) :
    disk.file? place = origin.file? place := by
  rcases logged with rfl | ⟨path, isLog, like⟩
  · rfl
  · rw [like.file?_eq (other path isLog), file?_append origin path [] (other path isLog)]

theorem readOnly (logged : Logged log origin disk) : disk.readOnly = origin.readOnly := by
  rcases logged with rfl | ⟨path, -, like⟩
  · rfl
  · rw [like.readOnly, readOnly_append]

theorem locate (logged : Logged log origin disk) {path : Path} {place : List String}
    (found : origin.locate path = .ok place) : disk.locate path = .ok place := by
  rcases logged with rfl | ⟨log, -, like⟩
  · exact found
  · rw [like.locate_eq]
    exact follow_mono (fun _ there => isDirectory_append log [] there) found

end Logged

theorem write_denied {disk : Disk} {path : Path} (locked : disk.readOnly.contains path = true)
    (bytes : List UInt8) : disk.write path bytes = .error .denied :=
  if_pos locked

theorem write_located {disk : Disk} {path : Path} {place : List String}
    (unlocked : disk.readOnly.contains path = false) (found : disk.locate path = .ok place)
    (bytes : List UInt8) : disk.write path bytes = .ok (disk.put place (.file bytes)) := by
  unfold write
  rw [unlocked, found]
  rfl

end Disk

/-- A file that can be read is read the same when another one was added to. -/
theorem Disk.read_append {disk : Disk} {log path : Path} {content : List UInt8}
    (done : disk.read path = .ok content) (other : path.resolve ≠ log.resolve) (bytes : List UInt8) :
    (disk.append log bytes).read path = .ok content := by
  obtain ⟨found, -⟩ := read_ok done
  have found' : (disk.append log bytes).locate path = .ok path.resolve :=
    follow_mono (fun _ there => isDirectory_append log bytes there) found
  unfold read at done ⊢
  rw [found] at done
  rw [found']
  dsimp only [bind, Except.bind] at done ⊢
  split at done
  · next held =>
    have kept := file?_append disk log bytes other
    rw [file?_eq_some_iff.mpr held, file?_eq_some_iff] at kept
    rw [kept]
    exact done
  · cases done

/-- The query log is no source file, and files are read the same whether it was started or not. -/
structure LogApart (reader : SourceReader) (log : Option Path) (disk : Disk) (files : List Path) :
    Prop where
  source : ∀ path, log = some path → Path.isSource path.resolve = false
  reads : ∀ path, log = some path → ∀ file ∈ files,
    reader.open? (disk.append path []) file = reader.open? disk file

namespace LogApart

variable {reader : SourceReader} {log : Option Path} {origin disk : Disk} {files : List Path}

theorem open?_eq (apart : LogApart reader log origin files) (logged : Disk.Logged log origin disk)
    {file : Path} (member : file ∈ files) : reader.open? disk file = reader.open? origin file := by
  rcases logged with rfl | ⟨path, isLog, like⟩
  · rfl
  · refine (reader.open?_of_like like ?_ file).trans (apart.reads path isLog file member)
    rintro _ rfl
    exact apart.source path isLog

/-- The query log is not in the way of files that can be read to begin with. -/
theorem of_readable
    (source : ∀ path, log = some path → Path.isSource path.resolve = false)
    (readable : ∀ file ∈ files, (disk.read file).isOk = true) : LogApart reader log disk files := by
  refine ⟨source, fun path isLog file member => ?_⟩
  unfold SourceReader.open?
  cases supported : Grammar.supports file with
  | false => rfl
  | true =>
      have there := readable file member
      cases done : disk.read file with
      | error fault =>
          rw [done] at there
          cases there
      | ok content =>
          rw [Disk.read_append done fun same => ?_]
          have isSource := Path.isSource_resolve supported
          rw [same, source path isLog] at isSource
          cases isSource

theorem subset {fewer : List Path} (apart : LogApart reader log origin files)
    (within : ∀ file ∈ fewer, file ∈ files) : LogApart reader log origin fewer :=
  ⟨apart.source, fun path isLog file member => apart.reads path isLog file (within file member)⟩

end LogApart

open RunM

variable {σ : Type}

/-- A world has drifted from another one: of all that files are documented by, nothing has changed but
    that the query log and some source files were written. -/
structure Drifted (origin : World σ) (edits : Edits) (world : World σ) : Prop where
  extractor : world.extractor = origin.extractor
  features : world.features = origin.features
  nodes : world.nodes = origin.nodes
  logPath : world.logPath = origin.logPath
  uncached : world.cachePlace = none
  isOpen : world.stats.finished = false
  disk : ∃ base, Disk.Logged origin.logPath origin.disk base ∧
    Disk.Mirrors origin.disk edits none base world.disk

namespace Drifted

variable {origin world : World σ} {edits : Edits}

/-- With other statistics the world has not drifted. -/
theorem start (uncached : origin.cachePlace = none) {stats : Statistics}
    (isOpen : stats.finished = false) : Drifted origin [] { origin with stats } where
  extractor := rfl
  features := rfl
  nodes := rfl
  logPath := rfl
  uncached := uncached
  isOpen := isOpen
  disk :=
    ⟨origin.disk, .inl rfl,
      { like := .refl _ _
        written := fun _ _ none => nomatch none
        sources := fun _ _ => rfl
        edited := fun _ has => absurd has Edits.not_has_nil
        cacheThere := fun _ none => nomatch none }⟩

theorem charge (drifted : Drifted origin edits world) (bill : Bill) :
    Drifted origin edits { world with stats := world.stats.charge bill } :=
  { drifted with }

theorem later (drifted : Drifted origin edits world) (milliseconds : Nat) :
    Drifted origin edits (world.later milliseconds) :=
  { drifted with }

theorem opened (drifted : Drifted origin edits world) (batches : List (List Path)) :
    Drifted origin edits (Pass.opened batches world) :=
  { drifted with }

theorem settled (drifted : Drifted origin edits world)
    (source : ∀ path, origin.logPath = some path → Path.isSource path.resolve = false)
    (session : Session σ) : Drifted origin edits (RunM.settled world session) :=
  { drifted with
    disk := by
      obtain ⟨base, logged, mirrors⟩ := drifted.disk
      rw [RunM.settled, drifted.uncached, drifted.logPath]
      exact ⟨_, logged.keepLog _, mirrors.keepLog source _⟩ }

/-- It matters what was written where, and not in which order. -/
theorem reorder (drifted : Drifted origin edits world) {others : Edits}
    (same : ∀ place, others.lookup place = edits.lookup place) : Drifted origin others world :=
  { drifted with
    disk := by
      obtain ⟨base, logged, mirrors⟩ := drifted.disk
      exact ⟨base, logged, mirrors.reorder same⟩ }

/-- A file that was not written is read as at the start. -/
theorem open?_eq {reader : SourceReader} {files : List Path} {file : Path}
    (drifted : Drifted origin edits world)
    (apart : LogApart reader origin.logPath origin.disk files) (member : file ∈ files)
    (fresh : ¬edits.Has file.resolve) :
    reader.open? world.disk file = reader.open? origin.disk file := by
  obtain ⟨base, logged, mirrors⟩ := drifted.disk
  rw [← apart.open?_eq logged member]
  unfold SourceReader.open?
  rw [mirrors.like.read_eq fresh]

/-- A source file that was not written is written as at the start: it is unless it must not be. -/
theorem write_eq (drifted : Drifted origin edits world) {path : Path} (fresh : ¬edits.Has path.resolve)
    (found : origin.disk.locate path = .ok path.resolve) (source : Path.isSource path.resolve = true)
    (there : (origin.disk.file? path.resolve).isSome = true) (bytes : List UInt8) :
    origin.disk.readOnly.contains path = true ∧ world.disk.write path bytes = .error .denied ∨
      ∃ disk, origin.disk.readOnly.contains path = false ∧ world.disk.write path bytes = .ok disk ∧
        Drifted origin (edits ++ [(path.resolve, bytes)]) { world with disk } := by
  obtain ⟨base, logged, mirrors⟩ := drifted.disk
  have readOnly : world.disk.readOnly = origin.disk.readOnly :=
    mirrors.like.readOnly.trans logged.readOnly
  have located : world.disk.locate path = .ok path.resolve :=
    (mirrors.like.locate_eq path).trans (logged.locate found)
  rw [← mirrors.sources _ source] at there
  cases locked : origin.disk.readOnly.contains path with
  | true => exact .inl ⟨rfl, Disk.write_denied (readOnly.symm ▸ locked) bytes⟩
  | false =>
      refine .inr ⟨_, rfl, Disk.write_located (readOnly.symm ▸ locked) located bytes, ?_⟩
      exact { drifted with disk := ⟨base, logged, mirrors.put fresh source there bytes⟩ }

end Drifted

/-- What is done under a plan does not depend on what was done before. -/
structure Plan.Memoryless (plan : Plan σ) : Prop where
  hooks : ∀ one two, plan.hooks one = plan.hooks two
  uncached : plan.oracle.cache = none
  forgetful : plan.provider.Forgetful

/-- Two worlds that drifted from one, the first one without a file being written, have been charged the
    same since their statistics were some given ones. -/
structure Beside (origin : World σ) (edits : Edits) (begun start : Statistics) (one two : World σ) :
    Prop where
  alone : Drifted origin [] one
  among : Drifted origin edits two
  bill : ∃ bill, one.stats = begun.charge bill ∧ two.stats = start.charge bill

namespace Beside

variable {origin one two : World σ} {edits : Edits} {begun start : Statistics}

theorem refl (alone : Drifted origin [] one) (among : Drifted origin edits two) :
    Beside origin edits one.stats two.stats one two :=
  ⟨alone, among, 0, (Statistics.charge_zero _).symm, (Statistics.charge_zero _).symm⟩

theorem charge (beside : Beside origin edits begun start one two) (bill : Bill) :
    Beside origin edits begun start { one with stats := one.stats.charge bill }
      { two with stats := two.stats.charge bill } := by
  obtain ⟨before, charged, charged'⟩ := beside.bill
  refine ⟨beside.alone.charge bill, beside.among.charge bill, before + bill, ?_, ?_⟩
  · rw [Statistics.charge_add, ← charged]
  · rw [Statistics.charge_add, ← charged']

theorem chargeable : Chargeable (Beside origin edits begun start) :=
  fun _ _ beside => ⟨beside.alone.isOpen, beside.among.isOpen, beside.charge⟩

variable (origin edits begun start)

theorem twins_notify (plan : Plan σ) (failure : RunFailure) (unitId : String) :
    Twins (Beside origin edits begun start) (notify plan failure unitId)
      (notify plan failure unitId) :=
  .modify fun _ _ beside => ⟨{ beside.alone with }, { beside.among with }, beside.bill⟩

theorem twins_onSession {α : Type} {action : Session σ → α × Session σ}
    (source : ∀ path, origin.logPath = some path → Path.isSource path.resolve = false)
    (constant : Session.Constant action) :
    Twins (Beside origin edits begun start) (onSession action) (onSession action) := by
  intro one two beside
  rw [run_onSession, run_onSession, constant (atCache one) (atCache two)]
  exact ⟨rfl, beside.alone.settled source _, beside.among.settled source _, beside.bill⟩

variable {origin edits begun start}

theorem shared {plan : Plan σ} (memoryless : plan.Memoryless) :
    Shared (Beside origin edits begun start) plan plan where
  reconciler := rfl
  relates := rfl
  embedding := rfl
  hooks one two _ := memoryless.hooks two one
  extractor one two beside := beside.among.extractor.trans beside.alone.extractor.symm
  flags one two beside := by rw [beside.among.features, beside.alone.features]
  nodes one two beside := beside.among.nodes.trans beside.alone.nodes.symm
  count := chargeable.count
  record := chargeable.record
  notify := twins_notify origin edits begun start plan

end Beside

end Scholia
