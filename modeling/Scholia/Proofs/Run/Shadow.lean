import Scholia.Proofs.Oracle.Fairness
import Scholia.Proofs.Disk.Places
import Scholia.Proofs.Run.Revisions
import Scholia.Proofs.Run.Twins
import Scholia.Proofs.Source.Opening

/-! # A run that does not write files

A run that writes files is followed by one that does not. The two are the same but for the files
that were written: whatever is asked, counted, recorded and kept is the same, since no file of the
log or the cache stands where a source file may stand, and no file is read after it was written.
-/

namespace Scholia

namespace Path

/-- No file of the cache is a source file. -/
theorem not_isSource_entry (place : List String) (key : String) :
    isSource (place ++ [Cache.fileName key]) = false := by
  have ending : ".json".toList.reverse = ['n', 'o', 's', 'j', '.'] := by decide
  have known : suffix ⟨.absolute, place ++ [Cache.fileName key]⟩ = "" ∨
      suffix ⟨.absolute, place ++ [Cache.fileName key]⟩ = ".json" := by
    simp only [suffix, Path.name, Cache.fileName, List.getLast?_concat, Option.getD_some,
      String.toList_append, List.reverse_append, ending]
    simp [or_iff_not_imp_left]
  rw [isSource, Grammar.supports]
  rcases known with none | json
  · rw [none]
    decide
  · rw [json]
    decide

theorem avoids_isSource (place : List String) :
    Cache.Avoids fun name => isSource (place ++ [name]) = true :=
  fun key source => Bool.false_ne_true ((not_isSource_entry place key).symm.trans source)

end Path

/-- A disk on which some files were written, and one on which they were not: the disks are the same
    but for these files, all of them sources, and the sources of the second one are as they were
    at the start. The cache has a directory. -/
structure Disk.Mirrors (origin : Disk) (edits : Edits) (cache : Option (List String))
    (base disk : Disk) : Prop where
  like : Disk.Like edits.Has base disk
  written : ∀ place bytes, edits.lookup place = some bytes → disk.file? place = some bytes
  sources : ∀ place, Path.isSource place = true → base.file? place = origin.file? place
  edited : ∀ place, edits.Has place → Path.isSource place = true
  cacheThere : ∀ place, cache = some place → base.isDirectory place = true

/-- A run that writes no file keeps step with one that has written some files: their worlds are the
    same but for these files. -/
structure Shadow {σ : Type} (origin : Disk) (edits : Edits) (dry real : World σ) : Prop where
  rest : real = { dry with session := real.session, disk := real.disk, stats := real.stats }
  session : dry.session = { real.session with directory := dry.session.directory }
  stats : dry.stats = { real.stats with dryRun := true }
  isOpen : real.stats.finished = false
  disks : Disk.Mirrors origin edits dry.cachePlace dry.disk real.disk
  logApart : ∀ path, dry.logPath = some path → Path.isSource path.resolve = false

open RunM

namespace Disk

/-- Keeping a directory leaves alone what it holds as the disk does. -/
theorem entry?_keep_of_same {disk : Disk} {place other : List String} {directory : Directory}
    (there : disk.isDirectory place = true) (same : ∀ name, other = place ++ [name] →
      directory.entries.get? name = (disk.directory place).entries.get? name) :
    Disk.entry? (disk.keep place directory) other = disk.entry? other := by
  rw [entry?_keep]
  split
  · next name found =>
    have placed := nameIn?_eq_some_iff.mp found
    rw [same name placed, get?_directory there, placed]
  · rfl

namespace Mirrors

variable {origin : Disk} {edits : Edits} {cache : Option (List String)} {base disk : Disk}

theorem has_of_lookup {place : List String} {bytes : List UInt8}
    (found : edits.lookup place = some bytes) : edits.Has place := by
  rw [Edits.Has, found]
  rfl

/-- Both directories of the cache are kept on the disks that they are from, with their other files
    as they were. -/
theorem keep {place : List String} (mirrors : Mirrors origin edits (some place) base disk)
    {one two : Directory} (kept : Directory.Like (fun name => edits.Has (place ++ [name])) one two)
    (spared : ∀ name, Path.isSource (place ++ [name]) = true →
      one.entries.get? name = (base.directory place).entries.get? name ∧
        two.entries.get? name = (disk.directory place).entries.get? name) :
    Mirrors origin edits (some place) (base.keep place one) (disk.keep place two) where
  like := mirrors.like.keep kept
  written other bytes found := by
    have source := mirrors.edited other (has_of_lookup found)
    have there := (mirrors.like.isDirectory_eq place).trans (mirrors.cacheThere place rfl)
    rw [file?_congr (entry?_keep_of_same there fun name placed => (spared name (placed ▸ source)).2),
      mirrors.written other bytes found]
  sources other source := by
    have there := mirrors.cacheThere place rfl
    rw [file?_congr (entry?_keep_of_same there fun name placed => (spared name (placed ▸ source)).1),
      mirrors.sources other source]
  edited := mirrors.edited
  cacheThere := by
    rintro _ ⟨⟩
    exact isDirectory_keep (mirrors.cacheThere place rfl) one

theorem append (mirrors : Mirrors origin edits cache base disk) {path : Path}
    (apart : Path.isSource path.resolve = false) (bytes : List UInt8) :
    Mirrors origin edits cache (base.append path bytes) (disk.append path bytes) := by
  have elsewhere {place : List String} (source : Path.isSource place = true) :
      place ≠ path.resolve := by
    rintro rfl
    exact Bool.false_ne_true (apart.symm.trans source)
  refine ⟨mirrors.like.append path bytes, fun place content found => ?_, fun place source => ?_,
    mirrors.edited, fun place same => ?_⟩
  · rw [file?_append disk path bytes (elsewhere (mirrors.edited place (has_of_lookup found))),
      mirrors.written place content found]
  · rw [file?_append base path bytes (elsewhere source), mirrors.sources place source]
  · exact isDirectory_append path bytes (mirrors.cacheThere place same)

theorem makeDirectory (mirrors : Mirrors origin edits cache base disk) (path : Path) :
    (disk.makeDirectory path).1 = (base.makeDirectory path).1 ∧
      Mirrors origin edits cache (base.makeDirectory path).2 (disk.makeDirectory path).2 := by
  obtain ⟨same, like⟩ := mirrors.like.makeDirectory path
  refine ⟨same, like, fun place content found => ?_, fun place source => ?_, mirrors.edited,
    fun place same => ?_⟩
  · exact (file?_makeBelow disk _ _ place).trans (mirrors.written place content found)
  · exact (file?_makeBelow base _ _ place).trans (mirrors.sources place source)
  · exact isDirectory_makeBelow _ _ (mirrors.cacheThere place same)

/-- One more source file is written. -/
theorem put (mirrors : Mirrors origin edits cache base disk) {place : List String}
    (fresh : ¬edits.Has place) (source : Path.isSource place = true)
    (there : (base.file? place).isSome = true) (bytes : List UInt8) :
    Mirrors origin (edits ++ [(place, bytes)]) cache base (disk.put place (.file bytes)) := by
  obtain ⟨old, held⟩ := Option.isSome_iff_exists.mp there
  have here : Edits.Has [(place, bytes)] place := Edits.has_singleton.mpr rfl
  have like : Disk.Like (Edits.Has (edits ++ [(place, bytes)])) base disk :=
    mirrors.like.weaken fun other has => Edits.has_append.mpr (.inl has)
  refine ⟨like.put_right (Edits.has_append.mpr (.inr here)) (file?_eq_some_iff.mp held) _,
    fun other content found => ?_, mirrors.sources, fun other has => ?_, mirrors.cacheThere⟩
  · rw [List.lookup_append, Option.or_eq_some_iff] at found
    rcases found with before | ⟨-, now⟩
    · have differ : other ≠ place := fun same => fresh (same ▸ has_of_lookup before)
      rw [file?_put_of_ne disk differ, mirrors.written other content before]
    · rw [Edits.lookup_singleton] at now
      split at now
      · next same =>
        cases now
        rw [same, file?_put_file]
      · cases now
  · rcases Edits.has_append.mp has with before | now
    · exact mirrors.edited other before
    · rw [Edits.has_singleton.mp now]
      exact source

theorem keepLog (mirrors : Mirrors origin edits cache base disk) {log : Option Path}
    (apart : ∀ path, log = some path → Path.isSource path.resolve = false) (entries : List Json) :
    Mirrors origin edits cache (RunM.keepLog base log entries) (RunM.keepLog disk log entries) := by
  cases log with
  | none => exact mirrors
  | some path =>
      cases entries with
      | nil => exact mirrors
      | cons first rest => exact mirrors.append (apart path rfl) _

/-- It matters what was written where, and not in which order. -/
theorem reorder (mirrors : Mirrors origin edits cache base disk) {others : Edits}
    (same : ∀ place, others.lookup place = edits.lookup place) :
    Mirrors origin others cache base disk := by
  have has (place : List String) : others.Has place ↔ edits.Has place := by
    rw [Edits.Has, Edits.Has, same]
  exact
    { mirrors with
      like := mirrors.like.weaken fun place => (has place).mpr
      written := fun place bytes found => mirrors.written place bytes (same place ▸ found)
      edited := fun place written => mirrors.edited place ((has place).mp written) }

end Mirrors

end Disk

namespace Shadow

variable {σ α : Type} {origin : Disk} {edits : Edits} {dry real : World σ}

theorem isOpen_dry (shadow : Shadow origin edits dry real) : dry.stats.finished = false := by
  rw [shadow.stats]
  exact shadow.isOpen

theorem cachePlace_eq (shadow : Shadow origin edits dry real) : real.cachePlace = dry.cachePlace := by
  rw [shadow.rest]

theorem logPath_eq (shadow : Shadow origin edits dry real) : real.logPath = dry.logPath := by
  rw [shadow.rest]

theorem charge (shadow : Shadow origin edits dry real) (bill : Bill) :
    Shadow origin edits { dry with stats := dry.stats.charge bill }
      { real with stats := real.stats.charge bill } where
  rest := by rw [shadow.rest]
  session := shadow.session
  stats := by rw [shadow.stats]; rfl
  isOpen := shadow.isOpen
  disks := shadow.disks
  logApart := shadow.logApart

theorem later (shadow : Shadow origin edits dry real) (milliseconds : Nat) :
    Shadow origin edits (dry.later milliseconds) (real.later milliseconds) where
  rest := by rw [World.later, World.later, shadow.rest]
  session := by rw [World.later, World.later, shadow.session]
  stats := shadow.stats
  isOpen := shadow.isOpen
  disks := shadow.disks
  logApart := shadow.logApart

theorem reorder (shadow : Shadow origin edits dry real) {others : Edits}
    (same : ∀ place, others.lookup place = edits.lookup place) : Shadow origin others dry real :=
  { shadow with disks := shadow.disks.reorder same }

theorem chargeable : Chargeable (Shadow (σ := σ) origin edits) :=
  fun _ _ shadow => ⟨shadow.isOpen_dry, shadow.isOpen, shadow.charge⟩

/-- Requests that see nothing of the cache but its entries come to the same in both worlds, with
    what they leave in the cache. -/
theorem asked (shadow : Shadow origin edits dry real) {action : Session σ → α × Session σ}
    (fair : ∀ differ, Cache.Avoids differ → Session.Fair differ action) :
    (action (atCache dry)).1 = (action (atCache real)).1 ∧
      (∃ differ, Session.Like differ (action (atCache dry)).2 (action (atCache real)).2) ∧
      Disk.Mirrors origin edits dry.cachePlace
        (keepCache dry.disk dry.cachePlace (action (atCache dry)).2.directory)
        (keepCache real.disk dry.cachePlace (action (atCache real)).2.directory) := by
  have sessions (differ : String → Prop)
      (directories : Directory.Like differ (cacheDirectory dry) (cacheDirectory real)) :
      Session.Like differ (atCache dry) (atCache real) := by
    refine ⟨?_, directories⟩
    rw [atCache, atCache, shadow.session]
  cases cache : dry.cachePlace with
  | none =>
      have other : real.cachePlace = none := shadow.cachePlace_eq.trans cache
      have like := sessions (fun _ => False) (by
        rw [cacheDirectory, cacheDirectory, cache, other]
        exact .refl _ _)
      obtain ⟨value, after⟩ := (fair (fun _ => False) (fun _ => id)).alike like
      have disks := shadow.disks
      rw [cache] at disks
      exact ⟨value, ⟨_, after⟩, disks⟩
  | some place =>
      have other : real.cachePlace = some place := shadow.cachePlace_eq.trans cache
      have disks := shadow.disks
      rw [cache] at disks
      have avoids := Path.avoids_isSource place
      have like := sessions (fun name => edits.Has (place ++ [name])) (by
        rw [cacheDirectory, cacheDirectory, cache, other]
        exact disks.like.directory place)
      obtain ⟨value, after⟩ := (fair (fun name => edits.Has (place ++ [name]))
        (fun key has => avoids key (disks.edited _ has))).alike like
      refine ⟨value, ⟨_, after⟩, disks.keep after.directory fun name source => ?_⟩
      have spared := (fair _ avoids).spares
      rw [spared _ name source, spared _ name source, atCache, atCache, cacheDirectory,
        cacheDirectory, cache, other]
      exact ⟨rfl, rfl⟩

theorem twins_onSession {action : Session σ → α × Session σ}
    (fair : ∀ differ, Cache.Avoids differ → Session.Fair differ action) :
    Twins (Shadow origin edits) (onSession action) (onSession action) := by
  intro one two shadow
  obtain ⟨value, ⟨differ, after⟩, disks⟩ := shadow.asked fair
  rw [run_onSession, run_onSession, value]
  refine ⟨rfl, ?_, ?_, ?_, ?_, ?_, ?_⟩
  · rw [settled, settled, shadow.rest]
  · exact after.rest
  · exact shadow.stats
  · exact shadow.isOpen
  · have log : (action (atCache one)).2.log = (action (atCache two)).2.log := by rw [after.rest]
    have before : one.session.log = two.session.log := by rw [shadow.session]
    rw [settled, settled, shadow.cachePlace_eq, shadow.logPath_eq, log, before]
    exact disks.keepLog shadow.logApart _
  · exact shadow.logApart

/-- A file that was not written is read the same in both worlds. -/
theorem open?_eq (shadow : Shadow origin edits dry real) (reader : SourceReader) {path : Path}
    (fresh : ¬edits.Has path.resolve) :
    reader.open? real.disk path = reader.open? dry.disk path := by
  unfold SourceReader.open?
  rw [shadow.disks.like.read_eq fresh]

/-- The plan of a run that writes no file, or of one that does, with some order of the steps. -/
def withDry (plan : Plan σ) (dryRun : Bool) (moves : Int → List Move) : Plan σ :=
  { plan with dryRun, moves }

variable {plan : Plan σ} {moves others : Int → List Move}
  (pure : ∀ one two, plan.hooks one = plan.hooks two)

include pure

theorem twins_notify (failure : RunFailure) (unitId : String) :
    Twins (Shadow origin edits) (notify (withDry plan true moves) failure unitId)
      (notify (withDry plan false others) failure unitId) := by
  refine .modify fun one two shadow => ⟨?_, shadow.session, shadow.stats, shadow.isOpen,
    shadow.disks, shadow.logApart⟩
  dsimp only [withDry]
  rw [pure two one, shadow.rest]

theorem shared : Shared (Shadow origin edits) (withDry plan true moves) (withDry plan false others) where
  reconciler := rfl
  relates := rfl
  embedding := rfl
  hooks one two _ := pure two one
  extractor one two shadow := by rw [shadow.rest]
  flags one two shadow := by rw [shadow.rest]
  nodes one two shadow := by rw [shadow.rest]
  count := chargeable.count
  record := chargeable.record
  notify := twins_notify pure

/-- The file is a source, and it was there at the start. -/
def Source (origin : Disk) (path : Path) : Prop :=
  Path.isSource path.resolve = true ∧ (origin.file? path.resolve).isSome = true

omit pure in
/-- A file that can be read is a source that was there at the start. -/
theorem source_of_open? (shadow : Shadow origin edits dry real) {reader : SourceReader} {path : Path}
    {document : Document} (opened : reader.open? dry.disk path = .ok document) :
    Source origin path := by
  obtain ⟨supported, -, there⟩ := SourceReader.open?_ok opened
  have source := Path.isSource_resolve supported
  exact ⟨source, shadow.disks.sources _ source ▸ there⟩

/-- A file is revised alike, as long as it was not written. -/
theorem twins_reviseCourse (path : Path) : StepM.Twins
    (fun index : { edits : Edits // ¬edits.Has path.resolve } => Shadow (σ := σ) origin index.1)
    (Units.Known (Source origin path)) (Units.reviseCourse (withDry plan true moves) path)
    (Units.reviseCourse (withDry plan false others) path) := by
  have asks (bundle : Bundle) : StepM.Twins
      (fun index : { edits : Edits // ¬edits.Has path.resolve } => Shadow (σ := σ) origin index.1)
      StepM.anything ((withDry plan true moves).inquiry bundle)
      ((withDry plan false others).inquiry bundle) :=
    .inquiry rfl rfl (fun _ _ step _ => twins_onSession fun _ avoids =>
      Oracle.fair_step plan.provider plan.oracle avoids step) bundle
  refine Units.twins_reviseCourse (fun _ => (shared pure).toCommon)
    (Units.twins_unitCourse (fun _ => shared pure) asks)
    (fun _ one two shadow => by rw [shadow.rest])
    (fun index one two shadow => shadow.open?_eq plan.reader index.2)
    fun _ one two _ shadow opened => shadow.source_of_open? opened

end Shadow

end Scholia
