import Scholia.Proofs.Run.Shadow

/-! # Dry runs

A dry run writes no source file, and apart from that it does what the run does that writes them, as
long as the files of a batch take their steps in the same order: where the one saves a file, the other
one does nothing. Each step of a file leaves both worlds in step, and so does each batch and the whole
pass.
-/

namespace Scholia

open RunM

/-! ## Files -/

/-- The file could not be saved. -/
def Pass.Job.Unsaved {σ : Type} (job : Job σ) : Prop :=
  ∃ path fault, job.rest = ExceptT.mk (.ended (.error (.unsaved path fault)))

namespace Shadow

variable {σ : Type} {origin : Disk} {edits : Edits} {dry real : World σ} {plan : Plan σ}
  {moves others : Int → List Move}

/-- A file in both runs: it is revised alike and was not saved yet, or it is over. -/
inductive Fellows (origin : Disk) (first second : Plan σ) (path : Path) :
    StepM σ Upshot → StepM σ Upshot → Prop where
  | revised {left right : StepM σ Upshot} (twins : StepM.Twins
        (fun index : { edits : Edits // ¬edits.Has path.resolve } => Shadow (σ := σ) origin index.1)
        (Units.Known (Source origin path)) left right) :
      Fellows origin first second path (left >>= Units.close first path)
        (right >>= Units.close second path)
  | ended (result : Except RunFailure Upshot) :
      Fellows origin first second path (ExceptT.mk (.ended result)) (ExceptT.mk (.ended result))

namespace Fellows

variable {first second : Plan σ} {path : Path} {left right : StepM σ Upshot}

theorem isOver_eq (fellows : Fellows origin first second path left right) :
    Course.isOver right = Course.isOver left := by
  cases fellows with
  | ended result => rfl
  | revised twins =>
      cases Units.closing first second path twins with
      | ended _ _ one two => rw [one, two]
      | saving _ _ _ one two | onward _ _ _ _ one two =>
          rw [one, two]
          rfl

/-- Files that are over have come to the same. -/
theorem result_eq {result other : Except RunFailure Upshot}
    (fellows : Fellows origin first second path left right)
    (one : left = ExceptT.mk (.ended result)) (two : right = ExceptT.mk (.ended other)) :
    result = other := by
  cases fellows with
  | ended => cases one; cases two; rfl
  | revised twins =>
      cases Units.closing first second path twins with
      | ended _ _ one' two' =>
          cases one.symm.trans one'
          cases two.symm.trans two'
          rfl
      | saving _ _ _ one' _ | onward _ _ _ _ one' _ => cases one.symm.trans one'

/-- A file that is not over takes a step in both runs, and stays unwritten or is saved in the second. -/
theorem advance (fellows : Fellows origin first second path left right)
    (writesNone : first.dryRun = true) (writes : second.dryRun = false)
    (under : Course.isOver right = false)
    (shadow : Shadow origin edits dry real) (fresh : ¬edits.Has path.resolve)
    (saved : ¬Pass.Job.Unsaved ⟨path, (Course.advance right real).1⟩) :
    Fellows origin first second path (Course.advance left dry).1 (Course.advance right real).1 ∧
      Shadow origin
        (edits ++ .ofRevisions (Pass.Job.revision? ⟨path, (Course.advance right real).1⟩).toList)
        (Course.advance left dry).2 (Course.advance right real).2 := by
  cases fellows with
  | ended result => cases under
  | revised twins =>
      cases Units.closing first second path twins with
      | ended _ _ one two =>
          rw [two] at under
          cases under
      | onward act act' next next' one two kept rest =>
          have further := rest ⟨edits, fresh⟩ dry real shadow
          have after := kept ⟨edits, fresh⟩ dry real shadow
          have nothing := Edits.ofRevisions_closing (Units.closing first second path further)
          rw [one, two]
          refine ⟨.revised further, ?_⟩
          change Shadow origin (edits ++ .ofRevisions (Pass.Job.revision?
            ⟨path, next' real >>= Units.close second path⟩).toList) (act dry) (act' real)
          rw [nothing, List.append_nil]
          exact after
      | saving document changed known one two =>
          have skipped : (Units.store first path document).run dry = (.ok (), dry) := by
            rw [Units.store_dry writesNone]
            rfl
          have idle : Course.advance (Units.saving first path document) dry =
              (.ended (.ok (.processed document)), dry) := Units.advance_saving first skipped
          cases wrote : real.disk.write path (Utf8.encode document.render) with
          | error fault =>
              have failed := Units.run_save_error wrote shadow.isOpen
              rw [← Units.store_wet writes] at failed
              have ended : Course.advance (Units.saving second path document) real =
                  (.ended (.error (.unsaved path fault)), _) := Units.advance_saving second failed
              rw [two] at saved
              exact absurd ⟨path, fault, congrArg Prod.fst ended⟩ saved
          | ok disk =>
              have done := Units.run_save_ok wrote
              rw [← Units.store_wet writes] at done
              have ended : Course.advance (Units.saving second path document) real =
                  (.ended (.ok (.processed document)), { real with disk }) :=
                Units.advance_saving second done
              obtain ⟨-, -, rfl⟩ := Disk.write_ok wrote
              obtain ⟨source, there⟩ := known
              rw [← shadow.disks.sources _ source] at there
              rw [one, two, idle, ended]
              refine ⟨.ended _, by rw [shadow.rest], shadow.session, shadow.stats, shadow.isOpen, ?_,
                shadow.logApart⟩
              change Disk.Mirrors origin (edits ++ .ofRevisions [(path, document)]) _ _ _
              rw [Edits.ofRevisions_changed path changed]
              exact shadow.disks.put fresh source there _

end Fellows

/-! ## Batches -/

/-- Two batches under way are abreast: their files are, and so are the worlds, but that the documents
    of files that are over were written in the second one. -/
structure Aligned (origin : Disk) (first second : Plan σ) (edits : Edits) (paths : List Path)
    (one two : Pass.Round σ) : Prop where
  taken : two.jobs.map (·.path) = paths
  files : List.Forall₂ (fun job job' =>
    job.path = job'.path ∧ Fellows origin first second job'.path job.rest job'.rest) one.jobs two.jobs
  worlds : Shadow origin (edits ++ .ofRevisions (Pass.revised two.jobs)) one.world two.world

/-- A file of the batch could not be saved. -/
def Spoilt (round : Pass.Round σ) : Prop :=
  ∃ job ∈ round.jobs, job.Unsaved

theorem stays_spoilt : Pass.Round.Stays (Spoilt (σ := σ)) where
  waits _ _ _ spoilt := spoilt
  steps := by
    rintro before after job world ⟨other, member, unsaved⟩
    rcases List.mem_append.mp member with front | back
    · exact ⟨other, List.mem_append_left _ front, unsaved⟩
    · rcases List.mem_cons.mp back with rfl | back
      · obtain ⟨path, fault, same⟩ := unsaved
        obtain ⟨place, rest⟩ := other
        cases same
        exact ⟨_, List.mem_append_right _ List.mem_cons_self, path, fault, rfl⟩
      · exact ⟨other, List.mem_append_right _ (List.mem_cons_of_mem _ back), unsaved⟩

theorem kept_aligned {first second : Plan σ} (writesNone : first.dryRun = true)
    (writes : second.dryRun = false) {paths : List Path}
    (distinct : paths.Pairwise (·.resolve ≠ ·.resolve))
    (fresh : ∀ path ∈ paths, ¬edits.Has path.resolve) :
    Pass.Round.Kept (Aligned (σ := σ) origin first second edits paths) Spoilt where
  overs aligned :=
    (map_eq_of_forall₂ (aligned.files.imp fun _ _ fellows => fellows.2.isOver_eq.symm)).symm
  waits milliseconds _ _ _ _ aligned :=
    ⟨aligned.taken, aligned.files, aligned.worlds.later milliseconds⟩
  lost := stays_spoilt
  steps := by
    intro before after before' after' job job' world world' length aligned fine
    obtain ⟨taken, files, worlds⟩ := aligned
    obtain ⟨front, ⟨place, fellows⟩, back⟩ := forall₂_middle length files
    obtain ⟨path, rest⟩ := job
    obtain ⟨path', rest'⟩ := job'
    obtain rfl : path = path' := place
    cases under : Course.isOver rest' with
    | true =>
        have ended := fellows.isOver_eq.symm.trans under
        cases rest with
        | step act next => cases ended
        | ended result =>
            cases rest' with
            | step act next => cases under
            | ended other => exact ⟨taken, files, worlds⟩
    | false =>
        have listed : path ∈ paths := taken ▸ List.mem_map_of_mem List.mem_append_cons_self
        have still := (Pass.map_path_advance before' after' ⟨path, rest'⟩ world').trans taken
        have unwritten := Edits.not_has_of_distinct (fresh path listed) (taken.symm ▸ distinct)
        have saved : ¬Pass.Job.Unsaved ⟨path, (Course.advance rest' world').1⟩ := fun unsaved =>
          fine ⟨_, List.mem_append_right _ List.mem_cons_self, unsaved⟩
        rw [Pass.revised_under ⟨path, rest'⟩ under] at worlds
        obtain ⟨onward, after⟩ := fellows.advance writesNone writes under worlds unwritten saved
        exact ⟨still, List.rel_append front (.cons ⟨rfl, onward⟩ back),
          after.reorder (Edits.lookup_revised edits (still.symm ▸ distinct))⟩

/-- The files of a batch are documented alike, if they take their steps in the same order and none of
    them was written before. -/
theorem files (shadow : Shadow origin edits dry real)
    (pure : ∀ one two, plan.hooks one = plan.hooks two) (order : List Move) {paths : List Path}
    (fresh : ∀ path ∈ paths, ¬edits.Has path.resolve)
    (distinct : paths.Pairwise (·.resolve ≠ ·.resolve))
    (saved : Pass.Saved (Pass.processFiles (withDry plan false others) order paths real).1) :
    (Pass.processFiles (withDry plan true moves) order paths dry).1 =
        (Pass.processFiles (withDry plan false others) order paths real).1 ∧
      Shadow origin (edits ++ .ofRevisions
          ((Pass.processFiles (withDry plan false others) order paths real).1.filterMap Visit.revision?))
        (Pass.processFiles (withDry plan true moves) order paths dry).2
        (Pass.processFiles (withDry plan false others) order paths real).2 := by
  have start : Aligned origin (withDry plan true moves) (withDry plan false others) edits paths
      ⟨paths.map (Pass.Job.start (withDry plan true moves)), dry⟩
      ⟨paths.map (Pass.Job.start (withDry plan false others)), real⟩ := by
    refine ⟨Pass.map_path_start _ paths, ?_, ?_⟩
    · rw [List.forall₂_map_left_iff, List.forall₂_map_right_iff, List.forall₂_same]
      exact fun path _ => ⟨rfl, .revised (twins_reviseCourse pure path)⟩
    · rw [Pass.revised_start, Edits.ofRevisions_nil, List.append_nil]
      exact shadow
  have fine : ¬Spoilt ⟨(Pass.processFiles (withDry plan false others) order paths real).1.map
      Visit.job, (Pass.processFiles (withDry plan false others) order paths real).2⟩ := by
    rintro ⟨_, member, path, fault, unsaved⟩
    obtain ⟨visit, visited, rfl⟩ := List.mem_map.mp member
    have kept := saved visit visited
    obtain ⟨place, result⟩ := visit
    cases unsaved
    cases kept
  have limit : (withDry plan false others).filesAtOnce = (withDry plan true moves).filesAtOnce := rfl
  obtain ⟨-, files, worlds⟩ := (kept_aligned rfl rfl distinct fresh).processFiles limit start order fine
  rw [Pass.revised_job] at worlds
  refine ⟨?_, worlds⟩
  rw [List.forall₂_map_left_iff, List.forall₂_map_right_iff] at files
  refine List.forall₂_eq_eq_eq ▸ files.imp fun one two ⟨place, fellows⟩ => ?_
  obtain ⟨path, result⟩ := one
  obtain ⟨path', result'⟩ := two
  obtain rfl : path = path' := place
  exact congrArg (Visit.mk path) (fellows.result_eq rfl rfl)

theorem twins_report (number : Int) :
    Twins (Shadow (σ := σ) origin edits) (Pass.report number) (Pass.report number) := by
  refine .modify fun one two shadow => ⟨?_, shadow.session, shadow.stats, shadow.isOpen,
    shadow.disks, shadow.logApart⟩
  rw [shadow.stats, shadow.rest]

theorem twins_close (failures : List RunFailure) (index : Int) :
    Twins (Shadow (σ := σ) origin edits) (Pass.close failures index) (Pass.close failures index) := by
  refine (chargeable.count _ _).bind fun _ => (twins_report _).bind fun _ => ?_
  cases failures with
  | nil => exact .pure _ _
  | cons failure more => exact .throw _ _

/-- A batch whose files are saved comes to the same in both worlds. -/
theorem batch (shadow : Shadow origin edits dry real)
    (pure : ∀ one two, plan.hooks one = plan.hooks two)
    (orders : ∀ index, Move.Agree plan.filesAtOnce (moves index) (others index))
    {paths : List Path} (index : Int) (fresh : ∀ path ∈ paths, ¬edits.Has path.resolve)
    (distinct : paths.Pairwise (·.resolve ≠ ·.resolve))
    (saved : Pass.Saved (Pass.Stop.make (withDry plan false others) paths index real).visits) :
    (Pass.Stop.make (withDry plan true moves) paths index dry).visits =
        (Pass.Stop.make (withDry plan false others) paths index real).visits ∧
      Shadow origin (edits ++ .ofRevisions
          ((Pass.Stop.make (withDry plan false others) paths index real).visits.filterMap
            Visit.revision?))
        ((Pass.processBatch (withDry plan true moves) paths index).run dry).2
        ((Pass.processBatch (withDry plan false others) paths index).run real).2 := by
  obtain ⟨same, after⟩ := shadow.files pure (others index) fresh distinct saved
  have agree : Move.Agree (withDry plan true moves).filesAtOnce (moves index) (others index) :=
    orders index
  have reordered := agree.processFiles paths dry
  have visits : (Pass.Stop.make (withDry plan true moves) paths index dry).visits =
      (Pass.Stop.make (withDry plan false others) paths index real).visits :=
    (congrArg Prod.fst reordered).trans same
  refine ⟨visits, ?_⟩
  rw [Pass.run_processBatch, Pass.run_processBatch, visits]
  rw [← reordered] at after
  exact (twins_close _ index _ _ after).2

/-- Batches are documented alike, one after another. -/
theorem batches (shadow : Shadow origin edits dry real)
    (pure : ∀ one two, plan.hooks one = plan.hooks two)
    (orders : ∀ index, Move.Agree plan.filesAtOnce (moves index) (others index))
    {batches : List (List Path)} (index : Int)
    (fresh : ∀ path ∈ batches.flatten, ¬edits.Has path.resolve)
    (distinct : batches.flatten.Pairwise (·.resolve ≠ ·.resolve))
    (saved : ∀ stop ∈ Pass.tour (withDry plan false others) batches index real, Pass.Saved stop.visits) :
    ((Pass.processBatches (withDry plan true moves) batches index).run dry).1 =
        ((Pass.processBatches (withDry plan false others) batches index).run real).1 ∧
      Pass.revisions (Pass.tour (withDry plan true moves) batches index dry) =
        Pass.revisions (Pass.tour (withDry plan false others) batches index real) ∧
      Shadow origin (edits ++ .ofRevisions
          (Pass.revisions (Pass.tour (withDry plan false others) batches index real)))
        ((Pass.processBatches (withDry plan true moves) batches index).run dry).2
        ((Pass.processBatches (withDry plan false others) batches index).run real).2 := by
  induction batches generalizing edits dry real index with
  | nil =>
      have nothing : Pass.revisions (Pass.tour (withDry plan false others) [] index real) = [] := rfl
      rw [nothing, Edits.ofRevisions_nil, List.append_nil]
      exact ⟨rfl, rfl, shadow⟩
  | cons batch rest ih =>
      rw [List.flatten_cons] at fresh distinct
      obtain ⟨inside, distinct, apart⟩ := List.pairwise_append.mp distinct
      obtain ⟨unwritten, fresh⟩ := List.forall_mem_append.mp fresh
      obtain ⟨_, visited⟩ := Pass.tour_cons (withDry plan false others) batch rest index real
      have first : Pass.Saved (Pass.Stop.make (withDry plan false others) batch index real).visits :=
        saved _ (visited ▸ List.mem_cons_self)
      obtain ⟨same, after⟩ := shadow.batch pure orders index unwritten inside first
      have ran := Pass.run_processBatch_saved (withDry plan false others) index shadow.isOpen first
      have second : Pass.Saved (Pass.Stop.make (withDry plan true moves) batch index dry).visits := by
        rw [same]
        exact first
      have ran' := Pass.run_processBatch_saved (withDry plan true moves) index shadow.isOpen_dry second
      have still (other : Path) (member : other ∈ rest.flatten) : ¬(edits ++ Edits.ofRevisions
          ((Pass.Stop.make (withDry plan false others) batch index real).visits.filterMap
            Visit.revision?)).Has other.resolve := by
        refine Edits.not_has_of_visits (fresh other member) fun visit taken => ?_
        exact apart visit.path (Pass.path_of_make taken) other member
      rw [Pass.tour_cons_ok _ ran] at saved
      obtain ⟨-, others⟩ := List.forall_mem_cons.mp saved
      obtain ⟨result, further, after⟩ := ih after (index + 1) still distinct others
      rw [Pass.run_processBatches_cons _ ran, Pass.run_processBatches_cons _ ran',
        Pass.tour_cons_ok _ ran, Pass.tour_cons_ok _ ran', Pass.revisions_cons, Pass.revisions_cons,
        same, further, Edits.ofRevisions_append, ← List.append_assoc]
      exact ⟨result, rfl, after⟩

/-! ## The pass -/

theorem twins_collect (paths : List Path) : Twins (Shadow origin [])
    (Relations.collect (withDry plan true moves) paths)
    (Relations.collect (withDry plan false others) paths) := by
  induction paths with
  | nil => exact .pure _ _
  | cons path rest ih =>
      refine Twins.bind (fun one two shadow => ?_) fun source => .get_bind fun one two shadow => ?_
      · have same : (withDry plan false others).reader.open? two.disk path =
            (withDry plan true moves).reader.open? one.disk path :=
          shadow.open?_eq plan.reader Edits.not_has_nil
        rw [run_openSource, run_openSource, same]
        exact ⟨rfl, shadow⟩
      · rw [shadow.rest]
        exact ih.bind fun _ => .pure _ _

theorem twins_index (entries : List (Bundle × List Float)) : Twins (Shadow (σ := σ) origin edits)
    (Relations.index entries) (Relations.index entries) := by
  refine .modify fun one two shadow => ⟨?_, shadow.session, shadow.stats, shadow.isOpen,
    shadow.disks, shadow.logApart⟩
  rw [shadow.rest]

theorem twins_degrade (feature : Feature) (reason : String) : Twins (Shadow (σ := σ) origin edits)
    (degrade feature reason) (degrade feature reason) := by
  refine .modify fun one two shadow => ⟨?_, shadow.session, shadow.stats, shadow.isOpen,
    shadow.disks, shadow.logApart⟩
  rw [shadow.rest]

theorem twins_embedBatch (batch : List Bundle) : Twins (Shadow origin edits)
    (Relations.embedBatch (withDry plan true moves) batch)
    (Relations.embedBatch (withDry plan false others) batch) := by
  refine (twins_onSession fun _ avoids =>
    Oracle.fair_embed plan.provider plan.oracle avoids _ {}).bind fun result => ?_
  cases result with
  | ok vectors => exact (twins_index _).bind fun _ => chargeable.count _ _
  | error failure =>
      dsimp only
      split
      · exact (chargeable.count _ _).bind fun _ => .throw _ _
      · exact .throw _ _

theorem twins_embedAll (batches : List (List Bundle)) : Twins (Shadow origin edits)
    (Relations.embedAll (withDry plan true moves) batches)
    (Relations.embedAll (withDry plan false others) batches) := by
  induction batches with
  | nil => exact .pure _ _
  | cons batch rest ih => exact (twins_embedBatch batch).bind fun _ => ih

theorem twins_build (paths : List Path) : Twins (Shadow origin [])
    (Relations.build (withDry plan true moves) paths)
    (Relations.build (withDry plan false others) paths) := by
  have embedding : (withDry plan true moves).embedding = (withDry plan false others).embedding := rfl
  refine (twins_collect paths).bind fun bundles => ?_
  rw [embedding]
  split
  · exact .throw _ _
  · refine (twins_embedAll _).bind fun _ => .get_bind fun one two shadow => ?_
    rw [shadow.rest]
    exact .pure _ _

/-- The index of embedded declarations is set up alike before any file is written. -/
theorem twins_setUp (paths : List Path) : Twins (Shadow origin [])
    (Relations.setUp (withDry plan true moves) paths)
    (Relations.setUp (withDry plan false others) paths) := by
  have relates : (withDry plan true moves).relates = (withDry plan false others).relates := rfl
  unfold Relations.setUp
  refine .get_bind fun one two shadow => ?_
  rw [shadow.rest, relates]
  split
  · exact .pure _ _
  · split
    · exact (twins_degrade _ _).bind fun _ => .pure _ _
    · refine (twins_build paths).capture.bind fun result => ?_
      cases result with
      | ok number => exact .pure _ _
      | error failure => exact (twins_degrade _ _).bind fun _ => .pure _ _

/-- Both runs start in the same world, but that one knows that it writes no file. -/
theorem begin {world : World σ} (isOpen : world.stats.finished = false)
    (uncached : world.cachePlace = none)
    (logApart : ∀ path, world.logPath = some path → Path.isSource path.resolve = false) :
    Shadow world.disk [] { world with stats := { world.stats with dryRun := true } } world where
  rest := rfl
  session := rfl
  stats := rfl
  isOpen := isOpen
  disks :=
    { like := .refl _ _
      written := fun _ _ none => nomatch none
      sources := fun _ _ => rfl
      edited := fun _ has => absurd has Edits.not_has_nil
      cacheThere := fun _ cached => nomatch uncached.symm.trans cached }
  logApart := logApart

/-- The worlds are opened alike for a pass. -/
theorem opened (shadow : Shadow origin edits dry real) (batches : List (List Path)) :
    Shadow origin edits (Pass.opened batches dry) (Pass.opened batches real) := by
  have charged := (shadow.charge (.ofCount .batchesTotal batches.length)).charge
    (.ofCount .filesTotal batches.flatten.length)
  refine ⟨?_, charged.session, charged.stats, charged.isOpen, charged.disks, charged.logApart⟩
  rw [Pass.opened, Pass.opened, shadow.rest]

/-- A pass comes to the same in both worlds, unless a file could not be saved. -/
theorem pass (shadow : Shadow origin [] dry real)
    (pure : ∀ one two, plan.hooks one = plan.hooks two)
    (orders : ∀ index, Move.Agree plan.filesAtOnce (moves index) (others index))
    {batches : List (List Path)}
    (distinct : batches.flatten.Pairwise (·.resolve ≠ ·.resolve))
    (saved : ∀ path fault,
      ((Pass.run (withDry plan false others) batches).run real).1 ≠ .error (.unsaved path fault)) :
    ∃ result one two,
      (Pass.run (withDry plan true moves) batches).run dry =
        (result, { one with stats := one.stats.finish }) ∧
      (Pass.run (withDry plan false others) batches).run real =
        (result, { two with stats := two.stats.finish }) ∧
      (Pass.journey (withDry plan false others) batches real).map (·.visits.map (·.path)) = batches ∧
      Pass.revisions (Pass.journey (withDry plan true moves) batches dry) =
        Pass.revisions (Pass.journey (withDry plan false others) batches real) ∧
      Shadow origin (.ofRevisions (Pass.revisions (Pass.journey (withDry plan false others) batches real)))
        one two := by
  have opened := shadow.opened batches
  obtain ⟨value, _, between, setUp, -⟩ :=
    Pass.run_setUp (withDry plan true moves) batches.flatten opened.isOpen_dry
  obtain ⟨value', _, between', setUp', -⟩ :=
    Pass.run_setUp (withDry plan false others) batches.flatten opened.isOpen
  obtain ⟨-, start⟩ := twins_setUp batches.flatten _ _ opened
  rw [setUp, setUp'] at start
  dsimp only at start
  obtain ⟨-, result, ends, pays⟩ :=
    Pass.pays_processBatches (withDry plan false others) batches 0 start.isOpen
  have ran := Pass.run_run (withDry plan false others) batches shadow.isOpen setUp' pays.run_eq
  obtain ⟨taken, all⟩ :
      (Pass.tour (withDry plan false others) batches 0 between').map (·.visits.map (·.path)) = batches ∧
        ∀ stop ∈ Pass.tour (withDry plan false others) batches 0 between', Pass.Saved stop.visits := by
    cases ends with
    | completed taken safe => exact ⟨taken, safe⟩
    | stopped => exact absurd (congrArg Prod.fst ran) (saved _ _)
  obtain ⟨same, revised, after⟩ :=
    start.batches pure orders 0 (fun _ _ => Edits.not_has_nil) distinct all
  have processed := (Prod.eta ((Pass.processBatches (withDry plan true moves) batches 0).run between)).symm
  have ran' := Pass.run_run (withDry plan true moves) batches shadow.isOpen_dry setUp processed
  rw [same, pays.run_eq] at ran'
  rw [Pass.journey, Pass.journey, setUp, setUp']
  exact ⟨result, _, _, ran', ran, taken, revised, after⟩

end Shadow

end Scholia
