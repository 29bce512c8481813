import Scholia.Proofs.Run.Steady

/-! # Files of a batch, each by itself

Beside a file that takes its steps among others, the same file takes them alone, in a world that has
seen no other file. The two come to the same step by step, are charged the same, and can be saved or
not alike. So what comes of a batch is put together from what would come of each of its files at the
start, in whatever order the files take their steps.
-/

namespace Scholia

open RunM

variable {σ : Type}

/-- What is written of files with some documents. -/
def Plan.written (plan : Plan σ) (revisions : List (Path × Document)) : Edits :=
  if plan.dryRun then [] else .ofRevisions revisions

namespace Plan

variable {plan : Plan σ}

theorem written_dry (dry : plan.dryRun = true) (revisions : List (Path × Document)) :
    plan.written revisions = [] :=
  if_pos dry

theorem written_wet (wet : plan.dryRun = false) (revisions : List (Path × Document)) :
    plan.written revisions = .ofRevisions revisions :=
  if_neg (by rw [wet]; exact Bool.false_ne_true)

theorem written_append (first second : List (Path × Document)) :
    plan.written (first ++ second) = plan.written first ++ plan.written second := by
  cases dryness : plan.dryRun with
  | true => simp only [written_dry dryness, List.append_nil]
  | false => simp only [written_wet dryness, Edits.ofRevisions_append]

theorem written_eq_nil {revisions : List (Path × Document)} (none : Edits.ofRevisions revisions = []) :
    plan.written revisions = [] := by
  cases dryness : plan.dryRun with
  | true => exact written_dry dryness revisions
  | false => rw [written_wet dryness, none]

end Plan

/-- The world with nothing charged yet. -/
def World.blank (world : World σ) : World σ :=
  { world with stats := {} }

/-- The visit to a file that is taken up at the start. -/
def Plan.visit (plan : Plan σ) (origin : World σ) (path : Path) : Visit :=
  ((Pass.Job.start plan path).finish origin.blank).1

/-- The bill of a file that is taken up at the start. -/
def Plan.dues (plan : Plan σ) (origin : World σ) (path : Path) : Bill :=
  let stats := ((Pass.Job.start plan path).finish origin.blank).2.stats
  ⟨stats.counts, stats.errors⟩

theorem Plan.visit_eq (plan : Plan σ) (origin : World σ) (path : Path) : plan.visit origin path =
    ⟨path, (Course.run (Units.fileCourse plan path) origin.blank).1⟩ := by
  rw [visit, Pass.Job.finish_eq, Pass.Job.start]
  rfl

/-- The same plan when so many files may be under way at a time and take their steps like this. -/
def Plan.ordered (plan : Plan σ) (moves : Int → List Move) (filesAtOnce : Int) : Plan σ :=
  { plan with moves, filesAtOnce }

section

variable (plan : Plan σ) (moves : Int → List Move) (filesAtOnce : Int)

theorem Plan.Memoryless.ordered {plan : Plan σ} (memoryless : plan.Memoryless)
    (moves : Int → List Move) (filesAtOnce : Int) : (plan.ordered moves filesAtOnce).Memoryless :=
  ⟨memoryless.hooks, memoryless.uncached, memoryless.forgetful⟩

theorem Units.unitsCourse_ordered (positions : List Nat) (document : Document) :
    Units.unitsCourse (plan.ordered moves filesAtOnce) positions document =
      Units.unitsCourse plan positions document := by
  induction positions generalizing document with
  | nil => rfl
  | cons index rest ih =>
      have unit (unit : Declaration) : Units.unitCourse (plan.ordered moves filesAtOnce) document unit =
          Units.unitCourse plan document unit := rfl
      unfold unitsCourse
      simp only [ih, unit]

/-- What is to be done for a file does not depend on how the files of a batch take turns. -/
theorem Units.fileCourse_ordered (path : Path) :
    Units.fileCourse (plan.ordered moves filesAtOnce) path = Units.fileCourse plan path := by
  unfold fileCourse reviseCourse
  simp only [unitsCourse_ordered]
  rfl

theorem Pass.Job.start_ordered :
    Pass.Job.start (plan.ordered moves filesAtOnce) = Pass.Job.start plan := by
  funext path
  rw [start, start, Units.fileCourse_ordered]

theorem Plan.visit_ordered (origin : World σ) :
    (plan.ordered moves filesAtOnce).visit origin = plan.visit origin := by
  unfold visit
  rw [Pass.Job.start_ordered]

theorem Plan.dues_ordered (origin : World σ) :
    (plan.ordered moves filesAtOnce).dues origin = plan.dues origin := by
  unfold dues
  rw [Pass.Job.start_ordered]

end

/-! ## Steps -/

/-- The worlds beside each other in which a file may take its next step: it was not written yet. -/
def Beside.At (origin : World σ) (path : Path)
    (index : { edits : Edits // ¬edits.Has path.resolve } × Statistics × Statistics) :
    World σ → World σ → Prop :=
  Beside origin index.1 index.2.1 index.2.2

/-- A file among others beside the same file alone: it is revised and was not saved yet, or it is over
    with the result and the bill that it has alone. -/
inductive Alone (plan : Plan σ) (origin : World σ) (path : Path) : StepM σ Upshot → Bill → Prop where
  | revised {left right : StepM σ Upshot} {solo : World σ} {paid : Bill}
      (twins : StepM.Twins (Beside.At origin path)
        (Units.Known (∃ document, plan.reader.open? origin.disk path = .ok document)) left right)
      (steady : Drifted origin [] solo) (charged : solo.stats = ({} : Statistics).charge paid)
      (same : Course.run (ExceptT.run (left >>= Units.close plan path)) solo =
        Course.run (Units.fileCourse plan path) origin.blank) :
      Alone plan origin path (right >>= Units.close plan path) paid
  | ended {result : Except RunFailure Upshot} {solo : World σ} {paid : Bill}
      (charged : solo.stats = ({} : Statistics).charge paid)
      (same : Course.run (Units.fileCourse plan path) origin.blank = (result, solo)) :
      Alone plan origin path (ExceptT.mk (.ended result)) paid

namespace Alone

variable {plan : Plan σ} {origin world : World σ} {path : Path} {files : List Path} {edits : Edits}
  {rest : StepM σ Upshot} {paid : Bill}

/-- A file that is over has come to what it comes to alone, and was charged the same. -/
theorem visit_eq {result : Except RunFailure Upshot} (alone : Alone plan origin path rest paid)
    (ended : rest = ExceptT.mk (.ended result)) :
    plan.visit origin path = ⟨path, result⟩ ∧ plan.dues origin path = paid := by
  have settled {solo : World σ} (charged : solo.stats = ({} : Statistics).charge paid)
      (same : Course.run (Units.fileCourse plan path) origin.blank = (result, solo)) :
      plan.visit origin path = ⟨path, result⟩ ∧ plan.dues origin path = paid := by
    have finished : (Pass.Job.start plan path).finish origin.blank = (⟨path, result⟩, solo) :=
      congrArg (fun ran : _ × World σ => ((⟨path, ran.1⟩ : Visit), ran.2)) same
    rw [Plan.visit, Plan.dues, finished]
    dsimp only
    rw [charged]
    exact ⟨rfl, by simp [Statistics.charge]⟩
  cases alone with
  | ended charged same =>
      cases ended
      exact settled charged same
  | revised twins steady charged same =>
      cases Units.closing plan plan path twins with
      | saving _ _ _ _ two | onward _ _ _ _ _ two => cases two.symm.trans ended
      | ended _ _ one two =>
          cases two.symm.trans ended
          rw [one] at same
          exact settled charged same.symm

section

variable (memoryless : plan.Memoryless)
  (apart : LogApart plan.reader origin.logPath origin.disk files)

include memoryless apart

theorem twins_reviseCourse (member : path ∈ files) : StepM.Twins (Beside.At origin path)
    (Units.Known (∃ document, plan.reader.open? origin.disk path = .ok document))
    (Units.reviseCourse plan path) (Units.reviseCourse plan path) := by
  have asks (bundle : Bundle) : StepM.Twins (Beside.At origin path) StepM.anything
      (plan.inquiry bundle) (plan.inquiry bundle) :=
    .inquiry rfl rfl (fun _ _ step _ => Beside.twins_onSession _ _ _ _ apart.source
      (Oracle.constant_step memoryless.forgetful memoryless.uncached step)) bundle
  refine Units.twins_reviseCourse (fun _ => (Beside.shared memoryless).toCommon)
    (Units.twins_unitCourse (fun _ => Beside.shared memoryless) asks) ?_ ?_ ?_
  · intro _ one two beside
    rw [beside.among.extractor, beside.alone.extractor]
  · intro index one two beside
    rw [beside.among.open?_eq apart member index.1.2,
      beside.alone.open?_eq apart member Edits.not_has_nil]
  · intro _ one two document beside opened
    exact ⟨document, beside.alone.open?_eq apart member Edits.not_has_nil ▸ opened⟩

/-- A file starts beside itself. -/
theorem start (uncached : origin.cachePlace = none) (member : path ∈ files) :
    Alone plan origin path (Units.fileCourse plan path) 0 := by
  have begins : Units.fileCourse plan path =
      Units.reviseCourse plan path >>= Units.close plan path := rfl
  rw [begins]
  refine .revised (twins_reviseCourse memoryless apart member) (.start uncached rfl)
    (Statistics.charge_zero _).symm ?_
  rw [begins]
  rfl

end

/-- A changed document of a file that can be read is saved or refused among others as it is alone. -/
theorem store_alike {document : Document} {solo : World σ}
    (readable : ∃ source, plan.reader.open? origin.disk path = .ok source)
    (steady : Drifted origin [] solo) (drifted : Drifted origin edits world)
    (fresh : ¬edits.Has path.resolve) (changed : document.changed = true) :
    ∃ result more solo' world', (Units.store plan path document).run solo = (result, solo') ∧
      (Units.store plan path document).run world = (result, world') ∧
      solo'.stats = solo.stats.charge more ∧ world'.stats = world.stats.charge more ∧
      Drifted origin (edits ++ plan.written
        (Visit.revision? ⟨path, result.map fun _ => .processed document⟩).toList) world' := by
  cases dryness : plan.dryRun with
  | true =>
      simp only [Units.store_dry dryness, Plan.written_dry dryness, List.append_nil]
      exact ⟨.ok (), 0, solo, world, rfl, rfl, (Statistics.charge_zero _).symm,
        (Statistics.charge_zero _).symm, drifted⟩
  | false =>
      obtain ⟨source, opened⟩ := readable
      obtain ⟨supported, found, there⟩ := SourceReader.open?_ok opened
      have isSource := Path.isSource_resolve supported
      have among := drifted.write_eq fresh found isSource there (Utf8.encode document.render)
      have alone :=
        steady.write_eq Edits.not_has_nil found isSource there (Utf8.encode document.render)
      simp only [Units.store_wet dryness, Plan.written_wet dryness]
      cases locked : origin.disk.readOnly.contains path with
      | true =>
          obtain ⟨-, denied⟩ := among.resolve_right fun ⟨_, unlocked, _⟩ =>
            Bool.false_ne_true (unlocked.symm.trans locked)
          obtain ⟨-, denied'⟩ := alone.resolve_right fun ⟨_, unlocked, _⟩ =>
            Bool.false_ne_true (unlocked.symm.trans locked)
          refine ⟨_, _, _, _, Units.run_save_error denied' steady.isOpen,
            Units.run_save_error denied drifted.isOpen, rfl, rfl, ?_⟩
          have nothing : Visit.revision? ⟨path, (Except.error (RunFailure.unsaved path .denied)).map
              fun _ : Unit => Upshot.processed document⟩ = none := rfl
          rw [nothing, Option.toList_none, Edits.ofRevisions_nil, List.append_nil]
          exact drifted.charge _
      | false =>
          obtain ⟨disk, -, wrote, after⟩ := among.resolve_left fun ⟨locked', _⟩ =>
            Bool.false_ne_true (locked.symm.trans locked')
          obtain ⟨disk', -, wrote', -⟩ := alone.resolve_left fun ⟨locked', _⟩ =>
            Bool.false_ne_true (locked.symm.trans locked')
          refine ⟨_, 0, _, _, Units.run_save_ok wrote', Units.run_save_ok wrote,
            (Statistics.charge_zero _).symm, (Statistics.charge_zero _).symm, ?_⟩
          have written : Visit.revision? ⟨path, (Except.ok ()).map
              fun _ : Unit => Upshot.processed document⟩ = some (path, document) := rfl
          rw [written, Option.toList_some, Edits.ofRevisions_changed path changed]
          exact after

/-- A file that is not over takes a step, and is charged what it is charged alone. -/
theorem advance (alone : Alone plan origin path rest paid) (under : Course.isOver rest = false)
    (drifted : Drifted origin edits world) (fresh : ¬edits.Has path.resolve) :
    ∃ more, (Course.advance rest world).2.stats = world.stats.charge more ∧
      Alone plan origin path (Course.advance rest world).1 (paid + more) ∧
      Drifted origin
        (edits ++ plan.written (Pass.Job.revision? ⟨path, (Course.advance rest world).1⟩).toList)
        (Course.advance rest world).2 := by
  cases alone with
  | ended => cases under
  | @revised left right solo _ twins steady charged same =>
      have beside : Beside.At origin path (⟨edits, fresh⟩, solo.stats, world.stats) solo world :=
        .refl steady drifted
      cases Units.closing plan plan path twins with
      | ended _ _ one two =>
          rw [two] at under
          cases under
      | onward act act' next next' one two kept rest =>
          have further := rest _ solo world beside
          obtain ⟨still, among, more, grown, recharged⟩ := kept _ solo world beside
          have nothing : plan.written (Pass.Job.revision?
              ⟨path, next' world >>= Units.close plan path⟩).toList = [] :=
            Plan.written_eq_nil (Edits.ofRevisions_closing (Units.closing plan plan path further))
          rw [one] at same
          rw [two]
          refine ⟨more, recharged, .revised further still ?_ same, ?_⟩
          · rw [grown, charged, Statistics.charge_add]
          · change Drifted origin (edits ++ plan.written (Pass.Job.revision?
              ⟨path, next' world >>= Units.close plan path⟩).toList) (act' world)
            rw [nothing, List.append_nil]
            exact among
      | saving document changed known one two =>
          obtain ⟨result, more, solo', world', stored, stored', grown, grown', after⟩ :=
            store_alike known steady drifted fresh changed
          have ends : Course.run (Units.fileCourse plan path) origin.blank =
              (result.map fun _ => .processed document, solo') := by
            rw [← same, one, ← Course.run_advance, Units.advance_saving plan stored]
            rfl
          have stepped : Course.advance (Units.saving plan path document) world =
              (.ended (result.map fun _ => .processed document), world') :=
            Units.advance_saving plan stored'
          rw [two, stepped]
          refine ⟨more, grown', .ended ?_ ends, after⟩
          rw [grown, charged, Statistics.charge_add]

end Alone

/-! ## Batches -/

namespace Plan

variable {plan : Plan σ} {before after : List (Pass.Job σ)} {job : Pass.Job σ} {edits : Edits}

theorem not_has_written (unwritten : ¬edits.Has job.path.resolve)
    (distinct : ((before ++ job :: after).map (·.path)).Pairwise (·.resolve ≠ ·.resolve)) :
    ¬(edits ++ plan.written (Pass.revised before ++ Pass.revised after)).Has job.path.resolve := by
  cases dryness : plan.dryRun with
  | true => rwa [written_dry dryness, List.append_nil]
  | false =>
      rw [written_wet dryness]
      exact Edits.not_has_of_distinct unwritten distinct

theorem lookup_written (edits : Edits)
    (distinct : ((before ++ job :: after).map (·.path)).Pairwise (·.resolve ≠ ·.resolve))
    (place : List String) :
    (edits ++ plan.written (Pass.revised (before ++ job :: after))).lookup place =
      (edits ++ plan.written (Pass.revised before ++ Pass.revised after) ++
        plan.written job.revision?.toList).lookup place := by
  cases dryness : plan.dryRun with
  | true => simp only [written_dry dryness, List.append_nil]
  | false =>
      simp only [written_wet dryness]
      exact Edits.lookup_revised edits distinct place

end Plan

/-- A batch under way of which each file is beside itself alone: the documents of the files that are
    over were written, and the bills of all files add up to what was charged. -/
structure Spread (plan : Plan σ) (origin : World σ) (edits : Edits) (start : Statistics)
    (paths : List Path) (round : Pass.Round σ) : Prop where
  taken : round.jobs.map (·.path) = paths
  world : Drifted origin (edits ++ plan.written (Pass.revised round.jobs)) round.world
  bills : ∃ bills total,
    List.Forall₂ (fun job bill => Alone plan origin job.path job.rest bill) round.jobs bills ∧
      round.world.stats = start.charge total ∧ total.Alike bills.sum

namespace Spread

variable {plan : Plan σ} {origin world : World σ} {edits : Edits} {start : Statistics}
  {paths : List Path}

theorem stays (distinct : paths.Pairwise (·.resolve ≠ ·.resolve))
    (fresh : ∀ path ∈ paths, ¬edits.Has path.resolve) :
    Pass.Round.Stays (Spread plan origin edits start paths) where
  waits milliseconds _ _ spread := ⟨spread.taken, spread.world.later milliseconds, spread.bills⟩
  steps := by
    rintro before after job world ⟨taken, drifted, bills, total, alone, charged, alike⟩
    obtain ⟨front, paid, back, rfl, fronts, own, backs⟩ := forall₂_split alone
    obtain ⟨path, rest⟩ := job
    cases under : Course.isOver rest with
    | true =>
        cases rest with
        | step act next => cases under
        | ended result => exact ⟨taken, drifted, _, total, alone, charged, alike⟩
    | false =>
        have listed : path ∈ paths := taken ▸ List.mem_map_of_mem List.mem_append_cons_self
        have still := (Pass.map_path_advance before after ⟨path, rest⟩ world).trans taken
        have unwritten : ¬(edits ++ plan.written (Pass.revised before ++ Pass.revised after)).Has
            path.resolve := Plan.not_has_written (fresh path listed) (taken.symm ▸ distinct)
        rw [Pass.revised_under ⟨path, rest⟩ under] at drifted
        obtain ⟨more, recharged, onward, after⟩ := own.advance under drifted unwritten
        refine ⟨still, after.reorder (Plan.lookup_written edits (still.symm ▸ distinct)),
          front ++ (paid + more) :: back, total + more,
          List.rel_append fronts (.cons onward backs), ?_, ?_⟩
        · exact recharged.trans (by rw [charged, Statistics.charge_add])
        · exact (alike.add (.refl more)).trans (Bill.alike_sum_grown front back paid more).symm

/-- Files that are over have come to what they come to alone. -/
theorem visits_eq {visits : List Visit} {bills : List Bill} (alone : List.Forall₂
      (fun visit bill => Alone plan origin visit.path (ExceptT.mk (.ended visit.result)) bill)
      visits bills) :
    visits = (visits.map (·.path)).map (plan.visit origin) ∧
      bills = (visits.map (·.path)).map (plan.dues origin) := by
  induction alone with
  | nil => exact ⟨rfl, rfl⟩
  | cons here _ ih =>
      obtain ⟨visit, dues⟩ := here.visit_eq rfl
      obtain ⟨visits, bills⟩ := ih
      rw [List.map_cons, List.map_cons, List.map_cons, visit, dues, ← visits, ← bills]
      exact ⟨rfl, rfl⟩

/-- The files of a batch come to what they come to alone. -/
theorem processFiles {files : List Path} (memoryless : plan.Memoryless)
    (apart : LogApart plan.reader origin.logPath origin.disk files)
    (uncached : origin.cachePlace = none) (drifted : Drifted origin edits world)
    (moves : List Move) (within : ∀ path ∈ paths, path ∈ files)
    (distinct : paths.Pairwise (·.resolve ≠ ·.resolve))
    (fresh : ∀ path ∈ paths, ¬edits.Has path.resolve) :
    (Pass.processFiles plan moves paths world).1 = paths.map (plan.visit origin) ∧
      Drifted origin
        (edits ++ plan.written ((paths.map (plan.visit origin)).filterMap Visit.revision?))
        (Pass.processFiles plan moves paths world).2 ∧
      ∃ total, (Pass.processFiles plan moves paths world).2.stats = world.stats.charge total ∧
        total.Alike (paths.map (plan.dues origin)).sum := by
  have begun : Spread plan origin edits world.stats paths
      ⟨paths.map (Pass.Job.start plan), world⟩ := by
    refine ⟨Pass.map_path_start plan paths, ?_, paths.map fun _ => 0, 0, ?_,
      (Statistics.charge_zero _).symm, ?_⟩
    · rw [Pass.revised_start, Plan.written_eq_nil Edits.ofRevisions_nil, List.append_nil]
      exact drifted
    · rw [List.forall₂_map_left_iff, List.forall₂_map_right_iff, List.forall₂_same]
      exact fun path member => .start memoryless apart uncached (within path member)
    · rw [List.sum_map_zero]
      exact .refl 0
  obtain ⟨-, drifted, bills, total, alone, charged, alike⟩ :=
    (stays distinct fresh).processFiles begun moves
  rw [List.forall₂_map_left_iff] at alone
  rw [Pass.revised_job] at drifted
  obtain ⟨visits, dues⟩ := visits_eq alone
  rw [Pass.map_path_processFiles] at visits dues
  rw [visits] at drifted
  exact ⟨visits, drifted, total, charged, dues ▸ alike⟩

end Spread

end Scholia
