import Scholia.Proofs.Oracle.Keeping
import Scholia.Proofs.Run.FileAccounting
import Scholia.Proofs.Run.Rounds

/-! # The accounts of a pass

The visits to the files of a pass are told apart by batches, and the bills of the visits add up to
the statistics at the end, in whatever order the files of a batch took their steps. A pass ends after
its last batch, or after the first batch with a file that could not be saved.
-/

namespace Scholia

/-- What is owed for some files is the sum of what was paid for each. -/
theorem Bill.Covers.of_paid {visits : List Visit} {bills : List Bill}
    (paid : List.Forall₂ Visit.Paid visits bills) :
    bills.sum.Covers (visits.filterMap Visit.record?) (Visit.parsed visits) 0 := by
  induction paid with
  | nil => exact .of_settles .zero
  | @cons visit bill visits bills here _ ih =>
      have whole := here.covers.add ih
      rw [List.sum_cons, ← List.singleton_append, List.filterMap_append, Visit.parsed_append,
        Int.natCast_add]
      exact whole

/-- The order of error records makes no difference but to the list of those about no unit. -/
theorem Bill.Covers.of_alike {bill total : Bill} {records : List ErrorRecord} {files batches : Int}
    (covers : bill.Covers records files batches) (alike : total.Alike bill) :
    total.Covers (total.errors.filter (·.unitId.isNone)) files batches ∧
      (total.errors.filter (·.unitId.isNone)).Perm records := by
  have counts (counter : Counter) : total.counts counter = bill.counts counter :=
    congrFun alike.counts counter
  refine ⟨?_, covers.others ▸ alike.errors.filter _⟩
  constructor
  case others => rfl
  case failures =>
    rw [(alike.errors.filter _).length_eq, counts]
    exact covers.failures
  all_goals simp only [counts]
  · exact covers.units
  · exact covers.processed
  · exact covers.modified
  · exact covers.batches
  · exact covers.filesTotal
  · exact covers.batchesTotal

/-- A file is parsed as it is at some time while its batch is under way. If it cannot be parsed that
    is no failure, and a failure is one of saving. -/
structure Visit.Regular {σ : Type} (plan : Plan σ) (start : Pass.Round σ) (visit : Visit) : Prop where
  read : ∃ round : Pass.Round σ, start.Leads round ∧
    visit.fault? = errorOf? (plan.reader.open? round.world.disk visit.path)
  unparsed : visit.fault? ≠ none → visit.failure? = none
  unsaved : ∀ failure, visit.failure? = some failure → ∃ fault, failure = .unsaved visit.path fault

namespace Pass

open RunM

variable {σ : Type} (plan : Plan σ)

/-! ## Files that pay for themselves -/

/-- A file under way owes a part of its bill, and once it was taken up it is settled whether it can
    be parsed. -/
structure Owing (start : Round σ) (job : Job σ) (paid : Bill) : Prop where
  owes : Course.Owes (fun result total => Visit.Paid ⟨job.path, result⟩ total) job.rest paid
  read : job.rest = Units.fileCourse plan job.path ∨ ∃ round, start.Leads round ∧
    Course.Ends (fun result => Visit.fault? ⟨job.path, result⟩ =
      errorOf? (plan.reader.open? round.world.disk job.path)) job.rest

/-- A batch under way has charged what its files have paid so far. -/
def Balanced (start round : Round σ) : Prop :=
  start.Leads round ∧ ∃ bills total, List.Forall₂ (Owing plan start) round.jobs bills ∧
    round.world.stats = start.world.stats.charge total ∧ total.Alike bills.sum

theorem stays_balanced {start : Round σ} (isOpen : start.world.stats.finished = false) :
    Round.Stays (Balanced plan start) where
  waits milliseconds := by
    rintro jobs world ⟨leads, bills, total, owing, charged, alike⟩
    exact ⟨leads.wait milliseconds, bills, total, owing, charged, alike⟩
  steps := by
    rintro before after job world ⟨leads, bills, total, owing, charged, alike⟩
    obtain ⟨front, paid, back, rfl, fronts, ⟨owes, read⟩, backs⟩ := forall₂_split owing
    have still : world.stats.finished = false := by
      rw [charged, Statistics.finished_charge, isOpen]
    obtain ⟨more, recharged, owes⟩ := owes.advance still
    refine ⟨leads.step, front ++ (paid + more) :: back, total + more, ?_, ?_, ?_⟩
    · refine List.rel_append fronts (.cons ⟨owes, .inr ?_⟩ backs)
      rcases read with fresh | ⟨round, reached, ends⟩
      · obtain ⟨path, rest⟩ := job
        obtain rfl : rest = Units.fileCourse plan path := fresh
        exact ⟨_, leads, Units.ends_fileCourse plan path still⟩
      · exact ⟨round, reached, ends.advance world⟩
    · exact recharged.trans (by rw [charged, Statistics.charge_add])
    · exact (alike.add (.refl more)).trans (Bill.alike_sum_grown front back paid more).symm

/-- Files that take their steps one after another pay one after another. -/
theorem paid_finishAll (paths : List Path) {world : World σ} (isOpen : world.stats.finished = false) :
    ∃ bills, List.Forall₂ Visit.Paid (finishAll (paths.map (Job.start plan)) world).1 bills ∧
      (finishAll (paths.map (Job.start plan)) world).2.stats = world.stats.charge bills.sum := by
  induction paths generalizing world with
  | nil => exact ⟨[], .nil, (Statistics.charge_zero _).symm⟩
  | cons path rest ih =>
      obtain ⟨bill, charged, paid⟩ := (Units.owes_fileCourse plan path).run isOpen
      rw [Bill.zero_add] at paid
      rw [List.map_cons, finishAll_cons, Job.finish_eq]
      dsimp only [Job.start]
      generalize Course.run (Units.fileCourse plan path).run world = ran at charged paid
      have still : ran.2.stats.finished = false := by
        rw [charged, Statistics.finished_charge, isOpen]
      obtain ⟨bills, others, recharged⟩ := ih still
      refine ⟨bill :: bills, .cons paid others, recharged.trans ?_⟩
      rw [charged, List.sum_cons, Statistics.charge_add]

theorem paid_visit {start : Round σ} {visit : Visit} {paid : Bill}
    (owing : Owing plan start visit.job paid) : visit.Paid paid ∧ visit.Regular plan start := by
  obtain ⟨owes, read⟩ := owing
  have paid : visit.Paid paid := by
    cases owes with
    | ended settled => exact settled
  refine ⟨paid, ?_, ?_, paid.unsaved⟩
  · rcases read with fresh | ⟨round, leads, ends⟩
    · cases fresh
    · cases ends with
      | ended here => exact ⟨round, leads, here⟩
  · obtain ⟨path, result⟩ := visit
    intro unparsed
    cases result with
    | ok upshot => rfl
    | error failure => exact absurd rfl unparsed

/-- The files of a batch pay for themselves, in the order of the batch if they take their steps one
    after another. -/
theorem paid_processFiles (moves : List Move) (paths : List Path) {world : World σ}
    (isOpen : world.stats.finished = false) :
    (∀ visit ∈ (processFiles plan moves paths world).1,
        visit.Regular plan ⟨paths.map (Job.start plan), world⟩) ∧
      ∃ bills total, List.Forall₂ Visit.Paid (processFiles plan moves paths world).1 bills ∧
        (processFiles plan moves paths world).2.stats = world.stats.charge total ∧
        total.Alike bills.sum ∧ (moves = [] → total = bills.sum) := by
  have fresh : List.Forall₂ (Owing plan ⟨paths.map (Job.start plan), world⟩)
      (paths.map (Job.start plan)) (paths.map fun _ => 0) := by
    rw [List.forall₂_map_left_iff, List.forall₂_map_right_iff, List.forall₂_same]
    exact fun path _ => ⟨Units.owes_fileCourse plan path, .inl rfl⟩
  have balanced : Balanced plan ⟨paths.map (Job.start plan), world⟩
      ⟨paths.map (Job.start plan), world⟩ := by
    refine ⟨.refl, _, 0, fresh, (Statistics.charge_zero _).symm, ?_⟩
    rw [List.sum_map_zero]
    exact .refl 0
  obtain ⟨-, bills, total, owing, charged, alike⟩ :=
    (stays_balanced plan isOpen).processFiles balanced moves
  rw [List.forall₂_map_left_iff] at owing
  have visited := owing.imp fun visit bill here => paid_visit plan here
  refine ⟨forall_of_forall₂ (visited.imp fun _ _ here => here.2), ?_⟩
  · cases moves with
    | nil =>
        obtain ⟨bills, paid, charged⟩ := paid_finishAll plan paths isOpen
        exact ⟨bills, bills.sum, paid, charged, .refl _, fun _ => rfl⟩
    | cons move rest =>
        exact ⟨bills, total, visited.imp fun _ _ here => here.1, charged, alike, fun none => nomatch none⟩

/-! ## Batches -/

/-- A batch that was processed: the world before it, and the visits to its files. -/
structure Stop (σ : Type) where
  before : World σ
  visits : List Visit

/-- Each visit to a file of the batch is regular. -/
def Stop.Regular (stop : Stop σ) : Prop :=
  ∀ visit ∈ stop.visits,
    visit.Regular plan ⟨stop.visits.map fun visit => Job.start plan visit.path, stop.before⟩

/-- The files of all batches that were visited. -/
def visited (stops : List (Stop σ)) : List Visit :=
  stops.flatMap (·.visits)

/-- Take the batch of a number. -/
def Stop.make (batch : List Path) (index : Int) (world : World σ) : Stop σ where
  before := world
  visits := (processFiles plan (plan.moves index) batch world).1

/-- The batches that are processed: a failure is the end. -/
def tour : List (List Path) → Int → World σ → List (Stop σ)
  | [], _, _ => []
  | batch :: rest, index, world =>
    match (processBatch plan batch index).run world with
    | (.ok _, after) => Stop.make plan batch index world :: tour rest (index + 1) after
    | (.error _, _) => [Stop.make plan batch index world]

theorem tour_cons_ok {batch : List Path} {index : Int} {world after : World σ}
    (run : (processBatch plan batch index).run world = (.ok (), after)) (rest : List (List Path)) :
    tour plan (batch :: rest) index world =
      Stop.make plan batch index world :: tour plan rest (index + 1) after := by
  rw [tour, run]

theorem tour_cons_error {batch : List Path} {index : Int} {world after : World σ}
    {failure : RunFailure}
    (run : (processBatch plan batch index).run world = (.error failure, after))
    (rest : List (List Path)) :
    tour plan (batch :: rest) index world = [Stop.make plan batch index world] := by
  rw [tour, run]

/-- A part of a run charges a bill for the visits to some files, and comes to a result. The records of
    the files are in their order if the files take their steps one after another. -/
structure Pays {α : Type} (action : RunM σ α) (world : World σ) (result : Except RunFailure α)
    (visits : List Visit) (batches : Int) : Prop where
  bill : ∃ bill records after, action.run world = (result, after) ∧
    after.stats = world.stats.charge bill ∧ bill.Covers records (Visit.parsed visits) batches ∧
    records.Perm (visits.filterMap Visit.record?) ∧
    ((∀ index, plan.moves index = []) → records = visits.filterMap Visit.record?)

namespace Pays

variable {α β : Type} {action : RunM σ α} {world : World σ} {result : Except RunFailure α}
  {visits further : List Visit} {batches more : Int}

variable {plan}

theorem isOpen (pays : Pays plan action world result visits batches)
    (before : world.stats.finished = false) : (action.run world).2.stats.finished = false := by
  obtain ⟨bill, _, after, run, charged, -⟩ := pays.bill
  rw [run, charged, Statistics.finished_charge, before]

theorem run_eq (pays : Pays plan action world result visits batches) :
    action.run world = (result, (action.run world).2) := by
  obtain ⟨bill, _, after, run, -⟩ := pays.bill
  rw [run]

theorem pure {value : α} : Pays plan (pure value) world (.ok value) [] 0 :=
  ⟨0, [], world, rfl, (Statistics.charge_zero _).symm, .of_settles .zero, .refl _, fun _ => rfl⟩

/-- The visits and the bills of two parts add up. -/
theorem bind {value : α} {ended : Except RunFailure β} {next : α → RunM σ β}
    {between : World σ} {all : List Visit} {total : Int}
    (first : Pays plan action world (.ok value) visits batches)
    (ran : (action.run world).2 = between)
    (second : Pays plan (next value) between ended further more)
    (visited : all = visits ++ further) (counted : total = batches + more) :
    Pays plan (action >>= next) world ended all total := by
  subst visited counted
  obtain ⟨bill, records, _, run, charged, covers, listed, inOrder⟩ := first.bill
  rw [run] at ran
  subst ran
  obtain ⟨rest, others, after, again, recharged, uncovers, unlisted, unordered⟩ := second.bill
  refine ⟨bill + rest, records ++ others, after, ?_, ?_, ?_, ?_, fun serial => ?_⟩
  · rw [run_bind_ok _ run, again]
  · rw [recharged, charged, Statistics.charge_add]
  · rw [Visit.parsed_append, Int.natCast_add]
    exact covers.add uncovers
  · rw [List.filterMap_append]
    exact listed.append unlisted
  · rw [List.filterMap_append, inOrder serial, unordered serial]

theorem bind_error {failure : RunFailure} (next : α → RunM σ β)
    (first : Pays plan action world (.error failure) visits batches) :
    Pays plan (action >>= next) world (.error failure) visits batches := by
  obtain ⟨bill, records, after, run, paid⟩ := first.bill
  refine ⟨bill, records, after, ?_, paid⟩
  rw [run_bind, run]

end Pays

/-- The first of some failures, if there is one, is what comes of a batch. -/
def verdict : List RunFailure → Except RunFailure Unit
  | [] => .ok ()
  | failure :: _ => .error failure

/-- What comes after the files of a batch. -/
def close (failures : List RunFailure) (index : Int) : RunM σ Unit := do
  count .batchesProcessed
  report (index + 1)
  match failures with
  | [] => return
  | failure :: _ => throw failure

/-- A batch is closed in the world that its files have left. -/
theorem run_processBatch (batch : List Path) (index : Int) (world : World σ) :
    (processBatch plan batch index).run world =
      (close ((Stop.make plan batch index world).visits.filterMap Visit.failure?) index).run
        (processFiles plan (plan.moves index) batch world).2 :=
  rfl

theorem run_close (failures : List RunFailure) (index : Int) {world : World σ}
    (isOpen : world.stats.finished = false) : ∃ after,
    (close failures index).run world = (verdict failures, after) ∧
      after.stats = world.stats.charge (.ofCount .batchesProcessed 1) := by
  have counted : (count .batchesProcessed).run world = (.ok (), _) := run_count _ _ isOpen
  unfold close
  rw [run_bind_ok _ counted]
  cases failures with
  | nil => exact ⟨_, rfl, rfl⟩
  | cons failure more => exact ⟨_, rfl, rfl⟩

theorem pays_processBatch (batch : List Path) (index : Int) {world : World σ}
    (isOpen : world.stats.finished = false) :
    Pays plan (processBatch plan batch index) world
      (verdict ((Stop.make plan batch index world).visits.filterMap Visit.failure?))
      (Stop.make plan batch index world).visits 1 := by
  obtain ⟨-, bills, total, paid, charged, alike, serial⟩ :=
    paid_processFiles plan (plan.moves index) batch isOpen
  have still : (processFiles plan (plan.moves index) batch world).2.stats.finished = false := by
    rw [charged, Statistics.finished_charge, isOpen]
  obtain ⟨after, closed, counted⟩ := run_close
    ((Stop.make plan batch index world).visits.filterMap Visit.failure?) index still
  obtain ⟨covers, listed⟩ := (Bill.Covers.of_paid paid).of_alike alike
  refine ⟨total + .ofCount .batchesProcessed 1, _, after, ?_, ?_, covers.add .of_batch, ?_, ?_⟩
  · rw [run_processBatch, closed]
  · rw [counted, charged, Statistics.charge_add]
  · rwa [List.append_nil]
  · intro alone
    rw [List.append_nil, serial (alone index)]
    exact (Bill.Covers.of_paid paid).others

theorem regular_make (batch : List Path) (index : Int) {world : World σ}
    (isOpen : world.stats.finished = false) :
    (Stop.make plan batch index world).Regular plan := by
  obtain ⟨regular, -⟩ := paid_processFiles plan (plan.moves index) batch isOpen
  have starts : (Stop.make plan batch index world).visits.map
      (fun visit => Job.start plan visit.path) = batch.map (Job.start plan) := by
    rw [← Function.comp_def (Job.start plan), ← List.map_map]
    exact congrArg _ (map_path_processFiles plan _ batch world)
  rw [Stop.Regular, starts]
  exact regular

/-- How a pass ends: after all batches, or after the first batch with a file that was not saved. -/
inductive Ends (batches : List (List Path)) (stops : List (Stop σ)) :
    Except RunFailure Unit → Prop where
  | completed (all : stops.map (·.visits.map (·.path)) = batches)
      (saved : ∀ stop ∈ stops, ∀ visit ∈ stop.visits, visit.failure? = none) :
      Ends batches stops (.ok ())
  | stopped {earlier : List (Stop σ)} {last : Stop σ} {rest : List (List Path)}
      {path : Path} {fault : Disk.Fault} (cut : stops = earlier ++ [last])
      (processed : batches = stops.map (·.visits.map (·.path)) ++ rest)
      (saved : ∀ stop ∈ earlier, ∀ visit ∈ stop.visits, visit.failure? = none)
      (first : last.visits.findSome? Visit.failure? = some (.unsaved path fault)) :
      Ends batches stops (.error (.unsaved path fault))

theorem Ends.of_failure {plan : Plan σ} {last : Stop σ} {paths : List Path}
    {failure : RunFailure} {more : List RunFailure} (regular : last.Regular plan)
    (taken : last.visits.map (·.path) = paths)
    (found : last.visits.filterMap Visit.failure? = failure :: more)
    (rest : List (List Path)) : Ends (paths :: rest) [last] (.error failure) := by
  have first : last.visits.findSome? Visit.failure? = some failure := by
    rw [← List.head?_filterMap, found]
    rfl
  obtain ⟨visit, member, failed⟩ := List.exists_of_findSome?_eq_some first
  obtain ⟨fault, rfl⟩ := (regular visit member).unsaved failure failed
  have processed : paths :: rest = [last].map (·.visits.map (·.path)) ++ rest := by
    rw [List.map_singleton, taken]
    rfl
  exact .stopped (List.nil_append _).symm processed (by simp) first

theorem Ends.cons {batches : List (List Path)} {stops : List (Stop σ)}
    {result : Except RunFailure Unit} (ends : Ends batches stops result) {paths : List Path}
    {stop : Stop σ} (taken : stop.visits.map (·.path) = paths)
    (saved : ∀ visit ∈ stop.visits, visit.failure? = none) :
    Ends (paths :: batches) (stop :: stops) result := by
  cases ends with
  | completed all others =>
      refine .completed ?_ (List.forall_mem_cons.mpr ⟨saved, others⟩)
      rw [List.map_cons, taken, all]
  | @stopped _ _ rest _ _ cut processed others first =>
      have whole : paths :: batches = (stop :: stops).map (·.visits.map (·.path)) ++ rest := by
        rw [processed, List.map_cons, taken, List.cons_append]
      exact .stopped (congrArg (stop :: ·) cut) whole (List.forall_mem_cons.mpr ⟨saved, others⟩) first

theorem length_visited (stops : List (Stop σ)) :
    (visited stops).length = (stops.map (·.visits.map (·.path))).flatten.length := by
  rw [visited, List.length_flatMap, List.length_flatten, List.map_map]
  simp [Function.comp_def]

theorem Ends.length_le {batches : List (List Path)} {stops : List (Stop σ)}
    {result : Except RunFailure Unit} (ends : Ends batches stops result) :
    (visited stops).length ≤ batches.flatten.length := by
  rw [length_visited]
  cases ends with
  | completed all saved => rw [all]
  | stopped cut processed saved first =>
      rw [processed, List.flatten_append, List.length_append]
      exact Nat.le_add_right _ _

theorem Ends.length_eq {batches : List (List Path)} {stops : List (Stop σ)}
    {result : Except RunFailure Unit} (ends : Ends batches stops result) (normal : result = .ok ()) :
    stops.length = batches.length := by
  cases ends with
  | completed all saved => rw [← all, List.length_map]
  | stopped => cases normal

theorem pays_processBatches (batches : List (List Path)) (index : Int) {world : World σ}
    (isOpen : world.stats.finished = false) :
    (∀ stop ∈ tour plan batches index world, stop.Regular plan) ∧
      ∃ result, Ends batches (tour plan batches index world) result ∧
        Pays plan (processBatches plan batches index) world result
          (visited (tour plan batches index world)) (tour plan batches index world).length := by
  induction batches generalizing index world with
  | nil => exact ⟨fun _ none => (nomatch none), .ok (), .completed rfl (by simp [tour]), .pure⟩
  | cons batch rest ih =>
      have first := pays_processBatch plan batch index isOpen
      have regular := regular_make plan batch index isOpen
      have taken : (Stop.make plan batch index world).visits.map (·.path) = batch :=
        map_path_processFiles plan _ batch world
      -- a failure is thrown after the whole batch, so the visits to all its files are in either case
      cases found : (Stop.make plan batch index world).visits.filterMap Visit.failure? with
      | nil =>
          rw [found] at first
          have saved := List.filterMap_eq_nil_iff.mp found
          obtain ⟨others, result, ends, further⟩ := ih (index + 1) (first.isOpen isOpen)
          rw [tour_cons_ok plan first.run_eq, visited, List.flatMap_cons, List.length_cons,
            Int.natCast_add, Int.add_comm ((tour plan _ _ _).length : Int)]
          exact ⟨List.forall_mem_cons.mpr ⟨regular, others⟩, result, ends.cons taken saved,
            first.bind rfl further rfl rfl⟩
      | cons failure more =>
          rw [found] at first
          have ends := Ends.of_failure regular taken found rest
          rw [tour_cons_error plan first.run_eq, visited, List.flatMap_singleton]
          exact ⟨List.forall_mem_singleton.mpr regular, _, ends, first.bind_error _⟩

theorem run_setUp (paths : List Path) {world : World σ} (isOpen : world.stats.finished = false) :
    ∃ value bill after, (Relations.setUp plan paths).run world = (.ok value, after) ∧
      after.stats = world.stats.charge bill ∧ bill.Settles 0 0 := by
  obtain ⟨bill, result, after, run, charged, holds⟩ := Relations.settling_setUp plan paths world isOpen
  cases result with
  | ok value => exact ⟨value, bill, after, run, charged, holds⟩
  | error failure => exact False.elim holds

/-- Where embeddings are off, nothing is set up. -/
theorem run_setUp_off (paths : List Path) {world : World σ}
    (unembedded : world.features.flags.embeddings = false) :
    (Relations.setUp plan paths).run world = (.ok false, world) := by
  unfold Relations.setUp
  rw [run_get_bind, unembedded]
  rfl

/-- The world with the totals of a pass, before anything is done. -/
def opened (batches : List (List Path)) (world : World σ) : World σ :=
  { world with
    batchTotal := batches.length
    stats := (world.stats.charge (.ofCount .batchesTotal batches.length)).charge
      (.ofCount .filesTotal batches.flatten.length) }

/-- The batches of a whole pass that are processed. -/
def journey (batches : List (List Path)) (world : World σ) : List (Stop σ) :=
  tour plan batches 0 ((Relations.setUp plan batches.flatten).run (opened batches world)).2

/-- The statistics agree with each other and with the visits to the files. -/
structure Accounts (batches : List (List Path)) (stops : List (Stop σ)) (stats : Statistics) :
    Prop where
  finished : stats.finished = true
  units : stats.counts .unitsConsidered =
    stats.counts .unitsSucceeded + stats.counts .unitsFailed + stats.counts .unitsSkipped
  failures : ((stats.errors.filter (·.unitId.isSome)).length : Int) = stats.counts .unitsFailed
  /-- The records about no unit are those of the files. -/
  others : (stats.errors.filter (·.unitId.isNone)).Perm ((visited stops).filterMap Visit.record?)
  /-- They are in the order of the files, if these take their steps one after another. -/
  inOrder : (∀ index, plan.moves index = []) →
    stats.errors.filter (·.unitId.isNone) = (visited stops).filterMap Visit.record?
  processed : stats.counts .filesProcessed +
    ((visited stops).countP fun visit => visit.fault?.isSome) = (visited stops).length
  modified : stats.counts .filesModified ≤ stats.counts .filesProcessed
  within : stats.counts .filesProcessed ≤ stats.counts .filesTotal
  filesTotal : stats.counts .filesTotal = batches.flatten.length
  batchesProcessed : stats.counts .batchesProcessed = stops.length
  batchesTotal : stats.counts .batchesTotal = batches.length

theorem run_finishing (action : RunM σ Unit) {world after : World σ} {result : Except RunFailure Unit}
    (ran : action.run world = (result, after)) :
    (finishing action).run world = (result, { after with stats := after.stats.finish }) := by
  rw [finishing, run_bind, run_capture, ran]
  cases result with
  | ok _ => rfl
  | error failure => rfl

theorem run_run (batches : List (List Path)) {world between after : World σ} {value : Bool}
    {result : Except RunFailure Unit} (isOpen : world.stats.finished = false)
    (setUp : (Relations.setUp plan batches.flatten).run (opened batches world) = (.ok value, between))
    (processed : (processBatches plan batches 0).run between = (result, after)) :
    (run plan batches).run world = (result, { after with stats := after.stats.finish }) := by
  have totalled : (modify (fun world => { world with batchTotal := batches.length }) : RunM σ Unit).run
      world = (.ok (), { world with batchTotal := batches.length }) := rfl
  let first := { world with batchTotal := batches.length }
  let second := { first with stats := first.stats.charge (.ofCount .batchesTotal batches.length) }
  have batched : (count .batchesTotal batches.length).run first = (.ok (), second) :=
    run_count _ _ isOpen
  have filed : (count .filesTotal batches.flatten.length).run second =
      (.ok (), opened batches world) := run_count _ _ isOpen
  rw [run, run_bind_ok _ totalled, run_bind_ok _ batched, run_bind_ok _ filed]
  exact run_finishing _ ((run_bind_ok _ setUp).trans processed)

section

variable {batches : List (List Path)} {stops : List (Stop σ)} {world : World σ} {bill : Bill}
  {records : List ErrorRecord}

theorem counts_finish_charge
    (uncounted : ∀ counter, counter ≠ .packagesTotal → world.stats.counts counter = 0)
    (counter : Counter) (own : counter ≠ .packagesTotal) :
    ((opened batches world).stats.charge bill).finish.counts counter =
      (if counter = .batchesTotal then (batches.length : Int) else 0) +
        (if counter = .filesTotal then (batches.flatten.length : Int) else 0) +
        bill.counts counter := by
  simp only [opened, Statistics.charge, Statistics.finish, uncounted counter own,
    Bill.counts_ofCount, Int.zero_add]

theorem errors_finish_charge (unrecorded : world.stats.errors = []) :
    ((opened batches world).stats.charge bill).finish.errors = bill.errors := by
  simp [opened, Statistics.charge, Statistics.finish, unrecorded]

theorem accounts_of_covers (unrecorded : world.stats.errors = [])
    (uncounted : ∀ counter, counter ≠ .packagesTotal → world.stats.counts counter = 0)
    (within : (visited stops).length ≤ batches.flatten.length)
    (covers : bill.Covers records (Visit.parsed (visited stops)) stops.length)
    (listed : records.Perm ((visited stops).filterMap Visit.record?))
    (inOrder : (∀ index, plan.moves index = []) →
      records = (visited stops).filterMap Visit.record?) :
    Accounts plan batches stops ((opened batches world).stats.charge bill).finish where
  finished := rfl
  units := by
    simpa [counts_finish_charge uncounted] using covers.units
  failures := by
    simpa [counts_finish_charge uncounted, errors_finish_charge unrecorded] using covers.failures
  others := by
    rw [errors_finish_charge unrecorded, covers.others]
    exact listed
  inOrder serial := by
    rw [errors_finish_charge unrecorded, covers.others]
    exact inOrder serial
  processed := by
    have visited := Visit.parsed_add_unparsed (visited stops)
    simp only [counts_finish_charge uncounted, covers.processed, ne_eq, reduceCtorEq,
      not_false_eq_true, if_false]
    omega
  modified := by
    simpa [counts_finish_charge uncounted, covers.processed] using covers.modified
  within := by
    have visited := Visit.parsed_add_unparsed (visited stops)
    simp only [counts_finish_charge uncounted, covers.processed, covers.filesTotal, ne_eq,
      reduceCtorEq, not_false_eq_true, if_false, if_true]
    omega
  filesTotal := by simp [counts_finish_charge uncounted, covers.filesTotal]
  batchesProcessed := by simp [counts_finish_charge uncounted, covers.batches]
  batchesTotal := by simp [counts_finish_charge uncounted, covers.batchesTotal]

end

/-- Whatever the files, the handlers, the provider and the policy are, and in whatever order the files
    of a batch take their steps, a pass with fresh statistics ends normally, or by the first file that
    could not be saved in the first batch with such a file, all of whose files were still taken up. In
    either case the statistics at the end agree with each other and with the visits to the files, of
    which those that could not be parsed are no failures. -/
theorem run_accounts (batches : List (List Path)) {world : World σ}
    (isOpen : world.stats.finished = false) (unrecorded : world.stats.errors = [])
    (uncounted : ∀ counter, counter ≠ .packagesTotal → world.stats.counts counter = 0) :
    ∃ result after, (run plan batches).run world = (result, after) ∧
      Ends batches (journey plan batches world) result ∧
      (result = .ok () →
        after.stats.counts .batchesProcessed = after.stats.counts .batchesTotal) ∧
      Accounts plan batches (journey plan batches world) after.stats ∧
      ∀ stop ∈ journey plan batches world, stop.Regular plan := by
  obtain ⟨value, aside, between, setUp, charged, settles⟩ :=
    run_setUp plan batches.flatten (show (opened batches world).stats.finished = false from isOpen)
  have still : between.stats.finished = false := by
    rw [charged, Statistics.finished_charge]
    exact isOpen
  obtain ⟨regular, result, ends, bill, records, after, processed, recharged, covers, listed, inOrder⟩ :=
    pays_processBatches plan batches 0 still
  have same : journey plan batches world = tour plan batches 0 between := by
    rw [journey, setUp]
  have whole := (Bill.Covers.of_settles settles).add covers
  rw [List.nil_append, Int.zero_add, Int.zero_add] at whole
  have accounts :=
    accounts_of_covers plan unrecorded uncounted ends.length_le whole listed inOrder
  rw [Statistics.charge_add, ← charged, ← recharged] at accounts
  rw [same]
  refine ⟨result, _, run_run plan batches isOpen setUp processed, ends, fun normal => ?_, accounts,
    regular⟩
  rw [accounts.batchesProcessed, accounts.batchesTotal, ends.length_eq normal]

/-- A tree of a source with one function. -/
def sampleTree : Node :=
  ⟨"program", 0, 16, true, none, [⟨"function_declaration", 0, 15, true, none,
    [⟨"identifier", 9, 10, true, some "name", []⟩]⟩]⟩

/-- A plan under which the second file of a batch is taken up first. -/
def samplePlan : Plan String where
  provider := Oracle.echo
  oracle := { Oracle.single with cache := none }
  reader := { parse := fun _ => .ok sampleTree }
  reconciler := { minLength := 0, policy := ⟨false, true, false, false⟩ }
  moves := fun _ => [.step 1, .step 0, .wait 5, .step 1]

/-- A file that is no source, one that cannot be written, and one in a batch of its own. -/
def sampleBatches : List (List Path) :=
  [[.ofString "/c.txt", .ofString "/a.ts"], [.ofString "/b.ts"]]

def sampleWorld : World String where
  session := { provider := "/** Adds. */", gate := ⟨1, 0, 0⟩ }
  disk :=
    { entries := [(["a.ts"], .file (Utf8.encode "function f() {}\n".toList))]
      readOnly := [.ofString "/a.ts"] }
  features := { flags := ⟨false, false, false⟩ }
  extractor := { settings := {} }

/-- The first batch of the sample is the last one that is processed: its second file cannot be
    saved, although its function has got a comment. -/
theorem run_accounts_unsaved : ∃ after,
    (run samplePlan sampleBatches).run sampleWorld =
        (.error (.unsaved (.ofString "/a.ts") .denied), after) ∧
      Accounts samplePlan sampleBatches (journey samplePlan sampleBatches sampleWorld) after.stats ∧
      after.stats.counts .batchesProcessed = 1 ∧ after.stats.counts .unitsSucceeded = 1 ∧
      after.stats.errors.length = 2 := by
  obtain ⟨result, after, ran, -, -, accounts, -⟩ :=
    run_accounts samplePlan sampleBatches (rfl : sampleWorld.stats.finished = false) rfl
      (fun _ _ => rfl)
  have failed : errorOf? ((run samplePlan sampleBatches).run sampleWorld).1 =
      some (.unsaved (.ofString "/a.ts") .denied) := by decide +kernel
  have counted : ((run samplePlan sampleBatches).run sampleWorld).2.stats.counts .batchesProcessed = 1 ∧
      ((run samplePlan sampleBatches).run sampleWorld).2.stats.counts .unitsSucceeded = 1 ∧
      ((run samplePlan sampleBatches).run sampleWorld).2.stats.errors.length = 2 := by
    decide +kernel
  rw [ran] at failed counted
  cases result with
  | ok value => cases failed
  | error failure =>
      cases failed
      exact ⟨after, ran, accounts, counted⟩

end Pass

end Scholia
