import Mathlib.Algebra.Group.Int.Defs
import Mathlib.Algebra.BigOperators.Group.List.Basic
import Scholia.Run.Units

/-! # What a part of a run adds to the statistics

While the statistics are open, nothing but additions happens to them: each part of a run adds some
amounts to the counters and some error records at the end. What a part adds is its bill, and bills
add up along a run whether its parts succeed or fail.
-/

namespace Scholia

/-- What a part of a run adds to the statistics. -/
structure Bill where
  counts : Counter → Int
  errors : List ErrorRecord

namespace Bill

instance : Zero Bill where
  zero := ⟨fun _ => 0, []⟩

instance : Add Bill where
  add first second :=
    ⟨fun counter => first.counts counter + second.counts counter, first.errors ++ second.errors⟩

/-- An amount on one counter. -/
def ofCount (counter : Counter) (amount : Int) : Bill :=
  ⟨Statistics.addTo (fun _ => 0) counter amount, []⟩

/-- One error record. -/
def ofRecord (entry : ErrorRecord) : Bill :=
  ⟨fun _ => 0, [entry]⟩

@[simp] theorem counts_zero (counter : Counter) : (0 : Bill).counts counter = 0 := rfl

@[simp] theorem errors_zero : (0 : Bill).errors = [] := rfl

@[simp] theorem counts_add (first second : Bill) (counter : Counter) :
    (first + second).counts counter = first.counts counter + second.counts counter := rfl

@[simp] theorem errors_add (first second : Bill) :
    (first + second).errors = first.errors ++ second.errors := rfl

theorem add_zero (bill : Bill) : bill + 0 = bill := by
  obtain ⟨counts, errors⟩ := bill
  change Bill.mk _ _ = _
  simp

theorem zero_add (bill : Bill) : 0 + bill = bill := by
  obtain ⟨counts, errors⟩ := bill
  change Bill.mk _ _ = _
  simp

theorem add_assoc (first second third : Bill) :
    first + second + third = first + (second + third) := by
  change Bill.mk _ _ = Bill.mk _ _
  simp [Int.add_assoc]

instance : AddMonoid Bill where
  add_assoc := add_assoc
  zero_add := zero_add
  add_zero := add_zero
  nsmul := nsmulRec

@[simp] theorem counts_ofCount (counter other : Counter) (amount : Int) :
    (ofCount counter amount).counts other = if other = counter then amount else 0 := by
  simp [ofCount, Statistics.addTo]

@[simp] theorem errors_ofCount (counter : Counter) (amount : Int) :
    (ofCount counter amount).errors = [] := rfl

theorem ofCount_zero (counter : Counter) : ofCount counter 0 = 0 := by
  have flat : Statistics.addTo (fun _ => 0) counter 0 = fun _ => 0 := by
    funext other
    simp [Statistics.addTo]
  exact congrArg (Bill.mk · []) flat

@[simp] theorem counts_ofRecord (entry : ErrorRecord) (counter : Counter) :
    (ofRecord entry).counts counter = 0 := rfl

@[simp] theorem errors_ofRecord (entry : ErrorRecord) : (ofRecord entry).errors = [entry] := rfl

/-- Two bills are the same but for the order of error records. -/
structure Alike (first second : Bill) : Prop where
  counts : first.counts = second.counts
  errors : first.errors.Perm second.errors

namespace Alike

variable {first second third more rest : Bill}

theorem refl (bill : Bill) : Alike bill bill :=
  ⟨rfl, .refl _⟩

theorem trans (one : Alike first second) (two : Alike second third) : Alike first third :=
  ⟨one.counts.trans two.counts, one.errors.trans two.errors⟩

theorem symm (alike : Alike first second) : Alike second first :=
  ⟨alike.counts.symm, alike.errors.symm⟩

theorem add (left : Alike first second) (right : Alike more rest) :
    Alike (first + more) (second + rest) where
  counts := by
    funext counter
    rw [counts_add, counts_add, left.counts, right.counts]
  errors := left.errors.append right.errors

theorem comm (first second : Bill) : Alike (first + second) (second + first) where
  counts := funext fun _ => Int.add_comm _ _
  errors := List.perm_append_comm

end Alike

/-- One of some bills grows, and so does their sum. -/
theorem alike_sum_grown (before after : List Bill) (bill more : Bill) :
    Alike (before ++ (bill + more) :: after).sum ((before ++ bill :: after).sum + more) := by
  have left : (before ++ (bill + more) :: after).sum = before.sum + bill + (more + after.sum) := by
    simp only [List.sum_append, List.sum_cons, add_assoc]
  have right : (before ++ bill :: after).sum + more = before.sum + bill + (after.sum + more) := by
    simp only [List.sum_append, List.sum_cons, add_assoc]
  rw [left, right]
  exact (Alike.refl _).add (.comm more after.sum)

/-- The order of bills makes no difference but for the order of error records. -/
theorem alike_sum_of_perm {first second : List Bill} (same : first.Perm second) :
    Alike first.sum second.sum := by
  induction same with
  | nil => exact .refl _
  | cons bill _ ih => exact (Alike.refl bill).add ih
  | swap one two rest =>
      simp only [List.sum_cons, ← add_assoc]
      exact (Alike.comm two one).add (.refl _)
  | trans _ _ ih ih' => exact ih.trans ih'

end Bill

namespace Statistics

/-- The statistics with a bill added. -/
def charge (stats : Statistics) (bill : Bill) : Statistics :=
  { stats with
    counts := fun counter => stats.counts counter + bill.counts counter
    errors := stats.errors ++ bill.errors }

@[simp] theorem finished_charge (stats : Statistics) (bill : Bill) :
    (stats.charge bill).finished = stats.finished := rfl

@[simp] theorem charge_zero (stats : Statistics) : stats.charge 0 = stats := by
  simp [charge]

theorem charge_add (stats : Statistics) (first second : Bill) :
    stats.charge (first + second) = (stats.charge first).charge second := by
  simp [charge, Int.add_assoc]

theorem increment_open {stats : Statistics} (isOpen : stats.finished = false) (counter : Counter)
    (amount : Int) : stats.increment counter amount = .ok (stats.charge (.ofCount counter amount)) := by
  have counts : addTo stats.counts counter amount = fun other =>
      stats.counts other + (Bill.ofCount counter amount).counts other := by
    funext other
    rw [addTo, Bill.counts_ofCount]
    split
    · rfl
    · rw [Int.add_zero]
  simp [increment, isOpen, charge, counts]

theorem recordError_open {stats : Statistics} (isOpen : stats.finished = false)
    (entry : ErrorRecord) : stats.recordError entry = .ok (stats.charge (.ofRecord entry)) := by
  simp [recordError, isOpen, charge]

end Statistics

namespace RunM

variable {σ α β : Type}

theorem run_bind (action : RunM σ α) (next : α → RunM σ β) (world : World σ) :
    (action >>= next).run world =
      match action.run world with
      | (.ok value, after) => (next value).run after
      | (.error failure, after) => (.error failure, after) := by
  change (action >>= next).run.run world = _
  rw [ExceptT.run_bind, StateT.run_bind]
  cases same : action.run world with
  | mk result after =>
      change action.run.run world = _ at same
      rw [same]
      cases result with
      | ok value => rfl
      | error failure => rfl

theorem run_bind_ok {action : RunM σ α} (next : α → RunM σ β) {world after : World σ} {value : α}
    (run : action.run world = (.ok value, after)) :
    (action >>= next).run world = (next value).run after := by
  rw [run_bind, run]

theorem run_map (f : α → β) (action : RunM σ α) (world : World σ) :
    (f <$> action).run world = ((action.run world).1.map f, (action.run world).2) := by
  rw [map_eq_pure_bind, run_bind]
  cases action.run world with
  | mk result after =>
      cases result with
      | ok value => rfl
      | error failure => rfl

theorem run_get_bind (next : World σ → RunM σ α) (world : World σ) :
    (get >>= next).run world = (next world).run world := rfl

theorem run_capture (action : RunM σ α) (world : World σ) :
    (capture action).run world = (.ok (action.run world).1, (action.run world).2) := rfl

/-- In a world with open statistics a part of a run charges a bill, and its value or its failure
    goes with that bill. -/
def Charges (action : RunM σ α) (done : α → Bill → Prop) (failed : RunFailure → Bill → Prop) :
    Prop :=
  ∀ world : World σ, world.stats.finished = false → ∃ bill result after,
    action.run world = (result, after) ∧ after.stats = world.stats.charge bill ∧
      match result with
      | .ok value => done value bill
      | .error failure => failed failure bill

/-- Nothing fails. -/
def never : RunFailure → Bill → Prop :=
  fun _ _ => False

/-- A value comes without any charge. -/
def free : α → Bill → Prop :=
  fun _ bill => bill = 0

namespace Charges

variable {action : RunM σ α} {next : α → RunM σ β} {done : α → Bill → Prop}
  {failed : RunFailure → Bill → Prop}

theorem pure {value : α} (holds : done value 0) : Charges (σ := σ) (pure value) done failed :=
  fun world _ => ⟨0, .ok value, world, rfl, (Statistics.charge_zero _).symm, holds⟩

theorem throw {failure : RunFailure} (holds : failed failure 0) :
    Charges (throw failure : RunM σ α) done failed :=
  fun world _ => ⟨0, .error failure, world, rfl, (Statistics.charge_zero _).symm, holds⟩

theorem weaken {weaker : α → Bill → Prop} {fails : RunFailure → Bill → Prop}
    (charges : Charges action done failed) (values : ∀ value bill, done value bill → weaker value bill)
    (failures : ∀ failure bill, failed failure bill → fails failure bill) :
    Charges action weaker fails := by
  intro world isOpen
  obtain ⟨bill, result, after, run, charged, holds⟩ := charges world isOpen
  refine ⟨bill, result, after, run, charged, ?_⟩
  cases result with
  | ok value => exact values value bill holds
  | error failure => exact failures failure bill holds

theorem orFail (charges : Charges action done never) : Charges action done failed :=
  charges.weaken (fun _ _ holds => holds) (fun _ _ impossible => False.elim impossible)

/-- The bills of two parts add up. -/
theorem bind {ended : β → Bill → Prop} {fails : RunFailure → Bill → Prop}
    (first : Charges action done failed)
    (second : ∀ value bill, done value bill → Charges (next value)
      (fun result more => ended result (bill + more))
      (fun failure more => fails failure (bill + more)))
    (failures : ∀ failure bill, failed failure bill → fails failure bill) :
    Charges (action >>= next) ended fails := by
  intro world isOpen
  obtain ⟨bill, result, between, run, charged, holds⟩ := first world isOpen
  rw [run_bind, run]
  cases result with
  | error failure => exact ⟨bill, _, between, rfl, charged, failures failure bill holds⟩
  | ok value =>
      have still : between.stats.finished = false := by
        rw [charged, Statistics.finished_charge, isOpen]
      obtain ⟨more, result, after, run, recharged, holds⟩ := second value bill holds between still
      refine ⟨bill + more, result, after, run, ?_, holds⟩
      rw [recharged, charged, Statistics.charge_add]

/-- A part whose bill is known comes first. -/
theorem andThen {bill : Bill} {ended : β → Bill → Prop} {fails : RunFailure → Bill → Prop}
    (first : Charges action (fun _ own => own = bill) never)
    (rest : ∀ value, Charges (next value) (fun result more => ended result (bill + more))
      (fun failure more => fails failure (bill + more))) :
    Charges (action >>= next) ended fails := by
  refine first.bind (fun value own same => ?_) (fun _ _ impossible => False.elim impossible)
  subst same
  exact rest value

/-- What comes after a part without charge adds nothing. -/
theorem bind_free {bill : Bill} (first : Charges action (fun _ own => own = bill) never)
    (rest : ∀ value, Charges (next value) free never) :
    Charges (action >>= next) (fun _ own => own = bill) never := by
  refine first.andThen fun value => (rest value).weaken ?_ (fun _ _ impossible => impossible)
  rintro _ _ rfl
  exact Bill.add_zero bill

theorem get_bind {next : World σ → RunM σ α} (rest : ∀ world, Charges (next world) done failed) :
    Charges (get >>= next) done failed :=
  fun world isOpen => rest world world isOpen

theorem capture (charges : Charges action done failed) :
    Charges (capture action) (fun result bill =>
      match result with
      | .ok value => done value bill
      | .error failure => failed failure bill) never := by
  intro world isOpen
  obtain ⟨bill, result, after, run, charged, holds⟩ := charges world isOpen
  refine ⟨bill, .ok result, after, ?_, charged, holds⟩
  rw [run_capture, run]

end Charges

theorem charges_modify {change : World σ → World σ}
    (same : ∀ world, (change world).stats = world.stats) :
    Charges (modify change) free never :=
  fun world _ =>
    ⟨0, .ok (), change world, rfl, (same world).trans (Statistics.charge_zero _).symm, rfl⟩

theorem run_changeStats {change : Statistics → Except Statistics.Refusal Statistics} {bill : Bill}
    (charged : ∀ stats : Statistics, stats.finished = false → change stats = .ok (stats.charge bill))
    {world : World σ} (isOpen : world.stats.finished = false) :
    (changeStats change).run world = (.ok (), { world with stats := world.stats.charge bill }) := by
  unfold changeStats
  rw [run_get_bind, charged world.stats isOpen]
  rfl

theorem run_count (counter : Counter) (amount : Int) {world : World σ}
    (isOpen : world.stats.finished = false) : (count counter amount).run world =
      (.ok (), { world with stats := world.stats.charge (.ofCount counter amount) }) :=
  run_changeStats (fun _ still => Statistics.increment_open still counter amount) isOpen

/-- Nothing is counted once the statistics are finished. -/
theorem run_count_finished (counter : Counter) (amount : Int) {world : World σ}
    (finished : world.stats.finished = true) :
    (count counter amount).run world = (.error (.statistics .readOnly), world) := by
  have refused : world.stats.increment counter amount = .error .readOnly := if_pos finished
  unfold count changeStats
  rw [run_get_bind]
  dsimp only
  rw [refused]
  rfl

theorem run_record (entry : ErrorRecord) {world : World σ} (isOpen : world.stats.finished = false) :
    (record entry).run world =
      (.ok (), { world with stats := world.stats.charge (.ofRecord entry) }) :=
  run_changeStats (fun _ still => Statistics.recordError_open still entry) isOpen

theorem charges_changeStats {change : Statistics → Except Statistics.Refusal Statistics}
    {bill : Bill} (charged : ∀ stats : Statistics, stats.finished = false →
      change stats = .ok (stats.charge bill)) :
    Charges (σ := σ) (changeStats change) (fun _ own => own = bill) never :=
  fun _ isOpen => ⟨bill, _, _, run_changeStats charged isOpen, rfl, rfl⟩

theorem charges_count (counter : Counter) (amount : Int) :
    Charges (σ := σ) (count counter amount) (fun _ bill => bill = .ofCount counter amount) never :=
  charges_changeStats fun _ isOpen => Statistics.increment_open isOpen counter amount

theorem charges_record (entry : ErrorRecord) :
    Charges (σ := σ) (record entry) (fun _ bill => bill = .ofRecord entry) never :=
  charges_changeStats fun _ isOpen => Statistics.recordError_open isOpen entry

theorem charges_degrade (feature : Feature) (reason : String) :
    Charges (σ := σ) (degrade feature reason) free never :=
  charges_modify fun _ => rfl

theorem run_openSource (plan : Plan σ) (path : Path) (world : World σ) :
    (openSource plan path).run world = (.ok (plan.reader.open? world.disk path), world) := rfl

theorem charges_openSource (plan : Plan σ) (path : Path) :
    Charges (openSource plan path) free never :=
  fun world _ => ⟨0, _, world, run_openSource plan path world, (Statistics.charge_zero _).symm, rfl⟩

theorem run_onSession (action : Session σ → α × Session σ) (world : World σ) :
    (onSession action).run world =
      (.ok (action (atCache world)).1, settled world (action (atCache world)).2) := rfl

theorem charges_onSession (action : Session σ → α × Session σ) :
    Charges (onSession action) free never :=
  fun _ _ => ⟨0, _, _, rfl, (Statistics.charge_zero _).symm, rfl⟩

end RunM

end Scholia
