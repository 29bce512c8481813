import Mathlib.Tactic.Choose
import Scholia.Proofs.Course
import Scholia.Proofs.Run.Charging

/-! # What the steps of a file add to the statistics

The statistics of a run are shared by all files that are under way, and each step of a file adds to
them. What a file owes is what its steps add altogether, whatever is added in between.
-/

namespace Scholia

variable {σ α β : Type}

/-- In worlds with open statistics each step of a course charges a bill, and at the end the value
    goes with all that was paid. -/
inductive Course.Owes (done : α → Bill → Prop) : Course (World σ) α → Bill → Prop where
  | ended {value : α} {paid : Bill} (settled : done value paid) : Owes done (ended value) paid
  | step {act : World σ → World σ} {next : World σ → Course (World σ) α} {paid : Bill}
      (cost : World σ → Bill)
      (charged : ∀ world, world.stats.finished = false →
        (act world).stats = world.stats.charge (cost world))
      (rest : ∀ world, world.stats.finished = false → Owes done (next world) (paid + cost world)) :
      Owes done (step act next) paid

namespace Course.Owes

variable {done : α → Bill → Prop} {ended : β → Bill → Prop} {course : Course (World σ) α}
  {paid : Bill}

/-- A step pays a part. -/
theorem advance (owes : Owes done course paid) {world : World σ}
    (isOpen : world.stats.finished = false) : ∃ more,
      (course.advance world).2.stats = world.stats.charge more ∧
        Owes done (course.advance world).1 (paid + more) := by
  cases owes with
  | ended settled =>
      refine ⟨0, (Statistics.charge_zero _).symm, .ended ?_⟩
      rwa [Bill.add_zero]
  | step cost charged rest => exact ⟨cost world, charged world isOpen, rest world isOpen⟩

/-- Without an interruption all the rest is paid. -/
theorem run (owes : Owes done course paid) {world : World σ}
    (isOpen : world.stats.finished = false) : ∃ more,
      (course.run world).2.stats = world.stats.charge more ∧
        done (course.run world).1 (paid + more) := by
  induction owes generalizing world with
  | ended settled =>
      refine ⟨0, (Statistics.charge_zero _).symm, ?_⟩
      rwa [Bill.add_zero]
  | @step act next paid cost charged rest ih =>
      have still : (act world).stats.finished = false := by
        rw [charged world isOpen, Statistics.finished_charge, isOpen]
      obtain ⟨more, recharged, settled⟩ := ih world isOpen still
      refine ⟨cost world + more, ?_, Bill.add_assoc _ _ _ ▸ settled⟩
      exact recharged.trans (by rw [charged world isOpen, Statistics.charge_add])

theorem bind {next : α → Course (World σ) β} (first : Owes done course paid)
    (rest : ∀ value total, done value total → Owes ended (next value) total) :
    Owes ended (course >>= next) paid := by
  induction first with
  | ended settled => exact rest _ _ settled
  | step cost charged _ ih => exact .step cost charged ih

/-- What follows from what was paid is owed as well. -/
theorem weaken {weaker : α → Bill → Prop} (owes : Owes done course paid)
    (values : ∀ value total, done value total → weaker value total) : Owes weaker course paid := by
  induction owes with
  | ended settled => exact .ended (values _ _ settled)
  | step cost charged _ ih => exact .step cost charged ih

theorem once {action : World σ → α × World σ} (charges : ∀ world, world.stats.finished = false →
      ∃ more, (action world).2.stats = world.stats.charge more ∧
        done (action world).1 (paid + more)) :
    Owes done (Course.once action) paid := by
  classical
  choose cost charged settled using charges
  refine .step (fun world => if isOpen : world.stats.finished = false then cost world isOpen else 0)
    (fun world isOpen => ?_) fun world isOpen => .ended ?_
  · rw [dif_pos isOpen]
    exact charged world isOpen
  · rw [dif_pos isOpen]
    exact settled world isOpen

/-- A request charges nothing. -/
theorem onSession {requests : Course (Session σ) α} (settled : ∀ value, done value paid) :
    Owes done requests.onSession paid := by
  induction requests with
  | ended value => exact .ended (settled value)
  | step act next ih =>
      refine .step (fun _ => 0) (fun world _ => (Statistics.charge_zero _).symm) fun world _ => ?_
      rw [Bill.add_zero]
      exact ih _

end Course.Owes

/-- Whatever happens between the steps of a course, its value at the end is one of some. -/
inductive Course.Ends {ω : Type} (good : α → Prop) : Course ω α → Prop where
  | ended {value : α} (here : good value) : Ends good (ended value)
  | step {act : ω → ω} {next : ω → Course ω α} (rest : ∀ world, Ends good (next world)) :
      Ends good (step act next)

namespace Course.Ends

variable {ω : Type} {good : α → Prop} {fine : β → Prop} {course : Course ω α}

theorem trivial (course : Course ω α) : Ends (fun _ => True) course := by
  induction course with
  | ended value => exact .ended True.intro
  | step act next ih => exact .step ih

theorem bind {next : α → Course ω β} (first : Ends good course)
    (rest : ∀ value, good value → Ends fine (next value)) : Ends fine (course >>= next) := by
  induction first with
  | ended here => exact rest _ here
  | step _ ih => exact .step ih

theorem advance (ends : Ends good course) (world : ω) : Ends good (course.advance world).1 := by
  cases ends with
  | ended here => exact .ended here
  | step rest => exact rest world

/-- A part of a run that may be interrupted ends as what follows it does, unless it fails. -/
theorem after {steps : StepM σ α} {next : α → StepM σ β} {good : Except RunFailure β → Prop}
    (failures : ∀ failure, good (.error failure)) (rest : ∀ value, Ends good (next value).run) :
    Ends good (steps >>= next).run := by
  refine Ends.bind (Ends.trivial steps.run) fun result _ => ?_
  cases result with
  | ok value => exact rest value
  | error failure => exact .ended (failures failure)

end Course.Ends

namespace StepM

open RunM

/-- The first step is taken, and then what follows it is left, unless it failed. -/
theorem advance_atOnce_bind (action : RunM σ α) (next : α → StepM σ β) (world : World σ) :
    Course.advance (atOnce action >>= next).run world =
      ((match (action.run world).1 with
        | .ok value => (next value).run
        | .error failure => .ended (.error failure)), (action.run world).2) := by
  have stepped : Course.advance (atOnce action >>= next).run world =
      (ExceptT.bindCont next (action.run world).1, (action.run world).2) := rfl
  rw [stepped]
  cases (action.run world).1 with
  | ok value => rfl
  | error failure => rfl

/-- What goes with the value of a part, or with its failure. -/
def Goes (done : α → Bill → Prop) (failed : RunFailure → Bill → Prop) :
    Except RunFailure α → Bill → Prop
  | .ok value, bill => done value bill
  | .error failure, bill => failed failure bill

/-- A part of a run that may be interrupted owes what goes with its value or its failure. -/
def Owes (steps : StepM σ α) (paid : Bill) (done : α → Bill → Prop)
    (failed : RunFailure → Bill → Prop) : Prop :=
  Course.Owes (Goes done failed) steps.run paid

namespace Owes

variable {steps : StepM σ α} {next : α → StepM σ β} {paid : Bill} {done : α → Bill → Prop}
  {ended : β → Bill → Prop} {failed fails : RunFailure → Bill → Prop}

theorem pure {value : α} (settled : done value paid) :
    Owes (pure value : StepM σ α) paid done failed :=
  .ended settled

theorem bind (first : Owes steps paid done failed)
    (rest : ∀ value total, done value total → Owes (next value) total ended fails)
    (failures : ∀ failure total, failed failure total → fails failure total) :
    Owes (steps >>= next) paid ended fails := by
  refine Course.Owes.bind first fun result total settled => ?_
  cases result with
  | ok value => exact rest value total settled
  | error failure => exact .ended (failures failure total settled)

/-- What is done in one step owes what it charges. -/
theorem atOnce {action : RunM σ α} (charges : Charges action (fun value own => done value (paid + own))
      (fun failure own => failed failure (paid + own))) :
    Owes (atOnce action) paid done failed := by
  refine .once fun world isOpen => ?_
  obtain ⟨bill, result, after, ran, charged, holds⟩ := charges world isOpen
  have same : action.run world = (result, after) := ran
  refine ⟨bill, ?_, ?_⟩
  · rw [same, charged]
  · rw [same]
    cases result with
    | ok value => exact holds
    | error failure => exact holds

theorem inquiry (plan : Plan σ) (bundle : Bundle)
    {done : Except Tokens.Overflow Response → Bill → Prop} (settled : ∀ result, done result paid) :
    Owes (plan.inquiry bundle) paid done failed := by
  have asked : Course.Owes (fun result total => done result total)
      (plan.oracle.course plan.provider bundle {}).onSession paid := .onSession settled
  exact asked.bind fun _ _ here => .ended here

end Owes

end StepM

end Scholia
