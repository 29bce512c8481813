import Scholia.Proofs.Course
import Scholia.Proofs.Run.Charging
import Scholia.Run.Units

/-! # Files that are documented without an interruption

If nothing comes between the steps for a file, its units are considered one after another, each with
one request that is either answered or fails, and the file is counted and written.
-/

namespace Scholia

/-- A request touches nothing but the session and the disk. -/
theorem Course.exists_onSession {σ α : Type} (course : Course (Session σ) α) (world : World σ) :
    ∃ value session disk, course.onSession.run world = (value, { world with session, disk }) := by
  induction course generalizing world with
  | ended value => exact ⟨value, world.session, world.disk, rfl⟩
  | step act next ih =>
      obtain ⟨value, session, disk, ran⟩ := ih (RunM.atCache world)
        (RunM.settled world (act (RunM.atCache world)))
      exact ⟨value, session, disk, ran⟩

namespace StepM

variable {σ α β : Type}

@[simp] theorem inOneGo_pure (value : α) : inOneGo (pure value : StepM σ α) = pure value :=
  rfl

@[simp] theorem inOneGo_atOnce (action : RunM σ α) : inOneGo (atOnce action) = action :=
  rfl

@[simp] theorem inOneGo_bind (steps : StepM σ α) (next : α → StepM σ β) :
    inOneGo (steps >>= next) = inOneGo steps >>= fun value => inOneGo (next value) := by
  refine ExceptT.ext (funext fun world => ?_)
  change (ExceptT.run (steps >>= next)).run world = (inOneGo steps >>= _).run world
  rw [RunM.run_bind, ExceptT.run_bind, Course.run_bind]
  change _ = match steps.run.run world with
    | (.ok value, after) => (next value).run.run after
    | (.error failure, after) => (.error failure, after)
  cases steps.run.run world with
  | mk result after =>
      cases result with
      | ok value => rfl
      | error failure => rfl

/-- A request without an interruption does not fail as a part of a run. -/
theorem exists_inquiry (plan : Plan σ) (bundle : Bundle) (world : World σ) :
    ∃ value session disk, (inOneGo (plan.inquiry bundle)).run world =
      (.ok value, { world with session, disk }) := by
  obtain ⟨value, session, disk, ran⟩ :=
    (plan.oracle.course plan.provider bundle {}).exists_onSession world
  refine ⟨value, session, disk, ?_⟩
  unfold Plan.inquiry inOneGo ExceptT.lift
  change (_ >>= fun value => pure (Except.ok value) : Course (World σ) _).run world = _
  rw [Course.run_bind, ran]
  rfl

end StepM

namespace Units

open RunM StepM

variable {σ : Type}

/-- Consider one unit without an interruption. -/
def consider (plan : Plan σ) (document : Document) (unit : Declaration) : RunM σ Declaration :=
  inOneGo (unitCourse plan document unit)

/-- Consider the units at some positions of a document without an interruption. -/
def considerAll (plan : Plan σ) (indices : List Nat) (document : Document) : RunM σ Document :=
  inOneGo (unitsCourse plan indices document)

/-- Document the units of a file without an interruption and without writing it. -/
def revise (plan : Plan σ) (path : Path) : RunM σ Upshot :=
  inOneGo (reviseCourse plan path)

section

variable (plan : Plan σ) (document : Document) (unit : Declaration)

/-- A unit is begun with, and then the response to a request is waited for, if there is one. -/
theorem consider_eq : consider plan document unit = begin plan document unit >>= fun begun =>
    match begun with
    | .inl changed => pure changed
    | .inr bundle => inOneGo (plan.inquiry bundle) >>= answer plan document unit bundle.id := by
  rw [consider, unitCourse, inOneGo_bind, inOneGo_atOnce]
  refine congrArg _ (funext fun begun => ?_)
  cases begun with
  | inl changed => rfl
  | inr bundle => exact inOneGo_bind _ _

theorem considerAll_cons_none {index : Nat} (nowhere : document.declarations[index]? = none)
    (rest : List Nat) : considerAll plan (index :: rest) document = considerAll plan rest document := by
  rw [considerAll, unitsCourse, nowhere]
  rfl

theorem considerAll_cons_some {unit : Declaration} {index : Nat}
    (here : document.declarations[index]? = some unit) (rest : List Nat) :
    considerAll plan (index :: rest) document = consider plan document unit >>= fun changed =>
      considerAll plan rest (document.modify index fun _ => changed) := by
  rw [considerAll, unitsCourse, here]
  exact inOneGo_bind _ _

/-- A file that can be read is revised unit by unit, and then counted. -/
theorem revise_eq (path : Path) : revise plan path = takeUp plan path >>= fun source =>
    match source with
    | .error fault => pure (.unparsed fault)
    | .ok (document, units) => do
      let document ← considerAll plan units document
      countFile document
      return .processed document := by
  rw [revise, reviseCourse, inOneGo_bind, inOneGo_atOnce]
  refine congrArg _ (funext fun source => ?_)
  cases source with
  | error fault => rfl
  | ok taken =>
      dsimp only
      rw [inOneGo_bind]
      refine congrArg _ (funext fun document => ?_)
      rw [inOneGo_bind]
      rfl

theorem processFile_eq (path : Path) : processFile plan path = revise plan path >>= fun upshot =>
    Upshot.isChanged <$> inOneGo (close plan path upshot) := by
  rw [processFile, fileCourse, inOneGo_bind, bind_assoc]
  rfl

end

end Units

end Scholia
