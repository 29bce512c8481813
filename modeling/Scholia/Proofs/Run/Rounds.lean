import Mathlib.Data.List.Forall2
import Scholia.Proofs.Course
import Scholia.Run.Pass

/-! # Batches under way

The files of a batch take their steps in some order, and what is left of them then is done file by
file. What is kept while time passes and by each step of each file is kept by the whole batch. So it is
with two batches side by side, as long as their files are over at the same times.
-/

namespace Scholia

variable {σ : Type}

/-- Lists side by side are taken apart at the same place. -/
theorem forall₂_split {α β : Type} {related : α → β → Prop} {before after : List α} {value : α}
    {others : List β} (both : List.Forall₂ related (before ++ value :: after) others) :
    ∃ before' value' after', others = before' ++ value' :: after' ∧
      List.Forall₂ related before before' ∧ related value value' ∧
        List.Forall₂ related after after' := by
  induction before generalizing others with
  | nil =>
      obtain ⟨value', after', here, rest, rfl⟩ := List.forall₂_cons_left_iff.mp both
      exact ⟨[], value', after', rfl, .nil, here, rest⟩
  | cons first before ih =>
      obtain ⟨first', others', here, rest, rfl⟩ := List.forall₂_cons_left_iff.mp both
      obtain ⟨before', value', after', rfl, front, middle, back⟩ := ih rest
      exact ⟨first' :: before', value', after', rfl, .cons here front, middle, back⟩

/-- Lists side by side are taken apart where their beginnings are equally long. -/
theorem forall₂_middle {α β : Type} {related : α → β → Prop} {before after : List α} {value : α}
    {before' after' : List β} {value' : β} (length : before'.length = before.length)
    (both : List.Forall₂ related (before ++ value :: after) (before' ++ value' :: after')) :
    List.Forall₂ related before before' ∧ related value value' ∧ List.Forall₂ related after after' := by
  obtain ⟨_, _, _, same, front, middle, back⟩ := forall₂_split both
  obtain ⟨rfl, rest⟩ := List.append_inj same (length.trans front.length_eq)
  cases rest
  exact ⟨front, middle, back⟩

/-- What a value has whatever is beside it, each value of the list has. -/
theorem forall_of_forall₂ {α β : Type} {holds : α → Prop} {values : List α} {others : List β}
    (both : List.Forall₂ (fun value _ => holds value) values others) : ∀ value ∈ values, holds value := by
  induction both with
  | nil => exact fun _ none => nomatch none
  | cons here _ ih => exact List.forall_mem_cons.mpr ⟨here, ih⟩

theorem map_eq_of_forall₂ {α β γ : Type} {f : α → γ} {g : β → γ} {values : List α} {others : List β}
    (both : List.Forall₂ (fun value other => f value = g other) values others) :
    values.map f = others.map g := by
  induction both with
  | nil => rfl
  | cons same _ ih => rw [List.map_cons, List.map_cons, same, ih]

/-- The world some time later. -/
def World.later (world : World σ) (milliseconds : Nat) : World σ :=
  { world with session := { world.session with now := world.session.now + milliseconds } }

/-- The file that was documented, with nothing left to do for it. -/
def Visit.job (visit : Visit) : Pass.Job σ :=
  ⟨visit.path, ExceptT.mk (.ended visit.result)⟩

namespace Pass

namespace Job

/-- A file that is over has been visited. -/
theorem exists_visit {job : Job σ} (ended : job.isOver = true) : ∃ visit : Visit, job = visit.job := by
  obtain ⟨path, rest⟩ := job
  cases rest with
  | ended result => exact ⟨⟨path, result⟩, rfl⟩
  | step act next => cases ended

theorem finish_eq (job : Job σ) (world : World σ) :
    job.finish world =
      (⟨job.path, (Course.run job.rest.run world).1⟩, (Course.run job.rest.run world).2) :=
  rfl

end Job

theorem finishAll_cons (job : Job σ) (rest : List (Job σ)) (world : World σ) :
    finishAll (job :: rest) world = ((job.finish world).1 :: (finishAll rest (job.finish world).2).1,
      (finishAll rest (job.finish world).2).2) :=
  rfl

/-- Some files are finished before others. -/
theorem finishAll_append (first second : List (Job σ)) (world : World σ) :
    finishAll (first ++ second) world =
      ((finishAll first world).1 ++ (finishAll second (finishAll first world).2).1,
        (finishAll second (finishAll first world).2).2) := by
  induction first generalizing world with
  | nil => rfl
  | cons job rest ih =>
      rw [List.cons_append, finishAll_cons, ih]
      rfl

/-- Files that are over leave the world as it is. -/
theorem exists_finishAll_over {jobs : List (Job σ)} (overs : ∀ job ∈ jobs, job.isOver = true) :
    ∃ visits, ∀ world, finishAll jobs world = (visits, world) := by
  induction jobs with
  | nil => exact ⟨[], fun _ => rfl⟩
  | cons job rest ih =>
      obtain ⟨ended, others⟩ := List.forall_mem_cons.mp overs
      obtain ⟨visit, rfl⟩ := Job.exists_visit ended
      obtain ⟨visits, same⟩ := ih others
      refine ⟨visit :: visits, fun world => ?_⟩
      rw [finishAll_cons, same]
      rfl

theorem map_path_start (plan : Plan σ) (paths : List Path) :
    (paths.map (Job.start plan)).map (·.path) = paths := by
  rw [List.map_map]
  exact List.map_id _

/-- A batch consists of the same files when one of them takes a step. -/
theorem map_path_advance (before after : List (Job σ)) (job : Job σ) (world : World σ) :
    (before ++ (job.advance world).1 :: after).map (·.path) =
      (before ++ job :: after).map (·.path) := by
  rw [List.map_append, List.map_append]
  rfl

/-- A step that is taken before the rest is taken comes to the same. -/
theorem finish_advance (job : Job σ) (world : World σ) :
    (job.advance world).1.finish (job.advance world).2 = job.finish world := by
  rw [Job.finish_eq, Job.finish_eq]
  exact congrArg (fun ran : _ × World σ => ((⟨job.path, ran.1⟩ : Visit), ran.2))
    (Course.run_advance job.rest.run world)

namespace Round

/-- The jobs of a batch, when the file at a position gets on. -/
theorem set_eq {jobs : List (Job σ)} {position : Nat} (within : position < jobs.length)
    (job : Job σ) :
    jobs = jobs.take position ++ jobs[position] :: jobs.drop (position + 1) ∧
      jobs.set position job = jobs.take position ++ job :: jobs.drop (position + 1) := by
  rw [List.getElem_cons_drop, List.take_append_drop, List.set_eq_take_append_cons_drop,
    if_pos within]
  exact ⟨rfl, rfl⟩

/-! ## One batch -/

/-- A batch comes to be from another one, as time passes and files take steps. -/
inductive Leads (start : Round σ) : Round σ → Prop where
  | refl : Leads start start
  | wait (milliseconds : Nat) {jobs : List (Job σ)} {world : World σ} :
      Leads start ⟨jobs, world⟩ → Leads start ⟨jobs, world.later milliseconds⟩
  | step {before after : List (Job σ)} {job : Job σ} {world : World σ} :
      Leads start ⟨before ++ job :: after, world⟩ →
        Leads start ⟨before ++ (job.advance world).1 :: after, (job.advance world).2⟩

namespace Leads

theorem take {start round : Round σ} (leads : Leads start round) (limit : Int) (move : Move) :
    Leads start (round.take limit move) := by
  obtain ⟨jobs, world⟩ := round
  cases move with
  | wait milliseconds => exact leads.wait milliseconds
  | step position =>
      dsimp only [Round.take]
      by_cases within : position < jobs.length
      · rw [List.getElem?_eq_getElem within]
        dsimp only
        split
        · obtain ⟨whole, grown⟩ := set_eq within (jobs[position].advance world).1
          rw [grown]
          exact (whole ▸ leads : Leads start ⟨_ ++ _ :: _, world⟩).step
        · exact leads
      · rw [List.getElem?_eq_none (Nat.le_of_not_lt within)]
        exact leads

theorem moves {start round : Round σ} (leads : Leads start round) (limit : Int) (moves : List Move) :
    Leads start (moves.foldl (Round.take limit) round) := by
  induction moves generalizing round with
  | nil => exact leads
  | cons move rest ih => exact ih (leads.take limit move)

/-- A file is finished. -/
theorem finish {start : Round σ} {before after : List (Job σ)} {job : Job σ} {world : World σ}
    (leads : Leads start ⟨before ++ job :: after, world⟩) :
    Leads start ⟨before ++ (job.finish world).1.job :: after, (job.finish world).2⟩ := by
  obtain ⟨path, rest⟩ := job
  induction rest generalizing world with
  | ended result => exact leads
  | step act next ih =>
      have stepped : Leads start ⟨before ++ ⟨path, next world⟩ :: after, act world⟩ := leads.step
      exact ih world stepped

theorem finishAll {start : Round σ} (visits : List Visit) {jobs : List (Job σ)} {world : World σ}
    (leads : Leads start ⟨visits.map Visit.job ++ jobs, world⟩) :
    Leads start ⟨(visits ++ (Pass.finishAll jobs world).1).map Visit.job,
      (Pass.finishAll jobs world).2⟩ := by
  induction jobs generalizing visits world with
  | nil => simpa [Pass.finishAll] using leads
  | cons job rest ih =>
      have next := leads.finish
      rw [List.append_cons, ← List.map_singleton, ← List.map_append] at next
      simpa [finishAll_cons] using ih _ next

/-- What comes of the files of a batch comes to be from the batch. -/
theorem processFiles (plan : Plan σ) (moves : List Move) (paths : List Path) (world : World σ) :
    Leads ⟨paths.map (Job.start plan), world⟩
      ⟨(Pass.processFiles plan moves paths world).1.map Visit.job,
        (Pass.processFiles plan moves paths world).2⟩ := by
  have leads : Leads ⟨paths.map (Job.start plan), world⟩ _ := Leads.refl.moves plan.filesAtOnce moves
  exact leads.finishAll []

end Leads

/-- What holds of a batch is kept while time passes and by the next step of each file. -/
structure Stays (holds : Round σ → Prop) : Prop where
  waits : ∀ (milliseconds : Nat) {jobs : List (Job σ)} {world : World σ},
    holds ⟨jobs, world⟩ → holds ⟨jobs, world.later milliseconds⟩
  steps : ∀ {before after : List (Job σ)} {job : Job σ} {world : World σ},
    holds ⟨before ++ job :: after, world⟩ →
      holds ⟨before ++ (job.advance world).1 :: after, (job.advance world).2⟩

namespace Stays

variable {holds : Round σ → Prop}

/-- So it is kept all the way. -/
theorem leads (stays : Stays holds) {start round : Round σ} (leads : start.Leads round)
    (here : holds start) : holds round := by
  induction leads with
  | refl => exact here
  | wait milliseconds _ ih => exact stays.waits milliseconds ih
  | step _ ih => exact stays.steps ih

theorem processFiles (stays : Stays holds) {plan : Plan σ} {paths : List Path} {world : World σ}
    (here : holds ⟨paths.map (Job.start plan), world⟩) (moves : List Move) :
    holds ⟨(Pass.processFiles plan moves paths world).1.map Visit.job,
      (Pass.processFiles plan moves paths world).2⟩ :=
  stays.leads (.processFiles plan moves paths world) here

/-- The files of a batch are those that are visited, in their order. -/
theorem map_path (paths : List Path) :
    Stays fun round : Round σ => round.jobs.map (·.path) = paths where
  waits _ _ _ same := same
  steps same := (map_path_advance _ _ _ _).trans same

end Stays

/-- Where one file is under way at a time, a step is taken for the first file that is not over. -/
theorem finishAll_take {limit : Int} (alone : limit ≤ 1) (round : Round σ) (position : Nat) :
    finishAll (round.take limit (.step position)).jobs (round.take limit (.step position)).world =
      finishAll round.jobs round.world := by
  obtain ⟨jobs, world⟩ := round
  dsimp only [take]
  by_cases within : position < jobs.length
  · rw [List.getElem?_eq_getElem within]
    dsimp only
    split
    · next admitted =>
      have overs : ∀ job ∈ jobs.take position, job.isOver = true := by
        have bound := of_decide_eq_true admitted
        have none : ((jobs.take position).countP fun job => !job.isOver) = 0 := by
          dsimp only at bound
          omega
        intro job member
        simpa using List.countP_eq_zero.mp none job member
      obtain ⟨visits, same⟩ := exists_finishAll_over overs
      obtain ⟨whole, grown⟩ := set_eq within (jobs[position].advance world).1
      rw [grown]
      conv_rhs => rw [whole]
      rw [finishAll_append, finishAll_append, same, same, finishAll_cons, finishAll_cons,
        finish_advance]
    · rfl
  · rw [List.getElem?_eq_none (Nat.le_of_not_lt within)]

theorem finishAll_moves {limit : Int} (alone : limit ≤ 1) (round : Round σ) {moves : List Move}
    (timeless : ∀ move ∈ moves, ∃ position, move = .step position) :
    finishAll (moves.foldl (take limit) round).jobs (moves.foldl (take limit) round).world =
      finishAll round.jobs round.world := by
  induction moves generalizing round with
  | nil => rfl
  | cons move rest ih =>
      obtain ⟨⟨position, rfl⟩, others⟩ := List.forall_mem_cons.mp timeless
      rw [List.foldl_cons, ih _ others, finishAll_take alone]

/-! ## Two batches -/

/-- Two batches go on alike: their files are over at the same times, and what holds of the batches is
    kept while time passes and by the next steps of the files at one place, unless the second batch is
    lost by such a step for good. -/
structure Kept (holds : Round σ → Round σ → Prop) (lost : Round σ → Prop) : Prop where
  overs : ∀ {one two : Round σ}, holds one two →
    two.jobs.map Job.isOver = one.jobs.map Job.isOver
  waits : ∀ (milliseconds : Nat) {jobs others : List (Job σ)} {world other : World σ},
    holds ⟨jobs, world⟩ ⟨others, other⟩ →
      holds ⟨jobs, world.later milliseconds⟩ ⟨others, other.later milliseconds⟩
  steps : ∀ {before after before' after' : List (Job σ)} {job job' : Job σ} {world world' : World σ},
    before'.length = before.length →
    holds ⟨before ++ job :: after, world⟩ ⟨before' ++ job' :: after', world'⟩ →
    ¬lost ⟨before' ++ (job'.advance world').1 :: after', (job'.advance world').2⟩ →
      holds ⟨before ++ (job.advance world).1 :: after, (job.advance world).2⟩
        ⟨before' ++ (job'.advance world').1 :: after', (job'.advance world').2⟩
  lost : Stays lost

namespace Kept

variable {holds : Round σ → Round σ → Prop} {lost : Round σ → Prop} (kept : Kept holds lost)

include kept

/-- What was not lost later on was not lost before. -/
theorem fine_before {start round : Round σ} (leads : start.Leads round) (fine : ¬lost round) :
    ¬lost start :=
  fun gone => fine (kept.lost.leads leads gone)

theorem admits_eq {one two : Round σ} (here : holds one two) (limit : Int) (position : Nat) :
    two.admits limit position = one.admits limit position := by
  have counts (round : Round σ) : ((round.jobs.take position).countP fun job => !job.isOver) =
      ((round.jobs.map Job.isOver).take position).countP fun ended => !ended := by
    rw [← List.map_take, List.countP_map]
    rfl
  rw [admits, admits, counts, counts, kept.overs here]

/-- Whatever happens next, it happens in both batches. -/
theorem take {one two : Round σ} (here : holds one two) (limit : Int) {move : Move}
    (fine : ¬lost (two.take limit move)) : holds (one.take limit move) (two.take limit move) := by
  cases move with
  | wait milliseconds => exact kept.waits milliseconds here
  | step position =>
      have length : two.jobs.length = one.jobs.length := by
        have lengths := congrArg List.length (kept.overs here)
        rwa [List.length_map, List.length_map] at lengths
      have admitted := kept.admits_eq here limit position
      obtain ⟨jobs, world⟩ := one
      obtain ⟨others, other⟩ := two
      dsimp only [Round.take] at length fine ⊢
      by_cases within : position < jobs.length
      · have within' : position < others.length := length.symm ▸ within
        rw [List.getElem?_eq_getElem within'] at fine
        rw [List.getElem?_eq_getElem within, List.getElem?_eq_getElem within']
        dsimp only at fine ⊢
        rw [admitted] at fine ⊢
        split
        · next admits =>
          rw [if_pos admits] at fine
          obtain ⟨whole, grown⟩ := set_eq within (jobs[position].advance world).1
          obtain ⟨whole', grown'⟩ := set_eq within' (others[position].advance other).1
          rw [grown'] at fine
          rw [grown, grown']
          refine kept.steps ?_ ?_ fine
          · rw [List.length_take, List.length_take, length]
          · rw [← whole, ← whole']
            exact here
        · exact here
      · have beyond : jobs.length ≤ position := Nat.le_of_not_lt within
        rw [List.getElem?_eq_none beyond, List.getElem?_eq_none (length.symm ▸ beyond)]
        exact here

theorem moves {one two : Round σ} (here : holds one two) (limit : Int) (moves : List Move)
    (fine : ¬lost (moves.foldl (Round.take limit) two)) :
    holds (moves.foldl (Round.take limit) one) (moves.foldl (Round.take limit) two) := by
  induction moves generalizing one two with
  | nil => exact here
  | cons move rest ih =>
      have before := kept.fine_before (Leads.refl.moves limit rest) fine
      exact ih (kept.take here limit before) fine

/-- The files at one place are over at the same time. -/
theorem isOver_eq {before after before' after' : List (Job σ)} {job job' : Job σ}
    {world world' : World σ} (length : before'.length = before.length)
    (here : holds ⟨before ++ job :: after, world⟩ ⟨before' ++ job' :: after', world'⟩) :
    job'.isOver = job.isOver := by
  have overs := kept.overs here
  rw [List.map_append, List.map_append] at overs
  exact (List.cons_eq_cons.mp (List.append_inj overs (by simpa using length)).2).1

/-- The files at one place are finished. -/
theorem finish {before after before' after' : List (Job σ)} {job job' : Job σ} {world world' : World σ}
    (length : before'.length = before.length)
    (here : holds ⟨before ++ job :: after, world⟩ ⟨before' ++ job' :: after', world'⟩)
    (fine : ¬lost ⟨before' ++ (job'.finish world').1.job :: after', (job'.finish world').2⟩) :
    holds ⟨before ++ (job.finish world).1.job :: after, (job.finish world).2⟩
      ⟨before' ++ (job'.finish world').1.job :: after', (job'.finish world').2⟩ := by
  obtain ⟨path, rest⟩ := job
  -- by induction on the steps that are left, each of which both files take
  induction rest generalizing job' world world' with
  | ended result =>
      obtain ⟨visit, rfl⟩ := Job.exists_visit (kept.isOver_eq length here)
      exact here
  | step act next ih =>
      obtain ⟨path', rest'⟩ := job'
      have ended := kept.isOver_eq length here
      cases rest' with
      | ended result => cases ended
      | step act' next' =>
          have later : ¬lost ⟨before' ++ (Job.finish ⟨path', next' world'⟩ (act' world')).1.job :: after',
              (Job.finish ⟨path', next' world'⟩ (act' world')).2⟩ := fine
          have stepped : holds ⟨before ++ ⟨path, next world⟩ :: after, act world⟩
              ⟨before' ++ ⟨path', next' world'⟩ :: after', act' world'⟩ :=
            kept.steps length here (kept.fine_before Leads.refl.finish later)
          have finished := ih world later stepped
          exact finished

theorem finishAll (visits visits' : List Visit) {jobs jobs' : List (Job σ)} {world world' : World σ}
    (length : visits'.length = visits.length)
    (here : holds ⟨visits.map Visit.job ++ jobs, world⟩ ⟨visits'.map Visit.job ++ jobs', world'⟩)
    (fine : ¬lost ⟨(visits' ++ (Pass.finishAll jobs' world').1).map Visit.job,
      (Pass.finishAll jobs' world').2⟩) :
    holds ⟨(visits ++ (Pass.finishAll jobs world).1).map Visit.job, (Pass.finishAll jobs world).2⟩
      ⟨(visits' ++ (Pass.finishAll jobs' world').1).map Visit.job, (Pass.finishAll jobs' world').2⟩ := by
  have lengths := congrArg List.length (kept.overs here)
  simp only [List.length_map, List.length_append] at lengths
  induction jobs generalizing visits visits' jobs' world world' with
  | nil =>
      obtain rfl : jobs' = [] := List.eq_nil_of_length_eq_zero (by simpa [length] using lengths)
      simpa [Pass.finishAll] using here
  | cons job rest ih =>
      cases jobs' with
      | nil => simp [length] at lengths
      | cons job' rest' =>
          have mapped : (visits'.map Visit.job : List (Job σ)).length =
              (visits.map Visit.job : List (Job σ)).length := by
            rw [List.length_map, List.length_map, length]
          have taken (visits : List Visit) (visit : Visit) (rest : List (Job σ)) :
              visits.map Visit.job ++ visit.job :: rest =
                (visits ++ [visit]).map Visit.job ++ rest := by simp
          have fine' : ¬lost ⟨((visits' ++ [(job'.finish world').1]) ++
              (Pass.finishAll rest' (job'.finish world').2).1).map Visit.job,
                (Pass.finishAll rest' (job'.finish world').2).2⟩ := by
            simpa [finishAll_cons] using fine
          have later : ¬lost ⟨visits'.map Visit.job ++ (job'.finish world').1.job :: rest',
              (job'.finish world').2⟩ := by
            rw [taken]
            exact kept.fine_before (Leads.refl.finishAll _) fine'
          have next := kept.finish mapped here later
          rw [taken, taken] at next
          have rest := ih _ _ (by simpa using length) next fine' (by simpa [length] using lengths)
          simpa [finishAll_cons] using rest

/-- Two batches are documented alike, if they are alike to begin with and the second one is not lost. -/
theorem processFiles {first second : Plan σ} (limit : second.filesAtOnce = first.filesAtOnce)
    {paths others : List Path} {world other : World σ}
    (here : holds ⟨paths.map (Job.start first), world⟩ ⟨others.map (Job.start second), other⟩)
    (moves : List Move)
    (fine : ¬lost ⟨(Pass.processFiles second moves others other).1.map Visit.job,
      (Pass.processFiles second moves others other).2⟩) :
    holds ⟨(Pass.processFiles first moves paths world).1.map Visit.job,
        (Pass.processFiles first moves paths world).2⟩
      ⟨(Pass.processFiles second moves others other).1.map Visit.job,
        (Pass.processFiles second moves others other).2⟩ := by
  rw [Pass.processFiles, limit] at fine
  rw [Pass.processFiles, Pass.processFiles, limit]
  have moved := kept.moves here first.filesAtOnce moves
    (kept.fine_before (Leads.refl.finishAll []) fine)
  exact kept.finishAll [] [] rfl moved fine

end Kept

end Round

/-- The files of a batch are visited, in their order. -/
theorem map_path_processFiles (plan : Plan σ) (moves : List Move) (paths : List Path)
    (world : World σ) : (processFiles plan moves paths world).1.map (·.path) = paths := by
  have start : (⟨paths.map (Job.start plan), world⟩ : Round σ).jobs.map (·.path) = paths :=
    map_path_start plan paths
  have same := (Round.Stays.map_path paths).processFiles start moves
  rwa [List.map_map] at same

/-- Where one file is under way at a time and no time passes, files are documented one after another. -/
theorem processFiles_alone {plan : Plan σ} (alone : plan.filesAtOnce ≤ 1) {moves : List Move}
    (timeless : ∀ move ∈ moves, ∃ position, move = .step position) (paths : List Path)
    (world : World σ) : processFiles plan moves paths world = processFiles plan [] paths world :=
  Round.finishAll_moves alone ⟨paths.map (Job.start plan), world⟩ timeless

end Pass

/-- Two orders of steps make no difference: they are the same, or one file is under way at a time and
    no time passes between the steps. -/
def Move.Agree (limit : Int) (moves others : List Move) : Prop :=
  moves = others ∨ limit ≤ 1 ∧ ∀ move ∈ moves ++ others, ∃ position, move = .step position

theorem Move.Agree.processFiles {plan : Plan σ} {moves others : List Move}
    (agree : Move.Agree plan.filesAtOnce moves others) (paths : List Path) (world : World σ) :
    Pass.processFiles plan moves paths world = Pass.processFiles plan others paths world := by
  rcases agree with rfl | ⟨alone, timeless⟩
  · rfl
  · obtain ⟨first, second⟩ := List.forall_mem_append.mp timeless
    rw [Pass.processFiles_alone alone first, Pass.processFiles_alone alone second]

end Scholia
