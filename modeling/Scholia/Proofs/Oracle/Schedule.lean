import Mathlib.Data.List.Perm.Basic
import Mathlib.Data.List.Range
import Mathlib.Tactic.Ring
import Scholia.Oracle.Schedule
import Scholia.Proofs.Oracle.Asking

/-! # Requests that take turns

In its turn a request makes its next call or finishes, and then the first of those that wait is let in.
So the turns that are left become fewer with each turn, no more requests are under way at a time than
the gate is wide, and each request comes to one result.
-/

namespace Scholia.Oracle.Schedule

variable {σ : Type} {provider : Provider σ} {oracle : Oracle} {pause : Nat}

/-- The request whose turn it is. -/
def Turn.job : Turn → Job
  | start job => job
  | reply job _ => job

/-- The place that is kept in the gate for the request until its turn. -/
def Turn.reserved : Turn → Int
  | start _ => 1
  | reply _ _ => 0

/-! ## The turns that are left -/

/-- The turns of a request that is about to start. -/
def Job.turns (pause : Nat) (job : Job) : Nat :=
  job.left * (pause + 1) + 1

def Turn.turns (pause : Nat) : Turn → Nat
  | start job => job.turns pause
  | reply job later => later + job.turns pause

namespace State

/-- The turns that are left at most. -/
def turns (pause : Nat) (state : State σ) : Nat :=
  (state.ready.map (Turn.turns pause)).sum + (state.waiting.map (Job.turns pause)).sum

/-- The places in the gate that are taken or kept. -/
def places (state : State σ) : Int :=
  state.session.gate.active + (state.ready.map Turn.reserved).sum

/-- The requests that are known, whether they have a result, a turn or have to wait. -/
def indices (state : State σ) : List Nat :=
  state.results.map Prod.fst ++ state.ready.map (·.job.index) ++ state.waiting.map Job.index

end State

/-! ## One turn -/

/-- What a request comes to in its turn: it makes a call, or it has a result and leaves the gate to the
    first of those that wait. -/
inductive Goes (pause : Nat) (before : State σ) (job : Job) (after : State σ) : Prop where
  | calls {next : Job} (gate : after.session.gate = before.session.gate)
      (ready : after.ready = before.ready ++ [.reply next pause])
      (waiting : after.waiting = before.waiting) (results : after.results = before.results)
      (index : next.index = job.index) (left : next.left + 1 = job.left)
  | ends {result : Result} (gate : after.session.gate = before.session.gate.leave)
      (ready : after.ready = before.ready ++ (before.waiting.take 1).map .start)
      (waiting : after.waiting = before.waiting.tail)
      (results : after.results = before.results ++ [(job.index, result)])

section

variable {state : State σ} {job : Job}

theorem State.leave_eq (state : State σ) : state.leave =
    { state with
      session := state.session.leave
      ready := state.ready ++ (state.waiting.take 1).map .start
      waiting := state.waiting.tail } := by
  obtain ⟨session, ready, waiting, results⟩ := state
  cases waiting with
  | nil => simp [leave]
  | cons job rest => rfl

theorem gate_keepComment (oracle : Oracle) (entry : Registered) (bundle : Bundle) (response : Response)
    (session : Session σ) : (oracle.keepComment entry bundle response session).gate = session.gate := by
  unfold keepComment Session.keep
  split
  · cases oracle.cache with
    | none => rfl
    | some store => rfl
  · rfl

theorem gate_kept (oracle : Oracle) (entry : Registered) (bundle : Bundle) (options : GenerationOptions)
    (session : Session σ) : (oracle.kept entry bundle options session).2.gate = session.gate := by
  unfold kept Session.lookUp
  split
  · rfl
  · cases oracle.cache with
    | none => rfl
    | some store => rfl

theorem gate_receive (provider : Provider σ) (endpoint : Endpoint) (request : CompletionRequest)
    (session : Session σ) :
    (session.receiveCompletion provider endpoint request).2.gate = session.gate := by
  obtain ⟨log, same⟩ := Session.exists_log_settle endpoint (QueryLog.completionJson request)
    ((session.answer provider request).1.map fun content => content.getD "") .str
    { (session.answer provider request).2 with
      pending := (session.answer provider request).2.pending - 1 }
  have gate := congrArg Session.gate same
  exact gate

theorem goes_finish (response : Response) :
    Goes pause state job (State.finish oracle state job response) := by
  unfold State.finish
  rw [State.leave_eq]
  exact .ends (gate_keepComment _ _ _ _ _) rfl rfl rfl

theorem goes_call (left : job.left ≠ 0) : Goes pause state job (State.call pause state job) :=
  .calls rfl rfl rfl rfl rfl (Nat.succ_pred left)

theorem goes_start (state : State σ) (job : Job) :
    Goes pause { state with session := state.session.enter } job (State.start oracle pause state job) := by
  unfold State.start
  dsimp only
  split
  · exact goes_finish _
  · next left => exact goes_call left

/-- Where the session differs in other things than the gate, a request goes on alike. -/
theorem Goes.of_gate {session : Session σ} {after : State σ}
    (goes : Goes pause { state with session } job after)
    (same : session.gate = state.session.gate) : Goes pause state job after := by
  cases goes with
  | calls gate ready waiting results index left =>
      exact .calls (gate.trans same) ready waiting results index left
  | ends gate ready waiting results =>
      exact .ends (gate.trans (congrArg Gate.leave same)) ready waiting results

theorem goes_again (failure : OracleFailure) :
    Goes pause state job (State.again oracle pause state job failure) := by
  unfold State.again
  split
  · exact goes_finish _
  · next left =>
    split
    · rw [State.leave_eq]
      exact .ends rfl rfl rfl rfl
    · exact (goes_call left).of_gate rfl

theorem goes_receive : Goes pause state job (State.receive provider oracle pause state job) := by
  have same := gate_receive provider job.entry.endpoint job.request state.session
  unfold State.receive
  dsimp only
  split
  · exact (goes_finish _).of_gate same
  · exact (goes_again _).of_gate same

/-- A turn lets time pass, or the request goes on. -/
theorem turn_cases (provider : Provider σ) (oracle : Oracle) (pause : Nat) (state : State σ)
    (next : Turn) :
    (∃ job later, next = .reply job (later + 1) ∧
      State.turn provider oracle pause state next = state.push (.reply job later)) ∨
    ∃ session, Goes pause { state with session } next.job (State.turn provider oracle pause state next) ∧
      (session = state.session.enter ∧ next.reserved = 1 ∨ session = state.session ∧ next.reserved = 0) ∧
      next.turns pause = next.job.turns pause := by
  cases next with
  | start job => exact .inr ⟨_, goes_start state job, .inl ⟨rfl, rfl⟩, rfl⟩
  | reply job later =>
      cases later with
      | zero => exact .inr ⟨_, goes_receive, .inr ⟨rfl, rfl⟩, Nat.zero_add _⟩
      | succ later => exact .inl ⟨job, later, rfl, rfl⟩

end

/-! ## Fewer turns -/

theorem sum_turns_let_in (pause : Nat) (waiting : List Job) :
    (((waiting.take 1).map Turn.start).map (Turn.turns pause)).sum +
      (waiting.tail.map (Job.turns pause)).sum = (waiting.map (Job.turns pause)).sum := by
  cases waiting with
  | nil => rfl
  | cons job rest => simp [Turn.turns]

theorem Goes.turns_lt {before after : State σ} {job : Job} (goes : Goes pause before job after) :
    after.turns pause + 1 ≤ before.turns pause + job.turns pause := by
  cases goes with
  | @calls next _ ready waiting _ _ left =>
      have turns : pause + next.turns pause + 1 = job.turns pause := by
        rw [Job.turns, Job.turns, ← left]
        ring
      simp only [State.turns, ready, waiting, List.map_append, List.sum_append, List.map_singleton,
        List.sum_singleton, Turn.turns]
      omega
  | ends _ ready waiting _ =>
      have shifted := sum_turns_let_in pause before.waiting
      simp only [State.turns, ready, waiting, List.map_append, List.sum_append]
      rw [Job.turns]
      omega

/-- With each turn there are fewer turns left. -/
theorem turns_turn (provider : Provider σ) (oracle : Oracle) (pause : Nat) (state : State σ)
    (next : Turn) :
    (State.turn provider oracle pause state next).turns pause + 1 ≤
      state.turns pause + next.turns pause := by
  rcases turn_cases provider oracle pause state next with
    ⟨job, later, rfl, same⟩ | ⟨session, goes, -, turns⟩
  · rw [same]
    simp only [State.turns, State.push, List.map_append, List.sum_append, List.map_singleton,
      List.sum_singleton, Turn.turns]
    omega
  · rw [turns]
    exact goes.turns_lt

/-- As many turns as are left are enough. -/
theorem ready_run {fuel : Nat} {state : State σ} (enough : state.turns pause ≤ fuel) :
    (State.run provider oracle pause fuel state).ready = [] := by
  induction fuel generalizing state with
  | zero =>
      obtain ⟨session, ready, waiting, results⟩ := state
      cases ready with
      | nil => rfl
      | cons next rest =>
          have first := turns_turn provider oracle pause
            ⟨session, rest, waiting, results⟩ next
          simp only [State.turns, List.map_cons, List.sum_cons] at enough first
          omega
  | succ fuel ih =>
      obtain ⟨session, ready, waiting, results⟩ := state
      cases ready with
      | nil => rfl
      | cons next rest =>
          have fewer := turns_turn provider oracle pause
            ⟨session, rest, waiting, results⟩ next
          refine ih ?_
          simp only [State.turns, List.map_cons, List.sum_cons] at enough fewer ⊢
          omega

/-! ## What all turns keep -/

/-- What each turn keeps, all turns together keep. -/
theorem keeps_run (holds : State σ → Prop)
    (steps : ∀ (state : State σ) (next : Turn), holds { state with ready := next :: state.ready } →
      holds (State.turn provider oracle pause state next))
    (fuel : Nat) {state : State σ} (here : holds state) :
    holds (State.run provider oracle pause fuel state) := by
  induction fuel generalizing state with
  | zero => exact here
  | succ fuel ih =>
      obtain ⟨session, ready, waiting, results⟩ := state
      cases ready with
      | nil => exact here
      | cons next rest => exact ih (steps ⟨session, rest, waiting, results⟩ next here)

/-- No more requests are under way than the gate is wide, nor were before. -/
structure Fits (limit : Int) (state : State σ) : Prop where
  width : state.session.gate.limit = limit
  places : state.places ≤ limit
  peak : state.session.gate.peak ≤ limit

theorem reserved_nonneg (ready : List Turn) : 0 ≤ (ready.map Turn.reserved).sum := by
  induction ready with
  | nil => exact Int.le_refl 0
  | cons next rest ih =>
      rw [List.map_cons, List.sum_cons]
      cases next with
      | start job => exact Int.add_nonneg Int.one_nonneg ih
      | reply job later => exact Int.add_nonneg (Int.le_refl 0) ih

theorem Goes.fits {before after : State σ} {job : Job} {limit : Int}
    (goes : Goes pause before job after) (fits : Fits limit before) : Fits limit after := by
  cases goes with
  | calls gate ready _ _ _ _ =>
      refine ⟨gate ▸ fits.width, ?_, gate ▸ fits.peak⟩
      have places := fits.places
      simpa [State.places, gate, ready, Turn.reserved] using places
  | ends gate ready _ _ =>
      refine ⟨gate ▸ fits.width, ?_, gate ▸ fits.peak⟩
      have places := fits.places
      have one : (((before.waiting.take 1).map Turn.start).map Turn.reserved).sum ≤ 1 := by
        cases before.waiting with
        | nil => exact Int.zero_le_ofNat 1
        | cons job rest => exact Int.le_refl 1
      simp only [State.places, gate, ready, List.map_append, List.sum_append, Gate.leave] at places ⊢
      omega

/-- A request that has a place kept for it passes the gate. -/
theorem Fits.enter {limit : Int} {state : State σ} (fits : Fits limit state)
    (room : state.places + 1 ≤ limit) :
    Fits limit { state with session := state.session.enter } := by
  have kept := reserved_nonneg state.ready
  have peak := fits.peak
  simp only [State.places] at room
  refine ⟨fits.width, ?_, ?_⟩
  · simp only [State.places, Session.enter, Gate.enter]
    omega
  · simp only [Session.enter, Gate.enter]
    omega

theorem fits_turn {limit : Int} {state : State σ} {next : Turn}
    (fits : Fits limit { state with ready := next :: state.ready }) :
    Fits limit (State.turn provider oracle pause state next) := by
  have places := fits.places
  simp only [State.places, List.map_cons, List.sum_cons] at places
  rcases turn_cases provider oracle pause state next with
    ⟨job, later, rfl, same⟩ | ⟨session, goes, entered, -⟩
  · rw [same]
    refine ⟨fits.width, ?_, fits.peak⟩
    simpa [State.places, State.push, Turn.reserved] using places
  · refine goes.fits ?_
    rcases entered with ⟨rfl, reserved⟩ | ⟨rfl, reserved⟩
    · rw [reserved] at places
      have fewer : Fits limit state := ⟨fits.width, by rw [State.places]; omega, fits.peak⟩
      exact fewer.enter (by rw [State.places]; omega)
    · rw [reserved] at places
      refine ⟨fits.width, ?_, fits.peak⟩
      change state.session.gate.active + (state.ready.map Turn.reserved).sum ≤ limit
      omega

theorem Goes.indices {before after : State σ} {job : Job} (goes : Goes pause before job after) :
    after.indices.Perm (job.index :: before.indices) := by
  rw [List.perm_iff_count]
  intro index
  cases goes with
  | calls _ ready waiting results same _ =>
      simp only [State.indices, ready, waiting, results, List.map_append, List.count_append,
        List.count_cons, List.map_singleton, List.count_nil, Turn.job, same]
      omega
  | ends _ ready waiting results =>
      have shifted : (((before.waiting.take 1).map Turn.start).map (·.job.index)).count index +
          (before.waiting.tail.map Job.index).count index =
            (before.waiting.map Job.index).count index := by
        cases before.waiting with
        | nil => rfl
        | cons job rest => simp [Turn.job, List.count_cons, Nat.add_comm]
      simp only [State.indices, ready, waiting, results, List.map_append, List.count_append,
        List.count_cons, List.map_singleton, List.count_nil]
      omega

/-- A turn loses no request and gives none a second result. -/
theorem indices_turn (state : State σ) (next : Turn) :
    (State.turn provider oracle pause state next).indices.Perm
      { state with ready := next :: state.ready }.indices := by
  have taken : (next.job.index :: state.indices).Perm
      { state with ready := next :: state.ready }.indices := by
    simp only [State.indices, List.map_cons, List.append_assoc, List.cons_append]
    exact List.perm_middle.symm
  rcases turn_cases provider oracle pause state next with
    ⟨job, later, rfl, same⟩ | ⟨session, goes, -, -⟩
  · refine .trans ?_ taken
    rw [same, List.perm_iff_count]
    intro index
    simp only [State.indices, State.push, List.map_append, List.count_append, List.map_singleton,
      List.count_cons, List.count_nil, Turn.job]
    omega
  · exact goes.indices.trans taken

theorem Goes.lively {before after : State σ} {job : Job} (goes : Goes pause before job after) :
    after.waiting = [] ∨ after.ready ≠ [] := by
  cases goes with
  | calls _ ready _ _ _ _ => exact .inr (by simp [ready])
  | ends _ ready waiting _ =>
      rw [ready, waiting]
      cases before.waiting with
      | nil => exact .inl rfl
      | cons job rest => exact .inr (by simp)

/-- Whoever waits, waits for a request that has a turn. -/
theorem lively_turn (state : State σ) (next : Turn) :
    (State.turn provider oracle pause state next).waiting = [] ∨
      (State.turn provider oracle pause state next).ready ≠ [] := by
  rcases turn_cases provider oracle pause state next with
    ⟨job, later, -, same⟩ | ⟨session, goes, -, -⟩
  · rw [same]
    exact .inr (by simp [State.push])
  · exact goes.lively

/-! ## The beginning -/

/-- A request is answered at once, passes a gate that has room, or waits at one that has none. -/
inductive Begins (oracle : Oracle) (pause : Nat) (before : State σ) (index : Nat) (after : State σ) :
    Prop where
  | answered {result : Result} (gate : after.session.gate = before.session.gate)
      (ready : after.ready = before.ready) (waiting : after.waiting = before.waiting)
      (results : after.results = before.results ++ [(index, result)])
  | starts {job : Job} {session : Session σ} (same : session.gate = before.session.gate)
      (room : session.gate.hasRoom = true) (known : job.index = index)
      (left : job.left = Retry.attempts (oracle.retries none))
      (goes : Goes pause { before with session := session.enter } job after)
  | waits {job : Job} (gate : after.session.gate = before.session.gate)
      (full : before.session.gate.hasRoom = false) (known : job.index = index)
      (left : job.left = Retry.attempts (oracle.retries none)) (ready : after.ready = before.ready)
      (waiting : after.waiting = before.waiting ++ [job]) (results : after.results = before.results)

theorem begins_begin (state : State σ) (index : Nat) (bundle : Bundle) :
    Begins oracle pause state index (State.begin oracle pause state index bundle) := by
  unfold State.begin
  split
  · exact .answered rfl rfl rfl rfl
  · next entry _ =>
    have same := gate_kept oracle entry bundle {} state.session
    split
    · next served => exact .answered (by rw [served] at same; exact same) rfl rfl rfl
    · next session served =>
      rw [served] at same
      dsimp only
      split
      · next room =>
        exact .starts same room rfl rfl (goes_start { state with session } _)
      · next full =>
        exact .waits same (by rw [← same]; exact Bool.eq_false_iff.mpr full) rfl rfl rfl rfl rfl

/-- A number of requests have begun: none of them has left the gate to another one yet. -/
structure Begun (oracle : Oracle) (pause : Nat) (limit : Int) (count : Nat) (state : State σ) : Prop where
  fits : Fits limit state
  unreserved : (state.ready.map Turn.reserved).sum = 0
  patient : state.session.gate.hasRoom = true → state.waiting = []
  active : state.session.gate.active ≤ state.ready.length
  turns : state.turns pause ≤ Schedule.turns oracle pause count
  indices : state.indices.Perm (List.range count)

theorem Begun.begin {limit : Int} {count : Nat} {state after : State σ}
    (begun : Begun oracle pause limit count state) (begins : Begins oracle pause state count after) :
    Begun oracle pause limit (count + 1) after := by
  have more : Schedule.turns oracle pause (count + 1) = Schedule.turns oracle pause count +
      (Retry.attempts (oracle.retries none) * (pause + 1) + 1) := by
    rw [Schedule.turns, Nat.succ_mul, Schedule.turns]
  have turns := begun.turns
  have grown : (count :: state.indices).Perm (List.range (count + 1)) := by
    rw [List.range_succ]
    exact (List.perm_append_singleton _ _).symm.trans (begun.indices.append_right _)
  cases begins with
  | answered gate ready waiting results =>
      refine ⟨⟨gate ▸ begun.fits.width, ?_, gate ▸ begun.fits.peak⟩, ready ▸ begun.unreserved, ?_, ?_,
        ?_, .trans ?_ grown⟩
      · rw [State.places, gate, ready]
        exact begun.fits.places
      · rw [gate, waiting]
        exact begun.patient
      · rw [gate, ready]
        exact begun.active
      · rw [State.turns, ready, waiting, more, ← State.turns]
        omega
      · rw [State.indices, ready, waiting, results, List.map_append, List.map_singleton,
          List.append_assoc, List.append_assoc, List.singleton_append, State.indices, List.append_assoc]
        exact List.perm_middle
  | waits gate full known left ready waiting results =>
      refine ⟨⟨gate ▸ begun.fits.width, ?_, gate ▸ begun.fits.peak⟩, ready ▸ begun.unreserved, ?_, ?_,
        ?_, .trans ?_ grown⟩
      · rw [State.places, gate, ready]
        exact begun.fits.places
      · intro room
        rw [gate, full] at room
        cases room
      · rw [gate, ready]
        exact begun.active
      · rw [State.turns] at turns
        rw [State.turns, ready, waiting, more, List.map_append, List.sum_append, List.map_singleton,
          List.sum_singleton, Job.turns, left]
        omega
      · rw [State.indices, ready, waiting, results, List.map_append, List.map_singleton, known,
          ← List.append_assoc]
        exact List.perm_append_singleton _ _
  | @starts job session same room known left goes =>
      have idle : state.waiting = [] := begun.patient (same ▸ room)
      have space : state.session.gate.active + 1 ≤ limit := by
        have bound := of_decide_eq_true room
        rw [same, begun.fits.width] at bound
        exact bound
      have passed : Fits limit { state with session := session.enter } := by
        have fits : Fits limit { state with session } :=
          ⟨same ▸ begun.fits.width, by rw [State.places, same]; exact begun.fits.places,
            same ▸ begun.fits.peak⟩
        refine fits.enter ?_
        rw [State.places, begun.unreserved, same, Int.add_zero]
        exact space
      have fewer := goes.turns_lt
      rw [Job.turns, left] at fewer
      have indices : after.indices.Perm (List.range (count + 1)) := goes.indices.trans (known ▸ grown)
      have bound : after.turns pause ≤ Schedule.turns oracle pause (count + 1) := by
        rw [more]
        change _ ≤ state.turns pause + _ at fewer
        omega
      have active := begun.active
      rw [← same] at active
      have fits := goes.fits passed
      cases goes with
      | calls gate ready waiting _ _ _ =>
          refine ⟨fits, ?_, fun _ => waiting.trans idle, ?_, bound, indices⟩
          · rw [ready, List.map_append, List.sum_append]
            exact (Int.add_zero _).trans begun.unreserved
          · rw [gate, ready, List.length_append, Int.natCast_add]
            exact Int.add_le_add_right active 1
      | ends gate ready waiting _ =>
          refine ⟨fits, ?_, fun _ => ?_, ?_, bound, indices⟩
          · rw [ready, idle]
            exact (congrArg (fun ready => (ready.map Turn.reserved).sum) (List.append_nil _)).trans
              begun.unreserved
          · rw [waiting, idle]
            rfl
          · rw [gate, ready, idle]
            simpa [Session.enter, Gate.enter, Gate.leave] using active

theorem begun_beginAll {session : Session σ} (free : session.gate.active = 0)
    (peak : session.gate.peak ≤ session.gate.limit) (wide : 1 ≤ session.gate.limit)
    (bundles : List Bundle) :
    Begun oracle pause session.gate.limit bundles.length
      (State.beginAll oracle pause bundles session) := by
  have grows (bundles : List Bundle) : ∀ (count : Nat) (state : State σ),
      Begun oracle pause session.gate.limit count state →
        Begun oracle pause session.gate.limit (count + bundles.length)
          ((bundles.zipIdx count).foldl
            (fun state entry => State.begin oracle pause state entry.2 entry.1) state) := by
    induction bundles with
    | nil => exact fun _ _ begun => begun
    | cons bundle rest ih =>
        intro count state begun
        rw [List.zipIdx_cons, List.foldl_cons, List.length_cons, Nat.add_comm rest.length,
          ← Nat.add_assoc]
        exact ih _ _ (begun.begin (begins_begin state count bundle))
  have start : Begun oracle pause session.gate.limit 0 ({ session } : State σ) := by
    refine ⟨⟨rfl, ?_, peak⟩, rfl, fun _ => rfl, ?_, Nat.zero_le _, .refl _⟩
    · rw [State.places, free]
      exact Int.le_trans Int.one_nonneg wide
    · rw [free]
      exact Int.le_refl 0
  have all := grows bundles 0 _ start
  rwa [Nat.zero_add] at all

/-! ## All requests -/

/-- All requests have come to an end: each has one result, and there never were more of them under way
    than the gate is wide. -/
structure Settled (limit : Int) (count : Nat) (state : State σ) : Prop where
  ready : state.ready = []
  waiting : state.waiting = []
  results : (state.results.map Prod.fst).Perm (List.range count)
  width : state.session.gate.limit = limit
  peak : state.session.gate.peak ≤ limit

/-- Where the gate is free, all requests come to an end, however long their calls take. -/
theorem settled_settle (provider : Provider σ) (oracle : Oracle) (pause : Nat) (bundles : List Bundle)
    {session : Session σ} (free : session.gate.active = 0)
    (peak : session.gate.peak ≤ session.gate.limit) (wide : 1 ≤ session.gate.limit) :
    Settled session.gate.limit bundles.length (settle provider oracle pause bundles session) := by
  have begun : Begun oracle pause session.gate.limit bundles.length _ :=
    begun_beginAll free peak wide bundles
  have lively : (State.beginAll oracle pause bundles session).waiting = [] ∨
      (State.beginAll oracle pause bundles session).ready ≠ [] := by
    cases waiting : (State.beginAll oracle pause bundles session).waiting with
    | nil => exact .inl rfl
    | cons job rest =>
        refine .inr fun none => ?_
        have full : (State.beginAll oracle pause bundles session).session.gate.hasRoom ≠ true :=
          fun room => by simp [begun.patient room] at waiting
        have active := begun.active
        rw [none] at active
        rw [Gate.hasRoom, ne_eq, decide_eq_true_eq, begun.fits.width] at full
        rw [List.length_nil, Int.natCast_zero] at active
        omega
  have ready : (settle provider oracle pause bundles session).ready = [] := ready_run begun.turns
  have fits : Fits session.gate.limit (settle provider oracle pause bundles session) :=
    keeps_run (Fits session.gate.limit) (fun _ _ => fits_turn) _ begun.fits
  have waiting : (settle provider oracle pause bundles session).waiting = [] :=
    (keeps_run (fun state => state.waiting = [] ∨ state.ready ≠ [])
      (fun state next _ => lively_turn state next) _ lively).resolve_right (· ready)
  have indices : (settle provider oracle pause bundles session).indices.Perm
      (List.range bundles.length) :=
    keeps_run (fun state => state.indices.Perm (List.range bundles.length))
      (fun state next here => (indices_turn state next).trans here) _ begun.indices
  refine ⟨ready, waiting, ?_, fits.width, fits.peak⟩
  rw [State.indices, ready, waiting] at indices
  simpa using indices

/-- So there is one response to each request, unless a delay cannot be waited for. -/
theorem length_generateAll (provider : Provider σ) (oracle : Oracle) (pause : Nat)
    (bundles : List Bundle) {session : Session σ} (free : session.gate.active = 0)
    (peak : session.gate.peak ≤ session.gate.limit) (wide : 1 ≤ session.gate.limit)
    {responses : List Response}
    (answered : (generateAll provider oracle pause bundles session).1 = .ok responses) :
    responses.length = bundles.length := by
  have settled := settled_settle provider oracle pause bundles free peak wide
  unfold generateAll at answered
  dsimp only at answered
  split at answered
  · cases answered
  · next fine =>
    cases answered
    rw [List.findSome?_eq_none_iff] at fine
    have all : ∀ entry ∈ (settle provider oracle pause bundles session).results,
        (entry.2.toOption).isSome = true := by
      intro entry member
      have good := fine entry member
      split at good
      · cases good
      · next held =>
        rw [held]
        rfl
    have count := settled.results.length_eq
    rw [List.length_map, List.length_range] at count
    rw [List.length_filterMap_eq_countP, List.countP_eq_length.mpr, List.length_mergeSort, count]
    exact fun entry member => all entry (List.mem_mergeSort.mp member)

end Scholia.Oracle.Schedule
