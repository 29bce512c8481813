import Mathlib.Data.List.Perm.Basic
import Mathlib.Order.Bounds.Basic
import Scholia.Gate.Crowd

/-! # A gate in a crowd

Whatever the order in which tasks come, look and leave, a gate counts the tasks that it holds and
never holds more than it is wide, and no task waits while there is room that nobody is about to
take: room counts as taken for each of those that are notified and have not looked again.
-/

namespace Scholia.Gate.Crowd

variable {τ : Type} {limit : Int} {crowd after : Crowd τ} {past : List (Crowd τ)} {task : τ}

/-- A gate of some width counts the tasks that it holds, and has room for them. -/
structure Counted (limit : Int) (crowd : Crowd τ) : Prop where
  width : crowd.gate.limit = limit
  /-- No task is at the gate twice. -/
  distinct : crowd.tasks.Nodup
  active : crowd.gate.active = crowd.holders.length
  most : crowd.gate.active ≤ limit

/-- No task waits while there is room that nobody is about to take. -/
structure Settled (limit : Int) (crowd : Crowd τ) : Prop extends Counted limit crowd where
  heard : crowd.waiting ≠ [] → limit ≤ crowd.gate.active + crowd.notified.length

/-- All is well with a crowd that came about through those of the past. -/
structure Orderly (limit : Int) (crowd : Crowd τ) (past : List (Crowd τ)) : Prop
    extends Settled limit crowd where
  least : 0 ≤ crowd.gate.active
  peak : IsGreatest {active | ∃ state ∈ crowd :: past, active = state.gate.active} crowd.gate.peak

/-! ## The tasks after a move -/

theorem tasks_receive (crowd : Crowd τ) (task : τ) :
    (crowd.receive task).tasks.Perm (task :: crowd.tasks) := by
  unfold receive
  split
  · rw [tasks, tasks, ← List.append_assoc, ← List.append_assoc]
    exact List.perm_middle
  · rw [tasks, tasks, List.append_assoc, List.singleton_append]
    exact List.perm_middle

theorem tasks_notify (crowd : Crowd τ) : crowd.notify.tasks.Perm crowd.tasks := by
  unfold notify
  split
  · exact .refl _
  · next first rest same =>
    rw [tasks, tasks, same]
    exact List.perm_middle

section

variable [DecidableEq τ]

theorem tasks_look (notified : task ∈ crowd.notified) : crowd.tasks.Perm
    (task :: { crowd with notified := crowd.notified.erase task }.tasks) := by
  have taken := (List.perm_cons_erase notified).append_right crowd.holders
  exact (taken.append_left crowd.waiting).trans List.perm_middle

theorem tasks_leave (inside : task ∈ crowd.holders) : crowd.tasks.Perm
    (task :: { crowd with gate := crowd.gate.leave, holders := crowd.holders.erase task }.tasks) := by
  have taken := (List.perm_cons_erase inside).append_left (crowd.waiting ++ crowd.notified)
  rw [List.append_assoc] at taken
  refine taken.trans ?_
  rw [tasks, ← List.append_assoc]
  exact List.perm_middle

end

/-! ## One move -/

namespace Settled

theorem opened {gate : Gate} (opened : Gate.ofLimit limit = .ok gate) :
    Settled (τ := τ) limit { gate } := by
  unfold Gate.ofLimit at opened
  split at opened
  · cases opened
  · next wide =>
    cases opened
    exact ⟨⟨rfl, List.nodup_nil, rfl, by dsimp only; omega⟩, fun waits => absurd rfl waits⟩

/-- A task from outside goes in or waits. In both cases one place less counts as free. -/
theorem receive (counted : Counted limit crowd)
    (near : crowd.waiting ≠ [] → limit ≤ crowd.gate.active + crowd.notified.length + 1)
    (outside : task ∉ crowd.tasks) : Settled limit (crowd.receive task) := by
  have distinct : (crowd.receive task).tasks.Nodup :=
    (tasks_receive crowd task).nodup_iff.mpr (List.nodup_cons.mpr ⟨outside, counted.distinct⟩)
  have active := counted.active
  unfold Crowd.receive hasRoom at distinct ⊢
  rw [counted.width] at distinct ⊢
  by_cases room : crowd.gate.active < limit
  · rw [if_pos (decide_eq_true room)] at distinct ⊢
    refine ⟨⟨counted.width, distinct, ?_, room⟩, fun waits => ?_⟩
    · simp only [enter, List.length_cons]
      omega
    · have := near waits
      simp only [enter]
      omega
  · rw [if_neg (by simpa using room)] at distinct ⊢
    refine ⟨⟨counted.width, distinct, active, counted.most⟩, fun _ => ?_⟩
    dsimp only
    omega

/-- One more task is notified, if one waits. -/
theorem notify (counted : Counted limit crowd)
    (near : crowd.waiting ≠ [] → limit ≤ crowd.gate.active + crowd.notified.length + 1) :
    Settled limit crowd.notify := by
  have distinct := (tasks_notify crowd).nodup_iff.mpr counted.distinct
  unfold Crowd.notify at distinct ⊢
  cases waiting : crowd.waiting with
  | nil => exact ⟨counted, fun waits => absurd waiting waits⟩
  | cons first rest =>
      rw [waiting] at distinct
      refine ⟨⟨counted.width, distinct, counted.active, counted.most⟩, fun _ => ?_⟩
      have := near (by rw [waiting]; exact List.cons_ne_nil _ _)
      simp only [List.length_cons]
      omega

theorem step [DecidableEq τ] {move : Move τ} (settled : Settled limit crowd)
    (step : Step crowd move after) : Settled limit after := by
  obtain ⟨⟨width, distinct, active, most⟩, heard⟩ := settled
  cases step with
  | come outside =>
      refine receive ⟨width, distinct, active, most⟩ (fun waits => ?_) outside
      have := heard waits
      omega
  | look notified =>
      obtain ⟨outside, others⟩ := List.nodup_cons.mp ((tasks_look notified).nodup_iff.mp distinct)
      have fewer := List.length_erase_add_one notified
      refine receive ⟨width, others, active, most⟩ (fun waits => ?_) outside
      have := heard waits
      dsimp only
      omega
  | leave ending inside =>
      obtain ⟨-, others⟩ := List.nodup_cons.mp ((tasks_leave inside).nodup_iff.mp distinct)
      have fewer := List.length_erase_add_one inside
      refine notify ⟨width, others, ?_, ?_⟩ fun waits => ?_
      · simp only [Gate.leave]
        omega
      · simp only [Gate.leave]
        omega
      · have := heard waits
        simp only [Gate.leave]
        omega

end Settled

/-! ## All moves -/

section

variable [DecidableEq τ]

/-- A move leaves the gate alone, or one goes in, or one leaves. -/
theorem gate_step {move : Move τ} (step : Step crowd move after) :
    after.gate = crowd.gate ∨ after.gate = crowd.gate.enter ∨ after.gate = crowd.gate.leave := by
  have admitted (crowd : Crowd τ) (task : τ) : (crowd.receive task).gate = crowd.gate ∨
      (crowd.receive task).gate = crowd.gate.enter := by
    unfold receive
    split
    · exact .inr rfl
    · exact .inl rfl
  have notified (crowd : Crowd τ) : crowd.notify.gate = crowd.gate := by
    unfold notify
    split
    · rfl
    · rfl
  cases step with
  | come _ => exact (admitted _ _).imp id .inl
  | look _ => exact (admitted _ _).imp id .inl
  | leave _ _ => exact .inr (.inr (notified _))

/-- The peak is still the greatest number of holders so far. -/
theorem peak_step {move : Move τ} (step : Step crowd move after)
    (peak : IsGreatest {active | ∃ state ∈ crowd :: past, active = state.gate.active}
      crowd.gate.peak) :
    IsGreatest {active | ∃ state ∈ after :: crowd :: past, active = state.gate.active}
      after.gate.peak := by
  have all : {active | ∃ state ∈ after :: crowd :: past, active = state.gate.active} =
      insert after.gate.active {active | ∃ state ∈ crowd :: past, active = state.gate.active} := by
    ext active
    simp
  rw [all]
  have grown := peak.insert after.gate.active
  have below : crowd.gate.active ≤ crowd.gate.peak := peak.2 ⟨crowd, List.mem_cons_self, rfl⟩
  suffices same : after.gate.peak = max after.gate.active crowd.gate.peak by rwa [same]
  rcases gate_step step with same | same | same
  · rw [same, max_eq_right below]
  · rw [same, enter, max_comm]
  · rw [same, Gate.leave, max_eq_right (by dsimp only; omega)]

theorem orderly_of_course {gate : Gate} (opened : Gate.ofLimit limit = .ok gate)
    (course : Course gate crowd past) : Orderly limit crowd past := by
  have least {crowd : Crowd τ} (settled : Settled limit crowd) : 0 ≤ crowd.gate.active := by
    rw [settled.active]
    exact Int.natCast_nonneg _
  induction course with
  | opened =>
      have settled := Settled.opened (τ := τ) opened
      refine ⟨settled, least settled, ?_⟩
      unfold ofLimit at opened
      split at opened
      · cases opened
      · cases opened
        simp
  | next _ step ih =>
      have settled := ih.toSettled.step step
      exact ⟨settled, least settled, peak_step step ih.peak⟩

/-- A gate that has room for at least one task can be opened, and whatever the tasks at it do, it
    counts the tasks that it holds, never more than it has room for, and no task waits while there
    is room that nobody was notified of. -/
theorem admission_orderly (τ : Type) [DecidableEq τ] (limit : Int) (wide : 1 ≤ limit) :
    ∃ gate, Gate.ofLimit limit = .ok gate ∧ ∀ (crowd : Crowd τ) (past : List (Crowd τ)),
      Course gate crowd past → Orderly limit crowd past := by
  have opened : Gate.ofLimit limit = .ok { limit } := if_neg (by omega)
  exact ⟨_, opened, fun crowd past course => orderly_of_course opened course⟩

/-- At a gate for one task two others wait, and a newcomer takes the place of the one that left
    before the one that was notified looks. -/
theorem admission_orderly_overtaken :
    (1 : Int) ≤ 1 ∧ ∃ gate crowd past, Gate.ofLimit 1 = .ok gate ∧ Course gate crowd past ∧
      crowd.waiting = [2, 1] ∧ crowd.holders = [3] ∧ Orderly 1 crowd past := by
  obtain ⟨gate, opened, orderly⟩ := admission_orderly Nat 1 le_rfl
  cases opened
  have empty : Course { limit := 1 } ({ gate := { limit := 1 } } : Crowd Nat) [] := .opened
  have held := empty.next (.come (show 0 ∉ _ by decide))
  have one := held.next (.come (show 1 ∉ _ by decide))
  have two := one.next (.come (show 2 ∉ _ by decide))
  have left := two.next (.leave .raised (show 0 ∈ _ by decide))
  have taken := left.next (.come (show 3 ∉ _ by decide))
  have looked := taken.next (.look (show 1 ∈ _ by decide))
  exact ⟨le_rfl, _, _, _, rfl, looked, rfl, rfl, orderly _ _ looked⟩

end

end Scholia.Gate.Crowd
