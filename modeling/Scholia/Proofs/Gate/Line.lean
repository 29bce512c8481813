import Mathlib.Data.Finset.Dedup
import Mathlib.Data.Fintype.EquivFin
import Scholia.Proofs.Gate.Crowd

/-! # A line as a crowd

A line in which guests come and are dismissed is one of the ways in which a crowd can come about: in
it those that are notified look before anyone else does anything. So a line is as orderly as any
crowd is.
-/

namespace Scholia.Gate.Line

variable {gate : Gate} {line : Line} {visitors : List Visitor} {leaving : Nat}

/-- A line that came about at a gate that was open to all, as guests came and were dismissed. -/
inductive Course (gate : Gate) : Line → Prop where
  | opened : Course gate { gate }
  | arrive {line : Line} (before : Course gate line) (name : String) :
      Course gate (line.arrive ⟨name, true⟩)
  | dismiss {line : Line} (before : Course gate line) (name : String) :
      Course gate (line.dismiss name)

/-- A crowd in which as many wait and are inside as in a line. Some of those that are inside no
    longer count in the line, as they are about to leave. -/
structure Shown (line : Line) (visitors : List Visitor) (leaving : Nat) (crowd : Crowd Nat) :
    Prop where
  gate : crowd.gate = line.gate
  guests : ∀ visitor ∈ visitors, visitor.isGuest = true
  waiting : crowd.waiting.length = visitors.length
  notified : crowd.notified = []
  holders : crowd.holders.length = line.inside.length + leaving

/-- A line shows some crowd that can come about. -/
def Possible (gate : Gate) (line : Line) (leaving : Nat) : Prop :=
  ∃ crowd past, Crowd.Course gate crowd past ∧ Shown line line.waiting leaving crowd

theorem exists_outside (crowd : Crowd Nat) : ∃ task, task ∉ crowd.tasks := by
  obtain ⟨task, outside⟩ := Infinite.exists_notMem_finset crowd.tasks.toFinset
  exact ⟨task, fun inside => outside (List.mem_toFinset.mpr inside)⟩

/-- A guest that comes is a task from outside. -/
theorem Possible.arrive (possible : Possible gate line 0) (name : String) :
    Possible gate (line.arrive ⟨name, true⟩) 0 := by
  obtain ⟨crowd, past, course, shown⟩ := possible
  obtain ⟨task, outside⟩ := exists_outside crowd
  refine ⟨_, _, course.next (.come outside), ?_⟩
  have same := shown.gate
  unfold Line.arrive agree Crowd.receive
  simp only [if_true]
  cases room : line.gate.hasRoom with
  | true =>
      rw [same, room]
      refine ⟨rfl, shown.guests, shown.waiting, shown.notified, ?_⟩
      have := shown.holders
      simp only [letIn, if_true, List.length_cons, List.length_append, List.length_nil]
      omega
  | false =>
      rw [same, room, if_neg Bool.false_ne_true, if_neg Bool.false_ne_true]
      refine ⟨rfl, ?_, ?_, shown.notified, shown.holders⟩
      · simpa [or_imp, forall_and] using shown.guests
      · simpa using shown.waiting

/-- Whoever is notified looks at once; one whose signal was given leaves at once. -/
theorem Shown.admitNext {crowd : Crowd Nat} {past : List (Crowd Nat)}
    (shown : Shown line visitors leaving crowd) (room : line.gate.hasRoom = true)
    (course : Crowd.Course gate crowd.notify past) :
    Possible gate (line.admitNext visitors) leaving := by
  induction visitors generalizing line crowd past with
  | nil =>
      have none : crowd.waiting = [] := List.eq_nil_of_length_eq_zero shown.waiting
      rw [show crowd.notify = crowd by unfold Crowd.notify; rw [none]] at course
      exact ⟨crowd, past, course, shown.gate, shown.guests, shown.waiting, shown.notified,
        shown.holders⟩
  | cons visitor rest ih =>
      obtain ⟨same, guests, waiting, notified, holders⟩ := shown
      obtain ⟨guest, others⟩ := List.forall_mem_cons.mp guests
      obtain ⟨task, tasks, queue⟩ := List.exists_cons_of_length_eq_add_one waiting
      rw [queue, List.length_cons, List.length_cons, Nat.add_right_cancel_iff] at waiting
      have next : crowd.notify = { crowd with waiting := tasks, notified := [task] } := by
        unfold Crowd.notify
        rw [queue, notified]
      rw [next] at course
      have looked := course.next (.look List.mem_cons_self)
      unfold Crowd.receive at looked
      dsimp only at looked
      rw [same, room, if_pos rfl, List.erase_cons_head] at looked
      unfold Line.admitNext
      rw [if_pos room, guest, Bool.true_and]
      split
      · next given =>
        have left := looked.next (.leave .returned List.mem_cons_self)
        dsimp only at left
        rw [List.erase_cons_head] at left
        have after : Shown { line with
              gate := line.gate.enter.leave
              admitted := line.admitted ++ [visitor.name] } rest leaving
            ⟨line.gate.enter.leave, tasks, [], crowd.holders⟩ :=
          ⟨rfl, others, waiting, rfl, holders⟩
        refine ih after ?_ left
        simpa [hasRoom, enter, Gate.leave] using room
      · refine ⟨_, _, looked, rfl, others, waiting, rfl, ?_⟩
        simp only [letIn, guest, if_true, List.length_cons, List.length_append, List.length_nil]
        omega

/-- One of those that are about to leave does. -/
theorem Possible.depart {limit : Int} (opened : Gate.ofLimit limit = .ok gate)
    (possible : Possible gate line (leaving + 1)) : Possible gate line.depart leaving := by
  obtain ⟨crowd, past, course, shown⟩ := possible
  have orderly := Crowd.orderly_of_course opened course
  have count := shown.holders
  obtain ⟨task, inside⟩ := List.exists_mem_of_length_pos (l := crowd.holders) (by omega)
  have fewer := List.length_erase_add_one inside
  have most := orderly.most
  have width := orderly.width
  rw [shown.gate] at most width
  have left := course.next (.leave .returned inside)
  have after : Shown { line with gate := line.gate.leave } line.waiting leaving
      { crowd with gate := crowd.gate.leave, holders := crowd.holders.erase task } := by
    refine ⟨?_, shown.guests, shown.waiting, shown.notified, ?_⟩
    · dsimp only
      rw [shown.gate]
    · dsimp only
      omega
  refine after.admitNext ?_ left
  simp only [hasRoom, Gate.leave, width, decide_eq_true_eq]
  omega

/-- All those that are about to leave do, one by one. -/
theorem Possible.departAll {limit : Int} (opened : Gate.ofLimit limit = .ok gate)
    (leaving : List (String × Nat)) (possible : Possible gate line leaving.length) :
    Possible gate (leaving.foldl (fun line _ => line.depart) line) 0 := by
  induction leaving generalizing line with
  | nil => exact possible
  | cons _ _ ih => exact ih (possible.depart opened)

theorem Possible.dismiss {limit : Int} (opened : Gate.ofLimit limit = .ok gate)
    (possible : Possible gate line 0) (name : String) : Possible gate (line.dismiss name) 0 := by
  obtain ⟨crowd, past, course, shown⟩ := possible
  unfold Line.dismiss
  simp only [List.partition_eq_filter_filter]
  refine Possible.departAll opened _
    ⟨crowd, past, course, shown.gate, shown.guests, shown.waiting, shown.notified, ?_⟩
  rw [shown.holders, Nat.add_zero, Nat.add_comm]
  exact List.length_eq_length_filter_add _

/-- Guests that come and are dismissed make up a crowd. -/
theorem possible_of_course {limit : Int} (opened : Gate.ofLimit limit = .ok gate)
    (course : Course gate line) : Possible gate line 0 := by
  induction course with
  | opened => exact ⟨{ gate }, [], .opened, rfl, by simp, rfl, rfl, rfl⟩
  | arrive _ name ih => exact ih.arrive name
  | dismiss _ name ih => exact ih.dismiss opened name

/-- A line counts the guests inside, never more than there is room for, and nobody waits in it while
    there is room. -/
theorem orderly_of_course {limit : Int} (opened : Gate.ofLimit limit = .ok gate)
    (course : Course gate line) :
    line.gate.active = line.inside.length ∧ line.gate.active ≤ limit ∧
      (line.waiting ≠ [] → line.gate.active = limit) := by
  obtain ⟨crowd, past, came, shown⟩ := possible_of_course opened course
  have orderly := Crowd.orderly_of_course opened came
  have active := orderly.active
  have most := orderly.most
  rw [shown.gate, shown.holders] at active
  rw [shown.gate] at most
  refine ⟨active, most, fun waits => ?_⟩
  have someone : crowd.waiting ≠ [] := by
    rw [← List.length_pos_iff, shown.waiting]
    exact List.length_pos_iff.mpr waits
  have heard := orderly.heard someone
  rw [shown.gate, shown.notified, List.length_nil] at heard
  omega

end Scholia.Gate.Line
