import Scholia.Similarity

/-! # Ranking by similarity

The scores of qualifying candidates are numbers, and numbers are ordered linearly up to equal
scores. So sorting them puts the best first, and candidates of equal scores stay in the order they
had.
-/

namespace Scholia

namespace Binary64

theorem le_iff {x y : Float} (number : isNaN x = false) (number' : isNaN y = false) :
    le x y = true ↔ orderKey x ≤ orderKey y := by
  simp [le, number, number']

/-- What is compared with success is a number. -/
theorem not_isNaN_of_le {x y : Float} (holds : le x y = true) : isNaN y = false := by
  unfold le at holds
  rw [Bool.and_eq_true, Bool.and_eq_true] at holds
  simpa using holds.1.2

end Binary64

namespace Similarity

variable {α : Type} {query : List Float} {candidates : List (α × List Float)} {threshold : Float}

/-- A candidate scores at least as much as another. -/
def ahead (first second : α × Float) : Bool :=
  Binary64.le second.2 first.2

/-- The order of scores, extended to values that are no numbers. -/
def aheadByKey (first second : α × Float) : Bool :=
  Binary64.orderKey second.2 ≤ Binary64.orderKey first.2

theorem aheadByKey_trans (first second third : α × Float) (before : aheadByKey first second = true)
    (after : aheadByKey second third = true) : aheadByKey first third = true := by
  rw [aheadByKey, decide_eq_true_eq] at before after ⊢
  exact Int.le_trans after before

theorem aheadByKey_total (first second : α × Float) :
    (aheadByKey first second || aheadByKey second first) = true := by
  rw [aheadByKey, aheadByKey, Bool.or_eq_true, decide_eq_true_eq, decide_eq_true_eq]
  exact Int.le_total _ _

theorem not_isNaN_of_mem_qualifying {entry : α × Float}
    (member : entry ∈ qualifying query candidates threshold) : Binary64.isNaN entry.2 = false := by
  obtain ⟨⟨item, vector⟩, -, kept⟩ := List.mem_filterMap.mp member
  rw [Option.ite_none_right_eq_some, Bool.and_eq_true] at kept
  cases kept.2
  exact Binary64.not_isNaN_of_le kept.1.2

/-- All qualifying candidates, best first. -/
def ranking (query : List Float) (candidates : List (α × List Float)) (threshold : Float) :
    List (α × Float) :=
  (qualifying query candidates threshold).mergeSort ahead

theorem ranking_perm :
    (ranking query candidates threshold).Perm (qualifying query candidates threshold) :=
  List.mergeSort_perm _ _

theorem ahead_eq {first second : α × Float}
    (number : Binary64.isNaN first.2 = false) (number' : Binary64.isNaN second.2 = false) :
    ahead first second = aheadByKey first second := by
  rw [Bool.eq_iff_iff, ahead, aheadByKey, Binary64.le_iff number' number, decide_eq_true_eq]

theorem ranking_eq : ranking query candidates threshold =
    (qualifying query candidates threshold).mergeSort aheadByKey := by
  have agree : ((qualifying query candidates threshold).mergeSort ahead).map id =
      ((qualifying query candidates threshold).map id).mergeSort aheadByKey :=
    List.map_mergeSort fun first member second member' =>
      ahead_eq (not_isNaN_of_mem_qualifying member) (not_isNaN_of_mem_qualifying member')
  rwa [List.map_id, List.map_id] at agree

/-- Sorting leaves the candidates of one score as they were among themselves. -/
theorem filter_ranking (score : Int) :
    (ranking query candidates threshold).filter (Binary64.orderKey ·.2 = score) =
      (qualifying query candidates threshold).filter (Binary64.orderKey ·.2 = score) := by
  have level : ((qualifying query candidates threshold).filter
      (Binary64.orderKey ·.2 = score)).Pairwise (aheadByKey · · = true) := by
    refine List.pairwise_of_forall_mem_list fun first member second member' => ?_
    have same := of_decide_eq_true (List.mem_filter.mp member).2
    have same' := of_decide_eq_true (List.mem_filter.mp member').2
    exact decide_eq_true (Int.le_of_eq (same'.trans same.symm))
  have inside := List.sublist_mergeSort aheadByKey_trans aheadByKey_total level List.filter_sublist
  have again := inside.filter fun entry => decide (Binary64.orderKey entry.2 = score)
  rw [← ranking_eq, List.filter_filter] at again
  simp only [Bool.and_self] at again
  exact (again.eq_of_length (ranking_perm.filter _).length_eq.symm).symm

/-- The best come first, and those of equal scores in the order of the candidates. -/
theorem pairwise_ranking {earlier : α × Float → α × Float → Prop}
    (order : (qualifying query candidates threshold).Pairwise earlier) :
    (ranking query candidates threshold).Pairwise fun first second =>
      ahead first second = true ∧ (ahead second first = true → earlier first second) := by
  refine List.pairwise_iff_forall_sublist.mpr fun {first second} pair => ?_
  have member : first ∈ ranking query candidates threshold := pair.subset (by simp)
  have member' : second ∈ ranking query candidates threshold := pair.subset (by simp)
  have number := not_isNaN_of_mem_qualifying (ranking_perm.mem_iff.mp member)
  have number' := not_isNaN_of_mem_qualifying (ranking_perm.mem_iff.mp member')
  have sorted : (ranking query candidates threshold).Pairwise (aheadByKey · · = true) := by
    rw [ranking_eq]
    exact List.pairwise_mergeSort aheadByKey_trans aheadByKey_total _
  have before := List.pairwise_iff_forall_sublist.mp sorted pair
  rw [ahead_eq number number', ahead_eq number' number]
  refine ⟨before, fun after => ?_⟩
  have same : Binary64.orderKey second.2 = Binary64.orderKey first.2 :=
    Int.le_antisymm (of_decide_eq_true before) (of_decide_eq_true after)
  have level := pair.filter fun entry =>
    decide (Binary64.orderKey entry.2 = Binary64.orderKey first.2)
  rw [filter_ranking, List.filter_cons_of_pos (by simp), List.filter_cons_of_pos (by simpa),
    List.filter_nil] at level
  exact List.pairwise_iff_forall_sublist.mp order (level.trans List.filter_sublist)

end Similarity

end Scholia
