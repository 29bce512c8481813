import Scholia.Proofs.Comment.Containment
import Scholia.Proofs.Comment.Wording
import Scholia.Proofs.Run.Endings

/-! # What is reported of a comment

Reconciliation reports a new comment wherever it changes one, and touches nothing where it reports
none. It reports a new comment without a change in one case: a text is compared with the comment in
place as it was generated, but is put in place as a doc comment, and this may be the one that is
there. `Reconciler.Restates` says when. The counters of a run repeat the reports.
-/

namespace Scholia

open Text Comment

namespace Reconciler

/-- A comment is overwritten with itself: the generated text is no doc comment, its words change
    when it becomes one, and the comment in place is the one that it becomes. -/
structure Restates (rules : Reconciler) (slot : Slot) (generated : Text) : Prop where
  admitted : rules.Admits generated
  overwrites : rules.policy.overwrites = true
  bare : isBlock generated = false
  reworded : (Block.read generated).words.map escapeTerminators ≠ contentWords generated
  found : slot.current = some (Block.read generated).render

/-- What a generated text becomes differs from it in normal form if its words do. -/
theorem news_wrap_iff (generated : Text) :
    normalize (Block.wrap generated) ≠ normalize generated ↔ isBlock generated = false ∧
      (Block.read generated).words.map escapeTerminators ≠ contentWords generated := by
  have readable := Block.readable_read generated
  cases block : isBlock generated with
  | true => simp [Block.wrap, block, normalize_trim]
  | false =>
      rw [wrap_of_not_isBlock block, Ne, normalize_eq_iff,
        Block.contentWords_render readable.whole readable.tags]
      simp

variable {rules : Reconciler} {slot : Slot} {generated : Text}

/-- The comment in place is reported as new, and is the same as before. -/
theorem Restates.unchanged (restates : rules.Restates slot generated) :
    (rules.reconcile slot generated).1.applied = true ∧
      (rules.reconcile slot generated).2.current = slot.current := by
  obtain ⟨admitted, overwrites, bare, reworded, found⟩ := restates
  have whole := wrap_of_not_isBlock bare
  have news : normalize (Block.read generated).render ≠ normalize generated :=
    whole ▸ (news_wrap_iff generated).mpr ⟨bare, reworded⟩
  rw [reconcile_of_admits admitted found, if_neg news, if_pos overwrites,
    (enclosed_wrap generated).current_write, whole, found]
  exact ⟨rfl, rfl⟩

theorem applied_iff : (rules.reconcile slot generated).1.applied = true ↔
    (rules.reconcile slot generated).2.current ≠ slot.current ∨ rules.Restates slot generated := by
  constructor
  · intro applied
    have reached := rules.effect slot generated
    generalize rules.reconcile slot generated = result at reached applied
    cases reached with
    | kept outcome unapplied =>
        rw [unapplied] at applied
        cases applied
    | inserted admitted bare => exact .inl (by simp [bare])
    | overwritten existing admitted found news overwrites =>
        by_cases same : existing = Block.wrap generated
        · subst same
          obtain ⟨bare, reworded⟩ := (news_wrap_iff generated).mp news
          rw [wrap_of_not_isBlock bare] at found
          exact .inr ⟨admitted, overwrites, bare, reworded, found⟩
        · left
          rw [(enclosed_wrap generated).current_write, found]
          exact fun equal => same (Option.some.inj equal).symm
    | merged existing admitted found _ _ _ _ change =>
        left
        have enclosed : Enclosed (mergedText existing generated) := enclosed_render _
        rw [enclosed.current_write, found]
        exact fun equal => change (congrArg normalize (Option.some.inj equal))
  · rintro (changed | restates)
    · by_contra unapplied
      exact changed (by rw [kept_of_not_applied (by simpa using unapplied)])
    · exact restates.unchanged.1

end Reconciler

namespace Units

open RunM

/-- The counters tell what has happened to a unit: one that is counted as succeeded has a new
    comment, or one that was overwritten with itself; one that is counted as failed or skipped has
    not been touched. -/
inductive Told (rules : Reconciler) (unit : Declaration) : Declaration → Bill → Prop where
  | succeeded {bill : Bill} (text : Text) (succeeded : bill.counts .unitsSucceeded = 1)
      (failed : bill.counts .unitsFailed = 0) (skipped : bill.counts .unitsSkipped = 0)
      (news : (unit.reconcile rules text).2.doc ≠ unit.doc ∨ rules.Restates unit.slot text) :
      Told rules unit (unit.reconcile rules text).2 bill
  | failed {bill : Bill} (succeeded : bill.counts .unitsSucceeded = 0)
      (failed : bill.counts .unitsFailed = 1) (skipped : bill.counts .unitsSkipped = 0) :
      Told rules unit unit bill
  | skipped {bill : Bill} (succeeded : bill.counts .unitsSucceeded = 0)
      (failed : bill.counts .unitsFailed = 0) (skipped : bill.counts .unitsSkipped = 1) :
      Told rules unit unit bill

variable {rules : Reconciler} {document : Document} {unit changed : Declaration}

theorem Ending.told {ending : Bill} (ends : Ending rules document unit changed ending)
    {more : Bill} (aside : ∀ counter ∈ [Counter.unitsSucceeded, .unitsFailed, .unitsSkipped],
      more.counts counter = 0) : Told rules unit changed (more + ending) := by
  cases ends with
  | applied text news =>
      refine .succeeded text ?_ ?_ ?_ (Reconciler.applied_iff.mp news) <;> simp_all
  | skipped => exact .skipped (by simp_all) (by simp_all) (by simp_all)
  | failed => exact .failed (by simp_all) (by simp_all) (by simp_all)

/-- Reconciliation reports a new comment if and only if it changes the comment, unless it overwrites
    a comment with itself, and touches nothing where it reports none. So the counters tell of each
    unit that is considered what has happened to its comment. -/
theorem reported_change {σ : Type} (plan : Plan σ) (document : Document) (unit : Declaration) :
    (∀ (rules : Reconciler) (slot : Slot) (generated : Text),
      (((rules.reconcile slot generated).1.applied = true ↔
          (rules.reconcile slot generated).2.current ≠ slot.current) ↔
        ¬rules.Restates slot generated) ∧
      ((rules.reconcile slot generated).1.applied = false →
        (rules.reconcile slot generated).2 = slot)) ∧
      Charges (consider plan document unit) (Told plan.reconciler unit) never := by
  refine ⟨fun rules slot generated => ⟨⟨?_, ?_⟩, Reconciler.kept_of_not_applied⟩, ?_⟩
  · rintro reports restates
    obtain ⟨applied, unchanged⟩ := restates.unchanged
    exact reports.mp applied unchanged
  · intro changes
    exact Reconciler.applied_iff.trans (or_iff_left changes)
  · refine (charges_consider plan document unit).weaken ?_ (fun _ _ impossible => impossible)
    rintro changed _ ⟨_, ⟨number, ending, ends, rfl⟩, rfl⟩
    rw [← Bill.add_assoc]
    exact ends.told (by simp)

/-- A comment with an escaped closing marker is reported as new when it is overwritten with the text
    that it was made of, and is the same as before. -/
theorem reconcile_reports_unchanged :
    ∃ (rules : Reconciler) (slot : Slot) (generated : Text), rules.policy.overwrites = true ∧
      (rules.reconcile slot generated).1.applied = true ∧
      (rules.reconcile slot generated).2.current = slot.current :=
  ⟨⟨0, { overwriteExisting := true }⟩, ⟨some "/**\n * a*\\/b\n */".toList, none⟩, "a*/b".toList,
    by decide⟩

end Units

end Scholia
