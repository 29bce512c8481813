import Scholia.Proofs.Run.Treatment

/-! # How a unit comes to an end

A unit that is considered ends in one of three ways: a generated comment is put on it, it is
skipped, or it fails. Its bill tells which, and but for the related declarations that were found
nothing else is charged. What accounts and reports tell of a unit follows from its ending.
-/

namespace Scholia

namespace Units

open RunM

/-- The ways a unit ends, with what is charged for each. -/
inductive Ending (rules : Reconciler) (document : Document) (unit : Declaration) :
    Declaration → Bill → Prop where
  | applied (text : Text) (news : (unit.reconcile rules text).1.applied = true) :
      Ending rules document unit (unit.reconcile rules text).2 (.ofCount .unitsSucceeded 1)
  | skipped : Ending rules document unit unit (.ofCount .unitsSkipped 1)
  | failed (message : String) (traced : Bool) : Ending rules document unit unit
      (.ofCount .unitsFailed 1 + .ofRecord (errorOf document unit message traced))

/-- A unit ends, and the related declarations that were found for it have been counted before. -/
def Finishes (rules : Reconciler) (document : Document) (unit changed : Declaration) (bill : Bill) :
    Prop :=
  ∃ number ending, Ending rules document unit changed ending ∧
    bill = .ofCount .relationshipsDiscovered number + ending

/-- A treatment is one of the ways to end. -/
theorem ending_of_treatment (rules : Reconciler) (document : Document) (unit : Declaration)
    (treatment : Treatment) : Ending rules document unit (treatment.changed rules unit)
      ((treatment.verdict rules unit).bill document unit) := by
  cases treatment with
  | comment text =>
      rw [Treatment.changed, Treatment.verdict, Verdict.ofOutcome]
      split
      · next news => exact .applied text news
      · next unapplied =>
        rw [Declaration.reconcile_of_not_applied (Bool.eq_false_iff.mpr unapplied)]
        split
        · exact .failed _ false
        · exact .skipped
  | passed => exact .skipped
  | declined reason => exact .failed reason false
  | broken failure => exact .failed failure.message true

/-- A unit that is considered finishes. -/
theorem charges_consider {σ : Type} (plan : Plan σ) (document : Document) (unit : Declaration) :
    Charges (consider plan document unit)
      (fun changed bill => ∃ own, Finishes plan.reconciler document unit changed own ∧
        bill = .ofCount .unitsConsidered 1 + own) never := by
  intro world isOpen
  obtain ⟨number, after, ran, charged⟩ := charged_consider plan document unit isOpen rfl
  have ending := ending_of_treatment plan.reconciler document unit
    (treatment plan unit (world.extractor.bundle document unit) world)
  exact ⟨_, _, after, ran, charged.stats, _, ⟨number, _, ending, rfl⟩, rfl⟩

/-- What is charged for a unit that is begun with: all of it if nothing is asked for it. -/
def Begins (rules : Reconciler) (document : Document) (unit : Declaration) :
    Declaration ⊕ Bundle → Bill → Prop
  | .inl changed, bill => ∃ own, Finishes rules document unit changed own ∧
    bill = .ofCount .unitsConsidered 1 + own
  | .inr _, bill => ∃ number,
    bill = .ofCount .unitsConsidered 1 + .ofCount .relationshipsDiscovered number

theorem charges_begin {σ : Type} (plan : Plan σ) (document : Document) (unit : Declaration) :
    Charges (begin plan document unit) (Begins plan.reconciler document unit) never := by
  intro world isOpen
  obtain ⟨begun, number, after, ran, begins⟩ := charged_begin plan document unit isOpen
  cases begun with
  | inl changed =>
      obtain ⟨treatment, -, rfl, charged⟩ := begins
      have ending := ending_of_treatment plan.reconciler document unit treatment
      exact ⟨_, _, after, ran, charged.stats, _, ⟨number, _, ending, rfl⟩, rfl⟩
  | inr found => exact ⟨_, _, after, ran, begins.2.stats, number, rfl⟩

/-- A unit that is answered ends. -/
theorem charges_answer {σ : Type} (plan : Plan σ) (document : Document) (unit : Declaration)
    (unitId : String) (result : Except Tokens.Overflow Response) :
    Charges (answer plan document unit unitId result) (Ending plan.reconciler document unit) never := by
  intro world isOpen
  obtain ⟨after, ran, charged⟩ := charged_answer plan document unit isOpen unitId result
  exact ⟨_, _, after, ran, charged.stats, ending_of_treatment plan.reconciler document unit _⟩

end Units

end Scholia
