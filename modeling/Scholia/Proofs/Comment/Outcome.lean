import Scholia.Reconcile
import Scholia.Proofs.Comment.Terminator

/-! # What reconciliation does to a comment

One call either leaves the place for the comment alone or writes one new comment into it. The
cases of `Reconciler.Effect` say when, so that no other proof takes `reconcile` apart.
-/

namespace Scholia

namespace Slot

@[simp] theorem current_write (slot : Slot) (text : Text) :
    (slot.write text).current = some (Text.trim text) := rfl

end Slot

/-- A comment that is enclosed in its markers is written as it is. -/
theorem Comment.Enclosed.current_write {text : Text} (enclosed : Enclosed text) (slot : Slot) :
    (slot.write text).current = some text :=
  congrArg some enclosed.trim_eq

namespace Reconciler

/-- The comment that a merge of a generated text into an existing one renders. -/
def mergedText (existing generated : Text) : Text :=
  ((Block.read existing).merge (Block.read generated)).render

/-- The generated text is long enough. -/
def Admits (rules : Reconciler) (generated : Text) : Prop :=
  rules.minLength ≤ ((Text.trim generated).length : Int)

/-- What one reconciliation may answer, and when. -/
inductive Effect (rules : Reconciler) (slot : Slot) (generated : Text) : Outcome × Slot → Prop where
  | kept (outcome : Outcome) (unapplied : outcome.applied = false) :
      Effect rules slot generated (outcome, slot)
  | inserted (admitted : rules.Admits generated) (bare : slot.current = none) :
      Effect rules slot generated (.appliedNew, slot.write (Block.wrap generated))
  | overwritten (existing : Text) (admitted : rules.Admits generated)
      (found : slot.current = some existing)
      (news : Comment.normalize existing ≠ Comment.normalize generated)
      (overwrites : rules.policy.overwrites = true) :
      Effect rules slot generated (.appliedNew, slot.clear.write (Block.wrap generated))
  | merged (existing : Text) (admitted : rules.Admits generated)
      (found : slot.current = some existing) (readable : Comment.isBlock existing = true)
      (news : Comment.normalize existing ≠ Comment.normalize generated)
      (overwrites : rules.policy.overwrites = false) (merges : rules.policy.merges = true)
      (change : Comment.normalize (mergedText existing generated) ≠ Comment.normalize existing) :
      Effect rules slot generated (.appliedMerged, slot.clear.write (mergedText existing generated))

theorem mergeInto_of_isBlock {existing : Text} (readable : Comment.isBlock existing = true)
    (slot : Slot) (generated : Text) :
    mergeInto slot existing generated =
      if Comment.normalize (mergedText existing generated) = Comment.normalize existing then
        (.skippedIdentical, slot)
      else (.appliedMerged, slot.clear.write (mergedText existing generated)) := by
  simp only [mergeInto, Block.parse, readable, ↓reduceIte]
  rfl

theorem mergeInto_of_not_isBlock {existing : Text} (unreadable : Comment.isBlock existing = false)
    (slot : Slot) (generated : Text) :
    mergeInto slot existing generated = (.unreadable, slot) := by
  simp [mergeInto, Block.parse, unreadable]

/-- What a text that is long enough meets where there is a comment. -/
theorem reconcile_of_admits {rules : Reconciler} {slot : Slot} {existing generated : Text}
    (admitted : rules.Admits generated) (found : slot.current = some existing) :
    rules.reconcile slot generated =
      if Comment.normalize existing = Comment.normalize generated then (.skippedIdentical, slot)
      else if rules.policy.overwrites then
        (.appliedNew, slot.clear.write (Block.wrap generated))
      else if !rules.policy.merges then (.skippedExistingAdequate, slot)
      else mergeInto slot existing generated := by
  rw [reconcile, if_neg (Int.not_lt.mpr admitted), found]

theorem effect (rules : Reconciler) (slot : Slot) (generated : Text) :
    Effect rules slot generated (rules.reconcile slot generated) := by
  unfold reconcile
  split
  · exact .kept _ rfl
  · next long =>
    have admitted : rules.Admits generated := Int.not_lt.mp long
    split
    · next bare => exact .inserted admitted bare
    · next existing found =>
      split
      · exact .kept _ rfl
      · next news =>
        split
        · next overwrites => exact .overwritten existing admitted found news overwrites
        · next overwrites =>
          split
          · exact .kept _ rfl
          · next merges =>
            cases readable : Comment.isBlock existing with
            | false =>
                rw [mergeInto_of_not_isBlock readable]
                exact .kept _ rfl
            | true =>
                rw [mergeInto_of_isBlock readable]
                split
                · exact .kept _ rfl
                · next change =>
                  exact .merged existing admitted found readable news (by simpa using overwrites)
                    (by simpa using merges) change

/-- The place is touched only where a comment is put into it. -/
theorem kept_of_not_applied {rules : Reconciler} {slot : Slot} {generated : Text}
    (unapplied : (rules.reconcile slot generated).1.applied = false) :
    (rules.reconcile slot generated).2 = slot := by
  have reached := rules.effect slot generated
  generalize rules.reconcile slot generated = result at reached unapplied
  cases reached with
  | kept => rfl
  | inserted | overwritten | merged => cases unapplied

end Reconciler

end Scholia
