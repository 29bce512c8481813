import Scholia.Comment.Block
import Scholia.Comment.Slot

/-! # Reconciling generated comments with existing ones

For each declaration a generated comment is inserted, merged into the existing one, or dropped.
-/

namespace Scholia

/-- The four signals that decide how existing comments are treated. -/
structure Policy where
  overwriteExisting : Bool := false
  mergeExisting : Bool := true
  forceOverwrite : Bool := false
  noMergeExisting : Bool := false
  deriving Repr, DecidableEq, BEq

namespace Policy

/-- Existing comments are replaced. -/
def overwrites (policy : Policy) : Bool :=
  policy.forceOverwrite || policy.noMergeExisting || policy.overwriteExisting

/-- Existing comments take in generated ones. -/
def merges (policy : Policy) : Bool :=
  policy.mergeExisting && !policy.noMergeExisting

/-- A declaration that has a comment is worth a request. -/
def allowsExisting (policy : Policy) : Bool :=
  policy.forceOverwrite || policy.overwriteExisting || policy.merges

end Policy

/-- What reconciliation did to one declaration. -/
inductive Outcome where
  | appliedNew
  | appliedMerged
  | skippedExistingAdequate
  | skippedTooShort
  | skippedIdentical
  | unreadable
  deriving Repr, DecidableEq, BEq

namespace Outcome

/-- The word for an outcome in reports. -/
def label : Outcome → String
  | appliedNew => "applied-new"
  | appliedMerged => "applied-merged"
  | skippedExistingAdequate => "skipped-existing-adequate"
  | skippedTooShort => "skipped-too-short"
  | skippedIdentical => "skipped-identical"
  | unreadable => "error"

/-- The outcome put a comment into the place. -/
def applied : Outcome → Bool
  | appliedNew | appliedMerged => true
  | _ => false

end Outcome

/-- The rules of reconciliation: the policy, and the least length of a generated comment. -/
structure Reconciler where
  minLength : Int
  policy : Policy

namespace Reconciler

/-- Merge a generated comment into the existing one, which has to be a readable block. -/
def mergeInto (slot : Slot) (existing generated : Text) : Outcome × Slot :=
  match Block.parse existing with
  | .error .notABlock => (.unreadable, slot)
  | .ok block =>
    let merged := (block.merge (Block.read generated)).render
    if Comment.normalize merged = Comment.normalize existing then (.skippedIdentical, slot)
    else (.appliedMerged, slot.clear.write merged)

/-- Reconcile a generated comment with the place it is meant for. -/
def reconcile (rules : Reconciler) (slot : Slot) (generated : Text) : Outcome × Slot :=
  if ((Text.trim generated).length : Int) < rules.minLength then (.skippedTooShort, slot)
  else
    match slot.current with
    | none => (.appliedNew, slot.write (Block.wrap generated))
    | some existing =>
      if Comment.normalize existing = Comment.normalize generated then (.skippedIdentical, slot)
      else if rules.policy.overwrites then
        (.appliedNew, slot.clear.write (Block.wrap generated))
      else if !rules.policy.merges then (.skippedExistingAdequate, slot)
      else mergeInto slot existing generated

end Reconciler

end Scholia
