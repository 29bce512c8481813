import Scholia.Proofs.Comment.Containment
import Scholia.Proofs.Comment.Outcome
import Scholia.Proofs.Run.PassAccounting

/-! # Units that are passed over

A unit that has a comment is passed over where existing comments are left alone: no text is
generated for it. Reconciliation would leave the comment alone as well, whatever the text, but for
one setting: in a run without merging, a text that got as far as reconciliation would overwrite the
comment.
-/

namespace Scholia

/-- Where existing comments are left alone, nothing but a run without merging overwrites them, and
    nothing is merged. -/
theorem Policy.closed {policy : Policy} (closed : policy.allowsExisting = false) :
    policy.overwrites = policy.noMergeExisting ∧ policy.merges = false := by
  simp only [allowsExisting, Bool.or_eq_false_iff] at closed
  obtain ⟨⟨unforced, kept⟩, unmerged⟩ := closed
  exact ⟨by simp [overwrites, unforced, kept], unmerged⟩

namespace Reconciler

/-- A generated text would overwrite a comment, because merging is switched off for the run. -/
structure WouldOverwrite (rules : Reconciler) (existing generated : Text) : Prop where
  unmerged : rules.policy.noMergeExisting = true
  admitted : rules.Admits generated
  news : Comment.normalize existing ≠ Comment.normalize generated
  change : Block.wrap generated ≠ existing

theorem reconcile_closed_iff {rules : Reconciler} (closed : rules.policy.allowsExisting = false)
    {slot : Slot} {existing : Text} (found : slot.current = some existing) (generated : Text) :
    (rules.reconcile slot generated).2.current ≠ slot.current ↔
      rules.WouldOverwrite existing generated := by
  obtain ⟨overwrites, merges⟩ := Policy.closed closed
  have reached := rules.effect slot generated
  constructor
  · intro changed
    generalize rules.reconcile slot generated = result at reached changed
    cases reached with
    | kept outcome unapplied => exact absurd rfl changed
    | inserted admitted bare => rw [found] at bare; cases bare
    | merged _ _ _ _ _ _ merging => rw [merges] at merging; cases merging
    | overwritten other admitted same news overwriting =>
        obtain rfl : existing = other := Option.some.inj (found.symm.trans same)
        rw [(Comment.enclosed_wrap generated).current_write, found] at changed
        exact ⟨overwrites.symm.trans overwriting, admitted, news, fun equal => changed (by rw [equal])⟩
  · rintro ⟨unmerged, admitted, news, change⟩
    rw [reconcile_of_admits admitted found, if_neg news, if_pos (overwrites.trans unmerged),
      (Comment.enclosed_wrap generated).current_write, found]
    exact fun equal => change (Option.some.inj equal)

/-- In a run without merging, a text for a unit that is passed over would overwrite its comment. -/
theorem reconcile_closed_overwrites :
    ∃ (rules : Reconciler) (existing generated : Text), rules.policy.allowsExisting = false ∧
      (rules.reconcile ⟨some existing, none⟩ generated).2.current ≠ some existing :=
  ⟨⟨10, { noMergeExisting := true }⟩, "/** Old text. */".toList, "/** Computes X */".toList,
    by decide, by decide⟩

end Reconciler

namespace Units

open RunM

variable {σ : Type}

/-- The world after a unit was passed over. -/
def passedOver (world : World σ) : World σ :=
  let bill := Bill.ofCount .unitsConsidered 1 + .ofCount .unitsSkipped 1
  { world with stats := world.stats.charge bill }

variable (plan : Plan σ) (document : Document) (unit : Declaration)

theorem run_consider_closed (documented : unit.doc.isSome = true)
    (closed : plan.reconciler.policy.allowsExisting = false) {world : World σ}
    (isOpen : world.stats.finished = false) :
    (consider plan document unit).run world = (.ok unit, passedOver world) := by
  have considered : (count .unitsConsidered).run world = (.ok (), _) := run_count _ _ isOpen
  have skipped : (count .unitsSkipped).run
      { world with stats := world.stats.charge (.ofCount .unitsConsidered 1) } = (.ok (), _) :=
    run_count _ _ isOpen
  have begun : (begin plan document unit).run world = (.ok (.inl unit), passedOver world) := by
    rw [begin, run_bind_ok _ considered, documented, closed, Bool.not_false, Bool.and_self,
      if_pos rfl, run_bind_ok _ skipped, passedOver, Statistics.charge_add]
    rfl
  rw [consider_eq, run_bind_ok _ begun]
  rfl

/-- A unit that has a comment, where existing comments are left alone, is counted as skipped and
    nothing else happens. A text would have changed its comment exactly if merging is switched off
    for the run, the text is long enough, and it is not the comment already. -/
theorem passed_over_iff {existing : Text} (found : unit.doc = some existing)
    (closed : plan.reconciler.policy.allowsExisting = false) {world : World σ}
    (isOpen : world.stats.finished = false) :
    (consider plan document unit).run world = (.ok unit, passedOver world) ∧
      ∀ generated, (unit.reconcile plan.reconciler generated).2.doc ≠ unit.doc ↔
        plan.reconciler.WouldOverwrite existing generated :=
  ⟨run_consider_closed plan document unit (by rw [found]; rfl) closed isOpen,
    Reconciler.reconcile_closed_iff closed found⟩

/-- The sample in a run without merging. -/
def unmergedPlan : Plan String :=
  { Pass.samplePlan with reconciler := ⟨10, { noMergeExisting := true }⟩ }

/-- A function that has a comment. -/
def commentedUnit : Declaration where
  kind := .function
  name := "f"
  node := ⟨"function_declaration", 17, 32, true, none, []⟩
  ancestry := []
  anchor := ⟨17, 32, none⟩
  relativePath := "a.ts"
  firstLine := 2
  lastLine := 2
  parent := none
  modifiers := []
  exported := none
  initializerType := none
  indent := []
  comment := none
  slot := ⟨some "/** Old text. */".toList, none⟩

def commentedDocument : Document where
  path := "/a.ts"
  relativePath := "a.ts"
  source := Utf8.encode "/** Old text. */\nfunction f() {}\n".toList
  language := "typescript"
  declarations := [commentedUnit]
  imports := []
  exportNames := []

/-- The function is passed over, though a text that tells something else would overwrite its
    comment. -/
theorem passed_over_unmerged :
    commentedUnit.doc = some "/** Old text. */".toList ∧
      unmergedPlan.reconciler.policy.allowsExisting = false ∧
      Pass.sampleWorld.stats.finished = false ∧
      (consider unmergedPlan commentedDocument commentedUnit).run Pass.sampleWorld =
        (.ok commentedUnit, passedOver Pass.sampleWorld) ∧
      (commentedUnit.reconcile unmergedPlan.reconciler "/** Computes X */".toList).2.doc ≠
        commentedUnit.doc := by
  have long : unmergedPlan.reconciler.Admits "/** Computes X */".toList := by
    unfold Reconciler.Admits
    decide
  obtain ⟨passed, changes⟩ := passed_over_iff unmergedPlan commentedDocument commentedUnit rfl rfl
    (rfl : Pass.sampleWorld.stats.finished = false)
  exact ⟨rfl, rfl, rfl, passed, (changes _).mpr ⟨rfl, long, by decide, by decide⟩⟩

end Units

end Scholia
