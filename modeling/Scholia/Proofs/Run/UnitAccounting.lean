import Scholia.Proofs.Run.Endings
import Scholia.Proofs.Run.Owing

/-! # The accounts of one unit

A unit that is considered is counted once more as succeeded, failed or skipped, whatever the
handlers, the oracle and the reconciler do. A failed unit, and no other, leaves one error record
with the id of the unit.
-/

namespace Scholia

/-- The counters that no unit changes. -/
def Counter.ofFiles : List Counter :=
  [.batchesTotal, .batchesProcessed, .filesTotal, .filesProcessed, .filesModified]

/-- A bill for some units: how many were considered, and how many came to an end. The failed ones
    have one record each. -/
structure Bill.Settles (bill : Bill) (considered settled : Int) : Prop where
  considered : bill.counts .unitsConsidered = considered
  settled : bill.counts .unitsSucceeded + bill.counts .unitsFailed + bill.counts .unitsSkipped =
    settled
  failures : (bill.errors.length : Int) = bill.counts .unitsFailed
  units : ∀ entry ∈ bill.errors, entry.unitId.isSome = true
  files : ∀ counter ∈ Counter.ofFiles, bill.counts counter = 0

namespace Bill.Settles

variable {first second : Bill} {considered settled more ended : Int}

theorem zero : (0 : Bill).Settles 0 0 where
  considered := rfl
  settled := rfl
  failures := rfl
  units := by simp
  files := by simp

theorem add (left : first.Settles considered settled) (right : second.Settles more ended) :
    (first + second).Settles (considered + more) (settled + ended) where
  considered := by rw [counts_add, left.considered, right.considered]
  settled := by
    have leftEnds := left.settled
    have rightEnds := right.settled
    simp only [counts_add]
    omega
  failures := by
    have leftFails := left.failures
    have rightFails := right.failures
    simp only [counts_add, errors_add, List.length_append]
    omega
  units := by
    intro entry member
    rcases List.mem_append.mp member with old | new
    · exact left.units entry old
    · exact right.units entry new
  files := by
    intro counter member
    rw [counts_add, left.files counter member, right.files counter member]
    rfl

theorem considering : (ofCount .unitsConsidered 1).Settles 1 0 := by
  constructor <;> simp [Counter.ofFiles]

/-- One unit has succeeded, or was skipped. -/
theorem of_end {counter : Counter} (isEnd : counter = .unitsSucceeded ∨ counter = .unitsSkipped) :
    (ofCount counter 1).Settles 0 1 := by
  rcases isEnd with rfl | rfl
  · constructor <;> simp [Counter.ofFiles]
  · constructor <;> simp [Counter.ofFiles]

/-- One unit has failed, and there is a record of it. -/
theorem of_failure (document : Document) (unit : Declaration) (message : String) (traced : Bool) :
    (ofCount .unitsFailed 1 + ofRecord (Units.errorOf document unit message traced)).Settles 0 1 := by
  constructor <;> simp [Counter.ofFiles, Units.errorOf]

/-- What is counted of embeddings and relationships is no business of units. -/
theorem of_aside {counter : Counter} (amount : Int) (aside : counter ∈
      [Counter.embeddingsSucceeded, .embeddingsFailed, .relationshipsDiscovered]) :
    (ofCount counter amount).Settles 0 0 := by
  simp only [List.mem_cons, List.not_mem_nil, or_false] at aside
  rcases aside with rfl | rfl | rfl
  · constructor <;> simp [Counter.ofFiles]
  · constructor <;> simp [Counter.ofFiles]
  · constructor <;> simp [Counter.ofFiles]

end Bill.Settles

namespace RunM

variable {σ α β : Type} {action : RunM σ α} {next : α → RunM σ β}

/-- A part that settles nothing comes first, and either part may fail. -/
theorem Charges.before {considered settled more ended : Int}
    (first : Charges action (fun _ bill => bill.Settles 0 0) (fun _ bill => bill.Settles more ended))
    (rest : ∀ value, Charges (next value) (fun _ bill => bill.Settles considered settled)
      (fun _ bill => bill.Settles more ended)) :
    Charges (action >>= next) (fun _ bill => bill.Settles considered settled)
      (fun _ bill => bill.Settles more ended) := by
  refine Charges.bind first (fun value bill settles => ?_) (fun _ _ settles => settles)
  refine (rest value).weaken (fun _ _ others => ?_) (fun _ _ others => ?_)
  · simpa only [Int.zero_add] using settles.add others
  · simpa only [Int.zero_add] using settles.add others

/-- A part of a run considers a number of units and ends as many, and does not fail. -/
def Settling (action : RunM σ α) (considered settled : Int) : Prop :=
  Charges action (fun _ bill => bill.Settles considered settled) never

namespace Settling

theorem pure (value : α) : Settling (σ := σ) (pure value) 0 0 :=
  Charges.pure Bill.Settles.zero

theorem of_free (charges : Charges action free never) : Settling action 0 0 :=
  charges.weaken (fun _ _ none => none ▸ Bill.Settles.zero) (fun _ _ impossible => impossible)

theorem count {counter : Counter} {amount considered settled : Int}
    (settles : (Bill.ofCount counter amount).Settles considered settled) :
    Settling (σ := σ) (count counter amount) considered settled :=
  (charges_count counter amount).weaken (fun _ _ same => same ▸ settles)
    (fun _ _ impossible => impossible)

end Settling

end RunM

namespace Units

open RunM

variable {σ : Type} (plan : Plan σ) (document : Document) (unit : Declaration)

theorem Ending.settles {rules : Reconciler} {document : Document} {unit changed : Declaration}
    {bill : Bill} (ending : Ending rules document unit changed bill) : bill.Settles 0 1 := by
  cases ending with
  | applied => exact .of_end (.inl rfl)
  | skipped => exact .of_end (.inr rfl)
  | failed => exact .of_failure document unit _ _

/-- A unit pays for itself, whatever happens while the response to its request is waited for. -/
theorem owes_unitCourse (paid : Bill) : StepM.Owes (unitCourse plan document unit) paid
    (fun _ total => ∃ own, own.Settles 1 1 ∧ total = paid + own) never := by
  have counted (number : Int) : (Bill.ofCount .relationshipsDiscovered number).Settles 0 0 :=
    .of_aside _ (by simp)
  have begun : StepM.Owes (StepM.atOnce (begin plan document unit)) paid (fun begun total =>
      ∃ own, Begins plan.reconciler document unit begun own ∧ total = paid + own) never :=
    .atOnce ((charges_begin plan document unit).weaken (fun _ own begins => ⟨own, begins, rfl⟩)
      (fun _ _ impossible => impossible))
  refine begun.bind ?_ (fun _ _ impossible => impossible)
  rintro (changed | bundle) _ ⟨_, begins, rfl⟩
  · obtain ⟨_, ⟨number, ending, ends, rfl⟩, rfl⟩ := begins
    exact .pure ⟨_, Bill.Settles.considering.add ((counted number).add ends.settles), rfl⟩
  · obtain ⟨number, rfl⟩ := begins
    have asked : StepM.Owes (plan.inquiry bundle)
        (paid + (.ofCount .unitsConsidered 1 + .ofCount .relationshipsDiscovered number))
        (fun _ total => total = paid +
          (.ofCount .unitsConsidered 1 + .ofCount .relationshipsDiscovered number)) never :=
      .inquiry plan bundle fun _ => rfl
    refine asked.bind ?_ (fun _ _ impossible => impossible)
    rintro result _ rfl
    refine .atOnce ((charges_answer plan document unit bundle.id result).weaken ?_
      (fun _ _ impossible => impossible))
    intro _ _ ends
    have asked := Bill.Settles.considering.add (counted number)
    exact ⟨_, asked.add ends.settles, Bill.add_assoc _ _ _⟩

/-- As many units come to an end as are considered. -/
theorem owes_unitsCourse (indices : List Nat) (paid : Bill) :
    StepM.Owes (unitsCourse plan indices document) paid
      (fun _ total => ∃ own number, own.Settles number number ∧ total = paid + own) never := by
  induction indices generalizing document paid with
  | nil => exact .pure ⟨0, 0, .zero, (Bill.add_zero paid).symm⟩
  | cons index rest ih =>
      rw [unitsCourse]
      split
      · exact ih document paid
      · next unit _ =>
        refine StepM.Owes.bind (owes_unitCourse plan document unit paid) ?_
          (fun _ _ impossible => impossible)
        rintro changed _ ⟨own, settles, rfl⟩
        refine Course.Owes.weaken (ih _ _) fun result total settled => ?_
        cases result with
        | error failure => exact settled
        | ok document =>
            obtain ⟨others, number, more, rfl⟩ := settled
            exact ⟨own + others, 1 + number, settles.add more, Bill.add_assoc _ _ _⟩

end Units

end Scholia
