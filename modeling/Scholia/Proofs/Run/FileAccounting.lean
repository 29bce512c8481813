import Scholia.Proofs.Run.UnitAccounting
import Scholia.Run.Pass

/-! # The accounts of one file

A file that is taken up is recorded as unparsed, or counts as processed, and a processed file that
cannot be saved is recorded as well. These are the only records that are about no unit, and they are
made whatever other files do meanwhile. The index of embedded declarations is no business of these
accounts, whether it can be set up or not.
-/

namespace Scholia

namespace Relations

open RunM

variable {σ : Type} (plan : Plan σ)

theorem charges_collect (paths : List Path) : Charges (collect plan paths) free never := by
  induction paths with
  | nil => exact .pure rfl
  | cons path rest ih =>
      refine (charges_openSource plan path).bind_free fun source => ?_
      refine .get_bind fun world => ?_
      exact ih.bind_free fun _ => .pure rfl

theorem charges_index (entries : List (Bundle × List Float)) :
    Charges (σ := σ) (index entries) free never :=
  charges_modify fun _ => rfl

theorem charges_embedBatch (batch : List Bundle) : Charges (embedBatch plan batch)
    (fun _ bill => bill.Settles 0 0) (fun _ bill => bill.Settles 0 0) := by
  unfold embedBatch
  refine (Settling.of_free (charges_onSession _)).orFail.before fun result => ?_
  cases result with
  | ok vectors =>
      refine (Settling.of_free (charges_index _)).orFail.before fun _ => ?_
      exact (Settling.count (.of_aside _ (by simp))).orFail
  | error failure =>
      dsimp only
      split
      · exact (Settling.count (.of_aside _ (by simp))).orFail.before fun _ => .throw .zero
      · exact .throw .zero

theorem charges_embedAll (batches : List (List Bundle)) : Charges (embedAll plan batches)
    (fun _ bill => bill.Settles 0 0) (fun _ bill => bill.Settles 0 0) := by
  induction batches with
  | nil => exact .pure .zero
  | cons batch rest ih => exact (charges_embedBatch plan batch).before fun _ => ih

theorem charges_build (paths : List Path) : Charges (build plan paths)
    (fun _ bill => bill.Settles 0 0) (fun _ bill => bill.Settles 0 0) := by
  unfold build
  refine (Settling.of_free (charges_collect plan paths)).orFail.before fun bundles => ?_
  split
  · exact .throw .zero
  · refine (charges_embedAll plan _).before fun _ => ?_
    exact .get_bind fun world => .pure .zero

/-- The index is set up or not, and no unit is counted. -/
theorem settling_setUp (paths : List Path) : Settling (setUp plan paths) 0 0 := by
  unfold setUp
  refine .get_bind fun world => ?_
  split
  · exact Settling.pure _
  · split
    · exact Settling.of_free ((charges_degrade _ _).bind_free fun _ => .pure rfl)
    · refine Charges.bind (charges_build plan paths).capture ?_ (fun _ _ impossible => impossible)
      intro result bill settles
      cases result with
      | ok number => exact .pure (by simpa only [Bill.add_zero] using settles)
      | error failure =>
          refine ((charges_degrade _ _).bind_free fun _ => .pure rfl).weaken ?_
            (fun _ _ impossible => impossible)
          rintro _ _ rfl
          simpa only [Bill.add_zero] using settles

end Relations

/-- A bill for some files: the records that are about no unit, and how many files and batches were
    processed. The units among it are balanced. -/
structure Bill.Covers (bill : Bill) (records : List ErrorRecord) (files batches : Int) : Prop where
  units : bill.counts .unitsConsidered =
    bill.counts .unitsSucceeded + bill.counts .unitsFailed + bill.counts .unitsSkipped
  failures : ((bill.errors.filter (·.unitId.isSome)).length : Int) = bill.counts .unitsFailed
  others : bill.errors.filter (·.unitId.isNone) = records
  processed : bill.counts .filesProcessed = files
  modified : bill.counts .filesModified ≤ files
  batches : bill.counts .batchesProcessed = batches
  filesTotal : bill.counts .filesTotal = 0
  batchesTotal : bill.counts .batchesTotal = 0

namespace Bill.Covers

variable {first second : Bill} {records others : List ErrorRecord} {files more batches further : Int}

theorem add (left : first.Covers records files batches) (right : second.Covers others more further) :
    (first + second).Covers (records ++ others) (files + more) (batches + further) where
  units := by
    have leftUnits := left.units
    have rightUnits := right.units
    simp only [counts_add]
    omega
  failures := by
    have leftFails := left.failures
    have rightFails := right.failures
    simp only [counts_add, errors_add, List.filter_append, List.length_append]
    omega
  others := by rw [errors_add, List.filter_append, left.others, right.others]
  processed := by rw [counts_add, left.processed, right.processed]
  modified := by
    have leftModified := left.modified
    have rightModified := right.modified
    simp only [counts_add]
    omega
  batches := by rw [counts_add, left.batches, right.batches]
  filesTotal := by rw [counts_add, left.filesTotal, right.filesTotal, Int.add_zero]
  batchesTotal := by rw [counts_add, left.batchesTotal, right.batchesTotal, Int.add_zero]

theorem of_settles {bill : Bill} {number : Int} (settles : bill.Settles number number) :
    bill.Covers [] 0 0 where
  units := by rw [settles.considered, settles.settled]
  failures := by rw [List.filter_eq_self.mpr settles.units, settles.failures]
  others := by
    rw [List.filter_eq_nil_iff]
    intro entry member
    have about := settles.units entry member
    cases named : entry.unitId with
    | none => simp [named] at about
    | some unitId => simp
  processed := settles.files _ (by simp [Counter.ofFiles])
  modified := Int.le_of_eq (settles.files _ (by simp [Counter.ofFiles]))
  batches := settles.files _ (by simp [Counter.ofFiles])
  filesTotal := settles.files _ (by simp [Counter.ofFiles])
  batchesTotal := settles.files _ (by simp [Counter.ofFiles])

theorem of_record {entry : ErrorRecord} (nobody : entry.unitId = none) :
    (ofRecord entry).Covers [entry] 0 0 := by
  constructor <;> simp [nobody]

theorem of_batch : (ofCount .batchesProcessed 1).Covers [] 0 1 := by
  constructor <;> simp

theorem of_unchanged : (ofCount .filesProcessed 1).Covers [] 1 0 := by
  constructor <;> simp

/-- A file counts as modified besides being processed. -/
theorem of_changed : (ofCount .filesProcessed 1 + ofCount .filesModified 1).Covers [] 1 0 := by
  constructor <;> simp

end Bill.Covers

/-- The error, if it is one. -/
def errorOf? {ε α : Type} : Except ε α → Option ε
  | .error error => some error
  | .ok _ => none

@[simp] theorem errorOf?_error {ε α : Type} (error : ε) :
    errorOf? (.error error : Except ε α) = some error := rfl

@[simp] theorem errorOf?_ok {ε α : Type} (value : α) :
    errorOf? (.ok value : Except ε α) = none := rfl

namespace Units

/-- The record of a file that cannot be saved. -/
def unsavedRecord (path : Path) (failure : RunFailure) : ErrorRecord :=
  { filePath := path.toString, message := failure.message, traced := true }

/-- The record of a file that cannot be parsed. -/
def unparsedRecord (path : Path) (fault : SourceFault) : ErrorRecord :=
  { filePath := path.toString, message := fault.message }

end Units

namespace Visit

/-- Why the file could not be parsed. -/
def fault? (visit : Visit) : Option SourceFault :=
  match visit.result with
  | .ok (.unparsed fault) => some fault
  | .ok (.processed _) | .error _ => none

/-- The record of the file, if it could not be parsed or not be saved. -/
def record? (visit : Visit) : Option ErrorRecord :=
  (visit.fault?.map (Units.unparsedRecord visit.path)).or
    (visit.failure?.map (Units.unsavedRecord visit.path))

/-- How many of some files could be parsed. -/
def parsed (visits : List Visit) : Nat :=
  visits.countP fun visit => visit.fault?.isNone

theorem parsed_append (first second : List Visit) :
    parsed (first ++ second) = parsed first + parsed second :=
  List.countP_append

theorem parsed_add_unparsed (visits : List Visit) :
    parsed visits + visits.countP (fun visit => visit.fault?.isSome) = visits.length := by
  have others : (fun visit : Visit => visit.fault?.isSome) =
      fun visit => decide ¬visit.fault?.isNone = true := by
    funext visit
    cases visit.fault? with
    | none => rfl
    | some fault => rfl
  rw [parsed, others]
  exact List.length_eq_countP_add_countP _ |>.symm

/-- What is charged for a file goes with what came of it. -/
structure Paid (visit : Visit) (bill : Bill) : Prop where
  unsaved : ∀ failure, visit.failure? = some failure → ∃ fault, failure = .unsaved visit.path fault
  covers : bill.Covers ([visit].filterMap record?) (parsed [visit]) 0

end Visit

namespace Units

open RunM

variable {σ : Type} (plan : Plan σ) (path : Path) (document : Document)

theorem charges_takeUp : Charges (takeUp plan path) (fun source bill =>
    match source with
    | .error fault => bill = .ofRecord (unparsedRecord path fault)
    | .ok _ => bill = 0) never := by
  unfold takeUp
  refine (charges_openSource plan path).bind (fun source bill none => ?_)
    (fun _ _ impossible => impossible)
  obtain rfl : bill = 0 := none
  cases source with
  | error fault =>
      refine (charges_record _).bind (fun _ bill same => ?_) (fun _ _ impossible => impossible)
      subst same
      refine .pure ?_
      dsimp only
      rw [Bill.add_zero, Bill.zero_add]
      rfl
  | ok document => exact .get_bind fun world => .pure (Bill.add_zero 0)

theorem charges_countFile : Charges (σ := σ) (countFile document)
    (fun _ bill => bill.Covers [] 1 0) never := by
  unfold countFile
  refine (charges_count _ _).bind ?_ (fun _ _ impossible => impossible)
  rintro _ _ rfl
  split
  · refine (charges_count _ _).weaken ?_ (fun _ _ impossible => impossible)
    rintro _ _ rfl
    exact .of_changed
  · refine .pure ?_
    rw [Bill.add_zero]
    exact .of_unchanged

theorem charges_save : Charges (σ := σ) (save path document) free fun failure bill =>
    (∃ fault, failure = .unsaved path fault) ∧ bill = .ofRecord (unsavedRecord path failure) := by
  intro world isOpen
  unfold save
  rw [run_get_bind]
  dsimp only
  split
  · exact ⟨0, _, _, rfl, (Statistics.charge_zero _).symm, rfl⟩
  · next fault _ =>
    refine (charges_record _).bind ?_ (fun _ _ impossible => False.elim impossible) world isOpen
    rintro _ _ rfl
    exact .throw ⟨⟨fault, rfl⟩, Bill.add_zero _⟩

/-- What is charged for a file, but for saving it. -/
def Revises : Upshot → Bill → Prop
  | .unparsed fault, bill => bill.Covers [unparsedRecord path fault] 0 0
  | .processed _, bill => bill.Covers [] 1 0

theorem owes_reviseCourse : StepM.Owes (reviseCourse plan path) 0 (Revises path) never := by
  have taken : StepM.Owes (StepM.atOnce (takeUp plan path)) 0 (fun source total =>
      match source with
      | .error fault => total = .ofRecord (unparsedRecord path fault)
      | .ok _ => total = 0) never := by
    refine .atOnce ?_
    simp only [Bill.zero_add]
    exact charges_takeUp plan path
  refine taken.bind (fun source total same => ?_) (fun _ _ impossible => impossible)
  cases source with
  | error fault =>
      subst same
      exact .pure (.of_record rfl)
  | ok found =>
      obtain ⟨document, units⟩ := found
      subst same
      refine (owes_unitsCourse plan document units 0).bind ?_ (fun _ _ impossible => impossible)
      rintro document _ ⟨own, number, settles, rfl⟩
      rw [Bill.zero_add]
      have counted : StepM.Owes (StepM.atOnce (countFile (σ := σ) document)) own
          (fun _ total => total.Covers [] 1 0) never := by
        refine .atOnce ((charges_countFile document).weaken (fun _ _ covers => ?_)
          (fun _ _ impossible => impossible))
        exact (Bill.Covers.of_settles settles).add covers
      exact counted.bind (fun _ _ covers => .pure covers) (fun _ _ impossible => impossible)

/-- Closing a file leaves what was charged for it, or records that it was not saved. -/
theorem owes_close {upshot : Upshot} {total : Bill} (revises : Revises path upshot total) :
    StepM.Owes (close plan path upshot) total (fun upshot total => Visit.Paid ⟨path, .ok upshot⟩ total)
      fun failure total => Visit.Paid ⟨path, .error failure⟩ total := by
  have saved (upshot : Upshot) (total : Bill) (revises : Revises path upshot total) :
      Visit.Paid ⟨path, .ok upshot⟩ total := by
    refine ⟨fun failure none => (nomatch none), ?_⟩
    cases upshot with
    | unparsed fault => exact revises
    | processed document => exact revises
  cases upshot with
  | unparsed fault => exact .pure (saved _ _ revises)
  | processed document =>
      rw [close]
      split
      · have kept : StepM.Owes (StepM.atOnce (store plan path document)) total
            (fun _ final => final.Covers [] 1 0) fun failure final =>
              Visit.Paid ⟨path, .error failure⟩ final := by
          refine .atOnce ?_
          unfold store
          split
          · refine .pure ?_
            rw [Bill.add_zero]
            exact revises
          · refine (charges_save path document).weaken ?_ ?_
            · rintro _ _ rfl
              rw [Bill.add_zero]
              exact revises
            · rintro failure _ ⟨⟨fault, rfl⟩, rfl⟩
              refine ⟨?_, revises.add (.of_record rfl)⟩
              rintro _ ⟨⟩
              exact ⟨fault, rfl⟩
        exact kept.bind (fun _ _ covers => .pure (saved _ _ covers)) (fun _ _ paid => paid)
      · exact .pure (saved _ _ revises)

/-- A file pays for itself, whatever other files do between its steps. -/
theorem owes_fileCourse : Course.Owes (fun result total => Visit.Paid ⟨path, result⟩ total)
    (fileCourse plan path).run 0 := by
  have owes := StepM.Owes.bind (owes_reviseCourse plan path)
    (fun upshot total revises => owes_close plan path revises)
    (fun _ _ impossible => False.elim impossible)
  refine Course.Owes.weaken owes fun result total paid => ?_
  cases result with
  | ok upshot => exact paid
  | error failure => exact paid

/-- Whether a file can be parsed is settled when it is taken up. -/
theorem ends_fileCourse {world : World σ} (isOpen : world.stats.finished = false) :
    Course.Ends (fun result =>
        Visit.fault? ⟨path, result⟩ = errorOf? (plan.reader.open? world.disk path))
      (Course.advance (fileCourse plan path).run world).1 := by
  rw [fileCourse, reviseCourse, bind_assoc, StepM.advance_atOnce_bind, takeUp, run_bind,
    run_openSource]
  cases plan.reader.open? world.disk path with
  | error fault =>
      dsimp only
      rw [run_bind, run_record _ isOpen]
      exact .ended rfl
  | ok document =>
      change Course.Ends _ (((do
        let document ← unitsCourse plan (Selection.units world.extractor.settings document) document
        StepM.atOnce (countFile document)
        return .processed document) : StepM σ Upshot) >>= close plan path).run
      simp only [bind_assoc, pure_bind, close]
      refine .after (fun _ => rfl) fun document => .after (fun _ => rfl) fun _ => ?_
      split
      · exact .after (fun _ => rfl) fun _ => .ended rfl
      · exact .ended rfl

end Units

end Scholia
