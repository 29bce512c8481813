import Scholia.Proofs.Comment.Outcome
import Scholia.Proofs.Run.Uninterrupted

/-! # How a unit is treated

Handlers, the index and the oracle see the bundle of a unit and nothing else of it, and what they
make of a bundle is its treatment. All that becomes of the unit, and what is charged for it besides
related declarations, follows from the treatment and the unit.
-/

namespace Scholia

/-- Only an outcome that is reported as a new comment touches the declaration. -/
theorem Declaration.reconcile_of_not_applied {rules : Reconciler} {unit : Declaration} {text : Text}
    (unapplied : (unit.reconcile rules text).1.applied = false) :
    (unit.reconcile rules text).2 = unit := by
  have kept : (rules.reconcile unit.slot text).2 = unit.slot :=
    Reconciler.kept_of_not_applied unapplied
  change { unit with slot := (rules.reconcile unit.slot text).2 } = unit
  rw [kept]

/-- What came of a bundle, before anything was done to its unit. -/
inductive Treatment where
  /-- A comment, as the handlers for comments have left it. -/
  | comment (text : Text)
  /-- The unit is passed over. -/
  | passed
  /-- There is no comment for a reason. -/
  | declined (reason : String)
  /-- A handler or a request has failed. -/
  | broken (failure : RunFailure)
  deriving DecidableEq

theorem Bill.add_left_cancel {bill first second : Bill} (same : bill + first = bill + second) :
    first = second := by
  have counts : first.counts = second.counts := by
    funext counter
    exact Int.add_left_cancel (congrFun (congrArg (·.counts) same) counter)
  have errors : first.errors = second.errors :=
    List.append_cancel_left (congrArg (·.errors) same)
  obtain ⟨_, _⟩ := first
  obtain ⟨_, _⟩ := second
  exact congrArg₂ Bill.mk counts errors

/-- What was charged can be read off the statistics. -/
theorem Statistics.charge_inj {stats : Statistics} {first second : Bill}
    (same : stats.charge first = stats.charge second) : first = second := by
  have counts : (fun counter => stats.counts counter + first.counts counter) =
      fun counter => stats.counts counter + second.counts counter := congrArg (·.counts) same
  have errors : stats.errors ++ first.errors = stats.errors ++ second.errors :=
    congrArg (·.errors) same
  have whole : (⟨stats.counts, stats.errors⟩ : Bill) + first =
      ⟨stats.counts, stats.errors⟩ + second := congrArg₂ Bill.mk counts errors
  exact Bill.add_left_cancel whole

/-- How a unit ended. -/
inductive Verdict where
  | succeeded
  | skipped
  | failed (message : String) (traced : Bool)
  deriving DecidableEq

namespace Verdict

/-- The verdict on a unit that a comment was reconciled with. -/
def ofOutcome (outcome : Outcome) : Verdict :=
  if outcome.applied then succeeded
  else if outcome = .unreadable then
    failed "Existing documentation could not be reconciled" false
  else skipped

/-- What is charged for a unit by the way it ended. -/
def bill (document : Document) (unit : Declaration) : Verdict → Bill
  | succeeded => .ofCount .unitsSucceeded 1
  | skipped => .ofCount .unitsSkipped 1
  | failed message traced =>
    .ofCount .unitsFailed 1 + .ofRecord (Units.errorOf document unit message traced)

/-- The bill of a verdict tells the verdict, however many related declarations were found. -/
theorem eq_of_bill {document : Document} {unit : Declaration} {first second : Verdict}
    {number other : Int}
    (same : Bill.ofCount .relationshipsDiscovered number + first.bill document unit =
      .ofCount .relationshipsDiscovered other + second.bill document unit) : first = second := by
  have succeeded : (first.bill document unit).counts .unitsSucceeded =
      (second.bill document unit).counts .unitsSucceeded := by
    simpa using congrArg (·.counts .unitsSucceeded) same
  have errors : (first.bill document unit).errors = (second.bill document unit).errors := by
    simpa using congrArg (·.errors) same
  clear same
  cases first <;> cases second <;> simp_all [bill, Units.errorOf]

end Verdict

namespace Treatment

variable (rules : Reconciler) (unit : Declaration)

/-- What a treatment makes of a unit. -/
def changed : Treatment → Declaration
  | comment text => (unit.reconcile rules text).2
  | passed | declined _ | broken _ => unit

/-- How a unit ends under a treatment. -/
def verdict : Treatment → Verdict
  | comment text => .ofOutcome (unit.reconcile rules text).1
  | passed => .skipped
  | declined reason => .failed reason false
  | broken failure => .failed failure.message true

variable {rules unit}

/-- A unit that did not succeed is as it was. -/
theorem changed_of_verdict {treatment : Treatment}
    (ended : treatment.verdict rules unit ≠ .succeeded) : treatment.changed rules unit = unit := by
  cases treatment with
  | comment text =>
      refine Declaration.reconcile_of_not_applied ?_
      rw [← Bool.not_eq_true]
      intro applied
      exact ended (if_pos applied)
  | passed | declined _ | broken _ => rfl

end Treatment

/-- A part of a run has charged a bill, and declarations are seen as before. -/
structure Charged {σ : Type} (bill : Bill) (before after : World σ) : Prop where
  stats : after.stats = before.stats.charge bill
  extractor : after.extractor = before.extractor

namespace Charged

variable {σ : Type} {bill more : Bill} {before between after : World σ}

theorem refl (world : World σ) : Charged 0 world world :=
  ⟨(Statistics.charge_zero _).symm, rfl⟩

theorem trans (first : Charged bill before between) (second : Charged more between after) :
    Charged (bill + more) before after where
  stats := by rw [second.stats, first.stats, Statistics.charge_add]
  extractor := second.extractor.trans first.extractor

theorem isOpen (charged : Charged bill before after) (still : before.stats.finished = false) :
    after.stats.finished = false := by
  rw [charged.stats, Statistics.finished_charge, still]

end Charged

namespace Units

open RunM StepM

variable {σ : Type} (plan : Plan σ)

/-- What a reply comes to, after the handlers for comments have run. -/
def read : Except Tokens.Overflow Response → RunM σ Treatment
  | .error reason => throw (.overflow reason)
  | .ok response =>
    match response.status with
    | .success => do
      let comment := (response.content.getD "").toList
      match (Handler.runAll .afterProcessing (plan.hooks (← get)).after comment).result with
      | .error failure => throw (.hook failure)
      | .ok text => return .comment text
    | .skip => return .passed
    | .error => return .declined (reasonOf response)

/-- Ask for a comment on a bundle with its related declarations: what came of it. -/
def ask (bundle : Bundle) : RunM σ Treatment := do
  let bundle ← withRelated plan bundle
  let result ← inOneGo (plan.inquiry bundle)
  read plan result

/-- A failure breaks the treatment. -/
def judged : Except RunFailure Treatment → Treatment
  | .ok treatment => treatment
  | .error failure => .broken failure

/-- What handlers, the index and the oracle make of a bundle in a world. -/
def treated (bundle : Bundle) (world : World σ) : Treatment :=
  match (Handler.runAll .beforeProcessing (plan.hooks world).before bundle).result with
  | .error failure => .broken (.hook failure)
  | .ok bundle => judged ((ask plan bundle).run world).1

/-- The unit has a comment that is to be left alone. -/
def leaves (unit : Declaration) : Bool :=
  unit.doc.isSome && !plan.reconciler.policy.allowsExisting

/-- A world once a unit is counted as considered. -/
def considering (world : World σ) : World σ :=
  { world with stats := world.stats.charge (.ofCount .unitsConsidered 1) }

/-- What a unit is treated as that has a bundle in a world. -/
def treatment (unit : Declaration) (bundle : Bundle) (world : World σ) : Treatment :=
  if leaves plan unit then .passed else treated plan bundle (considering world)

variable (document : Document) (unit : Declaration)

/-- Do to a unit what its bundle came to. -/
def settle (unitId : String) : Treatment → RunM σ Declaration
  | .comment text => do
    let (outcome, changed) := unit.reconcile plan.reconciler text
    tally document unit outcome
    return changed
  | .passed => do
    count .unitsSkipped
    return unit
  | .declined reason => do
    count .unitsFailed
    record (errorOf document unit reason false)
    notify plan (.declined reason) unitId
    return unit
  | .broken failure => fail plan document unit unitId failure

/-- What a response tells is read, and then the unit is settled. -/
theorem respond_eq (unitId : String) (result : Except Tokens.Overflow Response) :
    respond plan document unit unitId result =
      read plan result >>= settle plan document unit unitId := by
  cases result with
  | error reason => rfl
  | ok response =>
      rw [read, respond]
      dsimp only
      cases response.status with
      | success =>
          dsimp only
          rw [bind_assoc, apply]
          refine congrArg _ (funext fun world => ?_)
          cases (Handler.runAll .afterProcessing (plan.hooks world).after
              (response.content.getD "").toList).result with
          | error failure => rfl
          | ok text => rfl
      | skip => rfl
      | error => rfl

section

variable {world : World σ} (isOpen : world.stats.finished = false)

include isOpen

theorem charged_count (counter : Counter) (amount : Int) : ∃ after,
    (count counter amount).run world = (.ok (), after) ∧
      Charged (.ofCount counter amount) world after :=
  ⟨_, run_count _ _ isOpen, rfl, rfl⟩

theorem charged_withRelated (bundle : Bundle) : ∃ found number after,
    (withRelated plan bundle).run world = (.ok found, after) ∧
      Charged (.ofCount .relationshipsDiscovered number) world after := by
  have nothing : Charged (.ofCount .relationshipsDiscovered 0) world world := by
    rw [Bill.ofCount_zero]
    exact .refl world
  unfold withRelated
  rw [run_get_bind]
  split
  · unfold Relations.find
    rw [bind_assoc, run_get_bind]
    dsimp only
    split
    · rw [bind_assoc, run_bind_ok _ (run_count _ _ isOpen)]
      exact ⟨_, _, _, rfl, rfl, rfl⟩
    · exact ⟨_, 0, world, rfl, nothing⟩
  · exact ⟨_, 0, world, rfl, nothing⟩

omit isOpen in
theorem charged_inquiry (bundle : Bundle) : ∃ value after,
    (inOneGo (plan.inquiry bundle)).run world = (.ok value, after) ∧ Charged 0 world after := by
  obtain ⟨value, session, disk, ran⟩ := exists_inquiry plan bundle world
  exact ⟨value, _, ran, (Statistics.charge_zero _).symm, rfl⟩

omit isOpen in
/-- Reading a reply changes nothing. -/
theorem run_read (result : Except Tokens.Overflow Response) :
    (read plan result).run world = (((read plan result).run world).1, world) := by
  cases result with
  | error reason => rfl
  | ok response =>
      unfold read
      dsimp only
      cases response.status with
      | success =>
          dsimp only
          rw [run_get_bind]
          split <;> rfl
      | skip | error => rfl

theorem charged_failed (message : String) (traced : Bool) (failure : RunFailure)
    (unitId : String) : ∃ after,
    (do
        count .unitsFailed
        record (errorOf document unit message traced)
        notify plan failure unitId
        return unit : RunM σ Declaration).run world = (.ok unit, after) ∧
      Charged ((Verdict.failed message traced).bill document unit) world after := by
  obtain ⟨between, counted, failed⟩ := charged_count isOpen .unitsFailed 1
  rw [run_bind_ok _ counted, run_bind_ok _ (run_record _ (failed.isOpen isOpen))]
  exact ⟨_, rfl, failed.trans ⟨rfl, rfl⟩⟩

theorem charged_tally (outcome : Outcome) : ∃ after,
    (tally document unit outcome).run world = (.ok (), after) ∧
      Charged ((Verdict.ofOutcome outcome).bill document unit) world after := by
  unfold tally Verdict.ofOutcome
  split
  · exact charged_count isOpen _ _
  · split
    · obtain ⟨between, counted, failed⟩ := charged_count isOpen .unitsFailed 1
      rw [run_bind_ok _ counted, run_record _ (failed.isOpen isOpen)]
      exact ⟨_, rfl, failed.trans ⟨rfl, rfl⟩⟩
    · exact charged_count isOpen _ _

/-- What becomes of a unit that is settled, and what is charged for it. -/
theorem charged_settle (unitId : String) (treatment : Treatment) : ∃ after,
    (settle plan document unit unitId treatment).run world =
        (.ok (treatment.changed plan.reconciler unit), after) ∧
      Charged ((treatment.verdict plan.reconciler unit).bill document unit) world after := by
  cases treatment with
  | comment text =>
      obtain ⟨after, tallied, charged⟩ := charged_tally document unit isOpen
        (unit.reconcile plan.reconciler text).1
      exact ⟨after, run_bind_ok _ tallied, charged⟩
  | passed =>
      obtain ⟨after, counted, charged⟩ := charged_count isOpen .unitsSkipped 1
      exact ⟨after, run_bind_ok _ counted, charged⟩
  | declined reason =>
      exact charged_failed plan document unit isOpen reason false (.declined reason) unitId
  | broken failure =>
      exact charged_failed plan document unit isOpen failure.message true failure unitId

/-- A unit that is answered becomes what the response comes to. -/
theorem charged_answer (unitId : String) (result : Except Tokens.Overflow Response) : ∃ after,
    (answer plan document unit unitId result).run world =
        (.ok ((judged ((read plan result).run world).1).changed plan.reconciler unit), after) ∧
      Charged (((judged ((read plan result).run world).1).verdict plan.reconciler unit).bill
        document unit) world after := by
  unfold answer
  rw [run_bind_ok _ (run_capture _ world), respond_eq, run_bind, run_read]
  cases ((read plan result).run world).1 with
  | error failure =>
      exact charged_failed plan document unit isOpen failure.message true failure unitId
  | ok treatment =>
      obtain ⟨after, settled, charged⟩ := charged_settle plan document unit isOpen unitId treatment
      dsimp only
      rw [settled]
      exact ⟨after, rfl, charged⟩

/-- A unit that is begun with becomes what its treatment makes of it, or it is treated as the
    response to a request tells. -/
theorem charged_begin : ∃ begun number after,
    (begin plan document unit).run world = (.ok begun, after) ∧
      match begun with
      | .inl changed => ∃ treatment,
        Units.treatment plan unit (world.extractor.bundle document unit) world = treatment ∧
          changed = treatment.changed plan.reconciler unit ∧
          Charged (.ofCount .unitsConsidered 1 + (.ofCount .relationshipsDiscovered number +
            (treatment.verdict plan.reconciler unit).bill document unit)) world after
      | .inr found =>
        Units.treatment plan unit (world.extractor.bundle document unit) world =
            judged ((inOneGo (plan.inquiry found) >>= read plan).run after).1 ∧
          Charged (.ofCount .unitsConsidered 1 + .ofCount .relationshipsDiscovered number)
            world after := by
  have considered : Charged (.ofCount .unitsConsidered 1) world (considering world) := ⟨rfl, rfl⟩
  have counted : (count .unitsConsidered).run world = (.ok (), considering world) :=
    run_count _ _ isOpen
  have sees : (considering world).extractor = world.extractor := rfl
  have alone (bill : Bill) : Bill.ofCount .relationshipsDiscovered 0 + bill = bill := by
    rw [Bill.ofCount_zero, Bill.zero_add]
  rw [begin, run_bind_ok _ counted, Units.treatment, ← sees]
  have still := considered.isOpen isOpen
  generalize considering world = middle at considered still ⊢
  change ∃ begun number after, (if leaves plan unit then _ else _ : RunM σ _).run middle = _ ∧ _
  cases leaves plan unit with
  | true =>
      obtain ⟨after, skipped, charged⟩ := charged_count still .unitsSkipped 1
      refine ⟨.inl unit, 0, after, run_bind_ok _ skipped, .passed, rfl, rfl, ?_⟩
      rw [alone]
      exact considered.trans charged
  | false =>
      rw [if_neg Bool.false_ne_true, if_neg Bool.false_ne_true, treated, run_get_bind]
      dsimp only
      cases (Handler.runAll .beforeProcessing (plan.hooks middle).before
          (middle.extractor.bundle document unit)).result with
      | error failure =>
          obtain ⟨after, failed, charged⟩ := charged_failed plan document unit still
            failure.message true (.hook failure) (Handler.runAll .beforeProcessing
              (plan.hooks middle).before (middle.extractor.bundle document unit)).given.id
          refine ⟨.inl unit, 0, after, run_bind_ok _ failed, .broken (.hook failure), rfl, rfl, ?_⟩
          rw [alone]
          exact considered.trans charged
      | ok bundle =>
          obtain ⟨found, number, after, related, charged⟩ := charged_withRelated plan still bundle
          refine ⟨.inr found, number, after, ?_, ?_, considered.trans charged⟩
          · refine (run_bind_ok _ (run_capture _ _)).trans ?_
            rw [related]
            rfl
          · dsimp only
            rw [ask, run_bind_ok _ related]

/-- A unit that is considered becomes what its treatment makes of it. -/
theorem charged_consider {treatment : Treatment}
    (comes : Units.treatment plan unit (world.extractor.bundle document unit) world = treatment) :
    ∃ number after,
      (consider plan document unit).run world =
        (.ok (treatment.changed plan.reconciler unit), after) ∧
      Charged (.ofCount .unitsConsidered 1 + (.ofCount .relationshipsDiscovered number +
        (treatment.verdict plan.reconciler unit).bill document unit)) world after := by
  subst comes
  obtain ⟨begun, number, between, ran, begins⟩ := charged_begin plan document unit isOpen
  rw [consider_eq, run_bind_ok _ ran]
  cases begun with
  | inl changed =>
      obtain ⟨_, rfl, rfl, charged⟩ := begins
      exact ⟨number, between, rfl, charged⟩
  | inr found =>
      obtain ⟨comes, charged⟩ := begins
      obtain ⟨result, waited, replied, kept⟩ := @charged_inquiry _ plan between found
      have still := (charged.trans kept).isOpen isOpen
      obtain ⟨after, answered, settled⟩ := charged_answer plan document unit still found.id result
      have whole := (charged.trans kept).trans settled
      rw [run_bind_ok _ replied] at comes
      rw [comes]
      refine ⟨number, after, (run_bind_ok _ replied).trans answered, ?_⟩
      rwa [Bill.add_zero, Bill.add_assoc] at whole

end

end Units

end Scholia
