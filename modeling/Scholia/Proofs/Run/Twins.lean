import Scholia.Proofs.Oracle.Steps
import Scholia.Proofs.Run.FileAccounting

/-! # Two runs side by side

Two runs are compared by a relation between their worlds. Parts of them that come to the same
result in related worlds, and leave the worlds related, can be put together; and where the basic
operations do so, all that is done with the units of a document does. Parts that may be interrupted
are compared step by step, by a family of relations: other files may change the worlds from one of
them to another one in between.
-/

namespace Scholia

namespace RunM

variable {σ α β : Type}

/-- In related worlds two parts come to the same result, and leave the worlds related. -/
def Twins (related : World σ → World σ → Prop) (first second : RunM σ α) : Prop :=
  ∀ one two, related one two →
    (first.run one).1 = (second.run two).1 ∧ related (first.run one).2 (second.run two).2

namespace Twins

variable {related : World σ → World σ → Prop}

theorem pure (related : World σ → World σ → Prop) (value : α) :
    Twins related (pure value) (pure value) :=
  fun _ _ holds => ⟨rfl, holds⟩

theorem throw (related : World σ → World σ → Prop) (failure : RunFailure) :
    Twins related (throw failure : RunM σ α) (throw failure) :=
  fun _ _ holds => ⟨rfl, holds⟩

theorem bind {first second : RunM σ α} {next further : α → RunM σ β}
    (begin : Twins related first second) (rest : ∀ value, Twins related (next value) (further value)) :
    Twins related (first >>= next) (second >>= further) := by
  intro one two holds
  obtain ⟨same, after⟩ := begin one two holds
  rw [run_bind, run_bind]
  generalize first.run one = left at same after
  generalize second.run two = right at same after
  obtain ⟨result, one'⟩ := left
  obtain ⟨result', two'⟩ := right
  obtain rfl : result = result' := same
  cases result with
  | error failure => exact ⟨rfl, after⟩
  | ok value => exact rest value one' two' after

theorem get_bind {next further : World σ → RunM σ α}
    (rest : ∀ one two, related one two → Twins related (next one) (further two)) :
    Twins related (get >>= next) (get >>= further) :=
  fun one two holds => rest one two holds one two holds

theorem modify {change other : World σ → World σ}
    (steps : ∀ one two, related one two → related (change one) (other two)) :
    Twins related (modify change : RunM σ Unit) (modify other) :=
  fun one two holds => ⟨rfl, steps one two holds⟩

theorem capture {first second : RunM σ α} (both : Twins related first second) :
    Twins related (capture first) (capture second) := by
  intro one two holds
  obtain ⟨same, after⟩ := both one two holds
  rw [run_capture, run_capture, same]
  exact ⟨rfl, after⟩

theorem map {first second : RunM σ α} (f : α → β) (both : Twins related first second) :
    Twins related (f <$> first) (f <$> second) := by
  intro one two holds
  obtain ⟨same, after⟩ := both one two holds
  rw [run_map, run_map, same]
  exact ⟨rfl, after⟩

end Twins

/-- Related worlds have open statistics, and stay related when both are charged the same. -/
def Chargeable (related : World σ → World σ → Prop) : Prop :=
  ∀ one two, related one two → one.stats.finished = false ∧ two.stats.finished = false ∧
    ∀ bill, related { one with stats := one.stats.charge bill }
      { two with stats := two.stats.charge bill }

namespace Chargeable

variable {related : World σ → World σ → Prop} (chargeable : Chargeable related)

include chargeable

theorem count (counter : Counter) (amount : Int) :
    Twins related (count counter amount) (count counter amount) := by
  intro one two holds
  obtain ⟨isOpen, isOpen', charged⟩ := chargeable one two holds
  rw [run_count _ _ isOpen, run_count _ _ isOpen']
  exact ⟨rfl, charged _⟩

theorem record (entry : ErrorRecord) : Twins related (record entry) (record entry) := by
  intro one two holds
  obtain ⟨isOpen, isOpen', charged⟩ := chargeable one two holds
  rw [run_record _ isOpen, run_record _ isOpen']
  exact ⟨rfl, charged _⟩

end Chargeable

/-- What two plans have in common, so that responses come to the same in related worlds. -/
structure Common (related : World σ → World σ → Prop) (first second : Plan σ) : Prop where
  reconciler : second.reconciler = first.reconciler
  hooks : ∀ one two, related one two → second.hooks two = first.hooks one
  count : ∀ counter amount, Twins related (count counter amount) (count counter amount)
  record : ∀ entry, Twins related (record entry) (record entry)
  notify : ∀ failure unitId,
    Twins related (notify first failure unitId) (notify second failure unitId)

/-- What two plans share, so that units come to the same in related worlds. -/
structure Shared (related : World σ → World σ → Prop) (first second : Plan σ) : Prop
    extends Common related first second where
  relates : second.relates = first.relates
  embedding : second.embedding = first.embedding
  extractor : ∀ one two, related one two → two.extractor = one.extractor
  flags : ∀ one two, related one two → two.features.flags = one.features.flags
  nodes : ∀ one two, related one two → two.nodes = one.nodes

end RunM

namespace StepM

open RunM

variable {σ α β ι : Type}

/-- Parts that may be interrupted come to the same result step by step, and if there is a value it is
    a good one. -/
def Twins (related : ι → World σ → World σ → Prop) (good : α → Prop) (first second : StepM σ α) :
    Prop :=
  Course.Twins related (fun one two => two = one ∧ ∀ value, one = .ok value → good value)
    first.run second.run

/-- Any value is good. -/
def anything (_ : α) : Prop :=
  True

namespace Twins

variable {related : ι → World σ → World σ → Prop} {good : α → Prop} {fine : β → Prop}

theorem pure {value : α} (here : good value) :
    Twins related good (pure value : StepM σ α) (pure value) :=
  .ended ⟨rfl, fun _ same => Except.ok.inj same ▸ here⟩

theorem bind {first second : StepM σ α} {next further : α → StepM σ β}
    (begin : Twins related good first second)
    (rest : ∀ value, good value → Twins related fine (next value) (further value)) :
    Twins related fine (first >>= next) (second >>= further) := by
  refine Course.Twins.bind begin fun one two ⟨same, known⟩ => ?_
  subst same
  cases two with
  | ok value => exact rest value (known value rfl)
  | error failure => exact .ended ⟨rfl, fun _ impossible => nomatch impossible⟩

theorem weaken {first second : StepM σ α} {poor : α → Prop}
    (twins : Twins related good first second) (weaker : ∀ value, good value → poor value) :
    Twins related poor first second :=
  Course.Twins.weaken twins fun _ _ ⟨same, known⟩ =>
    ⟨same, fun value here => weaker value (known value here)⟩

theorem atOnce {first second : RunM σ α} (both : ∀ index, RunM.Twins (related index) first second) :
    Twins related anything (atOnce first) (atOnce second) :=
  .once fun index one two holds =>
    ⟨⟨(both index one two holds).1.symm, fun _ _ => True.intro⟩, (both index one two holds).2⟩

/-- Requests are made alike if each of their steps is. -/
theorem onSession {allowed : ∀ γ : Type, (Session σ → γ × Session σ) → Prop}
    (steps : ∀ γ action, allowed γ action → ∀ index,
      RunM.Twins (related index) (onSession action) (onSession action))
    {course : Course (Session σ) α} (made : course.MadeOf allowed) :
    Course.Twins related Eq course.onSession course.onSession := by
  induction made with
  | ended value => exact .ended rfl
  | @step γ action rest first _ ih =>
      refine .step (fun index one two holds => (steps γ action first index one two holds).2)
        fun index one two holds => ?_
      have same : (action (atCache one)).1 = (action (atCache two)).1 :=
        Except.ok.inj (steps γ action first index one two holds).1
      have next := ih (action (atCache one)).1
      nth_rewrite 2 [same] at next
      exact next

theorem inquiry {plan other : Plan σ} (provider : other.provider = plan.provider)
    (oracle : other.oracle = plan.oracle)
    (steps : ∀ γ action, Oracle.Step plan.provider plan.oracle γ action → ∀ index,
      RunM.Twins (related index) (RunM.onSession action) (RunM.onSession action)) (bundle : Bundle) :
    Twins related anything (plan.inquiry bundle) (other.inquiry bundle) := by
  unfold Plan.inquiry
  rw [provider, oracle]
  have asked := onSession steps (Oracle.madeOf_course plan.provider plan.oracle bundle {})
  refine asked.bind fun one two same => ?_
  subst same
  exact .ended ⟨rfl, fun _ _ => True.intro⟩

end Twins

end StepM

namespace Units

open RunM

variable {σ ι : Type} {first second : Plan σ}

section

variable {related : World σ → World σ → Prop}

section

variable (common : Common related first second) (document : Document) (unit : Declaration)

include common

theorem twins_tally (outcome : Outcome) :
    Twins related (tally document unit outcome) (tally document unit outcome) := by
  unfold tally
  split
  · exact common.count _ _
  · split
    · exact (common.count _ _).bind fun _ => common.record _
    · exact common.count _ _

theorem twins_apply (comment : Text) :
    Twins related (apply first document unit comment) (apply second document unit comment) := by
  unfold apply
  refine .get_bind fun one two holds => ?_
  rw [common.hooks one two holds, common.reconciler]
  split
  · exact .throw related _
  · dsimp only
    exact (twins_tally common document unit _).bind fun _ => .pure related _

theorem twins_respond (unitId : String) (result : Except Tokens.Overflow Response) : Twins related
    (respond first document unit unitId result) (respond second document unit unitId result) := by
  cases result with
  | error reason => exact .throw related _
  | ok response =>
      unfold respond
      dsimp only
      split
      · exact twins_apply common document unit _
      · exact (common.count _ _).bind fun _ => .pure related _
      · refine (common.count _ _).bind fun _ => (common.record _).bind fun _ => ?_
        exact (common.notify _ _).bind fun _ => .pure related _

theorem twins_fail (unitId : String) (failure : RunFailure) : Twins related
    (fail first document unit unitId failure) (fail second document unit unitId failure) :=
  (common.count _ _).bind fun _ => (common.record _).bind fun _ =>
    (common.notify _ _).bind fun _ => .pure related _

theorem twins_answer (unitId : String) (result : Except Tokens.Overflow Response) : Twins related
    (answer first document unit unitId result) (answer second document unit unitId result) := by
  unfold answer
  refine (twins_respond common document unit unitId result).capture.bind fun result => ?_
  cases result with
  | ok changed => exact .pure related _
  | error failure => exact twins_fail common document unit _ _

/-- A file that is read the same in both worlds is taken up the same. -/
theorem twins_takeUp {path : Path}
    (settings : ∀ one two, related one two → two.extractor.settings = one.extractor.settings)
    (reads : ∀ one two, related one two →
      second.reader.open? two.disk path = first.reader.open? one.disk path) :
    Twins related (takeUp first path) (takeUp second path) := by
  intro one two holds
  unfold takeUp
  rw [run_bind, run_bind, run_openSource, run_openSource, reads one two holds]
  dsimp only
  cases first.reader.open? one.disk path with
  | error fault => exact ((common.record _).bind fun _ => .pure related _) one two holds
  | ok document =>
      rw [run_get_bind, run_get_bind, settings one two holds]
      exact ⟨rfl, holds⟩

theorem twins_countFile : Twins related (countFile document) (countFile document) := by
  unfold countFile
  refine (common.count _ _).bind fun _ => ?_
  split
  · exact common.count _ _
  · exact .pure related _

end

section

variable (shared : Shared related first second) (document : Document) (unit : Declaration)

include shared

theorem twins_find (bundle : Bundle) (counted : Bool) : Twins related
    (Relations.find first bundle counted) (Relations.find second bundle counted) := by
  unfold Relations.find
  refine .get_bind fun one two holds => ?_
  rw [shared.embedding, shared.nodes one two holds]
  dsimp only
  split
  · exact (shared.count _ _).bind fun _ => .pure related _
  · exact .pure related _

theorem twins_withRelated (bundle : Bundle) :
    Twins related (withRelated first bundle) (withRelated second bundle) := by
  unfold withRelated
  refine .get_bind fun one two holds => ?_
  rw [shared.flags one two holds, shared.relates]
  split
  · exact (twins_find shared bundle true).bind fun _ => .pure related _
  · exact .pure related _

theorem twins_begin :
    Twins related (begin first document unit) (begin second document unit) := by
  unfold begin
  rw [shared.reconciler]
  refine (shared.count _ _).bind fun _ => ?_
  split
  · exact (shared.count _ _).bind fun _ => .pure related _
  · refine .get_bind fun one two holds => ?_
    rw [shared.hooks one two holds, shared.extractor one two holds]
    dsimp only
    split
    · exact (twins_fail shared.toCommon document unit _ _).bind fun _ => .pure related _
    · refine (twins_withRelated shared _).capture.bind fun result => ?_
      cases result with
      | ok found => exact .pure related _
      | error failure =>
          exact (twins_fail shared.toCommon document unit _ _).bind fun _ => .pure related _

end

end

/-! ## Files -/

/-- A file that was taken up with its units has been read. -/
theorem open?_of_takeUp {plan : Plan σ} {path : Path} {world : World σ} {found : Document × List Nat}
    (taken : ((takeUp plan path).run world).1 = .ok (.ok found)) :
    ∃ document, plan.reader.open? world.disk path = .ok document := by
  unfold takeUp at taken
  rw [run_bind, run_openSource] at taken
  cases opened : plan.reader.open? world.disk path with
  | ok document => exact ⟨document, rfl⟩
  | error fault =>
      rw [opened] at taken
      dsimp only at taken
      rw [run_bind] at taken
      split at taken
      · cases taken
      · cases taken

section

variable {related : ι → World σ → World σ → Prop}

theorem twins_unitCourse (shared : ∀ index, Shared (related index) first second)
    (asks : ∀ bundle,
      StepM.Twins related StepM.anything (first.inquiry bundle) (second.inquiry bundle))
    (document : Document) (unit : Declaration) : StepM.Twins related StepM.anything
      (unitCourse first document unit) (unitCourse second document unit) := by
  refine (StepM.Twins.atOnce fun index => twins_begin (shared index) document unit).bind
    fun begun _ => ?_
  cases begun with
  | inl changed => exact .pure True.intro
  | inr bundle =>
      refine (asks bundle).bind fun result _ => ?_
      exact .atOnce fun index => twins_answer (shared index).toCommon document unit _ _

theorem twins_unitsCourse (units : ∀ document unit, StepM.Twins related StepM.anything
      (unitCourse first document unit) (unitCourse second document unit))
    (indices : List Nat) (document : Document) : StepM.Twins related StepM.anything
      (unitsCourse first indices document) (unitsCourse second indices document) := by
  induction indices generalizing document with
  | nil => exact .pure True.intro
  | cons index rest ih =>
      rw [unitsCourse, unitsCourse]
      split
      · exact ih document
      · exact (units document _).bind fun changed _ => ih _

/-- A fact is known of a file that could be parsed. -/
def Known (fact : Prop) : Upshot → Prop
  | .unparsed _ => True
  | .processed _ => fact

/-- A file that is read the same in both worlds is revised the same, and what is known of a file that
    can be read is known of its document. -/
theorem twins_reviseCourse {fact : Prop} (common : ∀ index, Common (related index) first second)
    (units : ∀ document unit, StepM.Twins related StepM.anything
      (unitCourse first document unit) (unitCourse second document unit)) {path : Path}
    (settings : ∀ index one two, related index one two →
      two.extractor.settings = one.extractor.settings)
    (reads : ∀ index one two, related index one two →
      second.reader.open? two.disk path = first.reader.open? one.disk path)
    (known : ∀ index one two document, related index one two →
      first.reader.open? one.disk path = .ok document → fact) :
    StepM.Twins related (Known fact) (reviseCourse first path) (reviseCourse second path) := by
  have taken : StepM.Twins related (fun source => ∀ found, source = .ok found → fact)
      (StepM.atOnce (takeUp first path)) (StepM.atOnce (takeUp second path)) := by
    refine .once fun index one two holds => ?_
    obtain ⟨same, after⟩ := twins_takeUp (common index) (settings index) (reads index) one two holds
    refine ⟨⟨same.symm, fun source found taken here => ?_⟩, after⟩
    obtain ⟨document, opened⟩ := open?_of_takeUp (here ▸ found)
    exact known index one two document holds opened
  refine taken.bind fun source known => ?_
  cases source with
  | error fault => exact .pure True.intro
  | ok found =>
      obtain ⟨document, indices⟩ := found
      refine (twins_unitsCourse units indices document).bind fun document _ => ?_
      refine (StepM.Twins.atOnce fun index => twins_countFile (common index) document).bind
        fun _ _ => ?_
      exact .pure (known _ rfl)

end

/-! ## Saving -/

theorem run_save_ok {path : Path} {document : Document} {world : World σ} {disk : Disk}
    (wrote : world.disk.write path (Utf8.encode document.render) = .ok disk) :
    (save path document).run world = (.ok (), { world with disk }) := by
  unfold save
  rw [run_get_bind, wrote]
  rfl

theorem run_save_error {path : Path} {document : Document} {world : World σ} {fault : Disk.Fault}
    (refused : world.disk.write path (Utf8.encode document.render) = .error fault)
    (isOpen : world.stats.finished = false) :
    (save path document).run world = (.error (.unsaved path fault), { world with
      stats := world.stats.charge (.ofRecord (unsavedRecord path (.unsaved path fault))) }) := by
  unfold save
  rw [run_get_bind, refused]
  dsimp only
  rw [run_bind, run_record _ isOpen]
  rfl

theorem store_dry {plan : Plan σ} (dry : plan.dryRun = true) (path : Path) (document : Document) :
    store plan path document = pure () :=
  if_pos dry

theorem store_wet {plan : Plan σ} (wet : plan.dryRun = false) (path : Path) (document : Document) :
    store plan path document = save path document :=
  if_neg (by rw [wet]; exact Bool.false_ne_true)

/-- What is left to do for a file whose document has changed. -/
def saving (plan : Plan σ) (path : Path) (document : Document) : StepM σ Upshot := do
  StepM.atOnce (store plan path document)
  return .processed document

/-- The document is saved in one step. -/
theorem advance_saving (plan : Plan σ) {path : Path} {document : Document} {world after : World σ}
    {result : Except RunFailure Unit}
    (saved : (store plan path document).run world = (result, after)) :
    Course.advance (saving plan path document).run world =
      (.ended (result.map fun _ => .processed document), after) := by
  rw [saving, StepM.advance_atOnce_bind, saved]
  cases result with
  | ok value => rfl
  | error failure => rfl

/-- Where two files that are revised alike are to be closed, either both are over and no document has
    changed, or a changed document of a file that could be read is saved next, or both take one more
    step alike. -/
inductive Closing (related : ι → World σ → World σ → Prop) (fact : Prop) (first second : Plan σ)
    (path : Path) (left right : StepM σ Upshot) : Prop where
  | ended (result : Except RunFailure Upshot)
      (kept : ∀ document, result = .ok (.processed document) → document.changed = false)
      (one : left >>= close first path = ExceptT.mk (.ended result))
      (two : right >>= close second path = ExceptT.mk (.ended result))
  | saving (document : Document) (changed : document.changed = true) (known : fact)
      (one : left >>= close first path = saving first path document)
      (two : right >>= close second path = saving second path document)
  | onward (act act' : World σ → World σ) (next next' : World σ → StepM σ Upshot)
      (one : left >>= close first path =
        ExceptT.mk (.step act fun world => ExceptT.run (next world >>= close first path)))
      (two : right >>= close second path =
        ExceptT.mk (.step act' fun world => ExceptT.run (next' world >>= close second path)))
      (kept : ∀ index one two, related index one two → related index (act one) (act' two))
      (rest : ∀ index one two, related index one two →
        StepM.Twins related (Known fact) (next one) (next' two))

theorem closing (first second : Plan σ) (path : Path) {related : ι → World σ → World σ → Prop}
    {fact : Prop} {left right : StepM σ Upshot}
    (twins : StepM.Twins related (Known fact) left right) :
    Closing related fact first second path left right := by
  cases twins with
  | step kept rest => exact .onward _ _ _ _ rfl rfl kept rest
  | @ended result other same =>
      obtain ⟨rfl, known⟩ := same
      cases other with
      | error failure => exact .ended (.error failure) (fun _ none => nomatch none) rfl rfl
      | ok upshot =>
          cases upshot with
          | unparsed fault => exact .ended (.ok (.unparsed fault)) (fun _ none => nomatch none) rfl rfl
          | processed document =>
              have closes (plan : Plan σ) :
                  ExceptT.mk (.ended (.ok (.processed document))) >>= close plan path =
                    close plan path (.processed document) := rfl
              cases changed : document.changed with
              | false =>
                  refine .ended (.ok (.processed document)) (fun _ same => ?_) ?_ ?_
                  · cases same
                    exact changed
                  all_goals
                    refine (closes _).trans ?_
                    rw [close, changed]
                    rfl
              | true =>
                  refine .saving document changed (known _ rfl) ?_ ?_
                  all_goals
                    refine (closes _).trans ?_
                    rw [close, changed]
                    rfl

end Units

end Scholia
