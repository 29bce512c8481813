import Scholia.Proofs.Run.Charging
import Scholia.Run.Units

/-! # Handlers that do not look at everything

A handler may be blind to a part of the values that it is given: what it makes of two values that
agree otherwise agrees otherwise. Handlers that are all blind to a part come to outcomes that agree
otherwise. A request for a comment is blind to the vector of its bundle.
-/

namespace Scholia

namespace Reaction

variable {α β : Type}

def map (f : α → β) : Reaction α → Reaction β
  | keep => keep
  | replace value => replace (f value)
  | fail message => fail message

end Reaction

namespace Handler

variable {α β : Type} {view : α → β}

/-- Of a value no more than a view of it matters to the handler. -/
structure Blind (view : α → β) (handler : Handler α) : Prop where
  given : ∀ one two, view one = view two → view (handler.run one).1 = view (handler.run two).1
  reaction : ∀ one two, view one = view two →
    (handler.run one).2.map view = (handler.run two).2.map view

/-- Two outcomes agree as far as a view goes. -/
structure Outcome.Agree (view : α → β) (first second : Outcome α) : Prop where
  given : view first.given = view second.given
  result : first.result.map view = second.result.map view

theorem view_getD {one two : α} {first second : Option α} (given : view one = view two)
    (current : first.map view = second.map view) :
    view (first.getD one) = view (second.getD two) := by
  rw [← Option.getD_map view, ← Option.getD_map view, given, current]

theorem agree_runFrom (stage : Stage) {handlers : List (Handler α)}
    (blind : ∀ handler ∈ handlers, handler.Blind view) {one two : α} {first second : Option α}
    (given : view one = view two) (current : first.map view = second.map view) :
    Outcome.Agree view (runFrom stage handlers one first) (runFrom stage handlers two second) := by
  induction handlers generalizing one two first second with
  | nil => exact ⟨given, congrArg Except.ok (view_getD given current)⟩
  | cons handler rest ih =>
      obtain ⟨sees, blind⟩ := List.forall_mem_cons.mp blind
      have changed := sees.given _ _ (view_getD given current)
      have reaction := sees.reaction _ _ (view_getD given current)
      have replaced : first.isSome = second.isSome := by
        rw [← Option.isSome_map, current, Option.isSome_map]
      rw [runFrom, runFrom]
      generalize handler.run (first.getD one) = left at changed reaction
      generalize handler.run (second.getD two) = right at changed reaction
      obtain ⟨here, answer⟩ := left
      obtain ⟨there, reply⟩ := right
      dsimp only at changed reaction ⊢
      have next : view (if first.isSome then one else here) =
          view (if second.isSome then two else there) := by
        rw [replaced]
        split
        · exact given
        · exact changed
      have kept : (first.map fun _ => here).map view = (second.map fun _ => there).map view := by
        cases first with
        | none =>
            cases second with
            | none => rfl
            | some _ => cases replaced
        | some _ =>
            cases second with
            | none => cases replaced
            | some _ => exact congrArg some changed
      cases answer with
      | keep =>
          cases reply with
          | keep =>
              have agree := ih blind next kept
              exact ⟨agree.given, agree.result⟩
          | replace _ | fail _ => cases reaction
      | replace value =>
          cases reply with
          | replace other =>
              have same : (some value).map view = (some other).map view :=
                congrArg some (by injection reaction)
              have agree := ih blind next same
              exact ⟨agree.given, agree.result⟩
          | keep | fail _ => cases reaction
      | fail message =>
          cases reply with
          | fail other =>
              cases reaction
              exact ⟨next, rfl⟩
          | keep | replace _ => cases reaction

/-- Handlers that are blind to the rest come to outcomes that agree. -/
theorem agree_runAll (stage : Stage) {handlers : List (Handler α)}
    (blind : ∀ handler ∈ handlers, handler.Blind view) {one two : α} (same : view one = view two) :
    Outcome.Agree view (runAll stage handlers one) (runAll stage handlers two) :=
  agree_runFrom stage blind same rfl

end Handler

/-- The bundle without its vector. -/
def Bundle.bare (bundle : Bundle) : Bundle :=
  { bundle with embedding := none }

theorem Bundle.id_eq {one two : Bundle} (same : one.bare = two.bare) : two.id = one.id := by
  have ids := congrArg Bundle.id same
  exact ids.symm

/-- The vectors of declarations get into bundles, and nowhere else. -/
theorem Extractor.bare_bundle (extractor : Extractor) (index : Table (List Float))
    (document : Document) (unit : Declaration) :
    ({ extractor with embeddingIndex := index }.bundle document unit).bare =
      (extractor.bundle document unit).bare := rfl

namespace Units

open RunM

variable {σ : Type}

/-- How a unit is begun with, as far as no vector is looked at. -/
def sightless (begun : Declaration ⊕ Bundle) : Declaration ⊕ Bundle :=
  begun.map id Bundle.bare

/-- Nothing that is asked or kept depends on the vector of a bundle, and so nothing that is done with a
    unit does. -/
theorem unitCourse_sightless (plan : Plan σ) (document : Document) (unit : Declaration) :
    unitCourse plan document unit =
      StepM.atOnce (sightless <$> begin plan document unit) >>= fun begun =>
        match begun with
        | .inl changed => pure changed
        | .inr bundle => plan.inquiry bundle >>= fun result =>
            StepM.atOnce (answer plan document unit bundle.id result) := by
  refine ExceptT.ext (congrArg₂ Course.step (funext fun world => ?_) (funext fun world => ?_))
  · rw [run_map]
  · dsimp only
    rw [run_map]
    cases ((begin plan document unit).run world).1 with
    | error failure => rfl
    | ok begun =>
        cases begun with
        | inl changed => rfl
        | inr bundle => rfl

end Units

end Scholia
