import Scholia.Oracle.Generation
import Scholia.Proofs.Course

/-! # The steps of a request for a comment

A request for a comment is a course of a few kinds of steps. What each of them keeps, the whole request
keeps, whatever happens between the steps.
-/

namespace Scholia.Oracle

variable {σ : Type}

/-- What is done in a step of a request. -/
inductive Step (provider : Provider σ) (oracle : Oracle) :
    ∀ β : Type, (Session σ → β × Session σ) → Prop where
  | kept (entry : Registered) (bundle : Bundle) (options : GenerationOptions) :
      Step provider oracle _ (oracle.kept entry bundle options)
  | enter : Step provider oracle Unit fun session => ((), session.enter)
  | send (request : CompletionRequest) :
      Step provider oracle Unit fun session => ((), session.send (.completion request))
  | answer (request : CompletionRequest) :
      Step provider oracle _ fun session => session.answer provider request
  | hear (endpoint : Endpoint) (request : CompletionRequest)
      (reply : Except ProviderError (Option String)) :
      Step provider oracle _ fun session => session.hear endpoint request reply
  | sleep (seconds : Float) : Step provider oracle Unit fun session => ((), session.sleep seconds)
  | leave : Step provider oracle Unit fun session => ((), session.leave)
  | keep (entry : Registered) (bundle : Bundle) (response : Response) :
      Step provider oracle Unit fun session => ((), oracle.keepComment entry bundle response session)

section

variable (provider : Provider σ) (oracle : Oracle) (entry : Registered) (bundle : Bundle)
  (options : GenerationOptions)

theorem madeOf_askCourse (request : CompletionRequest) :
    (askCourse provider entry request).MadeOf (Step provider oracle) :=
  .step (.send request) fun _ => .step (.answer request) fun reply =>
    .step (.hear entry.endpoint request reply) fun _ => .ended _

theorem madeOf_tries {α : Type} {attempt : Course (Session σ) (Except OracleFailure α)}
    (made : attempt.MadeOf (Step provider oracle)) (baseMs : Int) (left number : Nat)
    (last : Option OracleFailure) :
    (Retry.course baseMs attempt left number last).MadeOf (Step provider oracle) := by
  induction left generalizing number last with
  | zero => exact .ended _
  | succ left ih =>
      refine made.bind fun result => ?_
      cases result with
      | ok value => exact .ended _
      | error failure =>
          dsimp only
          split
          · exact .ended _
          · split
            · exact .ended _
            · exact .step (.sleep _) fun _ => ih _ _

theorem madeOf_freshCourse :
    (freshCourse provider oracle entry bundle options).MadeOf (Step provider oracle) := by
  refine .step .enter fun _ => ?_
  refine (madeOf_tries provider oracle (madeOf_askCourse provider oracle entry _) _ _ _ _).bind
    fun result => .step .leave fun _ => ?_
  cases result with
  | done response => exact .step (.keep entry bundle response) fun _ => .ended _
  | gaveUp last => exact .ended _
  | overflow reason => exact .ended _

/-- A request for a comment is made of these steps. -/
theorem madeOf_course :
    (course provider oracle bundle options).MadeOf (Step provider oracle) := by
  unfold course
  cases oracle.resolve options.modelId generationType with
  | error reason => exact .ended _
  | ok entry =>
      refine .step (.kept entry bundle options) fun served => ?_
      cases served with
      | some response => exact .ended _
      | none => exact madeOf_freshCourse provider oracle entry bundle options

end

end Scholia.Oracle
