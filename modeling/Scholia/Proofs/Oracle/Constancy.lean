import Scholia.Proofs.Oracle.Steps

/-! # Providers without memory

A provider may reply to a request the same whenever it is asked. Then what comes of each step of a
request for a comment does not depend on the requests before it, if no comment is kept.
-/

namespace Scholia

variable {σ α : Type}

/-- The reply to a request is the same whatever was asked before. -/
def Provider.Forgetful (provider : Provider σ) : Prop :=
  ∃ reply : CompletionRequest → Completion, ∀ request state,
    (provider.complete request state).1 = reply request

namespace Session

/-- A request comes to the same in all sessions. -/
def Constant (action : Session σ → α × Session σ) : Prop :=
  ∀ one two, (action one).1 = (action two).1

theorem constant_settle (endpoint : Endpoint) (request : Json) (reply : Except ProviderError α)
    (write : α → Json) : Constant (σ := σ) (settle endpoint request reply write) := by
  intro one two
  cases reply with
  | ok value => rfl
  | error error => rfl

theorem constant_answer {provider : Provider σ} (forgetful : provider.Forgetful)
    (request : CompletionRequest) : Constant fun session => session.answer provider request := by
  obtain ⟨reply, known⟩ := forgetful
  intro one two
  exact (known request one.provider).trans (known request two.provider).symm

end Session

/-- Without a cache, each step of a request for a comment comes to the same whenever it is taken. -/
theorem Oracle.constant_step {provider : Provider σ} (forgetful : provider.Forgetful)
    {oracle : Oracle} (uncached : oracle.cache = none) {action : Session σ → α × Session σ}
    (step : Step provider oracle α action) : Session.Constant action := by
  cases step with
  | kept entry bundle options =>
      have unkept (session : Session σ) :
          oracle.kept entry bundle options session = (none, session) := by
        unfold kept
        split
        · rfl
        · rw [uncached]
          rfl
      intro one two
      rw [unkept, unkept]
  | answer request => exact Session.constant_answer forgetful request
  | hear endpoint request reply => exact fun one two => Session.constant_settle endpoint _ _ _ _ _
  | enter | send _ | sleep _ | leave | keep _ _ _ => exact fun _ _ => rfl

end Scholia
