import Mathlib.Logic.Basic
import Scholia.Course

/-! # Courses side by side

What comes of a course without an interruption is what comes of its parts, one after another. Courses
that are interrupted are compared step by step: twins take as many steps, whatever happens between
the steps, as long as the states are related whenever they take one.
-/

namespace Scholia.Course

variable {ω ψ α β γ δ : Type}

/-! ## Without an interruption -/

@[simp] theorem run_pure (value : α) (state : ω) : (pure value : Course ω α).run state = (value, state) :=
  rfl

@[simp] theorem run_once (action : ω → α × ω) (state : ω) : (once action).run state = action state :=
  rfl

@[simp] theorem run_bind (first : Course ω α) (rest : α → Course ω β) (state : ω) :
    (first >>= rest).run state = (rest (first.run state).1).run (first.run state).2 := by
  induction first generalizing state with
  | ended value => rfl
  | step act next ih => exact ih state (act state)

instance : LawfulMonad (Course ω) :=
  .mk' _
    (fun course => by
      induction course with
      | ended value => rfl
      | step act next ih => exact congrArg (step act) (funext ih))
    (fun _ _ => rfl)
    (fun course _ _ => by
      induction course with
      | ended value => rfl
      | step act next ih => exact congrArg (step act) (funext ih))

/-- One step changes nothing of what comes of all of them. -/
theorem run_advance (course : Course ω α) (state : ω) :
    (course.advance state).1.run (course.advance state).2 = course.run state := by
  cases course with
  | ended value => rfl
  | step act next => rfl

/-! ## Courses made of some actions -/

/-- Every step of a course is one of some actions. -/
inductive MadeOf (allowed : ∀ β : Type, (ω → β × ω) → Prop) : Course ω α → Prop where
  | ended (value : α) : MadeOf allowed (ended value)
  | step {β : Type} {action : ω → β × ω} {rest : β → Course ω α} (first : allowed β action)
      (others : ∀ value, MadeOf allowed (rest value)) : MadeOf allowed (once action >>= rest)

namespace MadeOf

variable {allowed : ∀ β : Type, (ω → β × ω) → Prop}

theorem once {action : ω → α × ω} (first : allowed α action) :
    MadeOf allowed (Course.once action) := by
  have alone : Course.once action >>= Course.ended = Course.once action := rfl
  rw [← alone]
  exact .step first fun value => .ended value

theorem bind {course : Course ω α} {rest : α → Course ω β} (made : MadeOf allowed course)
    (others : ∀ value, MadeOf allowed (rest value)) : MadeOf allowed (course >>= rest) := by
  induction made with
  | ended value => exact others value
  | step first _ ih =>
      rw [bind_assoc]
      exact .step first ih

end MadeOf

/-! ## Twins -/

/-- Two courses keep step: whatever relation of a family states are in when a step is taken, they are
    in it after the step; and the values at the end go together. -/
inductive Twins {ι : Type} (related : ι → ω → ψ → Prop) (akin : α → β → Prop) :
    Course ω α → Course ψ β → Prop where
  | ended {value : α} {other : β} (same : akin value other) :
      Twins related akin (ended value) (ended other)
  | step {act : ω → ω} {act' : ψ → ψ} {next : ω → Course ω α} {next' : ψ → Course ψ β}
      (kept : ∀ index one two, related index one two → related index (act one) (act' two))
      (rest : ∀ index one two, related index one two → Twins related akin (next one) (next' two)) :
      Twins related akin (step act next) (step act' next')

namespace Twins

variable {ι : Type} {related : ι → ω → ψ → Prop} {akin : α → β → Prop} {fellow : γ → δ → Prop}
  {first : Course ω α} {second : Course ψ β}

theorem once {action : ω → α × ω} {other : ψ → β × ψ}
    (both : ∀ index one two, related index one two →
      akin (action one).1 (other two).1 ∧ related index (action one).2 (other two).2) :
    Twins related akin (Course.once action) (Course.once other) :=
  .step (fun index one two holds => (both index one two holds).2)
    fun index one two holds => .ended (both index one two holds).1

theorem bind {next : α → Course ω γ} {further : β → Course ψ δ} (begin : Twins related akin first second)
    (rest : ∀ value other, akin value other → Twins related fellow (next value) (further other)) :
    Twins related fellow (first >>= next) (second >>= further) := by
  induction begin with
  | ended same => exact rest _ _ same
  | step kept _ ih => exact .step kept ih

theorem weaken {other : α → β → Prop} (twins : Twins related akin first second)
    (weaker : ∀ value value', akin value value' → other value value') :
    Twins related other first second := by
  induction twins with
  | ended same => exact .ended (weaker _ _ same)
  | step kept _ ih => exact .step kept ih

/-- Twins come to an end together. -/
theorem isOver_eq (twins : Twins related akin first second) : first.isOver = second.isOver := by
  cases twins with
  | ended same => rfl
  | step kept rest => rfl

/-- Twins that have taken a step in related states are twins. -/
theorem advance (twins : Twins related akin first second) (index : ι) {one : ω} {two : ψ}
    (holds : related index one two) :
    Twins related akin (first.advance one).1 (second.advance two).1 ∧
      related index (first.advance one).2 (second.advance two).2 := by
  cases twins with
  | ended same => exact ⟨.ended same, holds⟩
  | step kept rest => exact ⟨rest index one two holds, kept index one two holds⟩

/-- Without an interruption twins end in related states. -/
theorem run (twins : Twins related akin first second) {index : ι} {one : ω} {two : ψ}
    (holds : related index one two) :
    akin (first.run one).1 (second.run two).1 ∧ related index (first.run one).2 (second.run two).2 := by
  induction twins generalizing one two with
  | ended same => exact ⟨same, holds⟩
  | step kept _ ih => exact ih index _ _ holds (kept index _ _ holds)

end Twins

end Scholia.Course
