import Mathlib.Order.WellFounded
import SingBox.Foundation.Run

/-! # Refinement of a deterministic machine

A concurrent system refines a deterministic one when every step of it either
leaves the abstract state alone or is the next abstract step. The abstract
machine then gives the same answer for all interleavings. That there is an
answer at all is the other half: no run goes on forever, and a run that cannot
be extended has reached an answer.
-/

namespace SingBox

open Function

variable {State : Type u} {Action : Type v} {Abstract : Type w}
  {step : State → Action → State → Prop} {initial state : State} {actions : List Action}
  {next : Abstract → Abstract}

theorem Run.refines {abstract : State → Abstract}
    (holds : State → Prop) (start : holds initial)
    (simulated : ∀ {state action after}, holds state → step state action after →
      holds after ∧ (abstract after = abstract state ∨ abstract after = next (abstract state)))
    (run : Run step initial actions state) :
    holds state ∧ ∃ count, next^[count] (abstract initial) = abstract state := by
  induction run with
  | start => exact ⟨start, 0, rfl⟩
  | extend _ isStep induction =>
    rcases induction with ⟨isHeld, count, reached⟩
    rcases simulated isHeld isStep with ⟨afterHeld, same | moved⟩
    · exact ⟨afterHeld, count, by rw [reached, same]⟩
    · exact ⟨afterHeld, count + 1, by rw [iterate_succ_apply', reached, moved]⟩

/-- A state that the machine does not leave is the only one of its kind that
it comes to. -/
theorem iterate_fixed_unique {first left right : Abstract}
    (leftFixed : next left = left) (rightFixed : next right = right)
    {leftCount rightCount : Nat} (isLeft : next^[leftCount] first = left)
    (isRight : next^[rightCount] first = right) : left = right := by
  calc left = next^[rightCount] left := (iterate_fixed leftFixed rightCount).symm
    _ = next^[rightCount] (next^[leftCount] first) := by rw [isLeft]
    _ = next^[leftCount] (next^[rightCount] first) := Function.Commute.iterate_iterate_self
        next rightCount leftCount first
    _ = next^[leftCount] right := by rw [isRight]
    _ = right := iterate_fixed rightFixed leftCount

/-- No run goes on forever. -/
def Terminates (step : State → Action → State → Prop) (initial : State) : Prop :=
  ¬∃ path : Nat → State, path 0 = initial ∧
    ∀ index, ∃ action, step (path index) action (path (index + 1))

theorem terminates_of_rank {Rank : Type w} {less : Rank → Rank → Prop}
    (wellFounded : WellFounded less) (rank : State → Rank) (holds : State → Prop)
    (start : holds initial)
    (decreases : ∀ {state action after}, holds state → step state action after →
      holds after ∧ less (rank after) (rank state)) :
    Terminates step initial := by
  rintro ⟨path, isInitial, isStep⟩
  have isHeld : ∀ index, holds (path index) := by
    intro index
    induction index with
    | zero =>
      rw [isInitial]
      exact start
    | succ index induction =>
      rcases isStep index with ⟨action, taken⟩
      exact (decreases induction taken).1
  rcases wellFounded.has_min (Set.range fun index => rank (path index)) ⟨_, 0, rfl⟩ with
    ⟨least, ⟨index, isLeast⟩, minimal⟩
  rcases isStep index with ⟨_, taken⟩
  have smaller := (decreases (isHeld index) taken).2
  dsimp only at isLeast
  rw [isLeast] at smaller
  exact minimal _ ⟨index + 1, rfl⟩ smaller

end SingBox
