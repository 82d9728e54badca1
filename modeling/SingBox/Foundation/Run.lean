/-! # Runs of a transition system

A run is the list of actions taken so far and the state they have led to.
What holds of every run is proved by one step at a time.
-/

namespace SingBox

open List

inductive Run {State : Type u} {Action : Type v} (step : State → Action → State → Prop)
    (initial : State) : List Action → State → Prop
  | start : Run step initial [] initial
  | extend {actions state action next} :
    Run step initial actions state →
    step state action next →
    Run step initial (actions ++ [action]) next

namespace Run

variable {State : Type u} {Action : Type v} {step : State → Action → State → Prop}
  {initial state : State} {actions : List Action}

/-- What holds initially and is kept by every step holds of every run. -/
theorem invariant (holds : List Action → State → Prop) (start : holds [] initial)
    (kept : ∀ {actions state action next}, holds actions state → step state action next →
      holds (actions ++ [action]) next)
    (run : Run step initial actions state) : holds actions state := by
  induction run with
  | start => exact start
  | extend _ isStep induction => exact kept induction isStep

/-- An invariant that says nothing of the actions. -/
theorem preserves (run : Run step initial actions state) {holds : State → Prop}
    (start : holds initial)
    (kept : ∀ {state action next}, holds state → step state action next → holds next) :
    holds state :=
  run.invariant (fun _ => holds) start kept

theorem mono {other : State → Action → State → Prop}
    (weaker : ∀ {state action next}, step state action next → other state action next)
    (run : Run step initial actions state) : Run other initial actions state := by
  induction run with
  | start => exact .start
  | extend _ isStep induction => exact induction.extend (weaker isStep)

/-- A run whose actions all satisfy a condition is one of the restricted steps,
and conversely. -/
theorem restrict_iff {allowed : Action → Prop} :
    Run (fun state action next => step state action next ∧ allowed action) initial actions state ↔
      Run step initial actions state ∧ ∀ action ∈ actions, allowed action := by
  constructor
  · intro run
    induction run with
    | start => exact ⟨.start, nofun⟩
    | extend _ isStep induction =>
      refine ⟨induction.1.extend isStep.1, ?_⟩
      intro action member
      rcases mem_append.mp member with earlier | last
      · exact induction.2 action earlier
      · rw [mem_singleton.mp last]
        exact isStep.2
  · rintro ⟨run, areAllowed⟩
    induction run with
    | start => exact .start
    | extend _ isStep induction =>
      refine .extend (induction fun action member => ?_) ⟨isStep, ?_⟩
      · exact areAllowed action (mem_append_left _ member)
      · exact areAllowed _ mem_concat_self

/-- An invariant that speaks of the actions of the whole run, of which every step
takes one. -/
theorem invariant_among (holds : State → Prop) (start : holds initial)
    (kept : ∀ {state action next}, holds state → action ∈ actions → step state action next →
      holds next)
    (run : Run step initial actions state) : holds state :=
  (restrict_iff.mpr ⟨run, fun _ member => member⟩).preserves start
    fun held isStep => kept held isStep.2 isStep.1

/-- The actions of a system whose steps are computed, taken in order. -/
def execute (next : State → Action → Option State) : State → List Action → Option State
  | state, [] => some state
  | state, action :: actions => (next state action).bind fun state => execute next state actions

variable {final : State} {next : State → Action → Option State}

theorem extend_execute {before : List Action} (run : Run step initial before state)
    (sound : ∀ {state action after}, next state action = some after → step state action after)
    (executed : execute next state actions = some final) :
    Run step initial (before ++ actions) final := by
  induction actions generalizing before state with
  | nil =>
    cases executed
    simpa using run
  | cons _ _ induction =>
    rw [execute, Option.bind_eq_some_iff] at executed
    rcases executed with ⟨_, isStep, executed⟩
    have extended := induction (run.extend (sound isStep)) executed
    simpa using extended

theorem of_execute (executed : execute next initial actions = some final) :
    Run (fun state action after => next state action = some after) initial actions final :=
  extend_execute .start id executed

end Run

end SingBox
