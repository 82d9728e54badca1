import Mathlib.Data.Fintype.Defs

/-! # Grouped requirements

A condition in conjunctive form: alternatives are collected in groups, and
every group that has an alternative needs one that holds. Two conditions are
united group by group, so that an alternative of either side serves both.
-/

namespace SingBox

/-- Which groups have an alternative and which of them have one that holds. -/
structure Requirement (Group : Type u) where
  required : Group → Bool
  satisfied : Group → Bool

namespace Requirement

variable {Group : Type u}

def Holds (condition : Requirement Group) : Prop :=
  ∀ group, condition.required group = true → condition.satisfied group = true

instance [Fintype Group] (condition : Requirement Group) : Decidable condition.Holds :=
  inferInstanceAs (Decidable (∀ group, condition.required group = true →
    condition.satisfied group = true))

def unite (left right : Requirement Group) : Requirement Group where
  required group := left.required group || right.required group
  satisfied group := left.satisfied group || right.satisfied group

@[simp] theorem unite_required (left right : Requirement Group) (group : Group) :
    (left.unite right).required group = (left.required group || right.required group) :=
  rfl

@[simp] theorem unite_satisfied (left right : Requirement Group) (group : Group) :
    (left.unite right).satisfied group = (left.satisfied group || right.satisfied group) :=
  rfl

section

variable [DecidableEq Group] (condition : Requirement Group) (late : Group) (asked hit : Bool)

/-- One more alternative for one group. -/
def extend : Requirement Group where
  required group := condition.required group || (decide (group = late) && asked)
  satisfied group := condition.satisfied group || (decide (group = late) && hit)

theorem unite_extend (other : Requirement Group) (otherAsked otherHit : Bool) :
    (condition.extend late asked hit).unite (other.extend late otherAsked otherHit) =
      (condition.unite other).extend late (asked || otherAsked) (hit || otherHit) := by
  simp only [unite, extend, Bool.and_or_distrib_left, Bool.or_assoc, Bool.or_left_comm]

variable {condition late asked hit}

theorem Holds.extend (holds : condition.Holds)
    (covered : asked = true → condition.satisfied late = true) :
    (condition.extend late asked hit).Holds := by
  intro group isRequired
  simp only [Requirement.extend, Bool.or_eq_true, Bool.and_eq_true, decide_eq_true_eq]
    at isRequired ⊢
  rcases isRequired with isRequired | ⟨rfl, isAsked⟩
  · exact .inl (holds group isRequired)
  · exact .inl (covered isAsked)

/-- The alternative makes the condition hold exactly when its group is the only one missing. -/
theorem extend_late_iff :
    ¬ condition.Holds ∧ (condition.extend late asked hit).Holds ↔
      condition.required late = true ∧ condition.satisfied late = false ∧ hit = true ∧
        ∀ group, group ≠ late → condition.required group = true →
          condition.satisfied group = true := by
  simp only [Holds, Requirement.extend]
  grind

end

end Requirement

end SingBox
