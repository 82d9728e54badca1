import Mathlib.Data.BitVec
import SingBox.Foundation.Requirement

/-! # Item groups of a default rule

A default rule collects its items in four groups. `ruleMatchState` holds one
bit for each group; a rule is done when every required group is satisfied.
-/

namespace SingBox.Route

open BitVec

inductive Group
  | sourceAddress
  | sourcePort
  | destinationAddress
  | destinationPort
  deriving DecidableEq

instance : Fintype Group :=
  Fintype.ofList [.sourceAddress, .sourcePort, .destinationAddress, .destinationPort] (by
    intro group
    cases group <;> simp)

abbrev RuleMatchState := BitVec 8

namespace Group

def index : Group → Nat
  | .sourceAddress => 0
  | .sourcePort => 1
  | .destinationAddress => 2
  | .destinationPort => 3

/-- The constants `ruleMatchSourceAddress` to `ruleMatchDestinationPort`. -/
def bit (group : Group) : RuleMatchState := 1#8 <<< group.index

end Group

namespace RuleMatchState

variable (state : RuleMatchState)

def has (group : Group) : Bool :=
  state &&& group.bit != 0

/-- Only the bits of the four groups are used. -/
def Grouped : Prop :=
  ∀ index, 4 ≤ index → state.getLsbD index = false

theorem has_eq_getLsbD (group : Group) : state.has group = state.getLsbD group.index := by
  cases group <;> revert state <;> decide

@[simp] theorem has_zero (group : Group) : has 0#8 group = false := by
  cases group <;> rfl

@[simp] theorem has_or (left right : RuleMatchState) (group : Group) :
    has (left ||| right) group = (has left group || has right group) := by
  simp only [has_eq_getLsbD, getLsbD_or]

@[simp] theorem has_andNot (left right : RuleMatchState) (group : Group) :
    has (left &&& ~~~right) group = (has left group && !has right group) := by
  cases group <;> simp [has_eq_getLsbD, Group.index]

@[simp] theorem has_bit (bit group : Group) : has bit.bit group = decide (bit = group) := by
  cases bit <;> cases group <;> rfl

theorem bit_andNot_eq_zero_iff (group : Group) :
    group.bit &&& ~~~state = 0#8 ↔ state.has group = true := by
  cases group <;> revert state <;> decide

variable {left right : RuleMatchState}

theorem grouped_zero : Grouped 0#8 := by
  intro _ _
  exact getLsbD_zero

theorem grouped_bit (group : Group) : Grouped group.bit := by
  intro index high
  rw [Group.bit, getLsbD_shiftLeft]
  cases group <;> simp [Group.index] <;> omega

theorem Grouped.or (leftGrouped : left.Grouped)
    (rightGrouped : right.Grouped) : Grouped (left ||| right) := by
  intro index high
  rw [getLsbD_or, leftGrouped index high, rightGrouped index high]
  rfl

theorem Grouped.andNot (grouped : left.Grouped)
    (right : RuleMatchState) : Grouped (left &&& ~~~right) := by
  intro index high
  rw [getLsbD_and, grouped index high]
  rfl

theorem Grouped.eq_zero_iff {state : RuleMatchState} (grouped : state.Grouped) :
    state = 0 ↔ ∀ group, state.has group = false := by
  constructor
  · intro isZero group
    rw [isZero]
    exact has_zero group
  · intro noGroup
    apply eq_of_getLsbD_eq
    intro index _
    by_cases high : 4 ≤ index
    · rw [grouped index high]
      simp
    have inGroup : ∃ group : Group, group.index = index := by
      have small : index = 0 ∨ index = 1 ∨ index = 2 ∨ index = 3 := by omega
      rcases small with rfl | rfl | rfl | rfl
      · exact ⟨.sourceAddress, rfl⟩
      · exact ⟨.sourcePort, rfl⟩
      · exact ⟨.destinationAddress, rfl⟩
      · exact ⟨.destinationPort, rfl⟩
    rcases inGroup with ⟨group, rfl⟩
    rw [← has_eq_getLsbD, noGroup group]
    simp

end RuleMatchState

structure RuleGroupMatch where
  required : RuleMatchState := 0
  satisfied : RuleMatchState := 0
  deriving DecidableEq

namespace RuleGroupMatch

def done (groups : RuleGroupMatch) : Bool :=
  groups.required &&& ~~~groups.satisfied == 0

def mergeWith (groups other : RuleGroupMatch) : RuleGroupMatch where
  required := groups.required ||| other.required
  satisfied := groups.satisfied ||| other.satisfied

/-- The two statements `required |= bit` and `if hit { satisfied |= bit }`. -/
def require (groups : RuleGroupMatch) (group : Group) (hit : Bool) : RuleGroupMatch where
  required := groups.required ||| group.bit
  satisfied := if hit then groups.satisfied ||| group.bit else groups.satisfied

/-! ## The requirement held in a pair of states -/

def requirement (groups : RuleGroupMatch) : Requirement Group where
  required := groups.required.has
  satisfied := groups.satisfied.has

variable {groups : RuleGroupMatch}

theorem done_iff (grouped : groups.required.Grouped) :
    groups.done = true ↔ groups.requirement.Holds := by
  rw [done, beq_iff_eq, (grouped.andNot groups.satisfied).eq_zero_iff]
  apply forall_congr'
  intro group
  rw [RuleMatchState.has_andNot]
  cases required : groups.required.has group <;>
    cases satisfied : groups.satisfied.has group <;>
    simp [requirement, required, satisfied]

@[simp] theorem requirement_mergeWith (groups other : RuleGroupMatch) :
    (groups.mergeWith other).requirement = groups.requirement.unite other.requirement := by
  simp only [requirement, Requirement.unite, Requirement.mk.injEq]
  constructor <;> funext group <;> exact RuleMatchState.has_or _ _ _

end RuleGroupMatch

end SingBox.Route
