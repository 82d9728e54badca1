/-! # Three-valued verdicts

A verdict on a Boolean value that is not known yet: the value is certainly
false, certainly true, or open. Verdicts are combined by the strong Kleene
connectives. What a user of a verdict relies on is one of its two sure
answers, so each connective is described by when it gives one.
-/

namespace SingBox

open List

inductive Verdict
  | no
  | maybe
  | yes
  deriving DecidableEq

namespace Verdict

def ofBool : Bool → Verdict
  | false => .no
  | true => .yes

def not : Verdict → Verdict
  | .no => .yes
  | .maybe => .maybe
  | .yes => .no

def and : Verdict → Verdict → Verdict
  | .no, _ => .no
  | _, .no => .no
  | .yes, .yes => .yes
  | _, _ => .maybe

def or : Verdict → Verdict → Verdict
  | .yes, _ => .yes
  | _, .yes => .yes
  | .no, .no => .no
  | _, _ => .maybe

def all (verdicts : List Verdict) : Verdict := verdicts.foldr and .yes

def any (verdicts : List Verdict) : Verdict := verdicts.foldr or .no

@[simp] theorem all_nil : all [] = .yes := rfl

@[simp] theorem all_cons (verdict : Verdict) (verdicts : List Verdict) :
    all (verdict :: verdicts) = verdict.and (all verdicts) := rfl

@[simp] theorem any_nil : any [] = .no := rfl

@[simp] theorem any_cons (verdict : Verdict) (verdicts : List Verdict) :
    any (verdict :: verdicts) = verdict.or (any verdicts) := rfl

/-! ## Sure answers -/

theorem invert_eq_ofBool_iff (invert answer : Bool) (verdict : Verdict) :
    (if invert then verdict.not else verdict) = ofBool answer ↔
      verdict = ofBool (invert ^^ answer) := by
  cases invert <;> cases answer <;> cases verdict <;> decide

variable {left right : Verdict}

theorem and_eq_no_iff : left.and right = .no ↔ left = .no ∨ right = .no := by
  cases left <;> cases right <;> decide

theorem and_eq_yes_iff : left.and right = .yes ↔ left = .yes ∧ right = .yes := by
  cases left <;> cases right <;> decide

theorem or_eq_no_iff : left.or right = .no ↔ left = .no ∧ right = .no := by
  cases left <;> cases right <;> decide

theorem or_eq_yes_iff : left.or right = .yes ↔ left = .yes ∨ right = .yes := by
  cases left <;> cases right <;> decide

variable {Part : Type u} {verdict : Part → Verdict} {parts : List Part}

theorem all_eq_no_iff : all (parts.map verdict) = .no ↔ ∃ part ∈ parts, verdict part = .no := by
  induction parts with
  | nil => simp
  | cons _ _ induction => simp [and_eq_no_iff, induction]

theorem all_eq_yes_iff : all (parts.map verdict) = .yes ↔ ∀ part ∈ parts, verdict part = .yes := by
  induction parts with
  | nil => simp
  | cons _ _ induction => simp [and_eq_yes_iff, induction]

theorem any_eq_no_iff : any (parts.map verdict) = .no ↔ ∀ part ∈ parts, verdict part = .no := by
  induction parts with
  | nil => simp
  | cons _ _ induction => simp [or_eq_no_iff, induction]

theorem any_eq_yes_iff : any (parts.map verdict) = .yes ↔ ∃ part ∈ parts, verdict part = .yes := by
  induction parts with
  | nil => simp
  | cons _ _ induction => simp [or_eq_yes_iff, induction]

end Verdict

end SingBox
