import Mathlib.Logic.Function.Basic
import Mathlib.Tactic.SplitIfs

/-! # Things that are in one place each

A holder map says which thing lies in a place. The things are in good custody
when each of those that were issued lies in exactly one place. Custody is kept
when a thing moves from one place to a free one and when a new thing is put into
a free place.
-/

namespace SingBox

open Function

structure Custody {Place : Type u} {Thing : Type v} (holder : Place → Option Thing)
    (issued : Thing → Prop) : Prop where
  unique : ∀ {place other thing}, holder place = some thing → holder other = some thing →
    place = other
  placed : ∀ {thing}, issued thing → ∃ place, holder place = some thing
  known : ∀ {place thing}, holder place = some thing → issued thing

namespace Custody

variable {Place : Type u} {Thing : Type v} {holder : Place → Option Thing}
  {issued issuedAfter : Thing → Prop} {source target : Place} {thing : Thing}

theorem empty (isFree : ∀ place, holder place = none) (noneIssued : ∀ thing, ¬issued thing) :
    Custody holder issued :=
  ⟨by simp [isFree], fun isIssued => absurd isIssued (noneIssued _), by simp [isFree]⟩

theorem existsUnique (custody : Custody holder issued) (isIssued : issued thing) :
    ∃! place, holder place = some thing := by
  rcases custody.placed isIssued with ⟨place, isHeld⟩
  exact ⟨place, isHeld, fun other isOther => custody.unique isOther isHeld⟩

variable [DecidableEq Place]

variable (custody : Custody holder issued)
include custody

theorem issue (isNew : ¬issued thing) (wasFree : holder target = none)
    (isIssued : ∀ found, issuedAfter found ↔ issued found ∨ found = thing) :
    Custody (update holder target (some thing)) issuedAfter where
  unique {place other found} isFound isOther := by
    rw [update_apply] at isFound isOther
    split_ifs at isFound isOther with isTarget isTargetToo isTargetToo
    · exact isTarget.trans isTargetToo.symm
    · cases isFound
      exact absurd (custody.known isOther) isNew
    · cases isOther
      exact absurd (custody.known isFound) isNew
    · exact custody.unique isFound isOther
  placed {found} isFound := by
    rcases (isIssued found).mp isFound with wasIssued | rfl
    · rcases custody.placed wasIssued with ⟨place, wasFound⟩
      have notTarget : place ≠ target := by
        rintro rfl
        cases wasFree.symm.trans wasFound
      exact ⟨place, (update_of_ne notTarget _ _).trans wasFound⟩
    · exact ⟨target, update_self ..⟩
  known {place found} isFound := by
    rw [update_apply] at isFound
    rw [isIssued]
    split_ifs at isFound
    · cases isFound
      exact .inr rfl
    · exact .inl (custody.known isFound)

variable (wasHeld : holder source = some thing)
include wasHeld

theorem release :
    Custody (update holder source none) fun found => issued found ∧ found ≠ thing where
  unique {place other found} isFound isOther := by
    rw [update_apply] at isFound isOther
    split_ifs at isFound isOther
    exact custody.unique isFound isOther
  placed {found} isFound := by
    rcases custody.placed isFound.1 with ⟨place, wasFound⟩
    have notSource : place ≠ source := by
      rintro rfl
      cases wasHeld.symm.trans wasFound
      exact isFound.2 rfl
    exact ⟨place, (update_of_ne notSource _ _).trans wasFound⟩
  known {place found} isFound := by
    rw [update_apply] at isFound
    split_ifs at isFound with isSource
    refine ⟨custody.known isFound, ?_⟩
    rintro rfl
    exact isSource (custody.unique isFound wasHeld)

theorem move (wasFree : holder target = none) :
    Custody (update (update holder source none) target (some thing)) issued := by
  apply (custody.release wasHeld).issue (fun isIssued => isIssued.2 rfl)
  · rw [update_apply]
    split_ifs
    · rfl
    · exact wasFree
  · intro found
    by_cases isThing : found = thing
    · simp [isThing, custody.known wasHeld]
    · simp [isThing]

end Custody

end SingBox
