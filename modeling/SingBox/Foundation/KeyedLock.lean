import Mathlib.Logic.Function.Basic

/-! # Locks of keys

A map of locks says who holds the lock of a key, and each owner knows the key
it holds. Both say the same as long as a lock is only taken by an idle owner
while it is free, and only dropped by its owner.
-/

namespace SingBox

open Function

def KeyedLock {Key : Type u} {Owner : Type v} (locks : Key → Option Owner)
    (owns : Owner → Option Key) : Prop :=
  ∀ key owner, locks key = some owner ↔ owns owner = some key

namespace KeyedLock

variable {Key : Type u} {Owner : Type v} {locks : Key → Option Owner}
  {owns : Owner → Option Key} {key : Key} {owner : Owner}

theorem isSome_iff (agree : KeyedLock locks owns) :
    (locks key).isSome ↔ ∃! owner, owns owner = some key := by
  constructor
  · intro isHeld
    rcases Option.isSome_iff_exists.mp isHeld with ⟨owner, isOwner⟩
    apply ExistsUnique.intro owner ((agree key owner).mp isOwner)
    intro other isOther
    have found := (agree key other).mpr isOther
    exact Option.some.inj (found.symm.trans isOwner)
  · rintro ⟨owner, isOwner, -⟩
    rw [(agree key owner).mpr isOwner]
    rfl

variable [DecidableEq Key] [DecidableEq Owner]

variable (agree : KeyedLock locks owns)
include agree

theorem take (isFree : locks key = none) (isIdle : owns owner = none) :
    KeyedLock (update locks key (some owner))
      (update owns owner (some key)) := by
  intro asked other
  by_cases sameKey : asked = key <;> by_cases sameOwner : other = owner
  · simp [sameKey, sameOwner]
  · rw [sameKey, update_self, update_of_ne sameOwner]
    have notHeld : owns other ≠ some key := by
      intro isHeld
      rw [← agree, isFree] at isHeld
      cases isHeld
    simp [notHeld, Ne.symm sameOwner]
  · rw [sameOwner, update_self, update_of_ne sameKey]
    have notHeld : locks asked ≠ some owner := by
      intro isHeld
      rw [agree, isIdle] at isHeld
      cases isHeld
    simp [notHeld, Ne.symm sameKey]
  · rw [update_of_ne sameKey, update_of_ne sameOwner]
    exact agree asked other

theorem drop (isHeld : owns owner = some key) :
    KeyedLock (update locks key none) (update owns owner none) := by
  intro asked other
  have held := (agree key owner).mpr isHeld
  by_cases sameKey : asked = key <;> by_cases sameOwner : other = owner
  · simp [sameKey, sameOwner]
  · rw [sameKey, update_self, update_of_ne sameOwner, ← agree, held]
    simp [Ne.symm sameOwner]
  · rw [sameOwner, update_self, update_of_ne sameKey, agree, isHeld]
    simp [Ne.symm sameKey]
  · rw [update_of_ne sameKey, update_of_ne sameOwner]
    exact agree asked other

end KeyedLock

end SingBox
