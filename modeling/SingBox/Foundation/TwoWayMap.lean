import Mathlib.Logic.Function.Basic

/-! # Two-way maps

A key has a name, and within its family the name leads back to the key. A key
that gets a new name takes the old one out of its family. As long as a name is
only given where the family does not have it yet, both directions stay inverse
to each other.
-/

namespace SingBox

open Function Option

structure TwoWayMap (Family Key Name : Type) where
  name : Key → Option Name
  key : Family → Name → Option Key

namespace TwoWayMap

variable {Family Key Name : Type}

def empty : TwoWayMap Family Key Name where
  name _ := none
  key _ _ := none

variable (family : Key → Family) {key : Key}

/-- Both directions say the same. -/
def Inverse (map : TwoWayMap Family Key Name) : Prop :=
  ∀ group name key, map.key group name = some key ↔ map.name key = some name ∧ family key = group

theorem inverse_empty : (empty : TwoWayMap Family Key Name).Inverse family := by
  intro _ _ _
  constructor
  · nofun
  · rintro ⟨found, _⟩
    cases found

theorem Inverse.name_unique {family : Key → Family} {map : TwoWayMap Family Key Name}
    (inverse : map.Inverse family) {leftGroup rightGroup : Family} {left right : Name}
    (isLeft : map.key leftGroup left = some key) (isRight : map.key rightGroup right = some key) :
    left = right ∧ leftGroup = rightGroup := by
  rcases (inverse leftGroup left key).mp isLeft with ⟨leftName, isLeftGroup⟩
  rcases (inverse rightGroup right key).mp isRight with ⟨rightName, isRightGroup⟩
  constructor
  · exact some.inj (leftName.symm.trans rightName)
  · exact isLeftGroup.symm.trans isRightGroup

section

variable [DecidableEq Name] (names : Name → Option Key) {name other : Name}

def forget : Option Name → Name → Option Key
  | some old => update names old none
  | none => names

/-- The names of one family after a key has got a new name. -/
def rename (old : Option Name) (key : Key) (name : Name) : Name → Option Key :=
  update (forget names old) name (some key)

theorem rename_self (old : Option Name) (key : Key) (name : Name) :
    rename names old key name name = some key :=
  update_self _ _ _

theorem rename_of_ne (old : Option Name) (key : Key) (different : other ≠ name) :
    rename names old key name other = if old = some other then none else names other := by
  rw [rename, update_of_ne different]
  cases old with
  | none => rfl
  | some old =>
    by_cases same : old = other
    · subst same
      rw [if_pos rfl]
      exact update_self _ _ _
    · rw [if_neg fun equal => same (some.inj equal)]
      exact update_of_ne (Ne.symm same) _ _

variable [DecidableEq Family] [DecidableEq Key]

def assign (map : TwoWayMap Family Key Name) (key : Key) (name : Name) :
    TwoWayMap Family Key Name where
  name := update map.name key (some name)
  key :=
    update map.key (family key) (rename (map.key (family key)) (map.name key) key name)

variable {family} {map : TwoWayMap Family Key Name}

theorem key_assign (map : TwoWayMap Family Key Name) (group : Family) (other : Name) :
    (map.assign family key name).key group other =
      if group = family key then
        if other = name then some key
        else if map.name key = some other then none
        else map.key group other
      else map.key group other := by
  change update map.key (family key) _ group other = _
  by_cases sameGroup : group = family key
  · subst sameGroup
    rw [update_self, if_pos rfl]
    by_cases sameName : other = name
    · rw [sameName, rename_self, if_pos rfl]
    · rw [rename_of_ne _ _ _ sameName, if_neg sameName]
  · rw [update_of_ne sameGroup, if_neg sameGroup]

theorem key_assign_cases {group : Family} {found : Key}
    (isFound : (map.assign family key name).key group other = some found) :
    map.key group other = some found ∨ family key = group ∧ key = found := by
  rw [key_assign] at isFound
  grind

theorem Inverse.assign (inverse : map.Inverse family) (fresh : map.key (family key) name = none) :
    (map.assign family key name).Inverse family := by
  intro group other found
  rw [key_assign]
  change _ ↔ update map.name key (some name) found = _ ∧ _
  rw [update_apply]
  -- Only the two keys can have the name: the one that gets it, and the one that is found.
  have isKey := inverse group other key
  have isFound := inverse group other found
  grind

end

end TwoWayMap

end SingBox
