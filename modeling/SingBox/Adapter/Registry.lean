import Mathlib.Data.List.Nodup

/-! # Registries of started members

The managers of outbounds and of DNS servers keep their members in a list and
in a map by tag, and for every tag the tags of the members that depend on it.
-/

namespace SingBox.Adapter

open List Function Option

/-- An outbound or a DNS server; `id` is the identity of the object. -/
structure Member where
  id : Nat
  tag : String
  type : String := ""
  dependencies : List String := []
  deriving DecidableEq

structure Registry where
  members : List Member := []
  memberByTag : String → Option Member := fun _ => none

/-- The dependencies are noted one after the other, a repeated one again. -/
def addDependencies (tag : String) (dependencies : List String)
    (dependByTag : String → List String) : String → List String :=
  dependencies.foldl
    (fun table dependency => update table dependency (table dependency ++ [tag]))
    dependByTag

/-- The only entry of a tag is deleted, whichever it is. -/
def removeEntry (tag : String) (entries : List String) : List String :=
  if entries.length = 1 then [] else entries.filter (· ≠ tag)

def removeDependencies (tag : String) (dependencies : List String)
    (dependByTag : String → List String) : String → List String :=
  dependencies.foldl
    (fun table dependency => update table dependency (removeEntry tag (table dependency)))
    dependByTag

variable {dependencies : List String} {dependency dependent tag : String}
  {table : String → List String}

theorem mem_addDependencies_iff :
    dependent ∈ addDependencies tag dependencies table dependency ↔
      dependent ∈ table dependency ∨ dependent = tag ∧ dependency ∈ dependencies := by
  induction dependencies generalizing table with
  | nil => simp [addDependencies]
  | cons first rest induction =>
    refine induction.trans ?_
    by_cases isFirst : dependency = first
    · subst isFirst
      simp only [update_self, mem_append, mem_cons]
      tauto
    · simp [isFirst]

theorem mem_removeEntry_iff {entries : List String} (isNoted : tag ∈ entries) :
    dependent ∈ removeEntry tag entries ↔ dependent ∈ entries ∧ dependent ≠ tag := by
  rw [removeEntry]
  split
  · next isSingle =>
    rcases length_eq_one_iff.mp isSingle with ⟨_, rfl⟩
    simp [mem_singleton.mp isNoted]
  · simp

theorem mem_removeDependencies_iff (nodup : dependencies.Nodup)
    (areNoted : ∀ dependency ∈ dependencies, tag ∈ table dependency) :
    dependent ∈ removeDependencies tag dependencies table dependency ↔
      dependent ∈ table dependency ∧ ¬ (dependent = tag ∧ dependency ∈ dependencies) := by
  induction dependencies generalizing table with
  | nil => simp [removeDependencies]
  | cons first _ induction =>
    rcases nodup_cons.mp nodup with ⟨isNew, nodup⟩
    have isNoted := areNoted first mem_cons_self
    refine (induction nodup ?_).trans ?_
    · intro other member
      simp only [update_of_ne (ne_of_mem_of_not_mem member isNew)]
      exact areNoted other (mem_cons_of_mem _ member)
    · by_cases isFirst : dependency = first
      · subst isFirst
        simp [mem_removeEntry_iff isNoted, isNew]
      · simp [isFirst]

namespace Registry

variable {registry : Registry} {member : Member} {tag : String}

def delete (registry : Registry) (tag : String) : Registry where
  members := match registry.memberByTag tag with
    | none => registry.members
    | some member => registry.members.erase member
  memberByTag := update registry.memberByTag tag none

/-- A new member replaces the one of its tag. -/
def insert (registry : Registry) (member : Member) : Registry where
  members := (registry.delete member.tag).members ++ [member]
  memberByTag := update registry.memberByTag member.tag (some member)

/-- The list and the map hold the same members. -/
structure Listed (registry : Registry) : Prop where
  nodup : registry.members.Nodup
  found_iff : ∀ {tag member}, registry.memberByTag tag = some member ↔
    member ∈ registry.members ∧ member.tag = tag

/-- The members that depend on a tag are noted under it. -/
def Indexed (registry : Registry) (dependByTag : String → List String) : Prop :=
  ∀ dependency tag, tag ∈ dependByTag dependency ↔
    ∃ member ∈ registry.members, member.tag = tag ∧ dependency ∈ member.dependencies

namespace Listed

section

variable (isListed : registry.Listed)
include isListed

theorem mem_delete_iff :
    member ∈ (registry.delete tag).members ↔ member ∈ registry.members ∧ member.tag ≠ tag := by
  have sameTag := @isListed.found_iff tag
  cases isFound : registry.memberByTag tag with
  | none =>
    simp only [isFound, reduceCtorEq, false_iff, not_and] at sameTag
    simp only [delete, isFound]
    exact ⟨fun isMember => ⟨isMember, sameTag isMember⟩, And.left⟩
  | some old =>
    have isOld : member = old ↔ member ∈ registry.members ∧ member.tag = tag := by
      rw [← sameTag, isFound, some.injEq, eq_comm]
    simp only [delete, isFound, isListed.nodup.mem_erase_iff, ne_eq]
    tauto

theorem delete : (registry.delete tag).Listed where
  nodup := by
    cases isFound : registry.memberByTag tag with
    | none => simpa only [Registry.delete, isFound] using isListed.nodup
    | some old => simpa only [Registry.delete, isFound] using isListed.nodup.erase old
  found_iff := by
    intro other member
    rw [isListed.mem_delete_iff]
    by_cases isOther : other = tag
    · simp [Registry.delete, isOther]
    · simp only [Registry.delete, update_of_ne isOther, isListed.found_iff]
      grind

theorem mem_insert_iff {new : Member} :
    member ∈ (registry.insert new).members ↔
      member ∈ registry.members ∧ member.tag ≠ new.tag ∨ member = new := by
  rw [insert, mem_append, isListed.mem_delete_iff, mem_singleton]

theorem insert (isNew : member ∉ registry.members) :
    (registry.insert member).Listed where
  nodup := by
    rw [Registry.insert]
    refine nodup_append.mpr ⟨isListed.delete.nodup, nodup_singleton _, ?_⟩
    intro other isOther found isFound
    rw [mem_singleton.mp isFound]
    exact ne_of_mem_of_not_mem (isListed.mem_delete_iff.mp isOther).1 isNew
  found_iff := by
    intro other found
    rw [isListed.mem_insert_iff]
    by_cases isOther : other = member.tag
    · simp only [Registry.insert, isOther, update_self]
      grind
    · simp only [Registry.insert, update_of_ne isOther, isListed.found_iff]
      grind

theorem eq_of_found {other : Member} (isFound : registry.memberByTag tag = some member)
    (isOther : other ∈ registry.members) (sameTag : other.tag = tag) : other = member :=
  some.inj ((isListed.found_iff.mpr ⟨isOther, sameTag⟩).symm.trans isFound)

end

end Listed

variable {dependByTag : String → List String}

variable (isIndexed : registry.Indexed dependByTag)
include isIndexed

theorem Indexed.insert (isListed : registry.Listed)
    (keeps : ∀ old ∈ registry.memberByTag member.tag, old.dependencies ⊆ member.dependencies) :
    (registry.insert member).Indexed
      (addDependencies member.tag member.dependencies dependByTag) := by
  have isReplaced : ∀ old ∈ registry.members, old.tag = member.tag →
      ∀ dependency ∈ old.dependencies, dependency ∈ member.dependencies :=
    fun old isOld sameTag => keeps old (isListed.found_iff.mpr ⟨isOld, sameTag⟩)
  intro dependency tag
  simp only [isListed.mem_insert_iff]
  rw [mem_addDependencies_iff, isIndexed]
  grind

theorem Indexed.delete (isListed : registry.Listed)
    (isFound : registry.memberByTag tag = some member) (nodup : member.dependencies.Nodup) :
    (registry.delete tag).Indexed (removeDependencies tag member.dependencies dependByTag) := by
  rcases isListed.found_iff.mp isFound with ⟨isMember, isTag⟩
  have areNoted : ∀ dependency ∈ member.dependencies, tag ∈ dependByTag dependency :=
    fun dependency depends => (isIndexed ..).mpr ⟨member, isMember, isTag, depends⟩
  have isRemoved : ∀ other ∈ registry.members, other.tag = tag → other = member :=
    fun other => isListed.eq_of_found isFound
  intro dependency dependent
  simp only [isListed.mem_delete_iff]
  rw [mem_removeDependencies_iff nodup areNoted, isIndexed]
  grind

end Registry

end SingBox.Adapter
