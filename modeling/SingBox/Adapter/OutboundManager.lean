import SingBox.Adapter.Registry
import SingBox.Foundation.Run

/-! # The outbound manager

`Create` and `Remove` of a started manager. A replaced outbound may stay the
default and stays in the index of dependencies, and a removal is refused only
after the outbound has been taken out.
-/

namespace SingBox.Adapter.Outbound

inductive Default
  | nil
  | endpoint (tag : String)
  | outbound (member : Member)
  deriving DecidableEq

structure Manager extends Registry where
  dependByTag : String → List String := fun _ => []
  defaultTag : String := ""
  defaultOutbound : Default := .nil

inductive Result
  | ok
  | invalid
  /-- Creating or starting the outbound fails, or closing the replaced one. -/
  | failed
  | dependedBy (tags : List String)

namespace Manager

variable {manager : Manager} {tag : String}

/-- `Remove`. In a consistent manager the outbound is in the list. -/
def remove (manager : Manager) (tag : String) : Manager × Result :=
  match manager.memberByTag tag with
  | none => (manager, .invalid)
  | some outbound =>
    let left := manager.delete tag
    let removed := { manager with
      toRegistry := left
      defaultOutbound :=
        if manager.defaultOutbound ≠ .outbound outbound then manager.defaultOutbound
        else match left.members with
          | [] => .nil
          | first :: _ => .outbound first }
    let dependBy := manager.dependByTag tag
    if dependBy ≠ [] then (removed, .dependedBy dependBy)
    else
      ({ removed with
        dependByTag := removeDependencies tag outbound.dependencies removed.dependByTag }, .ok)

/-- `Create` of an outbound that the registry has made. -/
def create (manager : Manager) (outbound : Member) (fails : Bool) : Manager × Result :=
  if outbound.tag = "" then (manager, .invalid)
  else if fails then (manager, .failed)
  else
    ({ manager with
      toRegistry := manager.insert outbound
      dependByTag := addDependencies outbound.tag outbound.dependencies manager.dependByTag
      defaultOutbound :=
        if outbound.tag = manager.defaultTag ∨
            manager.defaultTag = "" ∧ manager.defaultOutbound = .nil then .outbound outbound
        else manager.defaultOutbound }, .ok)

inductive Action
  | create (outbound : Member) (fails : Bool)
  | remove (tag : String)

def perform (manager : Manager) : Action → Manager × Result
  | .create outbound fails => manager.create outbound fails
  | .remove tag => manager.remove tag

structure Consistent (manager : Manager) : Prop where
  isListed : manager.Listed
  isIndexed : manager.Indexed manager.dependByTag
  isMember : ∀ outbound, manager.defaultOutbound = .outbound outbound →
    outbound ∈ manager.members

/-- An outbound is replaced by one with its dependencies, and not while it is
the default that the options do not name. An outbound is removed if none
depends on it and it names each dependency once. -/
def Allowed (manager : Manager) : Action → Prop
  | .create outbound _ => ∀ old ∈ manager.memberByTag outbound.tag,
      (manager.defaultOutbound = .outbound old → outbound.tag = manager.defaultTag) ∧
        old.dependencies ⊆ outbound.dependencies
  | .remove tag => ∀ old ∈ manager.memberByTag tag,
      old.dependencies.Nodup ∧ ∀ member ∈ manager.members, tag ∉ member.dependencies

/-- A call; a created outbound is an object that is not yet in the list. -/
def Calls (before : Manager) (action : Action) (after : Manager) : Prop :=
  after = (before.perform action).1 ∧
    ∀ outbound fails, action = .create outbound fails → outbound ∉ before.members

theorem Consistent.create (isConsistent : manager.Consistent) {outbound : Member} {fails : Bool}
    (isNew : outbound ∉ manager.members) (isAllowed : manager.Allowed (.create outbound fails)) :
    (manager.create outbound fails).1.Consistent := by
  rw [Manager.create]
  split_ifs with noTag hasFailed isDefault
  · exact isConsistent
  · exact isConsistent
  all_goals
    refine ⟨isConsistent.isListed.insert isNew,
      isConsistent.isIndexed.insert isConsistent.isListed fun old isOld => (isAllowed old isOld).2,
      fun member isMember => isConsistent.isListed.mem_insert_iff.mpr ?_⟩
  · exact .inr (Default.outbound.inj isMember).symm
  · have isOld := isConsistent.isMember member isMember
    refine .inl ⟨isOld, fun sameTag => isDefault (.inl ?_)⟩
    exact (isAllowed member (isConsistent.isListed.found_iff.mpr ⟨isOld, sameTag⟩)).1 isMember

theorem Consistent.remove (isConsistent : manager.Consistent)
    (isAllowed : manager.Allowed (.remove tag)) :
    (manager.remove tag).1.Consistent ∧ ∀ tags, (manager.remove tag).2 ≠ .dependedBy tags := by
  rw [Manager.remove]
  split
  · exact ⟨isConsistent, nofun⟩
  next outbound isFound =>
  rcases isAllowed outbound isFound with ⟨nodup, isFree⟩
  have noDependent : manager.dependByTag tag = [] := by
    apply List.eq_nil_iff_forall_not_mem.mpr
    intro _ isNoted
    rcases (isConsistent.isIndexed ..).mp isNoted with ⟨member, isMember, -, depends⟩
    exact isFree member isMember depends
  rw [if_neg (not_not.mpr noDependent)]
  refine ⟨⟨isConsistent.isListed.delete,
    isConsistent.isIndexed.delete isConsistent.isListed isFound nodup, ?_⟩,
    nofun⟩
  intro member isDefault
  split_ifs at isDefault with isOther
  · apply isConsistent.isListed.mem_delete_iff.mpr
    have isMember := isConsistent.isMember member isDefault
    refine ⟨isMember, fun sameTag => isOther ?_⟩
    rw [isDefault, isConsistent.isListed.eq_of_found isFound isMember sameTag]
  · split at isDefault <;> cases isDefault
    next isLeft =>
    rw [isLeft]
    exact List.mem_cons_self

/-- A run of calls that are allowed keeps the manager consistent, and a removal
that is refused changes nothing. -/
theorem consistent_of_allowed {initial : Manager} (isConsistent : initial.Consistent)
    {actions : List Action}
    (run : Run (fun before action after => before.Calls action after ∧ before.Allowed action)
      initial actions manager) :
    manager.Consistent ∧ ∀ tag tags, manager.Allowed (.remove tag) →
      (manager.remove tag).2 = .dependedBy tags → (manager.remove tag).1 = manager := by
  have isConsistent : manager.Consistent := by
    apply run.preserves isConsistent
    rintro _ (⟨outbound, fails⟩ | tag) _ isConsistent ⟨⟨rfl, isNew⟩, isAllowed⟩
    · exact isConsistent.create (isNew outbound fails rfl) isAllowed
    · exact (isConsistent.remove isAllowed).1
  exact ⟨isConsistent, fun tag tags isAllowed isError =>
    absurd isError ((isConsistent.remove isAllowed).2 tags)⟩

theorem consistent_of_replaced : ∃ manager : Manager,
    manager.members = [⟨1, "a", "", []⟩] ∧ manager.Consistent := by
  have start : Consistent { defaultTag := "a" } :=
    ⟨⟨List.nodup_nil, by simp⟩, by simp [Registry.Indexed], by simp⟩
  have run : Run (fun before action after => Calls before action after ∧ before.Allowed action)
      { defaultTag := "a" }
      ([] ++ [.create ⟨0, "a", "", []⟩ false] ++ [.create ⟨1, "a", "", []⟩ false]) _ :=
    .extend (.extend .start ⟨⟨rfl, by simp⟩, by simp [Allowed]⟩)
      ⟨⟨rfl, by simp [perform, create, Registry.insert, Registry.delete]⟩,
        by simp [Allowed, perform, create, Registry.insert]⟩
  exact ⟨_, by simp [perform, create, Registry.insert, Registry.delete],
    (consistent_of_allowed start run).1⟩

/-- The default is replaced and closed, but stays the default; an outbound that
another depends on is taken out by the removal that is refused. -/
theorem closed_default_stays :
    ¬ ((create {} ⟨0, "a", "", []⟩ false).1.create ⟨1, "a", "", []⟩ false).1.Consistent ∧
      (((create {} ⟨0, "a", "", []⟩ false).1.create ⟨1, "b", "", ["a"]⟩ false).1.remove "a").2 =
        .dependedBy ["b"] ∧
      (((create {} ⟨0, "a", "", []⟩ false).1.create ⟨1, "b", "", ["a"]⟩ false).1.remove
        "a").1.members = [⟨1, "b", "", ["a"]⟩] := by
  refine ⟨fun isConsistent => ?_, ?_, ?_⟩
  · have isMember := isConsistent.isMember ⟨0, "a", "", []⟩
    simp [create, Registry.insert, Registry.delete] at isMember
  · simp [create, remove, Registry.insert, addDependencies]
  · simp [create, remove, Registry.insert, Registry.delete, addDependencies]

end Manager

end SingBox.Adapter.Outbound
