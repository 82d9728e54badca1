import SingBox.Adapter.Registry
import SingBox.Foundation.Run

/-! # The DNS server manager

`Create` and `Remove` change the collections before they look whether they
may, the test of the next default is inverted, and the fakeip server is never
taken back.
-/

namespace SingBox.Dns

open Adapter

structure TransportManager extends Registry where
  dependByTag : String → List String := fun _ => []
  defaultTag : String := ""
  defaultTransport : Option Member := none
  fakeIPTransport : Option Member := none

namespace TransportManager

inductive Result
  | ok
  | invalid
  /-- Creating or starting the server fails, or closing the replaced one. -/
  | failed
  | defaultFakeIP
  | multipleFakeIP
  | dependedBy (tags : List String)

def Result.IsValidation : Result → Prop
  | .defaultFakeIP | .multipleFakeIP | .dependedBy _ => True
  | _ => False

def typeFakeIP : String := "fakeip"

variable (manager : TransportManager)

/-- What `Remove` does once the default is settled. -/
def release (transport : Member) : TransportManager × Result :=
  let dependBy := manager.dependByTag transport.tag
  if dependBy ≠ [] then (manager, .dependedBy dependBy)
  else
    ({ manager with
      dependByTag :=
        removeDependencies transport.tag transport.dependencies manager.dependByTag }, .ok)

def remove (tag : String) : TransportManager × Result :=
  match manager.memberByTag tag with
  | none => (manager, .invalid)
  | some transport =>
    let removed := { manager with toRegistry := manager.delete tag }
    if manager.defaultTransport = some transport then
      match removed.members with
      | [] => { removed with defaultTransport := none }.release transport
      | next :: _ =>
        if next.type ≠ typeFakeIP then (removed, .defaultFakeIP)
        else { removed with defaultTransport := some next }.release transport
    else removed.release transport

/-- What `Create` does once the default is settled. -/
def enlist (transport : Member) : TransportManager × Result :=
  if transport.type = typeFakeIP then
    if manager.fakeIPTransport.isSome then (manager, .multipleFakeIP)
    else ({ manager with fakeIPTransport := some transport }, .ok)
  else (manager, .ok)

def TakesDefault (transport : Member) : Prop :=
  transport.tag = manager.defaultTag ∨ manager.defaultTag = "" ∧ manager.defaultTransport = none

instance (transport : Member) : Decidable (manager.TakesDefault transport) :=
  inferInstanceAs (Decidable (_ ∨ _))

/-- `Create` of a server that the registry has made. -/
def create (transport : Member) (fails : Bool) : TransportManager × Result :=
  if transport.tag = "" then (manager, .invalid)
  else if fails then (manager, .failed)
  else
    let created := { manager with
      toRegistry := manager.insert transport
      dependByTag := addDependencies transport.tag transport.dependencies manager.dependByTag }
    if manager.TakesDefault transport then
      if transport.type = typeFakeIP then (created, .defaultFakeIP)
      else { created with defaultTransport := some transport }.enlist transport
    else created.enlist transport

inductive Action
  | create (transport : Member) (fails : Bool)
  | remove (tag : String)

def perform : Action → TransportManager × Result
  | .create transport fails => manager.create transport fails
  | .remove tag => manager.remove tag

/-- A call; a created server is an object that is not yet in the list. -/
def Calls (before : TransportManager) (action : Action) (after : TransportManager) : Prop :=
  after = (before.perform action).1 ∧
    ∀ transport fails, action = .create transport fails → transport ∉ before.members

structure Consistent : Prop where
  isListed : manager.Listed
  isDefault : ∀ transport ∈ manager.defaultTransport,
    transport ∈ manager.members ∧ transport.type ≠ typeFakeIP
  isFakeIP : ∀ transport ∈ manager.fakeIPTransport, transport ∈ manager.members
  oneFakeIP : ∀ first ∈ manager.members, ∀ second ∈ manager.members,
    first.type = typeFakeIP → second.type = typeFakeIP → first = second

/-- The fakeip server is neither replaced nor removed, and created only if
there is none and it does not become the default. The default is replaced only
if the options name it and removed only if it is the last server. No server is
removed while another is noted to depend on it. -/
def Allowed : Action → Prop
  | .create transport _ =>
    (∀ old ∈ manager.memberByTag transport.tag, old.type ≠ typeFakeIP ∧
      (manager.defaultTransport = some old → transport.tag = manager.defaultTag)) ∧
    (transport.type = typeFakeIP → ¬manager.TakesDefault transport ∧
      ∀ member ∈ manager.members, member.type ≠ typeFakeIP)
  | .remove tag => ∀ old ∈ manager.memberByTag tag,
    old.type ≠ typeFakeIP ∧ manager.dependByTag tag = [] ∧
      (manager.defaultTransport = some old → manager.members = [old])

/-- What is kept: the fakeip server that is noted is the one in the list. -/
structure Sound : Prop where
  isListed : manager.Listed
  isDefault : ∀ transport ∈ manager.defaultTransport,
    transport ∈ manager.members ∧ transport.type ≠ typeFakeIP
  fakeIP_iff : ∀ transport, manager.fakeIPTransport = some transport ↔
    transport ∈ manager.members ∧ transport.type = typeFakeIP

variable {manager} {tag : String}

section

variable (isSound : manager.Sound)
include isSound

theorem Sound.consistent : manager.Consistent where
  __ := isSound
  isFakeIP := fun transport isNoted => ((isSound.fakeIP_iff transport).mp isNoted).1
  oneFakeIP := fun first isFirst second isSecond firstType secondType =>
    Option.some.inj (((isSound.fakeIP_iff first).mpr ⟨isFirst, firstType⟩).symm.trans
      ((isSound.fakeIP_iff second).mpr ⟨isSecond, secondType⟩))

theorem Sound.create {transport : Member} {fails : Bool} (isNew : transport ∉ manager.members)
    (isAllowed : manager.Allowed (.create transport fails)) :
    (manager.create transport fails).1.Sound ∧
      ¬(manager.create transport fails).2.IsValidation := by
  rcases isSound with ⟨isListed, isDefault, fakeIP_iff⟩
  rcases isAllowed with ⟨keeps, mayEnlist⟩
  have areFakeIP : ∀ member, member ∈ (manager.insert transport).members ∧
      member.type = typeFakeIP ↔
        manager.fakeIPTransport = some member ∨
          member = transport ∧ transport.type = typeFakeIP := by
    intro member
    have notReplaced := fun isFound => (keeps member (isListed.found_iff.mpr isFound)).1
    rw [isListed.mem_insert_iff, fakeIP_iff]
    grind
  have staysDefault : ¬manager.TakesDefault transport → ∀ member ∈ manager.defaultTransport,
      member ∈ (manager.insert transport).members ∧ member.type ≠ typeFakeIP := by
    intro isOther member isNoted
    rcases isDefault member isNoted with ⟨isMember, notFakeIP⟩
    refine ⟨isListed.mem_insert_iff.mpr (.inl ⟨isMember, fun sameTag => isOther (.inl ?_)⟩),
      notFakeIP⟩
    exact (keeps member (isListed.found_iff.mpr ⟨isMember, sameTag⟩)).2 isNoted
  have noFakeIP : transport.type = typeFakeIP → manager.fakeIPTransport = none := by
    intro isFakeIP
    apply Option.eq_none_iff_forall_not_mem.mpr
    intro member isNoted
    rcases (fakeIP_iff member).mp isNoted with ⟨isMember, isType⟩
    exact (mayEnlist isFakeIP).2 member isMember isType
  rw [TransportManager.create]
  split_ifs with noTag hasFailed takesDefault isFakeIP
  · exact ⟨⟨isListed, isDefault, fakeIP_iff⟩, id⟩
  · exact ⟨⟨isListed, isDefault, fakeIP_iff⟩, id⟩
  · exact absurd takesDefault (mayEnlist isFakeIP).1
  · rw [enlist, if_neg isFakeIP]
    refine ⟨⟨isListed.insert isNew, fun member isNoted => ?_, fun member => ?_⟩, id⟩
    · cases isNoted
      exact ⟨isListed.mem_insert_iff.mpr (.inr rfl), isFakeIP⟩
    · simp [areFakeIP, isFakeIP]
  · rw [enlist]
    split_ifs with isFakeIP hasFakeIP
    · simp [noFakeIP isFakeIP] at hasFakeIP
    · refine ⟨⟨isListed.insert isNew, staysDefault takesDefault, fun member => ?_⟩, id⟩
      simp [areFakeIP, noFakeIP isFakeIP, isFakeIP, eq_comm (a := transport)]
    · refine ⟨⟨isListed.insert isNew, staysDefault takesDefault, fun member => ?_⟩, id⟩
      simp [areFakeIP, isFakeIP]

theorem Sound.remove (isAllowed : manager.Allowed (.remove tag)) :
    (manager.remove tag).1.Sound ∧ ¬(manager.remove tag).2.IsValidation := by
  rcases isSound with ⟨isListed, isDefault, fakeIP_iff⟩
  rw [TransportManager.remove]
  split
  · exact ⟨⟨isListed, isDefault, fakeIP_iff⟩, id⟩
  next transport isFound =>
  rcases isAllowed transport isFound with ⟨notFakeIP, isFree, isLast⟩
  have isOwn := fun member (isMember : member ∈ _) => isListed.eq_of_found isFound isMember
  have areFakeIP : ∀ member, manager.fakeIPTransport = some member ↔
      member ∈ (manager.delete tag).members ∧ member.type = typeFakeIP := by
    intro member
    rw [fakeIP_iff, isListed.mem_delete_iff]
    grind
  have isTag := (isListed.found_iff.mp isFound).2
  split_ifs with wasDefault
  · have isEmpty : (manager.delete tag).members = [] := by
      simp [Registry.delete, isFound, isLast wasDefault]
    simp only [isEmpty, release, isTag, isFree]
    exact ⟨⟨isListed.delete, by simp, areFakeIP⟩, id⟩
  · simp only [release, isTag, isFree]
    refine ⟨⟨isListed.delete, fun member isNoted => ?_, areFakeIP⟩, id⟩
    rcases isDefault member isNoted with ⟨isMember, isType⟩
    refine ⟨isListed.mem_delete_iff.mpr ⟨isMember, fun sameTag => wasDefault ?_⟩, isType⟩
    exact isOwn member isMember sameTag ▸ isNoted

end

/-- A run of calls that are allowed keeps the manager consistent, and a call
that is refused changes nothing. -/
theorem consistent_of_run {defaultTag : String} {actions : List Action}
    (run : Run (fun before action after => before.Calls action after ∧ before.Allowed action)
      { defaultTag := defaultTag } actions manager) :
    manager.Consistent ∧ ∀ action after, manager.Calls action after → manager.Allowed action →
      (manager.perform action).2.IsValidation → after = manager := by
  have step : ∀ {before after : TransportManager} {action : Action}, before.Sound →
      before.Calls action after → before.Allowed action →
        after.Sound ∧ ¬(before.perform action).2.IsValidation := by
    rintro before _ (⟨transport, fails⟩ | _) isSound ⟨rfl, isNew⟩ isAllowed
    · exact isSound.create (isNew transport fails rfl) isAllowed
    · exact isSound.remove isAllowed
  have isSound : manager.Sound := by
    apply run.preserves
    · exact ⟨⟨List.nodup_nil, by simp⟩, by simp, by simp⟩
    · intro _ action after isSound isStep
      exact (step isSound isStep.1 isStep.2).1
  refine ⟨isSound.consistent, fun action after isCall isAllowed isRefused => ?_⟩
  exact absurd isRefused (step isSound isCall isAllowed).2

theorem consistent_of_added : ∃ manager : TransportManager,
    manager.members = [⟨0, "a", "udp", []⟩, ⟨1, "f", "fakeip", []⟩] ∧ manager.Consistent := by
  have run : Run (fun before action after => Calls before action after ∧ before.Allowed action) {}
      ([] ++ [.create ⟨0, "a", "udp", []⟩ false] ++ [.create ⟨1, "f", "fakeip", []⟩ false]) _ :=
    .extend (.extend .start ⟨⟨rfl, by simp⟩, by simp [Allowed, typeFakeIP]⟩)
      ⟨⟨rfl, by simp [perform, create, enlist, TakesDefault, Registry.insert, Registry.delete,
          typeFakeIP]⟩,
        by simp [Allowed, perform, create, enlist, TakesDefault, Registry.insert,
          Registry.delete, typeFakeIP]⟩
  exact ⟨_, rfl, (consistent_of_run run).1⟩

/-- The default is removed: the next server is refused unless it is the fakeip
server, which becomes the default. -/
theorem fakeip_becomes_default :
    ((create (create {} ⟨0, "a", "udp", []⟩ false).1 ⟨1, "f", "fakeip", []⟩ false).1.remove
      "a").1.defaultTransport = some ⟨1, "f", "fakeip", []⟩ ∧
    ((create (create {} ⟨0, "a", "udp", []⟩ false).1 ⟨1, "b", "udp", []⟩ false).1.remove
      "a").2 = .defaultFakeIP ∧
    ((create (create {} ⟨0, "a", "udp", []⟩ false).1 ⟨1, "b", "udp", []⟩ false).1.remove
      "a").1.members = [⟨1, "b", "udp", []⟩] := by
  refine ⟨?_, ?_, ?_⟩ <;> rfl

end TransportManager

end SingBox.Dns
