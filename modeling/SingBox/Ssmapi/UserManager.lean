import Mathlib.Data.List.Induction
import Mathlib.Logic.Function.Basic

/-! # Managed users

A change is made in `usersMap` first, and then the whole map is given to the
server. A server that refuses it leaves the change in the map.
-/

namespace SingBox.Ssmapi

open Function

abbrev Users := String → Option String

/-- `UserManager`, the users that the server accepted last, and the names that
the traffic manager was given. -/
structure UserManager where
  usersMap : Users := fun _ => none
  accepted : Users := fun _ => none
  tracked : String → Bool := fun _ => false

inductive Call
  | add (username password : String)
  | update (username password : String)
  | delete (username : String)

/-- The error of a call: "user <username> already exists", or the one of the
server. -/
inductive CallError
  | alreadyExists (username : String)
  | refused
  deriving DecidableEq

namespace UserManager

variable (manager : UserManager) (accepts : Users → Bool)

/-- `postUpdate` with a changed map. -/
def postUpdate (usersMap : Users) : UserManager × Option CallError :=
  if accepts usersMap then (⟨usersMap, usersMap, fun username => (usersMap username).isSome⟩, none)
  else ({ manager with usersMap := usersMap }, some .refused)

/-- A call; the server is not asked for a user that exists. -/
def perform : Call → UserManager × Option CallError
  | .add username password =>
    if (manager.usersMap username).isSome then (manager, some (.alreadyExists username))
    else manager.postUpdate accepts (update manager.usersMap username password)
  | .update username password =>
    manager.postUpdate accepts (update manager.usersMap username password)
  | .delete username => manager.postUpdate accepts (update manager.usersMap username none)

/-- The server and the traffic manager have the users of the map. -/
def Managed : Prop :=
  manager.usersMap = manager.accepted ∧
    manager.tracked = fun username => (manager.usersMap username).isSome

/-- The manager after several calls, each with the answers of the server at that
time. -/
def performAll (calls : List (Call × (Users → Bool))) : UserManager :=
  calls.foldl (fun manager call => (manager.perform call.2 call.1).1) {}

/-- The users after a call that nobody objects to. -/
def changed (users : Users) : Call → Users
  | .add username password =>
    if (users username).isSome then users else update users username password
  | .update username password => update users username password
  | .delete username => update users username none

/-- The users that the calls ask for. -/
def asked (calls : List (Call × (Users → Bool))) : Users :=
  calls.foldl (fun users call => changed users call.1) fun _ => none

variable {manager accepts}

theorem postUpdate_usersMap (usersMap : Users) :
    (manager.postUpdate accepts usersMap).1.usersMap = usersMap := by
  rw [postUpdate]
  split <;> rfl

theorem perform_usersMap (call : Call) :
    (manager.perform accepts call).1.usersMap = changed manager.usersMap call := by
  cases call with
  | add =>
    rw [perform, changed]
    split
    · rfl
    · exact postUpdate_usersMap _
  | update | delete => exact postUpdate_usersMap _

theorem managed_postUpdate_iff (managed : manager.Managed) {usersMap : Users} :
    (manager.postUpdate accepts usersMap).1.Managed ↔
      usersMap = manager.usersMap ∨ accepts usersMap = true := by
  rw [postUpdate]
  split
  · next isAccepted => simp [Managed, isAccepted]
  · next isRefused =>
    -- the server and the traffic manager still have the users from before
    rw [or_iff_left isRefused]
    simp only [Managed, ← managed.1, managed.2, and_iff_left_iff_imp]
    rintro rfl
    rfl

theorem managed_perform_iff (managed : manager.Managed) (call : Call) :
    (manager.perform accepts call).1.Managed ↔
      changed manager.usersMap call = manager.usersMap ∨
        accepts (changed manager.usersMap call) = true := by
  cases call with
  | add =>
    rw [perform, changed]
    split
    · simpa using managed
    · exact managed_postUpdate_iff managed
  | update | delete => exact managed_postUpdate_iff managed

theorem performAll_usersMap (calls : List (Call × (Users → Bool))) :
    (performAll calls).usersMap = asked calls :=
  (List.foldl_hom usersMap fun _ call => (perform_usersMap call.1).symm).symm

/-- The map is the one that the server and the traffic manager have after each
call exactly if the server accepts every call that changes the users. -/
theorem managed_run_iff {calls : List (Call × (Users → Bool))} :
    (∀ before, before <+: calls → (performAll before).Managed) ↔
      ∀ before call accepts, before ++ [(call, accepts)] <+: calls →
        changed (asked before) call = asked before ∨
          accepts (changed (asked before) call) = true := by
  have managed_concat_iff {before : List (Call × (Users → Bool))} {call accepts}
      (managed : (performAll before).Managed) :
      (performAll (before ++ [(call, accepts)])).Managed ↔
        changed (asked before) call = asked before ∨
          accepts (changed (asked before) call) = true := by
    rw [← performAll_usersMap, ← managed_perform_iff managed, performAll, List.foldl_append]
    rfl
  have isPrefix {before : List (Call × (Users → Bool))} {call} :
      before ++ [call] <+: calls → before <+: calls := (List.prefix_append _ _).trans
  constructor
  · intro managed before call accepts within
    exact (managed_concat_iff (managed before (isPrefix within))).mp (managed _ within)
  · intro accepted before within
    induction before using List.reverseRecOn with
    | nil => exact ⟨rfl, rfl⟩
    | append_singleton before call induction =>
      exact (managed_concat_iff (induction (isPrefix within))).mpr (accepted _ _ _ within)

/-- A server that refuses keys of no length refuses a later user with a good key. -/
theorem refused_user_stays :
    let accepts (users : Users) : Bool := users "a" != some ""
    let first := (UserManager.perform {} accepts (.add "a" "")).1
    let second := first.perform accepts (.add "b" "k")
    first.usersMap "a" = some "" ∧ first.accepted "a" = none ∧
      accepts (update first.accepted "b" "k") = true ∧
      second.2 = some .refused ∧ second.1.usersMap "b" = some "k" ∧
      second.1.accepted "b" = none := by
  decide

end UserManager

end SingBox.Ssmapi
