import SingBox.Foundation.Run
import SingBox.Foundation.Update

/-! # The cleaner of the expiring map

The goroutine `run` sleeps on the channel `wake` while the queue is empty. Only
the store that finds the queue empty sends a token, after it has left the lock,
and a token is dropped if there is one already. Of the entries only their number
is part of the model: which of them a step finds, has expired or is removed is
an input of the step.
-/

namespace SingBox.ExpiringMap

open Function

/-- `StoreIf` with `Store`, and `Load` with `LoadAndRefresh`, do the same to the queue. -/
inductive Call
  | store | load | close
  deriving DecidableEq

/-- What a call finds under its key. -/
inductive Found
  | absent | expired | live
  deriving DecidableEq

/-- The next statement of a call: `unlocking` knows the notify that follows and
the result, and `waiting` is before `<-m.done`. -/
inductive CallPoint
  | locking (call : Call)
  | locked (call : Call)
  | unlocking (call : Call) (notify result : Bool)
  | notifying (call : Call) (result : Bool)
  | waiting
  | returned (call : Call) (result : Bool)
  deriving DecidableEq

/-- The next statement of `run`: `unlocking none` if the map is closed, and
`blocked` on `wake` with a timer or without. -/
inductive RunPoint
  | locking
  | locked
  | unlocking (timer : Option Bool)
  | blocked (timer : Bool)
  | ended
  deriving DecidableEq

namespace CallPoint

/-- The call still has to perform the notify it has committed to. -/
def owes : CallPoint → Bool
  | .unlocking _ notify _ => notify
  | .notifying _ _ => true
  | _ => false

/-- `Close` notifies, and returns when `run` has ended. -/
def Fits (run : RunPoint) : CallPoint → Prop
  | .unlocking .close notify _ => notify = true
  | .returned .close _ => run = .ended
  | _ => True

end CallPoint

/-- The lock is held by `run`, as `some none`, or by a call. -/
structure Cleaner where
  queue : Nat := 0
  closed : Bool := false
  token : Bool := false
  holder : Option (Option Nat) := none
  run : RunPoint := .locking
  calls : Nat → Option CallPoint := fun _ => none

/-- The steps of calls, where `allow` is only asked by a store, and of `run`, which
finds a number of entries expired. -/
inductive CleanerAction
  | begin_ (id : Nat) (call : Call)
  | lock (id : Nat)
  | body (id : Nat) (found : Found) (allow : Bool)
  | unlock (id : Nat)
  | notify (id : Nat)
  | done (id : Nat)
  | runLock
  | runBody (expired : Nat)
  | runUnlock
  | timer
  | wake

namespace Cleaner

variable (cleaner : Cleaner)

/-- The new length of the queue, whether the call has to notify, and its result. -/
def body (found : Found) (allow : Bool) : Call → Nat × Bool × Bool
  | .store =>
    let queue := if found = .expired then cleaner.queue - 1 else cleaner.queue
    if cleaner.closed then (cleaner.queue, false, false)
    else if !allow then (queue, false, false)
    else if found = .live then (queue, false, true)
    else (queue + 1, queue == 0, true)
  | .load =>
    if cleaner.closed then (cleaner.queue, false, false)
    else if found = .expired then (cleaner.queue - 1, false, false)
    else (cleaner.queue, false, found == .live)
  | .close => (if cleaner.closed then cleaner.queue else 0, true, false)

def move (id : Nat) (point : CallPoint) : Cleaner :=
  { cleaner with calls := update cleaner.calls id (some point) }

def next : CleanerAction → Option Cleaner
  | .begin_ id call =>
    if cleaner.calls id = none then some (cleaner.move id (.locking call)) else none
  | .lock id =>
    match cleaner.calls id, cleaner.holder with
    | some (.locking call), none => some { cleaner.move id (.locked call) with holder := some id }
    | _, _ => none
  | .body id found allow =>
    match cleaner.calls id with
    | some (.locked call) =>
      if cleaner.holder = some (some id) then
        let result := cleaner.body found allow call
        some { cleaner.move id (.unlocking call result.2.1 result.2.2) with
          queue := result.1, closed := cleaner.closed || call = .close }
      else none
    | _ => none
  | .unlock id =>
    match cleaner.calls id with
    | some (.unlocking call notify result) =>
      if cleaner.holder = some (some id) then
        some { cleaner.move id (if notify then .notifying call result else .returned call result)
          with holder := none }
      else none
    | _ => none
  | .notify id =>
    match cleaner.calls id with
    | some (.notifying call result) =>
      some { cleaner.move id (if call = .close then .waiting else .returned call result) with
        token := true }
    | _ => none
  | .done id =>
    if cleaner.calls id = some .waiting ∧ cleaner.run = .ended then
      some (cleaner.move id (.returned .close false))
    else none
  | .runLock =>
    if cleaner.run = .locking ∧ cleaner.holder = none then
      some { cleaner with run := .locked, holder := some none }
    else none
  | .runBody expired =>
    if cleaner.run = .locked ∧ cleaner.holder = some none ∧ expired ≤ cleaner.queue then
      if cleaner.closed then some { cleaner with run := .unlocking none }
      else
        let queue := cleaner.queue - expired
        some { cleaner with queue := queue, run := .unlocking (some (queue != 0)) }
    else none
  | .runUnlock =>
    match cleaner.run with
    | .unlocking timer =>
      if cleaner.holder = some none then
        some { cleaner with run := timer.elim .ended .blocked, holder := none }
      else none
    | _ => none
  | .timer => if cleaner.run = .blocked true then some { cleaner with run := .locking } else none
  | .wake =>
    match cleaner.run, cleaner.token with
    | .blocked _, true => some { cleaner with run := .locking, token := false }
    | _, _ => none

/-- A token is in the channel or still to come. -/
def Announced : Prop :=
  cleaner.token = true ∨ ∃ id point, cleaner.calls id = some point ∧ point.owes = true

structure Sound : Prop where
  asleep : cleaner.run = .blocked false → cleaner.queue ≠ 0 → cleaner.Announced
  closing : ∀ timer, cleaner.run = .blocked timer → cleaner.closed = true → cleaner.Announced
  checked : ∀ timer, cleaner.run = .unlocking timer → cleaner.holder = some none ∧
    (timer = some false → cleaner.queue = 0) ∧ (timer = none ↔ cleaner.closed = true)
  ended : cleaner.run = .ended → cleaner.closed = true
  calls : ∀ id point, cleaner.calls id = some point → point.Fits cleaner.run

variable {cleaner} {after : Cleaner} {action : CleanerAction} {id : Nat} {point : CallPoint}

/-- A step of a call does not touch what `run` has found under the lock. -/
theorem Sound.call (sound : cleaner.Sound) (isRun : after.run = cleaner.run)
    (areCalls : after.calls = update cleaner.calls id (some point))
    (owes : ∀ old, cleaner.calls id = some old → old.owes = true →
      point.owes = true ∨ after.token = true)
    (keeps : cleaner.token = true → after.token = true)
    (queues : after.queue ≠ 0 → cleaner.queue ≠ 0 ∨ point.owes = true)
    (closes : after.closed = true → cleaner.closed = true ∨ point.owes = true)
    (stays : cleaner.closed = true → after.closed = true)
    (apart : cleaner.holder = some none → after.holder = some none ∧
      after.queue = cleaner.queue ∧ after.closed = cleaner.closed)
    (fits : point.Fits cleaner.run) : after.Sound := by
  have announced : cleaner.Announced ∨ point.owes = true → after.Announced := by
    rw [Announced, Announced, areCalls]
    rintro ((isThere | ⟨other, old, isOld, isOwing⟩) | isOwing)
    · exact .inl (keeps isThere)
    · by_cases same : other = id
      · subst same
        refine (owes old isOld isOwing).symm.imp_right fun owing => ⟨other, point, ?_, owing⟩
        exact update_self ..
      · exact .inr ⟨other, old, (update_of_ne same ..).trans isOld, isOwing⟩
    · exact .inr ⟨id, point, update_self .., isOwing⟩
  constructor <;> rw [isRun]
  · exact fun isAsleep isQueued =>
      announced ((queues isQueued).imp_left (sound.asleep isAsleep))
  · exact fun timer isBlocked isClosed =>
      announced ((closes isClosed).imp_left (sound.closing timer isBlocked))
  · intro timer isUnlocking
    rcases sound.checked timer isUnlocking with ⟨isHolder, rest⟩
    rcases apart isHolder with ⟨isHeld, sameQueue, sameClosed⟩
    rw [sameQueue, sameClosed]
    exact ⟨isHeld, rest⟩
  · exact fun isEnded => stays (sound.ended isEnded)
  · rw [areCalls]
    refine forall_update sound.calls ?_
    rintro _ ⟨⟩
    exact fits

theorem Sound.running (sound : cleaner.Sound) (notEnded : cleaner.run ≠ .ended) {run : RunPoint}
    (id : Nat) (point : CallPoint) (isCall : cleaner.calls id = some point) : point.Fits run := by
  have fits := sound.calls id point isCall
  unfold CallPoint.Fits at fits ⊢
  split
  · exact fits
  · exact absurd fits notEnded
  · trivial

theorem body_cases (cleaner : Cleaner) (found : Found) (allow : Bool) (call : Call) :
    let result := cleaner.body found allow call
    (result.1 ≠ 0 → cleaner.queue ≠ 0 ∨ result.2.1 = true) ∧
      (call = .close → result.2.1 = true) ∧ (cleaner.closed = true → result.2.2 = false) := by
  cases call <;> simp only [body] <;> grind

theorem Sound.next (sound : cleaner.Sound) (isNext : cleaner.next action = some after) :
    after.Sound := by
  unfold Cleaner.next at isNext
  split at isNext
  · split at isNext <;> cases isNext
    next isNew =>
    exact sound.call rfl rfl (by simp [isNew]) id .inl .inl id (⟨·, rfl, rfl⟩) trivial
  · split at isNext <;> cases isNext
    next isCall isFree =>
    exact sound.call rfl rfl (by simp [isCall, CallPoint.owes]) id .inl .inl id
      (by simp [isFree]) trivial
  · split at isNext
    · next call isCall =>
      split at isNext <;> cases isNext
      next isHolder =>
      rcases cleaner.body_cases _ _ call with ⟨queues, notifies, -⟩
      refine sound.call rfl rfl (by simp [isCall, CallPoint.owes]) id queues ?_ ?_
        (by simp [isHolder]) ?_
      · intro isClosed
        rw [Bool.or_eq_true, decide_eq_true_eq] at isClosed
        exact isClosed.imp_right notifies
      · exact fun isClosed => Bool.or_eq_true_iff.mpr (.inl isClosed)
      · cases call with
        | close => exact notifies rfl
        | _ => trivial
    · cases isNext
  · split at isNext
    · next call notify result isCall =>
      split at isNext <;> cases isNext
      next isHolder =>
      refine sound.call rfl rfl ?_ id .inl .inl id (by simp [isHolder]) ?_
      · cases notify <;> simp [isCall, CallPoint.owes]
      · have fits := sound.calls _ _ isCall
        cases notify <;> cases call <;> trivial
    · cases isNext
  · split at isNext <;> cases isNext
    next call result isCall =>
    refine sound.call rfl rfl (fun _ _ _ => .inr rfl) (fun _ => rfl) .inl .inl id (⟨·, rfl, rfl⟩) ?_
    cases call <;> trivial
  · split at isNext <;> cases isNext
    next isWaiting =>
    exact sound.call rfl rfl (by simp [isWaiting.1, CallPoint.owes]) id .inl .inl id
      (⟨·, rfl, rfl⟩) isWaiting.2
  · split at isNext <;> cases isNext
    next isRun => exact ⟨nofun, nofun, nofun, nofun, sound.running (by simp [isRun.1])⟩
  · split at isNext
    · next isRun =>
      split at isNext <;> cases isNext <;>
        refine ⟨nofun, nofun, ?_, nofun, sound.running (by simp [isRun.1])⟩ <;>
        rintro _ ⟨⟩ <;> simp_all
    · cases isNext
  · split at isNext
    · next timer isRun =>
      rcases sound.checked timer isRun with ⟨-, empty, isClosed⟩
      split at isNext <;> cases isNext
      refine ⟨?_, ?_, ?_, ?_, sound.running (by simp [isRun])⟩ <;> cases timer <;> simp_all
    · cases isNext
  · split at isNext <;> cases isNext
    next isRun => exact ⟨nofun, nofun, nofun, nofun, sound.running (by simp [isRun])⟩
  · split at isNext <;> cases isNext
    next isRun _ => exact ⟨nofun, nofun, nofun, nofun, sound.running (by simp [isRun])⟩

abbrev Ran (actions : List CleanerAction) (cleaner : Cleaner) : Prop :=
  Run (fun cleaner action after => Cleaner.next cleaner action = some after) {} actions cleaner

/-- The cleaner never misses a wake-up, and nothing is found after `Close` has returned. -/
theorem announced_of_run {actions : List CleanerAction} (run : cleaner.Ran actions) :
    (cleaner.run = .blocked false → cleaner.queue ≠ 0 → cleaner.Announced) ∧
    (∀ timer, cleaner.run = .blocked timer → cleaner.closed = true → cleaner.Announced) ∧
    ∀ id result, cleaner.calls id = some (.returned .close result) →
      cleaner.run = .ended ∧ ∀ found allow call, (cleaner.body found allow call).2.2 = false := by
  have sound : cleaner.Sound := run.preserves
    ⟨nofun, nofun, nofun, nofun, nofun⟩ fun sound isNext => sound.next isNext
  refine ⟨sound.asleep, sound.closing, fun id result isReturned => ?_⟩
  have isEnded : cleaner.run = .ended := sound.calls id _ isReturned
  exact ⟨isEnded, fun found allow call =>
    (cleaner.body_cases found allow call).2.2 (sound.ended isEnded)⟩

/-- `run` sleeps on an empty queue, and a store has not notified yet. -/
def storedActions : List CleanerAction :=
  [.runLock, .runBody 0, .runUnlock, .begin_ 0 .store, .lock 0, .body 0 .absent true, .unlock 0]

theorem announced_stored :
    ∃ cleaner : Cleaner, cleaner.Ran storedActions ∧ cleaner.run = .blocked false ∧
      cleaner.queue = 1 ∧ cleaner.Announced := by
  have run : Ran storedActions _ := Run.of_execute rfl
  exact ⟨_, run, rfl, rfl, (announced_of_run run).1 rfl nofun⟩

end Cleaner

end SingBox.ExpiringMap
