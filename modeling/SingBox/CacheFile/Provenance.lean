import SingBox.CacheFile.AsyncSave
import SingBox.Foundation.Update

/-! # Where a loaded value comes from

Whatever the goroutines do, `LoadDNSCache` returns for a key only values that
were saved under that key. Clears and deletions only take values away.
-/

namespace SingBox.CacheFile

open Bolt Function

/-- The transaction of `DeleteDNSCache`. -/
def deleteDNSCache (cacheID : Option Bytes) (key : SaveCacheKey) (rawMessage : Bytes) :
    Tx Unit := do
  let path := bucketPath cacheID bucketDNSCache ++ [key.transportName]
  match ← Tx.get path (keyBytes key.questionName key.qType) with
  | none => return ()
  | some content =>
    if content.length < 8 ∨ content.drop 8 ≠ rawMessage then return ()
    else Tx.delete path (keyBytes key.questionName key.qType)

/-- An entry that is waiting to be saved is not deleted. -/
def SaveState.deleteDNSCache (cacheID : Option Bytes) (state : SaveState) (key : SaveCacheKey)
    (rawMessage : Bytes) : SaveState :=
  if (state.saveDNSCache key).isSome then state
  else { state with db := (batch (CacheFile.deleteDNSCache cacheID key rawMessage) state.db).1 }

theorem loadDatabase_of_deleted {cacheID : Option Bytes} {key other : SaveCacheKey}
    {rawMessage : Bytes} {db : Database} {value : DNSCacheValue}
    (found : loadDatabase cacheID (batch (deleteDNSCache cacheID key rawMessage) db).1 other =
      some value) :
    loadDatabase cacheID db other = some value := by
  have outcome : (batch (deleteDNSCache cacheID key rawMessage) db).1 = db ∨
      (batch (deleteDNSCache cacheID key rawMessage) db).1 =
        db.erase (bucketPath cacheID bucketDNSCache ++ [key.transportName])
          (keyBytes key.questionName key.qType) := by
    cases content : db.get (bucketPath cacheID bucketDNSCache ++ [key.transportName])
        (keyBytes key.questionName key.qType) with
    | none =>
      left
      simp [batch, deleteDNSCache, bind, StateT.bind, Except.bind, Tx.run_get, Tx.run_pure, content]
    | some stored =>
      by_cases kept : stored.length < 8 ∨ stored.drop 8 ≠ rawMessage
      · left
        simp [batch, deleteDNSCache, bind, StateT.bind, Except.bind, Tx.run_get, Tx.run_pure,
          content, kept]
      · right
        simp [batch, deleteDNSCache, bind, StateT.bind, Except.bind, Tx.run_get, Tx.delete,
          content, kept]
  rcases outcome with unchanged | erased
  · rw [unchanged] at found
    exact found
  rw [erased, loadDatabase, Database.get_erase] at found
  split at found
  · cases found
  · exact found

/-- Every value that is queued, held by a flusher or in the database was saved
under its key. -/
structure Sourced (saved : SaveCacheKey → DNSCacheValue → Prop) (cacheID : Option Bytes)
    (state : SaveState) : Prop where
  queued : ∀ key entry, state.saveDNSCache key = some entry → saved key entry.toDNSCacheValue
  held : ∀ id key point entry, state.flushers id = some ⟨key, point⟩ →
    point.snapshot = some entry → saved key entry.toDNSCacheValue
  written : ∀ key value, loadDatabase cacheID state.db key = some value →
    ∃ source, saved key source ∧ value = source.truncate

namespace Sourced

variable {saved : SaveCacheKey → DNSCacheValue → Prop} {cacheID : Option Bytes}
  {state after : SaveState}

theorem initial : Sourced saved cacheID .initial where
  queued _ _ isQueued := by cases isQueued
  held _ _ _ _ isFlusher := by cases isFlusher
  written _ _ found := by cases found

variable (sourced : Sourced saved cacheID state)
include sourced

variable {key : SaveCacheKey} {value : DNSCacheValue}

theorem loadDNSCache (found : state.loadDNSCache cacheID key = some value) :
    ∃ source, saved key source ∧ (value = source ∨ value = source.truncate) := by
  rw [SaveState.loadDNSCache] at found
  split at found
  · next entry isQueued =>
    cases found
    exact ⟨_, sourced.queued key entry isQueued, .inl rfl⟩
  · rcases sourced.written key value found with ⟨source, isSaved, isValue⟩
    exact ⟨source, isSaved, .inr isValue⟩

theorem moveTo {id : Nat} {new : Option Flusher}
    (holds : ∀ flusher entry, new = some flusher → flusher.point.snapshot = some entry →
      saved flusher.key entry.toDNSCacheValue) :
    Sourced saved cacheID (state.moveTo id new) where
  __ := sourced
  held other key point entry isFlusher isHeld := by
    change update state.flushers id new other = _ at isFlusher
    by_cases same : other = id
    · subst same
      rw [update_self] at isFlusher
      exact holds ⟨key, point⟩ entry isFlusher isHeld
    · rw [update_of_ne same] at isFlusher
      exact sourced.held other key point entry isFlusher isHeld

theorem read (id : Nat) (key : SaveCacheKey) :
    Sourced saved cacheID
      (state.moveTo id ((state.saveDNSCache key).map fun entry => ⟨key, .save entry⟩)) := by
  refine sourced.moveTo ?_
  intro _ _ isNew isHeld
  rcases Option.map_eq_some_iff.mp isNew with ⟨_, isQueued, rfl⟩
  cases isHeld
  exact sourced.queued key _ isQueued

theorem withQueue {queued : Option SaveDNSCacheEntry}
    (isSaved : ∀ entry, queued = some entry → saved key entry.toDNSCacheValue) :
    Sourced saved cacheID
      { state with saveDNSCache := update state.saveDNSCache key queued } where
  __ := sourced
  queued := forall_update sourced.queued isSaved

theorem again (id : Nat) (key : SaveCacheKey) :
    Sourced saved cacheID (state.moveTo id (some ⟨key, .read⟩)) := by
  refine sourced.moveTo fun flusher held isNew isHeld => ?_
  cases isNew
  cases isHeld

theorem saveAsync (isSaved : saved key value) :
    Sourced saved cacheID (state.saveAsync key value) := by
  have queued := sourced.withQueue
    (fun entry (isNew : some (SaveState.queuedEntry (state.saveDNSCache key) value) = _) => by
      cases isNew
      exact isSaved)
  rw [SaveState.saveAsync]
  split
  · exact { queued.again state.spawned key with }
  · exact queued

theorem relock (id : Nat) (key : SaveCacheKey) (entry : SaveDNSCacheEntry) (failed : Bool) :
    Sourced saved cacheID (state.relock id key entry failed) := by
  have ended : Sourced saved cacheID (state.moveTo id none) :=
    sourced.moveTo (by rintro _ _ ⟨⟩)
  rw [SaveState.relock.eq_def]
  split
  · next current isQueued =>
    split
    · refine ended.withQueue fun updated isUpdated => ?_
      cases isUpdated
      exact sourced.queued key current isQueued
    · exact sourced.again id key
  · exact sourced.again id key
  · exact ended
  · split
    · exact sourced.again id key
    · exact ended.withQueue (by rintro _ ⟨⟩)

theorem flush (isSaved : saved key value)
    {diskError : Bool} {result : Database × Bool} (isResult : (if diskError then (state.db, false)
      else batch (CacheFile.saveDNSCache cacheID key value) state.db) = result)
    (other : SaveCacheKey) (found : DNSCacheValue)
    (isFound : loadDatabase cacheID result.1 other = some found) :
    ∃ source, saved other source ∧ found = source.truncate := by
  cases succeeded : result.2 with
  | true =>
    rw [loadDatabase_of_flush isResult succeeded] at isFound
    split at isFound
    · next same =>
      cases isFound
      exact ⟨value, same ▸ isSaved, rfl⟩
    · exact sourced.written other found isFound
  | false =>
    rw [database_of_failed_flush isResult succeeded] at isFound
    exact sourced.written other found isFound

theorem deleteDNSCache (key : SaveCacheKey) (rawMessage : Bytes) :
    Sourced saved cacheID (state.deleteDNSCache cacheID key rawMessage) := by
  rw [SaveState.deleteDNSCache]
  split
  · exact sourced
  · exact ⟨sourced.queued, sourced.held, fun other value found =>
      sourced.written other value (loadDatabase_of_deleted found)⟩

theorem next {action : SaveAction} (isStep : state.next cacheID action = some after)
    (isSaved : ∀ key value, action = .saveAsync key value → saved key value) :
    Sourced saved cacheID after := by
  cases action <;> simp only [SaveState.next] at isStep
  case saveAsync key value =>
    cases isStep
    exact sourced.saveAsync (isSaved key value rfl)
  case read id =>
    split at isStep <;> cases isStep
    exact sourced.read id _
  case save id diskError =>
    split at isStep <;> cases isStep
    next key entry isFlusher =>
    have held := sourced.held id key (.save entry) entry isFlusher rfl
    have moved (failed : Bool) :
        Sourced saved cacheID (state.moveTo id (some ⟨key, .relock entry failed⟩)) := by
      refine sourced.moveTo fun flusher kept isNew isHeld => ?_
      cases isNew
      cases isHeld
      exact held
    exact ⟨sourced.queued, (moved _).held, sourced.flush held rfl⟩
  case relock id =>
    split at isStep <;> cases isStep
    exact sourced.relock id _ _ _
  case clearPending =>
    cases isStep
    refine ⟨?_, sourced.held, sourced.written⟩
    rintro _ _ ⟨⟩
  case clearDatabase =>
    split_ifs at isStep <;> cases isStep
    · exact ⟨sourced.queued, sourced.held, sourced.written⟩
    · refine ⟨sourced.queued, sourced.held, ?_⟩
      intro _ _ found
      rw [loadDatabase_of_cleared] at found
      cases found

end Sourced

/-- Whatever the goroutines and the clears do, a value that is loaded was saved
under its key. -/
theorem loaded_of_saved {cacheID : Option Bytes} {actions : List SaveAction} {state : SaveState}
    (run : Run (fun before action after => before.next cacheID action = some after) .initial
      actions state)
    {key : SaveCacheKey} {value : DNSCacheValue}
    (isLoaded : state.loadDNSCache cacheID key = some value) :
    ∃ source, .saveAsync key source ∈ actions ∧ (value = source ∨ value = source.truncate) := by
  have sourced := run.invariant_among
    (Sourced (fun key source => .saveAsync key source ∈ actions) cacheID) .initial
    fun sourced member isStep => sourced.next isStep fun _ _ isSave => isSave ▸ member
  exact sourced.loadDNSCache isLoaded

theorem loaded_of_saved_queued :
    ∃ source, SaveAction.saveAsync sampleKey source ∈ [.saveAsync sampleKey (sampleValue [1])] ∧
      (sampleValue [1] = source ∨ sampleValue [1] = source.truncate) :=
  loaded_of_saved (@Run.of_execute _ _ _ _ _ (SaveState.next none) rfl) rfl

end SingBox.CacheFile
