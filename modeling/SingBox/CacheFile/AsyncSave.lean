import SingBox.CacheFile.DnsCache
import SingBox.Foundation.Run

/-! # Asynchronous DNS cache saves

`SaveDNSCacheAsync` queues an entry and starts a flusher unless one is on its
way. A flusher reads the entry, saves it to the database, and removes it if its
sequence number has not changed meanwhile. `ClearDNSCache` first empties the
queue and then deletes the bucket. Each of these is one step here, and steps
of all goroutines interleave.

An entry that is queued after its key was cleared starts again at sequence
number one, and the new flusher does not know of an old one. So a flusher that
lives through a clear can write an old value back or drop a new one.
-/

namespace SingBox.CacheFile

open Bolt Function List Bool Nat BitVec

structure SaveDNSCacheEntry extends DNSCacheValue where
  sequence : BitVec 64
  saving : Bool
  deriving DecidableEq

/-- Where a flusher stands: before it reads the entry, before it saves what it
has read, and before it takes the lock again with the result of the save. -/
inductive FlushPoint
  | read
  | save (entry : SaveDNSCacheEntry)
  | relock (entry : SaveDNSCacheEntry) (failed : Bool)
  deriving DecidableEq

structure Flusher where
  key : SaveCacheKey
  point : FlushPoint
  deriving DecidableEq

/-- `clearing` counts the calls of `ClearDNSCache` that have emptied the queue
and not yet deleted the bucket; `saveFailed` records whether a save failed. -/
structure SaveState where
  saveDNSCache : SaveCacheKey → Option SaveDNSCacheEntry
  db : Database
  flushers : Nat → Option Flusher
  spawned : Nat
  clearing : Nat
  saveFailed : Bool

inductive SaveAction
  | saveAsync (key : SaveCacheKey) (value : DNSCacheValue)
  | read (flusher : Nat)
  | save (flusher : Nat) (diskError : Bool)
  | relock (flusher : Nat)
  | clearPending
  | clearDatabase (diskError : Bool)
  deriving DecidableEq

namespace SaveState

def initial : SaveState where
  saveDNSCache _ := none
  db := .empty
  flushers _ := none
  spawned := 0
  clearing := 0
  saveFailed := false

def loadDNSCache (cacheID : Option Bytes) (state : SaveState) (key : SaveCacheKey) :
    Option DNSCacheValue :=
  match state.saveDNSCache key with
  | some entry => some entry.toDNSCacheValue
  | none => loadDatabase cacheID state.db key

/-- The entry that `queueDNSCacheSave` leaves for a key. -/
def queuedEntry (old : Option SaveDNSCacheEntry) (value : DNSCacheValue) : SaveDNSCacheEntry where
  toDNSCacheValue := value
  sequence := (old.elim 0 SaveDNSCacheEntry.sequence) + 1
  saving := true

/-- Whether `queueDNSCacheSave` asks for a new flusher. -/
def startsFlush (old : Option SaveDNSCacheEntry) : Bool :=
  !old.elim false SaveDNSCacheEntry.saving

def saveAsync (state : SaveState) (key : SaveCacheKey) (value : DNSCacheValue) : SaveState :=
  let old := state.saveDNSCache key
  let queued := { state with
    saveDNSCache := update state.saveDNSCache key (some (queuedEntry old value)) }
  if startsFlush old then
    { queued with
      flushers := update state.flushers state.spawned (some ⟨key, .read⟩)
      spawned := state.spawned + 1 }
  else queued

def moveTo (state : SaveState) (id : Nat) (flusher : Option Flusher) : SaveState :=
  { state with flushers := update state.flushers id flusher }

/-- The end of an iteration of `flushPendingDNSCacheWith`, under the lock. -/
def relock (state : SaveState) (id : Nat) (key : SaveCacheKey) (entry : SaveDNSCacheEntry)
    (failed : Bool) : SaveState :=
  match failed, state.saveDNSCache key with
  | true, some current =>
    if current.sequence = entry.sequence then
      { state.moveTo id none with
        saveDNSCache := update state.saveDNSCache key
          (some { current with saving := false }) }
    else state.moveTo id (some ⟨key, .read⟩)
  | true, none => state.moveTo id (some ⟨key, .read⟩)
  | false, none => state.moveTo id none
  | false, some current =>
    if current.sequence ≠ entry.sequence then state.moveTo id (some ⟨key, .read⟩)
    else
      { state.moveTo id none with
        saveDNSCache := update state.saveDNSCache key none }

def next (cacheID : Option Bytes) (state : SaveState) : SaveAction → Option SaveState
  | .saveAsync key value => some (state.saveAsync key value)
  | .read id =>
    match state.flushers id with
    | some ⟨key, .read⟩ =>
      some (state.moveTo id ((state.saveDNSCache key).map fun entry => ⟨key, .save entry⟩))
    | _ => none
  | .save id diskError =>
    match state.flushers id with
    | some ⟨key, .save entry⟩ =>
      let result :=
        if diskError then (state.db, false)
        else batch (CacheFile.saveDNSCache cacheID key entry.toDNSCacheValue) state.db
      some { state.moveTo id (some ⟨key, .relock entry (!result.2)⟩) with
        db := result.1
        saveFailed := state.saveFailed || !result.2 }
    | _ => none
  | .relock id =>
    match state.flushers id with
    | some ⟨key, .relock entry failed⟩ => some (state.relock id key entry failed)
    | _ => none
  | .clearPending =>
    some { state with saveDNSCache := fun _ => none, clearing := state.clearing + 1 }
  | .clearDatabase diskError =>
    if state.clearing = 0 then none
    else
      some { state with
        db := if diskError then state.db else (batch (CacheFile.clearDatabase cacheID) state.db).1
        clearing := state.clearing - 1 }

end SaveState

/-! ## What the saves are for -/

/-- One value for each key: a save replaces it, a completed clear forgets all. -/
def recordAction (values : SaveCacheKey → Option DNSCacheValue) :
    SaveAction → SaveCacheKey → Option DNSCacheValue
  | .saveAsync key value => update values key (some value)
  | .clearDatabase false => fun _ => none
  | _ => values

/-- The last save that was queued after the last completed clear. -/
def lastSaved (actions : List SaveAction) : SaveCacheKey → Option DNSCacheValue :=
  actions.foldl recordAction fun _ => none

@[simp] theorem lastSaved_snoc (actions : List SaveAction) (action : SaveAction) :
    lastSaved (actions ++ [action]) = recordAction (lastSaved actions) action := by
  simp [lastSaved]

def SaveAction.isSave : SaveAction → Bool
  | .saveAsync _ _ => true
  | _ => false

/-- The queue is emptied while no flusher is running, and nothing is queued
between that and the deletion of the bucket. -/
def Calm (state : SaveState) : SaveAction → Prop
  | .clearPending => ∀ id, state.flushers id = none
  | .saveAsync _ _ => state.clearing = 0
  | _ => True

def CalmStep (cacheID : Option Bytes) (state : SaveState) (action : SaveAction)
    (after : SaveState) : Prop :=
  state.next cacheID action = some after ∧ Calm state action

/-! ## What calm runs keep -/

/-- The entry a flusher has read. -/
def FlushPoint.snapshot : FlushPoint → Option SaveDNSCacheEntry
  | .read => none
  | .save entry => some entry
  | .relock entry _ => some entry

/-- The sequence number of an entry is the one of its last save, and tells it
apart from what its flusher has read of earlier saves. -/
def Numbered (saves : Nat) (entry : SaveDNSCacheEntry)
    (snapshot : Option SaveDNSCacheEntry) : Prop :=
  ∃ number ≤ saves, entry.sequence = BitVec.ofNat 64 number ∧
    ∀ held, snapshot = some held → ∃ earlier ≤ number,
      held.sequence = BitVec.ofNat 64 earlier ∧
        (earlier = number → held.toDNSCacheValue = entry.toDNSCacheValue)

/-- The one flusher of a key and where it stands. -/
def FlushedBy (flushers : Nat → Option Flusher) (key : SaveCacheKey)
    (running : Option (Nat × FlushPoint)) : Prop :=
  ∀ id point, flushers id = some ⟨key, point⟩ ↔ running = some (id, point)

/-- A key is idle, with its last save in the database, or busy, with its last
save queued and one flusher on its way. -/
inductive KeySettled (cacheID : Option Bytes) (actions : List SaveAction) (state : SaveState)
    (key : SaveCacheKey) : Prop
  | idle
      (notQueued : state.saveDNSCache key = none)
      (noFlusher : FlushedBy state.flushers key none)
      (durable : loadDatabase cacheID state.db key =
        (lastSaved actions key).map DNSCacheValue.truncate)
  | busy (entry : SaveDNSCacheEntry) (id : Nat) (point : FlushPoint)
      (isQueued : state.saveDNSCache key = some entry)
      (saving : entry.saving = true)
      (isFlusher : FlushedBy state.flushers key (some (id, point)))
      (current : lastSaved actions key = some entry.toDNSCacheValue)
      (numbered : Numbered (actions.countP SaveAction.isSave) entry point.snapshot)
      (flushed : ∀ held failed, point = .relock held failed →
        failed = false ∧ loadDatabase cacheID state.db key = some held.truncate)

structure Settled (cacheID : Option Bytes) (actions : List SaveAction) (state : SaveState) :
    Prop where
  keys : ∀ key, KeySettled cacheID actions state key
  fresh : ∀ id, state.spawned ≤ id → state.flushers id = none
  quiet : state.clearing ≠ 0 → ∀ id, state.flushers id = none

variable {cacheID : Option Bytes} {actions : List SaveAction} {state after : SaveState}

theorem settled_initial : Settled cacheID [] .initial where
  keys _ := .idle rfl (by simp [FlushedBy, SaveState.initial]) rfl
  fresh _ _ := rfl
  quiet notZero := absurd rfl notZero

theorem Settled.loadDNSCache (settled : Settled cacheID actions state) (key : SaveCacheKey) :
    (state.loadDNSCache cacheID key).map DNSCacheValue.truncate =
      (lastSaved actions key).map DNSCacheValue.truncate := by
  cases settled.keys key with
  | idle notQueued _ durable =>
    simp only [SaveState.loadDNSCache, notQueued, durable, Option.map_map]
    rfl
  | busy _ _ _ isQueued _ _ current => simp only [SaveState.loadDNSCache, isQueued, current]

/-! ## Sequence numbers -/

variable {entry : SaveDNSCacheEntry} {snapshot : Option SaveDNSCacheEntry} {saves id : Nat}
  {flushers : Nat → Option Flusher} {new : Option Flusher}

section

variable (numbered : Numbered saves entry snapshot)
include numbered

theorem Numbered.mono {more : Nat} (atMost : saves ≤ more) : Numbered more entry snapshot := by
  rcases numbered with ⟨number, bound, rest⟩
  exact ⟨number, bound.trans atMost, rest⟩

theorem Numbered.queuedEntry (value : DNSCacheValue) :
    Numbered (saves + 1) (SaveState.queuedEntry (some entry) value) snapshot := by
  rcases numbered with ⟨number, bound, isNumber, earlier⟩
  refine ⟨number + 1, succ_le_succ bound, ?_, ?_⟩
  · change entry.sequence + 1 = _
    rw [isNumber, ofNat_add]
    rfl
  · intro held isHeld
    rcases earlier held isHeld with ⟨other, otherBound, isOther, _⟩
    exact ⟨other, by omega, isOther, fun equal => by omega⟩

theorem Numbered.read : Numbered saves entry (some entry) := by
  rcases numbered with ⟨number, bound, isNumber, _⟩
  refine ⟨number, bound, isNumber, fun held isHeld => ?_⟩
  cases isHeld
  exact ⟨number, le_refl _, isNumber, fun _ => rfl⟩

theorem Numbered.forget : Numbered saves entry none := by
  rcases numbered with ⟨number, bound, isNumber, _⟩
  exact ⟨number, bound, isNumber, nofun⟩

end

theorem Numbered.value_eq {entry held : SaveDNSCacheEntry}
    (numbered : Numbered saves entry (some held)) (few : saves < 2 ^ 64)
    (equal : entry.sequence = held.sequence) : held.toDNSCacheValue = entry.toDNSCacheValue := by
  rcases numbered with ⟨number, bound, isNumber, earlier⟩
  rcases earlier held rfl with ⟨other, otherBound, isOther, same⟩
  apply same
  rw [isNumber, isOther] at equal
  have numbers := congrArg BitVec.toNat equal
  rw [toNat_ofNat, toNat_ofNat, mod_eq_of_lt (by omega),
    mod_eq_of_lt (by omega)] at numbers
  exact numbers.symm

/-! ## One step -/

variable {key : SaveCacheKey} {action : SaveAction}

/-- A step that does not touch a key leaves it settled. -/
theorem KeySettled.frame (settled : KeySettled cacheID actions state key)
    (queue : after.saveDNSCache key = state.saveDNSCache key)
    (flushers : ∀ running, FlushedBy state.flushers key running →
      FlushedBy after.flushers key running)
    (database : loadDatabase cacheID after.db key = loadDatabase cacheID state.db key)
    (saved : lastSaved (actions ++ [action]) key = lastSaved actions key) :
    KeySettled cacheID (actions ++ [action]) after key := by
  have more : actions.countP SaveAction.isSave ≤
      (actions ++ [action]).countP SaveAction.isSave := by
    rw [countP_append]
    exact le_add_right _ _
  cases settled with
  | idle notQueued noFlusher durable =>
    exact .idle (queue.trans notQueued) (flushers _ noFlusher) (by rw [database, saved, durable])
  | busy entry id point isQueued saving isFlusher current numbered flushed =>
    refine .busy entry id point (queue.trans isQueued) saving (flushers _ isFlusher)
      (saved.trans current) (numbered.mono more) ?_
    rw [database]
    exact flushed

theorem FlushedBy.update_other {running : Option (Nat × FlushPoint)}
    (flushedBy : FlushedBy flushers key running) (notOld : ∀ point, flushers id ≠ some ⟨key, point⟩)
    (notNew : ∀ point, new ≠ some ⟨key, point⟩) :
    FlushedBy (update flushers id new) key running := by
  intro position point
  by_cases same : position = id
  · rw [same, update_self, ← flushedBy]
    exact iff_of_false (notNew point) (notOld point)
  · rw [update_of_ne same, flushedBy]

theorem FlushedBy.update_own
    (single : ∀ other point, flushers other = some ⟨key, point⟩ → other = id)
    (new : Option FlushPoint) :
    FlushedBy (update flushers id (new.map (⟨key, ·⟩))) key (new.map (id, ·)) := by
  intro position point
  by_cases same : position = id
  · rw [same, update_self]
    cases new <;> simp
  · rw [update_of_ne same]
    refine iff_of_false (fun isFlusher => same (single position point isFlusher)) ?_
    cases new <;> simp [Ne.symm same]

theorem FlushedBy.single {point : FlushPoint}
    (flushedBy : FlushedBy flushers key (some (id, point))) (other : Nat) (otherPoint : FlushPoint)
    (isFlusher : flushers other = some ⟨key, otherPoint⟩) : other = id := by
  cases (flushedBy other otherPoint).mp isFlusher
  rfl

section

variable (settled : Settled cacheID actions state)
include settled

variable {id : Nat} {point : FlushPoint} {failed : Bool}

theorem Settled.busy_of_flusher {P : Prop}
    (isFlusher : state.flushers id = some ⟨key, point⟩)
    (busy : ∀ entry, state.saveDNSCache key = some entry → entry.saving = true →
      (∀ other point, state.flushers other = some ⟨key, point⟩ → other = id) →
      lastSaved actions key = some entry.toDNSCacheValue →
      Numbered (actions.countP SaveAction.isSave) entry point.snapshot →
      (∀ held failed, point = .relock held failed →
        failed = false ∧ loadDatabase cacheID state.db key = some held.truncate) → P) :
    P := by
  cases settled.keys key with
  | idle _ noFlusher => cases (noFlusher id _).mp isFlusher
  | busy entry _ _ isQueued saving isOther current numbered flushed =>
    cases (isOther id _).mp isFlusher
    exact busy entry isQueued saving isOther.single current numbered flushed

theorem Settled.saveAsync (notClearing : state.clearing = 0) (key : SaveCacheKey)
    (value : DNSCacheValue) :
    Settled cacheID (actions ++ [.saveAsync key value]) (state.saveAsync key value) := by
  have count : (actions ++ [SaveAction.saveAsync key value]).countP SaveAction.isSave =
      actions.countP SaveAction.isSave + 1 := by
    simp [SaveAction.isSave]
  have saved : lastSaved (actions ++ [.saveAsync key value]) key = some value := by
    simp [recordAction]
  have savedOther : ∀ other, other ≠ key →
      lastSaved (actions ++ [.saveAsync key value]) other = lastSaved actions other := by
    intro other different
    simp [recordAction, different]
  have spawnedNone := settled.fresh state.spawned (le_refl _)
  cases settled.keys key with
  | idle notQueued noFlusher durable =>
    have isAfter : state.saveAsync key value =
        { state with
          saveDNSCache := update state.saveDNSCache key
            (some (SaveState.queuedEntry none value))
          flushers := update state.flushers state.spawned (some ⟨key, .read⟩)
          spawned := state.spawned + 1 } := by
      simp [SaveState.saveAsync, notQueued, SaveState.startsFlush]
    rw [isAfter]
    refine ⟨fun other => ?_, fun id large => ?_, fun notZero => absurd notClearing notZero⟩
    · by_cases same : other = key
      · subst same
        refine .busy _ state.spawned .read (update_self ..) rfl (.update_own ?_ (some .read))
          saved ?_ ?_
        · intro id point isFlusher
          cases (noFlusher id point).mp isFlusher
        · rw [count]
          exact ⟨1, by omega, rfl, nofun⟩
        · nofun
      · refine (settled.keys other).frame (update_of_ne same ..) (fun _ flushedBy => ?_) rfl
          (savedOther other same)
        exact flushedBy.update_other (by simp [spawnedNone]) (by simp [Ne.symm same])
    · change update state.flushers state.spawned (some ⟨key, .read⟩) id = none
      change state.spawned + 1 ≤ id at large
      rw [update_of_ne (by omega)]
      exact settled.fresh id (by omega)
  | busy entry id point isQueued saving isFlusher _ numbered flushed =>
    have isAfter : state.saveAsync key value =
        { state with
          saveDNSCache := update state.saveDNSCache key
            (some (SaveState.queuedEntry (some entry) value)) } := by
      simp [SaveState.saveAsync, isQueued, SaveState.startsFlush, saving]
    rw [isAfter]
    refine ⟨fun other => ?_, settled.fresh, settled.quiet⟩
    by_cases same : other = key
    · subst same
      refine .busy _ id point (update_self ..) rfl isFlusher saved ?_ flushed
      rw [count]
      exact numbered.queuedEntry value
    · exact (settled.keys other).frame (update_of_ne same ..) (fun _ same => same) rfl
        (savedOther other same)

theorem Settled.flusherStep (new : Option FlushPoint)
    (isFlusher : state.flushers id = some ⟨key, point⟩) (flushers : after.flushers =
      update state.flushers id (new.map fun point => ⟨key, point⟩))
    (spawned : after.spawned = state.spawned) (clearing : after.clearing = state.clearing)
    (queue : ∀ other, other ≠ key → after.saveDNSCache other = state.saveDNSCache other)
    (database : ∀ other, other ≠ key →
      loadDatabase cacheID after.db other = loadDatabase cacheID state.db other)
    (saved : lastSaved (actions ++ [action]) = lastSaved actions)
    (own : KeySettled cacheID (actions ++ [action]) after key) :
    Settled cacheID (actions ++ [action]) after := by
  refine ⟨fun other => ?_, fun other large => ?_, fun notZero => ?_⟩
  · by_cases same : other = key
    · rw [same]
      exact own
    refine (settled.keys other).frame (queue other same) (fun _ flushedBy => ?_)
      (database other same) (congrFun saved other)
    rw [flushers]
    exact flushedBy.update_other (by simp [isFlusher, Ne.symm same])
      (by cases new <;> simp [Ne.symm same])
  · rw [spawned] at large
    have isNone := settled.fresh other large
    have different : other ≠ id := by
      intro same
      rw [same, isFlusher] at isNone
      cases isNone
    rw [flushers, update_of_ne different]
    exact isNone
  · rw [clearing] at notZero
    rw [settled.quiet notZero id] at isFlusher
    cases isFlusher

theorem Settled.read (isFlusher : state.flushers id = some ⟨key, .read⟩) :
    Settled cacheID (actions ++ [.read id])
      (state.moveTo id ((state.saveDNSCache key).map fun entry => ⟨key, .save entry⟩)) := by
  have saved : lastSaved (actions ++ [.read id]) = lastSaved actions := lastSaved_snoc ..
  refine settled.busy_of_flusher isFlusher ?_
  intro entry isQueued saving single current numbered _
  refine settled.flusherStep (some (.save entry)) isFlusher ?_ rfl rfl
    (fun _ _ => rfl) (fun _ _ => rfl) saved ?_
  · rw [isQueued]
    rfl
  · rw [isQueued]
    refine .busy entry id (.save entry) isQueued saving (.update_own single (some _))
      ((congrFun saved key).trans current) ?_ ?_
    · rw [countP_append]
      exact numbered.read
    · nofun

theorem Settled.save {result : Database × Bool} {diskError : Bool}
    (isFlusher : state.flushers id = some ⟨key, .save entry⟩) (succeeded : result.2 = true)
    (database : ∀ other, loadDatabase cacheID result.1 other =
      if other = key then some entry.truncate else loadDatabase cacheID state.db other) :
    Settled cacheID (actions ++ [.save id diskError])
      { state.moveTo id (some ⟨key, .relock entry (!result.2)⟩) with
        db := result.1
        saveFailed := state.saveFailed || !result.2 } := by
  have saved : lastSaved (actions ++ [.save id diskError]) = lastSaved actions :=
    lastSaved_snoc ..
  refine settled.busy_of_flusher isFlusher ?_
  intro last isQueued saving single current numbered _
  refine settled.flusherStep (some (.relock entry (!result.2))) isFlusher rfl rfl rfl
    (fun _ _ => rfl) ?_ saved ?_
  · intro _ different
    rw [database, if_neg different]
  · refine .busy last id (.relock entry (!result.2)) isQueued saving (.update_own single (some _))
      ((congrFun saved key).trans current) ?_ ?_
    · rw [countP_append]
      exact numbered
    · rintro _ _ ⟨⟩
      rw [database, if_pos rfl, succeeded]
      exact ⟨rfl, rfl⟩

theorem Settled.relock (few : actions.countP SaveAction.isSave < 2 ^ 64)
    (isFlusher : state.flushers id = some ⟨key, .relock entry failed⟩) :
    Settled cacheID (actions ++ [.relock id]) (state.relock id key entry failed) := by
  have saved : lastSaved (actions ++ [.relock id]) = lastSaved actions := lastSaved_snoc ..
  refine settled.busy_of_flusher isFlusher ?_
  intro current isQueued saving single isCurrent numbered flushed
  rcases flushed entry failed rfl with ⟨succeeded, inDatabase⟩
  subst succeeded
  simp only [SaveState.relock, isQueued]
  by_cases same : current.sequence = entry.sequence
  · rw [if_neg (not_not.mpr same)]
    refine settled.flusherStep none isFlusher rfl rfl rfl ?_ (fun _ _ => rfl) saved ?_
    · intro other different
      exact update_of_ne different ..
    · refine .idle (update_self ..) (.update_own single none) ?_
      rw [saved, isCurrent, Option.map_some, ← numbered.value_eq few same]
      exact inDatabase
  · rw [if_pos same]
    refine settled.flusherStep (some .read) isFlusher rfl rfl rfl (fun _ _ => rfl)
      (fun _ _ => rfl) saved ?_
    refine .busy current id .read isQueued saving (.update_own single (some .read))
      ((congrFun saved key).trans isCurrent) ?_ ?_
    · rw [countP_append]
      exact numbered.forget
    · nofun

section

variable (noFlusher : ∀ id, state.flushers id = none)
include noFlusher

theorem Settled.idle_of_no_flusher (key : SaveCacheKey) :
    FlushedBy state.flushers key none ∧ state.saveDNSCache key = none ∧
      loadDatabase cacheID state.db key =
        (lastSaved actions key).map DNSCacheValue.truncate := by
  cases settled.keys key with
  | idle notQueued flushedBy durable => exact ⟨flushedBy, notQueued, durable⟩
  | busy _ _ _ _ _ isFlusher => cases (noFlusher _).symm.trans ((isFlusher _ _).mpr rfl)

theorem Settled.clearPending :
    Settled cacheID (actions ++ [.clearPending])
      { state with saveDNSCache := fun _ => none, clearing := state.clearing + 1 } := by
  refine ⟨fun key => ?_, settled.fresh, fun _ => noFlusher⟩
  rcases settled.idle_of_no_flusher noFlusher key with ⟨flushedBy, _, durable⟩
  exact .idle rfl flushedBy (by rwa [lastSaved_snoc])

end

theorem Settled.clearDatabase (isClearing : state.clearing ≠ 0) (diskError : Bool) :
    Settled cacheID (actions ++ [.clearDatabase diskError])
      { state with
        db := if diskError then state.db else (batch (CacheFile.clearDatabase cacheID) state.db).1
        clearing := state.clearing - 1 } := by
  have noFlusher := settled.quiet isClearing
  refine ⟨fun key => ?_, settled.fresh, fun _ => noFlusher⟩
  rcases settled.idle_of_no_flusher noFlusher key with ⟨flushedBy, notQueued, durable⟩
  refine .idle notQueued flushedBy ?_
  rw [lastSaved_snoc]
  cases diskError with
  | true => exact durable
  | false => exact loadDatabase_of_cleared cacheID state.db key

end

/-! ## Whole runs -/

variable {db : Database} {diskError : Bool} {result : Database × Bool} {value : DNSCacheValue}
  {action : SaveAction}

section

variable
  (isResult :
    (if diskError then (db, false) else batch (CacheFile.saveDNSCache cacheID key value) db) =
      result)
include isResult

theorem loadDatabase_of_flush (succeeded : result.2 = true) (other : SaveCacheKey) :
    loadDatabase cacheID result.1 other =
      if other = key then some value.truncate else loadDatabase cacheID db other := by
  subst isResult
  cases diskError with
  | true => cases succeeded
  | false =>
    cases ran : CacheFile.saveDNSCache cacheID key value db with
    | error => simp [batch_of_error ran] at succeeded
    | ok =>
      simp only [false_eq_true, batch_of_ok ran]
      exact loadDatabase_of_saved ran other

theorem database_of_failed_flush (failed : result.2 = false) : result.1 = db := by
  subst isResult
  cases diskError with
  | true => rfl
  | false =>
    cases ran : CacheFile.saveDNSCache cacheID key value db with
    | error => simp [batch_of_error ran]
    | ok => simp [batch_of_ok ran] at failed

end

theorem saveFailed_of_next (isStep : state.next cacheID action = some after)
    (succeeded : after.saveFailed = false) : state.saveFailed = false := by
  cases action <;> simp only [SaveState.next] at isStep
  case saveAsync key value =>
    cases isStep
    rw [← succeeded, SaveState.saveAsync]
    split <;> rfl
  case save id diskError =>
    split at isStep <;> cases isStep
    exact (or_eq_false_iff.mp succeeded).1
  case relock id =>
    split at isStep <;> cases isStep
    rw [← succeeded, SaveState.relock.eq_def]
    repeat' split
    all_goals rfl
  case clearPending =>
    cases isStep
    exact succeeded
  all_goals
    split at isStep <;> cases isStep
    exact succeeded

theorem Settled.step (settled : Settled cacheID actions state)
    (few : actions.countP SaveAction.isSave < 2 ^ 64) (isStep : CalmStep cacheID state action after)
    (succeeded : after.saveFailed = false) : Settled cacheID (actions ++ [action]) after := by
  rcases isStep with ⟨isStep, calm⟩
  cases action <;> simp only [SaveState.next] at isStep
  case saveAsync key value =>
    cases isStep
    exact settled.saveAsync calm key value
  case read id =>
    split at isStep
    next key isFlusher =>
      cases isStep
      exact settled.read isFlusher
    next => cases isStep
  case save id diskError =>
    split at isStep
    next key entry isFlusher =>
      cases isStep
      have committed := (not_eq_false' _).mp (or_eq_false_iff.mp succeeded).2
      exact settled.save isFlusher committed (loadDatabase_of_flush rfl committed)
    next => cases isStep
  case relock id =>
    split at isStep
    next isFlusher =>
      cases isStep
      exact settled.relock few isFlusher
    next => cases isStep
  case clearPending =>
    cases isStep
    exact settled.clearPending calm
  case clearDatabase diskError =>
    split at isStep
    next => cases isStep
    next isClearing =>
      cases isStep
      exact settled.clearDatabase isClearing diskError

/-- In every run whose clears find no flusher running, and in which nothing is
queued while a clear is under way, a load finds the last save queued after the
last completed clear, and nothing if there was none. -/
theorem calm_saves_linearizable (run : Run (CalmStep cacheID) .initial actions state)
    (few : actions.countP SaveAction.isSave < 2 ^ 64) (succeeded : state.saveFailed = false)
    (key : SaveCacheKey) :
    (state.loadDNSCache cacheID key).map DNSCacheValue.truncate =
      (lastSaved actions key).map DNSCacheValue.truncate := by
  have settled := run.invariant
    (fun actions state => actions.countP SaveAction.isSave < 2 ^ 64 →
      state.saveFailed = false → Settled cacheID actions state)
    (fun _ _ => settled_initial)
    (fun {actions state action after} induction isStep few succeeded => by
      have fewer : actions.countP SaveAction.isSave < 2 ^ 64 := by
        rw [countP_append] at few
        omega
      have before := induction fewer (saveFailed_of_next isStep.1 succeeded)
      exact before.step fewer isStep succeeded)
  exact (settled few succeeded).loadDNSCache key

def sampleKey : SaveCacheKey where
  transportName := [1]
  questionName := [2]
  qType := 1

def sampleValue (message : Bytes) : DNSCacheValue where
  rawMessage := message
  expireAt := ⟨0, 0⟩

def calmActions : List SaveAction :=
  [.saveAsync sampleKey (sampleValue [3]), .read 0, .save 0 false, .relock 0, .clearPending,
    .clearDatabase false, .saveAsync sampleKey (sampleValue [4])]

private theorem extend_calm (run : Run (CalmStep cacheID) .initial actions state)
    (action : SaveAction) (isStep : state.next cacheID action = some after)
    (calm : Calm state action) : Run (CalmStep cacheID) .initial (actions ++ [action]) after :=
  run.extend ⟨isStep, calm⟩

theorem calmActions_run : ∃ state, Run (CalmStep none) .initial calmActions state ∧
    state.saveFailed = false := by
  have begun : Run (CalmStep none) .initial [] .initial := .start
  have saved := extend_calm begun (.saveAsync sampleKey (sampleValue [3])) rfl rfl
  have read := extend_calm saved (.read 0) rfl trivial
  have flushed := extend_calm read (.save 0 false) rfl trivial
  have relocked := extend_calm flushed (.relock 0) rfl trivial
  have emptied := extend_calm relocked .clearPending rfl (fun id => by cases id <;> rfl)
  have cleared := extend_calm emptied (.clearDatabase false) rfl trivial
  exact ⟨_, extend_calm cleared (.saveAsync sampleKey (sampleValue [4])) rfl rfl, rfl⟩

theorem calm_saves_linearizable_sample :
    ∃ state, Run (CalmStep none) .initial calmActions state ∧
      (state.loadDNSCache none sampleKey).map DNSCacheValue.truncate =
        some (sampleValue [4]) := by
  rcases calmActions_run with ⟨state, run, succeeded⟩
  exact ⟨state, run, calm_saves_linearizable run (by decide) succeeded sampleKey⟩

/-- A flusher that is saving while the cache is cleared writes the old value
back; one that has saved before takes the value queued after the clear away. -/
theorem clear_during_flush_not_linearizable :
    (∃ actions state,
      Run (fun state action after => SaveState.next none state action = some after) .initial
        actions state ∧
      (∀ id, state.flushers id = none) ∧ state.saveFailed = false ∧ state.clearing = 0 ∧
      lastSaved actions sampleKey = none ∧
      state.loadDNSCache none sampleKey = some (sampleValue [3])) ∧
    (∃ actions state,
      Run (fun state action after => SaveState.next none state action = some after) .initial
        actions state ∧
      (∀ id, state.flushers id = none) ∧ state.saveFailed = false ∧ state.clearing = 0 ∧
      lastSaved actions sampleKey = some (sampleValue [4]) ∧
      state.loadDNSCache none sampleKey = none) := by
  constructor
  · refine ⟨[.saveAsync sampleKey (sampleValue [3]), .read 0, .clearPending,
      .clearDatabase false, .save 0 false, .relock 0], _, Run.of_execute rfl, ?_, rfl, rfl, rfl,
      by decide⟩
    intro id
    cases id with
    | zero | succ id => rfl
  · refine ⟨[.saveAsync sampleKey (sampleValue [3]), .read 0, .save 0 false, .clearPending,
      .clearDatabase false, .saveAsync sampleKey (sampleValue [4]), .relock 0, .read 1], _,
      Run.of_execute rfl, ?_, rfl, rfl, rfl, by decide⟩
    intro id
    match id with
    | 0 => rfl
    | 1 => rfl
    | id + 2 => rfl

end SingBox.CacheFile
