import SingBox.Transport.MuxCustody

/-! # Queries are completed once

Calls and registrations are in custody: each lies with one goroutine, in one
entry of `queries`, or in the record of what was completed. This holds as long
as no id is handed out again while a write for an earlier query with this id
has not returned, or has failed and `take` has not been called.
-/

namespace SingBox.Transport

open List Function Multiplexer Option Nat

variable {Conn : Type} {actions : List (MuxAction Conn)} {options : MultiplexerOptions}
  {action : MuxAction Conn}

inductive MuxPlace
  | thread (index : Nat)
  | entry (queryId : BitVec 16)
  | record (index : Nat)
  deriving DecidableEq

/-- What lies with the goroutines, in the entries and in a record. -/
def holder (ofPosition : MuxPosition Conn → Option Thing) (ofEntry : PendingQuery Conn → Thing)
    (threads : List (MuxPosition Conn)) (queries : BitVec 16 → Option (PendingQuery Conn))
    (record : List Thing) : MuxPlace → Option Thing
  | .thread index => threads[index]?.bind ofPosition
  | .entry queryId => (queries queryId).map ofEntry
  | .record index => record[index]?

section

variable {Thing : Type} {ofPosition : MuxPosition Conn → Option Thing}
  {ofEntry : PendingQuery Conn → Thing}
  {threads started : List (MuxPosition Conn)} {queries : BitVec 16 → Option (PendingQuery Conn)}
  {record : List Thing} {issued issuedAfter : Thing → Prop} {index : Nat}
  {position next : MuxPosition Conn} {thing : Thing}

theorem holder_empty (place : MuxPlace) :
    holder ofPosition ofEntry [] (fun _ => none) [] place = none := by
  cases place <;> rfl

theorem holder_set (isAt : threads[index]? = some position)
    (areFree : ∀ fresh ∈ started, ofPosition fresh = none) :
    holder ofPosition ofEntry (threads.set index next ++ started) queries record =
      update (holder ofPosition ofEntry threads queries record) (.thread index)
        (ofPosition next) := by
  have isWithin := index_lt isAt
  funext place
  rcases place with other | queryId | other
  · simp only [holder, update_apply, MuxPlace.thread.injEq, getElem?_append, length_set]
    split
    · next isThread =>
      by_cases same : other = index
      · simp [same, isWithin]
      · rw [getElem?_set_ne (Ne.symm same), if_neg same]
    · next notThread =>
      rw [if_neg (by omega), getElem?_eq_none (Nat.le_of_not_lt notThread)]
      cases isStarted : started[other - threads.length]? with
      | none => rfl
      | some fresh => exact areFree fresh (mem_of_getElem? isStarted)
  · rfl
  · rfl

theorem holder_concat (fresh : MuxPosition Conn) :
    holder ofPosition ofEntry (threads ++ [fresh]) queries record =
      update (holder ofPosition ofEntry threads queries record) (.thread threads.length)
        (ofPosition fresh) := by
  funext place
  rcases place with other | queryId | other
  · grind [holder]
  · rfl
  · rfl

theorem holder_update (entry : Option (PendingQuery Conn)) (queryId : BitVec 16) :
    holder ofPosition ofEntry threads (update queries queryId entry) record =
      update (holder ofPosition ofEntry threads queries record) (.entry queryId)
        (entry.map ofEntry) := by
  funext place
  rcases place with other | other | _
  · rfl
  · simp only [holder, update_apply, MuxPlace.entry.injEq, apply_ite (Option.map ofEntry)]
  · rfl

theorem holder_record (thing : Thing) :
    holder ofPosition ofEntry threads queries (record ++ [thing]) =
      update (holder ofPosition ofEntry threads queries record) (.record record.length)
        (some thing) := by
  funext place
  rcases place with other | other | other
  · rfl
  · rfl
  · grind [holder]

variable {fresh : MuxPosition Conn} {pending : PendingQuery Conn} {queryId : BitVec 16}

section

variable (custody : Custody (holder ofPosition ofEntry threads queries record) issued)
include custody

theorem custody_start (isFree : ofPosition fresh = none) :
    Custody (holder ofPosition ofEntry (threads ++ [fresh]) queries record) issued := by
  rw [holder_concat, isFree, update_eq_self_iff.mpr (by simp [holder])]
  exact custody

theorem custody_begin (isHeld : ofPosition fresh = some thing) (isNew : ¬issued thing)
    (isIssued : ∀ found, issuedAfter found ↔ issued found ∨ found = thing) :
    Custody (holder ofPosition ofEntry (threads ++ [fresh]) queries record) issuedAfter := by
  rw [holder_concat, isHeld]
  exact custody.issue isNew (by simp [holder]) isIssued

end

variable (isAt : threads[index]? = some position)
  (areFree : ∀ fresh ∈ started, ofPosition fresh = none)
  (custody : Custody (holder ofPosition ofEntry threads queries record) issued)
include isAt areFree custody

theorem custody_keep (same : ofPosition next = ofPosition position) :
    Custody
      (holder ofPosition ofEntry (threads.set index next ++ started) queries record) issued := by
  rw [holder_set isAt areFree, update_eq_self_iff.mpr (by simp [holder, isAt, same])]
  exact custody

theorem custody_leave (wasHeld : queries queryId = some pending)
    (wasFree : ofPosition position = none) (isHeld : ofPosition next = some (ofEntry pending)) :
    Custody
      (holder ofPosition ofEntry (threads.set index next ++ started)
        (update queries queryId none) record) issued := by
  rw [holder_set isAt areFree, holder_update, isHeld]
  exact custody.move (by simp [holder, wasHeld]) (by simp [holder, isAt, wasFree])

theorem custody_settle (wasHeld : ofPosition position = some thing)
    (isFree : ofPosition next = none) :
    Custody
      (holder ofPosition ofEntry (threads.set index next ++ started) queries (record ++ [thing]))
      issued := by
  rw [holder_record, holder_set isAt areFree, isFree]
  exact custody.move (by simp [holder, isAt, wasHeld]) (by simp [holder])

end

/-! ## Whole runs -/

namespace Multiplexer

variable (mux : Multiplexer Conn)

/-- Where each call is: with a goroutine, in an entry, or answered. -/
def callAt : MuxPlace → Option Nat :=
  holder MuxPosition.call PendingQuery.call mux.threads mux.books.queries mux.books.answers

/-- Where each registration is: in an entry, with the goroutine that has removed
it, or answered or dispatched again. -/
def registrationAt : MuxPlace → Option Nat :=
  holder MuxPosition.registration PendingQuery.registration mux.threads mux.books.queries
    mux.books.fates

structure Exact (mux : Multiplexer Conn) : Prop where
  calls : Custody mux.callAt (· < mux.books.calls)
  registrations : Custody mux.registrationAt (· < mux.books.registrations)
  owned : ∀ position ∈ mux.threads, position.Owned
  guards : ∀ position ∈ mux.threads, mux.Guards position

/-- No id is handed out while a goroutine is in a write for an earlier query
with this id, or after it and before `take`. -/
def SparesWriters : MuxAction Conn → Prop
  | .step thread _ => ∀ attempt conn connCtx created,
      mux.threads[thread]? = some (.register attempt conn connCtx created) →
      ∀ position ∈ mux.threads, ∀ round, position.writer = some round →
        mux.freeQueryId ≠ some round.queryId
  | _ => True

namespace Exact

variable {mux after : Multiplexer Conn}

theorem start : ({} : Multiplexer Conn).Exact where
  calls := .empty holder_empty fun _ => not_lt_zero _
  registrations := .empty holder_empty fun _ => not_lt_zero _
  owned := by simp
  guards := by simp

variable {outcome : Outcome Conn} {position : MuxPosition Conn} {thread : Nat}

section

variable (isExact : mux.Exact) (isAt : mux.threads[thread]? = some position)
  (passesOn : mux.PassesOn position outcome)
include isExact isAt passesOn

theorem step_calls :
    Custody
      (holder MuxPosition.call PendingQuery.call
        (mux.threads.set thread outcome.position ++ outcome.started) outcome.mux.books.queries
        outcome.mux.books.answers) (· < outcome.mux.books.calls) := by
  have areFree : ∀ fresh ∈ outcome.started, fresh.call = none :=
    fun fresh member => (passesOn.started fresh member).1
  have custody := isExact.calls
  cases passesOn.passes with
  | keep same sameCall | redispatch registration same sameCall =>
    rw [same]
    exact custody_keep isAt areFree custody sameCall
  | register queryId pending wasFree _ same isCall _ isFree =>
    rw [same, holder_update, holder_set isAt areFree, isFree]
    apply custody.move
    · simp [callAt, holder, isAt, isCall]
    · simp [callAt, holder, wasFree]
  | take _ _ isPending same wasFree _ isCall =>
    rw [same]
    exact custody_leave isAt areFree custody isPending wasFree isCall
  | answer _ _ same isCall _ isFree =>
    rw [same]
    exact custody_settle isAt areFree custody isCall isFree

theorem step_registrations :
    Custody
      (holder MuxPosition.registration PendingQuery.registration
        (mux.threads.set thread outcome.position ++ outcome.started) outcome.mux.books.queries
        outcome.mux.books.fates) (· < outcome.mux.books.registrations) := by
  have areFree : ∀ fresh ∈ outcome.started, fresh.registration = none :=
    fun fresh member => (passesOn.started fresh member).2.1
  have custody := isExact.registrations
  cases passesOn.passes with
  | keep same _ sameRegistration =>
    rw [same]
    exact custody_keep isAt areFree custody sameRegistration
  | register queryId pending wasFree isNew same _ wasNone _ isNone =>
    have kept := custody_keep isAt areFree custody (isNone.trans wasNone.symm)
    rw [same, holder_update]
    apply kept.issue
    · rw [isNew]
      exact lt_irrefl _
    · simp [holder, wasFree]
    · intro _
      rw [isNew]
      exact Nat.lt_succ_iff_lt_or_eq
  | take _ _ isPending same _ wasFree _ isRegistration =>
    rw [same]
    exact custody_leave isAt areFree custody isPending wasFree isRegistration
  | answer _ registration same _ isRegistration _ isFree =>
    rw [same]
    cases registration with
    | none =>
      simp only [toList_none, append_nil]
      exact custody_keep isAt areFree custody (isFree.trans isRegistration.symm)
    | some registration => exact custody_settle isAt areFree custody isRegistration isFree
  | redispatch _ same _ wasHeld isFree =>
    rw [same]
    exact custody_settle isAt areFree custody wasHeld isFree

end

theorem start_thread (fresh : MuxPosition Conn) (isExact : mux.Exact) (isOwned : fresh.Owned)
    (isFree : fresh.writer = none) :
    (∀ position ∈ mux.threads ++ [fresh], position.Owned) ∧
      ∀ position ∈ mux.threads ++ [fresh], mux.Guards position := by
  simp only [forall_mem_append, forall_mem_singleton]
  exact ⟨⟨isExact.owned, isOwned⟩, isExact.guards, .of_none isFree⟩

variable [DecidableEq Conn] {options : MultiplexerOptions}

theorem step (isExact : mux.Exact) {input : MuxInput}
    (spares : mux.SparesWriters (.step thread input))
    (isNext : mux.next options (.step thread input) = some after) : after.Exact := by
  rcases step_cases isNext with ⟨position, _, isAt, isOutcome, rfl⟩
  have isMember := mem_of_getElem? isAt
  have isOwned := isExact.owned position isMember
  have passesOn := step_passes isOwned isOutcome
  have owned := step_owned isOwned (isExact.guards position isMember) isOutcome
  refine ⟨isExact.step_calls isAt passesOn, isExact.step_registrations isAt passesOn, ?_, ?_⟩
  · intro next member
    rcases mem_set_append_cases member with member | rfl | isStarted
    · exact isExact.owned next member
    · exact owned.1
    · exact (passesOn.started next isStarted).2.2.2
  · intro next member
    rcases mem_set_append_cases member with member | rfl | isStarted
    · intro round pending isWriter isPending
      -- The id of a write can have a new entry only if `register` handed it out.
      rcases step_queries isOutcome isPending with
        wasPending | ⟨attempt, conn, connCtx, created, rfl, isFree, -⟩
      · exact isExact.guards next member round pending isWriter wasPending
      · exact absurd isFree (spares _ _ _ _ isAt next member round isWriter)
    · exact owned.2
    · exact .of_none (passesOn.started next isStarted).2.2.1

theorem next (isExact : mux.Exact) (spares : mux.SparesWriters action)
    (isNext : mux.next options action = some after) : after.Exact := by
  cases action with
  | exchange ctx message =>
    cases isNext
    have threads := start_thread
      (.dispatch { call := mux.calls, ctx := ctx, message := message } true) isExact trivial rfl
    refine ⟨?_, custody_start isExact.registrations rfl, threads.1, threads.2⟩
    exact custody_begin isExact.calls rfl (Nat.lt_irrefl _) fun found => Nat.lt_succ_iff_lt_or_eq
  | step => exact isExact.step spares isNext
  | fire watch =>
    rcases fire_cases isNext with ⟨watch, -, -, -, rfl⟩
    have threads := start_thread
      (.take (.done watch.target watch.registration) watch.queryId) isExact trivial rfl
    exact ⟨custody_start isExact.calls rfl, custody_start isExact.registrations rfl, threads.1,
      threads.2⟩
  | pool =>
    rcases pool_cases isNext with ⟨_, -, rfl⟩
    exact { isExact with }

theorem of_run (run : Run (fun before action after => before.next options action = some after ∧
      before.SparesWriters action) {} actions mux) : mux.Exact :=
  run.preserves start fun isExact isNext => isExact.next isNext.2 isNext.1

end Exact

end Multiplexer

theorem queries_completed_once [DecidableEq Conn] {options : MultiplexerOptions}
    {actions : List (MuxAction Conn)} {mux : Multiplexer Conn}
    (run : Run (fun before action after => before.next options action = some after ∧
      before.SparesWriters action) {} actions mux) :
    (mux.answers.map Prod.fst).Nodup ∧
      (∀ registration < mux.registrations, ∃! place, mux.registrationAt place = some registration) ∧
      ∀ queryId other pending same, mux.queries queryId = some pending →
        mux.queries other = some same → pending.registration = same.registration →
        queryId = other := by
  have isExact := Multiplexer.Exact.of_run run
  refine ⟨?_, fun registration isKnown => isExact.registrations.existsUnique isKnown, ?_⟩
  · rw [nodup_iff_getElem?_ne_getElem?]
    intro first second isEarlier isWithin isSame
    have isFirst := getElem?_eq_getElem (lt_trans isEarlier isWithin)
    have samePlace : MuxPlace.record first = .record second :=
      isExact.calls.unique isFirst (isSame.symm.trans isFirst)
    cases samePlace
    exact lt_irrefl _ isEarlier
  · intro queryId other pending same isPending isOther sameRegistration
    have isHeld : mux.registrationAt (.entry queryId) = some pending.registration :=
      congrArg (Option.map PendingQuery.registration) isPending
    have isHeldToo : mux.registrationAt (.entry other) = some same.registration :=
      congrArg (Option.map PendingQuery.registration) isOther
    have samePlace := isExact.registrations.unique isHeld (sameRegistration ▸ isHeldToo)
    cases samePlace
    rfl

/-- The steps that leave `queries` alone, or that happen while nobody writes. -/
def Multiplexer.sparing (mux : Multiplexer Conn) : MuxAction Conn → Bool
  | .step thread _ =>
    (mux.threads.all fun position => position.writer.isNone) ||
      !mux.threads[thread]?.any MuxPosition.touches
  | _ => true

def Multiplexer.sparingNext [DecidableEq Conn] (options : MultiplexerOptions)
    (mux : Multiplexer Conn) (action : MuxAction Conn) : Option (Multiplexer Conn) :=
  if mux.sparing action then mux.next options action else none

theorem Multiplexer.spares_of_sparingNext [DecidableEq Conn] {mux after : Multiplexer Conn}
    (isNext : mux.sparingNext options action = some after) :
    mux.next options action = some after ∧ mux.SparesWriters action := by
  rw [sparingNext] at isNext
  split at isNext
  · next isSparing =>
    refine ⟨isNext, ?_⟩
    cases action with
    | step =>
      intro _ _ _ _ isRegister position member _ isWriter
      rcases (Bool.or_eq_true _ _).mp isSparing with areFree | isUntouched
      · have isFree := all_eq_true.mp areFree position member
        simp [isWriter] at isFree
      · simp [isRegister, MuxPosition.touches] at isUntouched
    | _ => trivial
  · cases isNext

/-- The first query is registered and about to be written. -/
def registeredQuery : List (MuxAction Nat) :=
  [.exchange 0 {}, .step 0 (.reuse false), .step 0 .go, .pool (.step 0 (.alive true)),
    .pool (.step 0 .go), .pool (.step 1 (.dialed (.ok 7) false)), .pool (.step 1 .go),
    .pool (.step 1 .go), .pool (.step 0 .connected), .pool (.step 0 (.alive true)), .step 0 .go,
    .step 0 .go]

/-- A second one is written on the same connection. -/
def secondQuery : List (MuxAction Nat) :=
  registeredQuery ++
    [.step 0 (.written (.ok ())), .exchange 1 {}, .step 2 (.reuse false), .step 2 .go,
      .pool (.step 2 (.alive true)), .step 2 .go, .step 2 .go, .step 2 (.written (.ok ()))]

/-- The reader completes the query with this id. -/
def answeredBy (queryId : BitVec 16) (call : Nat) : List (MuxAction Nat) :=
  [.step 1 (.received (.ok (some { id := queryId }))), .step 1 .go, .step 1 .go, .step 1 .go,
    .step 1 .go, .pool (.step call (.alive true)), .step 1 .go, .step 1 .go]

theorem queries_completed_once_answered :
    ∃ mux : Multiplexer Nat,
      MuxRun ⟨true, false⟩ (secondQuery ++ answeredBy 2 3 ++ answeredBy 1 4) mux ∧
        mux.answers.map Prod.fst = [1, 0] ∧ mux.fates = [(1, .answered), (0, .answered)] ∧
        ∃! place, mux.registrationAt place = some 1 := by
  have run : Run (fun before action after => sparingNext ⟨true, false⟩ before action = some after)
      {} (secondQuery ++ answeredBy 2 3 ++ answeredBy 1 4) _ := Run.of_execute rfl
  have spares := run.mono fun isNext => spares_of_sparingNext isNext
  refine ⟨_, spares.mono fun isNext => isNext.1, rfl, rfl, ?_⟩
  exact (queries_completed_once spares).2.1 1 (lt_succ_self 1)

/-- At any time a call is with one goroutine, in one entry or answered, and
nowhere else. -/
theorem calls_conserved [DecidableEq Conn] {options : MultiplexerOptions}
    {actions : List (MuxAction Conn)} {mux : Multiplexer Conn}
    (run : Run (fun before action after => before.next options action = some after ∧
      before.SparesWriters action) {} actions mux) {call : Nat} (isMade : call < mux.calls) :
    ∃! place, mux.callAt place = some call :=
  (Multiplexer.Exact.of_run run).calls.existsUnique isMade

theorem calls_conserved_pending :
    ∃ mux : Multiplexer Nat, mux.answers.map Prod.fst = [1] ∧ (mux.queries 1).isSome = true ∧
      ∃! place, mux.callAt place = some 0 := by
  have run : Run (fun before action after => sparingNext ⟨true, false⟩ before action = some after)
      {} (secondQuery ++ answeredBy 2 3) _ := Run.of_execute rfl
  have spares := run.mono fun isNext => spares_of_sparingNext isNext
  exact ⟨_, rfl, rfl, calls_conserved spares (zero_lt_succ 1)⟩

/-! ## A run around all ids -/

namespace Multiplexer

variable {mux : Multiplexer Conn} {options : MultiplexerOptions} {outcome : Outcome Conn}
  {position : MuxPosition Conn}

theorem next_last [DecidableEq Conn] (threads : List (MuxPosition Conn))
    (input : MuxInput) (isLast : mux.threads = threads ++ [position])
    (isStep : mux.step options position input = some outcome) (startsNone : outcome.started = []) :
    mux.next options (.step threads.length input) =
      some { outcome.mux with threads := threads ++ [outcome.position] } := by
  have isAt : mux.threads[threads.length]? = some position := by
    rw [isLast]
    simp
  rw [next_step isAt isStep, startsNone, isLast, set_concat, append_nil]

theorem next_pool [DecidableEq Conn] (threads : List (PoolPosition Conn))
    {position : PoolPosition Conn} (input : PoolInput Conn) {outcome : PoolOutcome Conn}
    (isLast : mux.pool.threads = threads ++ [position])
    (isStep : mux.pool.pool.next multiplexerPool position input = some outcome)
    (startsNone : position.started = [])
    (isOutside : (PoolAction.step threads.length input : PoolAction Conn).outside = true) :
    mux.next options (.pool (.step threads.length input)) =
      some
        { mux with
          pool := { pool := outcome.pool, threads := threads ++ [outcome.position] } } := by
  have isAt : mux.pool.threads[threads.length]? = some position := by
    rw [isLast]
    simp
  rw [next, if_pos isOutside, PoolSystem.next_step isAt isStep, PoolSystem.moved, startsNone,
    isLast, set_concat, append_nil]
  rfl

theorem poolResult_last
    {threads : List (PoolPosition Conn)} {result : Except Failure (Option (Acquired Conn))}
    (isLast : mux.pool.threads = threads ++ [.finished result]) :
    mux.poolResult threads.length = some result := by
  rw [poolResult, isLast]
  simp

theorem run_step [DecidableEq Conn] {thread : Nat} (run : MuxRun options actions mux)
    (isAt : mux.threads[thread]? = some position) (input : MuxInput)
    (isStep : mux.step options position input = some outcome) (startsNone : outcome.started = []) :
    ∃ actions threads, MuxRun options actions { outcome.mux with threads := threads } ∧
      threads[thread]? = some outcome.position := by
  have isThread := index_lt isAt
  refine ⟨_, _, run.extend (next_step isAt isStep), ?_⟩
  rw [startsNone, append_nil]
  simp [isThread]

end Multiplexer

def muxOptions : MultiplexerOptions := { retryReadError := false, probeReuse := false }

def firstWrite : Write Nat :=
  { request := { call := 0, ctx := 0, message := {} }, retryReadError := true,
    firstAttempt := true, conn := 7, created := true, queryId := 1, registration := 0 }

/-- After so many more queries than the first, all of them pending. -/
structure Filled (count : Nat) (mux : Multiplexer Nat) : Prop where
  queryId : mux.queryId = BitVec.ofNat 16 (count + 1)
  used : ∀ queryId pending, mux.queries queryId = some pending →
    ∃ earlier, 2 ≤ earlier ∧ earlier ≤ count + 1 ∧ queryId = BitVec.ofNat 16 earlier
  writing : mux.threads[0]? = some (.write firstWrite)
  state : mux.pool.pool.state = some 0
  shared : (mux.pool.pool.states 0).shared = some 7
  claimed : (mux.pool.pool.states 0).sharedClaimed = true
  sharedCtx : (mux.pool.pool.states 0).sharedCtx = some 0
  all : (mux.pool.pool.states 0).all = [7]
  answered : mux.answers.map Prod.fst = [0]

variable {count : Nat} {mux : Multiplexer Nat}

section

variable (isFilled : Filled count mux)
include isFilled

theorem Filled.freeQueryId (isBelow : count < 2 ^ 16) :
    mux.freeQueryId = some (BitVec.ofNat 16 (count + 2)) := by
  have isNext : mux.queryId + 1 = BitVec.ofNat 16 (count + 2) := by
    rw [isFilled.queryId]
    apply BitVec.eq_of_toNat_eq
    simp
  have isFree : mux.queries (BitVec.ofNat 16 (count + 2)) = none := by
    cases isPending : mux.queries (BitVec.ofNat 16 (count + 2)) with
    | none => rfl
    | some pending =>
      rcases isFilled.used _ pending isPending with ⟨earlier, isLate, isEarly, same⟩
      have same := congrArg BitVec.toNat same
      simp only [BitVec.toNat_ofNat] at same
      omega
  have one : (2 ^ 16 : Nat) = 65535 + 1 := rfl
  rw [Multiplexer.freeQueryId, one, nextQueryId]
  simp only [isNext, isFree, isSome_none, Bool.not_false, if_true]

theorem Filled.acquireShared :
    mux.pool.pool.acquireShared multiplexerPool 1 true =
      (mux.pool.pool.claim 0 7).1.goto
        (.finished (.ok (some { conn := 7, connCtx := some 0, created := false }))) := by
  simp [ConnPool.acquireShared, isFilled.state, isFilled.shared, ConnPool.claim, isFilled.sharedCtx,
    isFilled.claimed]

theorem Filled.another {actions : List (MuxAction Nat)} (isBelow : count < 2 ^ 16)
    (run : MuxRun muxOptions actions mux) :
    ∃ actions after, MuxRun muxOptions actions after ∧ Filled (count + 1) after ∧
      (after.queries after.queryId).isSome := by
  let request : Request := { call := mux.calls, ctx := 1, message := {} }
  let attempt : Attempt := { request := request, retryReadError := true, firstAttempt := true }
  have called := run.extend (show mux.next muxOptions (.exchange 1 {}) = some _ from rfl)
  have dispatched := called.extend (next_last mux.threads (.reuse false) rfl rfl rfl)
  have acquiring := dispatched.extend (next_last mux.threads .go rfl rfl rfl)
  have isPoolStep : mux.pool.pool.next multiplexerPool (.shared 1) (.alive true) =
      some (mux.pool.pool.acquireShared multiplexerPool 1 true) := rfl
  rw [isFilled.acquireShared] at isPoolStep
  have claimed := acquiring.extend (next_pool mux.pool.threads (.alive true) rfl isPoolStep rfl rfl)
  have isAcquired : ∀ after : Multiplexer Nat,
      after.pool.threads = mux.pool.threads ++
        [.finished (.ok (some { conn := 7, connCtx := some 0, created := false }))] →
      after.step muxOptions (.acquiring attempt mux.pool.threads.length) .go =
        some (after.goto (.register attempt 7 0 false)) := by
    intro after isLast
    rw [step, poolResult_last isLast]
    rfl
  have acquired := claimed.extend (next_last mux.threads .go rfl (isAcquired _ rfl) rfl)
  have isRegistered : ∀ after : Multiplexer Nat, after.queries = mux.queries →
      after.queryId = mux.queryId →
      after.step muxOptions (.register attempt 7 0 false) .go =
        some
          ((after.insertPending attempt 7 0 false false (BitVec.ofNat 16 (count + 2))).goto (.write
              { toAttempt := attempt, conn := 7, created := false,
                queryId := BitVec.ofNat 16 (count + 2),
                registration := after.registrations })) := by
    intro after sameQueries sameId
    have isFree : after.freeQueryId = some (BitVec.ofNat 16 (count + 2)) := by
      rw [Multiplexer.freeQueryId, sameQueries, sameId]
      exact isFilled.freeQueryId isBelow
    rw [step, register, isFree]
    rfl
  have registered := acquired.extend (next_last mux.threads .go rfl (isRegistered _ rfl rfl) rfl)
  refine ⟨_, _, registered, ⟨rfl, ?_, ?_, isFilled.state, ?_, ?_, ?_, ?_, isFilled.answered⟩, ?_⟩
  · intro queryId pending isPending
    by_cases isNew : queryId = BitVec.ofNat 16 (count + 2)
    · exact ⟨count + 2, by omega, by omega, isNew⟩
    have wasPending : mux.queries queryId = some pending :=
      (update_of_ne isNew _ mux.queries).symm.trans isPending
    rcases isFilled.used queryId pending wasPending with ⟨earlier, isLate, isEarly, isId⟩
    exact ⟨earlier, isLate, by omega, isId⟩
  · have isThread := index_lt isFilled.writing
    exact (getElem?_append_left isThread).trans isFilled.writing
  · exact isFilled.shared
  · rfl
  · exact isFilled.sharedCtx
  · exact isFilled.all
  · exact congrArg isSome (update_self (BitVec.ofNat 16 (count + 2)) _ mux.queries)

end

def canceled : CallerDone := ⟨{ text := "context canceled" }, { text := "context canceled" }⟩

def answeredDuringWrite : List (MuxAction Nat) :=
  registeredQuery ++
    [.pool (.expire 0 canceled), .fire 0, .step 2 .go, .step 2 .go, .step 2 .go, .step 2 .go,
      .pool (.step 2 (.alive true)), .step 2 .go, .step 2 .go]

theorem filled_start : ∃ actions mux, MuxRun muxOptions actions mux ∧ Filled 0 mux := by
  have run : MuxRun muxOptions answeredDuringWrite _ := Run.of_execute rfl
  refine ⟨_, _, run, rfl, ?_, rfl, rfl, rfl, rfl, rfl, rfl, rfl⟩
  intro queryId pending isPending
  by_cases isFirst : queryId = 1
  · subst isFirst
    cases isPending
  have isPending : update (update (fun _ => none) 1 (some _)) 1 none queryId =
      some pending := isPending
  rw [update_of_ne isFirst, update_of_ne isFirst] at isPending
  cases isPending

theorem filled (isBelow : count < 2 ^ 16) :
    ∃ actions mux, MuxRun muxOptions actions mux ∧ Filled (count + 1) mux ∧
      (mux.queries mux.queryId).isSome := by
  induction count with
  | zero =>
    rcases filled_start with ⟨actions, mux, run, isFilled⟩
    exact isFilled.another isBelow run
  | succ count induction =>
    rcases induction (by omega) with ⟨_, _, run, isFilled, -⟩
    exact isFilled.another isBelow run

/-- The first query has been answered when its write fails, and its id belongs to
another query by then: the callback of the first query is called again. -/
theorem callback_called_twice : ∃ (actions : List (MuxAction Nat)) (mux : Multiplexer Nat),
    MuxRun muxOptions actions mux ∧ mux.answers.map Prod.fst = [0, 0] := by
  have isBelow : 65535 < 2 ^ 16 := by decide
  rcases filled isBelow with ⟨_, mux, run, isFilled, isUsed⟩
  rcases isSome_iff_exists.mp isUsed with ⟨pending, isPending⟩
  rw [isFilled.queryId] at isPending
  let err : Failure := { text := "write: broken pipe" }
  let taker : Taker Nat := .writer firstWrite err
  rcases run_step run isFilled.writing (.written (.error err)) rfl rfl with
    ⟨_, threads, run, isAt⟩
  have isTake : ∀ after : Multiplexer Nat, after.queries = mux.queries →
      after.step muxOptions (.take taker 1) .go =
        some ({ after with queries := update after.queries 1 none }.goto
          (.stopContext taker pending)) := by
    intro after same
    have isPending : after.queries 1 = some pending := same ▸ isPending
    rw [step, Multiplexer.take, isPending]
  rcases run_step run isAt .go (isTake _ rfl) rfl with ⟨_, threads, run, isAt⟩
  rcases run_step run isAt .go rfl rfl with ⟨_, threads, run, isAt⟩
  rcases run_step run isAt .go rfl rfl with ⟨_, threads, run, isAt⟩
  rcases run_step run isAt .go rfl rfl with ⟨_, threads, run, isAt⟩
  have isInvalidated : mux.pool.pool.invalidate multiplexerPool 7 err =
      (mux.pool.pool.removeConn multiplexerPool 0 7 err).goto (.close 7 err) := by
    simp [ConnPool.invalidate, isFilled.state, isFilled.all]
  have isPoolStep : mux.pool.pool.next multiplexerPool (.invalidate 7 err) .go =
      some ((mux.pool.pool.removeConn multiplexerPool 0 7 err).goto (.close 7 err)) :=
    congrArg some isInvalidated
  have run := run.extend (next_pool mux.pool.threads .go rfl isPoolStep rfl rfl)
  have run := run.extend (next_pool mux.pool.threads .go rfl rfl rfl rfl)
  have isAwaited : ∀ (after : Multiplexer Nat) (following : MuxPosition Nat),
      after.pool.threads = mux.pool.threads ++ [.finished (.ok none)] →
      after.step muxOptions (.await mux.pool.threads.length following) .go =
        some (after.goto following) := by
    intro _ _ isLast
    rw [step, poolResult_last isLast]
    rfl
  rcases run_step run isAt .go (isAwaited _ _ rfl) rfl with ⟨_, threads, run, isAt⟩
  rcases run_step run isAt .go rfl rfl with ⟨_, _, run, _⟩
  refine ⟨_, _, run, ?_⟩
  have isAnswered :
      ((mux.answers ++ [(0, Except.error (withCause err "write request"))]).map Prod.fst) =
        [0, 0] := by
    rw [map_append, isFilled.answered]
    rfl
  exact isAnswered

end SingBox.Transport
