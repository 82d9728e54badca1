import SingBox.Transport.ConnPool
import SingBox.Dns.Message

/-! # The query multiplexer

`queryMultiplexer` of the DNS transports: many queries share one connection of
a `ConnPool` in single mode and are told apart by a 16-bit id. A step of a
goroutine is a section under `queryAccess`, a call of the options, or a wait for
a method of the pool, whose goroutines run in `pool`. `context.AfterFunc` leaves
a watch, which starts a goroutine of its own once its context is done, unless it
was stopped. Whether `reuseState` says that the server supports reuse is an
input of `dispatch`.
-/

namespace SingBox.Transport

open Dns (Msg)

structure MultiplexerOptions where
  retryReadError : Bool
  probeReuse : Bool
  deriving DecidableEq

/-- `ctx`, `message` and `callback` of a call of `ExchangeAsync`. The callback is
named by the number of the call. -/
structure Request where
  call : Nat
  ctx : Nat
  message : Msg
  deriving DecidableEq

/-- `pendingQuery`, with the number of its registration for its identity. The
stop functions name their watches. -/
structure PendingQuery (Conn : Type) where
  registration : Nat
  conn : Conn
  message : Msg
  readEpoch : BitVec 64
  call : Nat
  stopContext : Nat
  stopConn : Nat
  retryCtx : Option Nat
  deriving DecidableEq

inductive WatchState
  | armed
  | stopped
  | started
  deriving DecidableEq

inductive WatchTarget
  | caller (ctx : Nat)
  | conn (connCtx : Nat)
  deriving DecidableEq

/-- A function left with `context.AfterFunc` by `register`. -/
structure Watch where
  registration : Nat
  queryId : BitVec 16
  target : WatchTarget
  state : WatchState := .armed
  deriving DecidableEq

/-- One round of the loop of `exchangeAsync`. -/
structure Attempt where
  request : Request
  retryReadError : Bool
  firstAttempt : Bool
  deriving DecidableEq

/-- A round that has registered its query. -/
structure Write (Conn : Type) extends Attempt where
  conn : Conn
  created : Bool
  queryId : BitVec 16
  registration : Nat
  deriving DecidableEq

/-- The callers of `take`. A callback carries the registration it was made for. -/
inductive Taker (Conn : Type)
  | writer (write : Write Conn) (err : Failure)
  | reader (conn : Conn) (message : Msg)
  | done (target : WatchTarget) (registration : Nat)
  deriving DecidableEq

inductive MuxPosition (Conn : Type)
  | dispatch (request : Request) (retryReadError : Bool)
  | singleDial (request : Request)
  | singleWrite (request : Request)
  | singleRead (request : Request)
  /-- The head of the loop of `exchangeAsync`. -/
  | acquire (attempt : Attempt)
  | acquiring (attempt : Attempt) (poolThread : Nat)
  | register (attempt : Attempt) (conn : Conn) (connCtx : Nat) (created : Bool)
  | write (write : Write Conn)
  /-- `take`: the section under the lock, then the two stop functions. -/
  | take (taker : Taker Conn) (queryId : BitVec 16)
  | stopContext (taker : Taker Conn) (pending : PendingQuery Conn)
  | stopConn (taker : Taker Conn) (pending : PendingQuery Conn)
  | taken (taker : Taker Conn) (pending : Option (PendingQuery Conn))
  /-- A method of the pool is called, and this follows its return. -/
  | await (poolThread : Nat) (following : MuxPosition Conn)
  /-- The callback is called, for a registration or before there is one; a
  `recvLoop` goes on to read. -/
  | answer (call : Nat) (registration : Option Nat) (result : Except Failure Msg)
      (reading : Option Conn)
  /-- The head of the loop of `recvLoop`. -/
  | read (conn : Conn)
  | finished

inductive MuxInput
  | go
  | reuse (supported : Bool)
  | dialed (result : Except Failure Unit)
  | written (result : Except Failure Unit)
  | received (result : Except Failure (Option Msg))

/-- What became of a registration that was removed. -/
inductive Fate
  | answered
  | redispatched
  deriving DecidableEq

/-- `queryMultiplexer` with all goroutines that have ever run in it. The last
fields record the calls of callbacks, what became of each registration, the ids
registered on each connection, and the connections whose `recvLoop` was started
or has returned. -/
structure Multiplexer (Conn : Type) where
  pool : PoolSystem Conn := {}
  queryId : BitVec 16 := 0
  queries : BitVec 16 → Option (PendingQuery Conn) := fun _ => none
  watches : List Watch := []
  readEpoch : Conn → BitVec 64 := fun _ => 0
  threads : List (MuxPosition Conn) := []
  calls : Nat := 0
  registrations : Nat := 0
  answers : List (Nat × Except Failure Msg) := []
  fates : List (Nat × Fate) := []
  registered : List (Conn × BitVec 16) := []
  readersStarted : List Conn := []
  readersReturned : List Conn := []

def multiplexerPool : ConnPoolOptions := { mode := .single }

/-- `E.Cause` of the library `sing`. -/
def withCause (err : Failure) (message : String) : Failure :=
  { text := message ++ ": " ++ err.text }

def deadlineExceeded : String := "context deadline exceeded"

/-- The loop of `register`, which tries the ids after `queryId`. -/
def nextQueryId (isPending : BitVec 16 → Bool) (start : BitVec 16) :
    Nat → BitVec 16 → Option (BitVec 16)
  | 0, _ => none
  | fuel + 1, queryId =>
    let queryId := queryId + 1
    if !isPending queryId then some queryId
    else if queryId = start then none
    else nextQueryId isPending start fuel queryId

namespace Multiplexer

variable {Conn : Type} [DecidableEq Conn] (options : MultiplexerOptions) (mux : Multiplexer Conn)

/-- The id that `register` hands out next: the counter comes back to its start
after as many steps as there are ids. -/
def freeQueryId : Option (BitVec 16) :=
  nextQueryId (fun queryId => (mux.queries queryId).isSome) mux.queryId (2 ^ 16) mux.queryId

/-- A method of the pool is called; its goroutine has the next number. -/
def callPool (call : PoolCall Conn) : Multiplexer Conn :=
  { mux with pool := mux.pool.call multiplexerPool call }

/-- What a goroutine does after a method of the pool has been called. -/
def awaiting (following : MuxPosition Conn) : MuxPosition Conn :=
  .await mux.pool.threads.length following

def poolResult (poolThread : Nat) : Option (Except Failure (Option (Acquired Conn))) :=
  match mux.pool.threads[poolThread]? with
  | some (.finished result) => some result
  | _ => none

/-- `ctx.Err()`, if it is not nil, or else another error. -/
def callerErr (ctx : Nat) (err : Failure) : Failure :=
  ((mux.pool.pool.contexts ctx).map CallerDone.err).getD err

/-! ## Queries -/

def insertPending (attempt : Attempt) (conn : Conn) (connCtx : Nat) (created : Bool)
    (retry : Bool) (queryId : BitVec 16) : Multiplexer Conn :=
  { mux with
    queryId := queryId
    queries := Function.update mux.queries queryId
      (some
        { registration := mux.registrations
          conn := conn
          message := attempt.request.message
          readEpoch := mux.readEpoch conn
          call := attempt.request.call
          stopContext := mux.watches.length
          stopConn := mux.watches.length + 1
          retryCtx := if retry && !created then some attempt.request.ctx else none })
    watches := mux.watches ++
      [{ registration := mux.registrations, queryId := queryId,
         target := .caller attempt.request.ctx },
       { registration := mux.registrations, queryId := queryId, target := .conn connCtx }]
    registrations := mux.registrations + 1
    registered := mux.registered ++ [(conn, queryId)] }

def stopWatch (watch : Nat) : Multiplexer Conn :=
  { mux with
    watches := mux.watches.modify watch fun watch =>
      if watch.state = .armed then { watch with state := .stopped } else watch }

def settle (registration : Nat) (fate : Fate) : Multiplexer Conn :=
  { mux with fates := mux.fates ++ [(registration, fate)] }

def callback (call : Nat) (registration : Option Nat) (result : Except Failure Msg) :
    Multiplexer Conn :=
  { mux with
    answers := mux.answers ++ [(call, result)]
    fates :=
      mux.fates ++ (registration.map fun registration => (registration, Fate.answered)).toList }

/-! ## A step of a goroutine -/

/-- The multiplexer and the goroutine after a step, with the goroutines that
the step has started. -/
structure Outcome (Conn : Type) where
  mux : Multiplexer Conn
  position : MuxPosition Conn
  started : List (MuxPosition Conn) := []

def goto (position : MuxPosition Conn) : Outcome Conn := { mux := mux, position := position }

def dispatch (request : Request) (retryReadError supported : Bool) : Outcome Conn :=
  if options.probeReuse && !supported then mux.goto (.singleDial request)
  else
    mux.goto (.acquire
      { request := request, retryReadError := retryReadError, firstAttempt := true })

def singleReceived (request : Request) : Except Failure (Option Msg) → Outcome Conn
  | .error err =>
    mux.goto (.answer request.call none
      (.error (mux.callerErr request.ctx (withCause err "read response"))) none)
  | .ok none => mux.goto (.singleRead request)
  | .ok (some response) =>
    mux.goto (.answer request.call none (.ok { response with id := request.message.id }) none)

def acquired (attempt : Attempt) :
    Except Failure (Option (Acquired Conn)) → Option (Outcome Conn)
  | .error err => some (mux.goto (.answer attempt.request.call none (.error err) none))
  | .ok (some ⟨conn, some connCtx, created⟩) =>
    if created then
      some
        { mux := { mux with readersStarted := mux.readersStarted ++ [conn] }
          position := .register attempt conn connCtx created
          started := [.read conn] }
    else some (mux.goto (.register attempt conn connCtx created))
  | _ => none

def register (attempt : Attempt) (conn : Conn) (connCtx : Nat) (created : Bool) : Outcome Conn :=
  match mux.freeQueryId with
  | none =>
    (mux.callPool (.release conn true)).goto
      (mux.awaiting
        (.answer attempt.request.call none (.error { text := "no available query ID" }) none))
  | some queryId =>
    let retry := attempt.retryReadError && options.retryReadError
    (mux.insertPending attempt conn connCtx created retry queryId).goto
      (.write
        { toAttempt := attempt, conn := conn, created := created, queryId := queryId,
          registration := mux.registrations })

def take (taker : Taker Conn) (queryId : BitVec 16) : Outcome Conn :=
  match mux.queries queryId with
  | none => mux.goto (.taken taker none)
  | some pending =>
    { mux with queries := Function.update mux.queries queryId none }.goto
      (.stopContext taker pending)

def writeFailed (write : Write Conn) (err : Failure) (pending : Option (PendingQuery Conn)) :
    Outcome Conn :=
  let after := mux.callPool (.invalidate write.conn err)
  match pending with
  | none => after.goto (mux.awaiting .finished)
  | some _ =>
    if !write.created && write.firstAttempt then
      (after.settle write.registration .redispatched).goto
        (mux.awaiting (.acquire { write.toAttempt with firstAttempt := false }))
    else
      after.goto (mux.awaiting
        (.answer write.request.call (some write.registration)
          (.error (withCause err "write request")) none))

def complete (conn : Conn) (message : Msg) : Option (PendingQuery Conn) → Outcome Conn
  | none => mux.goto (.read conn)
  | some pending =>
    (mux.callPool (.release pending.conn true)).goto
      (mux.awaiting
        (.answer pending.call (some pending.registration)
          (.ok { message with id := pending.message.id }) (some conn)))

def completeContextDone (ctx : Nat) : Option (PendingQuery Conn) → Option (Outcome Conn)
  | none => some (mux.goto .finished)
  | some pending =>
    (mux.pool.pool.contexts ctx).map fun caller =>
      let call : PoolCall Conn :=
        if caller.err.text = deadlineExceeded &&
            mux.readEpoch pending.conn = pending.readEpoch then
          .invalidate pending.conn caller.err
        else .release pending.conn true
      (mux.callPool call).goto
        (mux.awaiting
          (.answer pending.call (some pending.registration) (.error caller.err) none))

def completeConnDone (connCtx : Nat) : Option (PendingQuery Conn) → Option (Outcome Conn)
  | none => some (mux.goto .finished)
  | some pending =>
    (mux.pool.pool.connCause connCtx).map fun connErr =>
      match pending.retryCtx, connErr.ofRead with
      | some retryCtx, true =>
        (mux.settle pending.registration .redispatched).goto
          (.dispatch
            { call := pending.call, ctx := retryCtx, message := pending.message } false)
      | _, _ => mux.goto (.answer pending.call (some pending.registration) (.error connErr) none)

/-- The rest of the function that has called `take`. -/
def takenBy (pending : Option (PendingQuery Conn)) : Taker Conn → Option (Outcome Conn)
  | .writer write err => some (mux.writeFailed write err pending)
  | .reader conn message => some (mux.complete conn message pending)
  | .done (.caller ctx) _ => mux.completeContextDone ctx pending
  | .done (.conn connCtx) _ => mux.completeConnDone connCtx pending

def received (conn : Conn) : Except Failure (Option Msg) → Outcome Conn
  | .error err =>
    let readErr : Failure := { text := err.text, ofRead := true }
    { mux.callPool (.invalidate conn readErr) with
      readersReturned := mux.readersReturned ++ [conn] }.goto (mux.awaiting .finished)
  | .ok message =>
    let after :=
      { mux with readEpoch := Function.update mux.readEpoch conn (mux.readEpoch conn + 1) }
    match message with
    | none => after.goto (.read conn)
    | some message => after.goto (.take (.reader conn message) message.id)

def step : MuxPosition Conn → MuxInput → Option (Outcome Conn)
  | .dispatch request retryReadError, .reuse supported =>
    some (mux.dispatch options request retryReadError supported)
  | .singleDial request, .dialed (.error err) =>
    some (mux.goto (.answer request.call none (.error err) none))
  | .singleDial request, .dialed (.ok ()) => some (mux.goto (.singleWrite request))
  | .singleWrite request, .written (.error err) =>
    some (mux.goto (.answer request.call none
      (.error (mux.callerErr request.ctx (withCause err "write request"))) none))
  | .singleWrite request, .written (.ok ()) => some (mux.goto (.singleRead request))
  | .singleRead request, .received result => some (mux.singleReceived request result)
  | .acquire attempt, .go =>
    some ((mux.callPool (.acquireShared attempt.request.ctx)).goto
      (.acquiring attempt mux.pool.threads.length))
  | .acquiring attempt poolThread, .go => (mux.poolResult poolThread).bind (mux.acquired attempt)
  | .register attempt conn connCtx created, .go =>
    some (mux.register options attempt conn connCtx created)
  | .write _, .written (.ok ()) => some (mux.goto .finished)
  | .write write, .written (.error err) => some (mux.goto (.take (.writer write err) write.queryId))
  | .take taker queryId, .go => some (mux.take taker queryId)
  | .stopContext taker pending, .go =>
    some ((mux.stopWatch pending.stopContext).goto (.stopConn taker pending))
  | .stopConn taker pending, .go =>
    some ((mux.stopWatch pending.stopConn).goto (.taken taker (some pending)))
  | .taken taker pending, .go => mux.takenBy pending taker
  | .await poolThread following, .go => (mux.poolResult poolThread).map fun _ => mux.goto following
  | .answer call registration result reading, .go =>
    some ((mux.callback call registration result).goto (reading.elim .finished .read))
  | .read conn, .received result => some (mux.received conn result)
  | _, _ => none

/-! ## The multiplexer and its goroutines -/

def watchDone : WatchTarget → Bool
  | .caller ctx => (mux.pool.pool.contexts ctx).isSome
  | .conn connCtx => (mux.pool.pool.connCause connCtx).isSome

/-- The context of a watch is done: its function starts in a goroutine. -/
def fire (index : Nat) : Option (Multiplexer Conn) := do
  let watch ← mux.watches[index]?
  if watch.state = .armed ∧ mux.watchDone watch.target then
    some
      { mux with
        watches := mux.watches.set index { watch with state := .started }
        threads := mux.threads ++ [.take (.done watch.target watch.registration) watch.queryId] }
  else none

end Multiplexer

/-- The steps of the pool that happen by themselves or by `Reset` and `Close` of
the multiplexer. `IsAlive` finds every connection alive. -/
def PoolAction.outside : PoolAction Conn → Bool
  | .call .reset => true
  | .call .close => true
  | .call _ => false
  | .step _ (.alive false) => false
  | .step _ _ => true
  | .expire _ _ => true

inductive MuxAction (Conn : Type)
  | exchange (ctx : Nat) (message : Msg)
  | step (thread : Nat) (input : MuxInput)
  | fire (watch : Nat)
  | pool (action : PoolAction Conn)

def Multiplexer.next [DecidableEq Conn] (options : MultiplexerOptions) (mux : Multiplexer Conn) :
    MuxAction Conn → Option (Multiplexer Conn)
  | .exchange ctx message =>
    some
      { mux with
        calls := mux.calls + 1
        threads := mux.threads ++
          [.dispatch { call := mux.calls, ctx := ctx, message := message } true] }
  | .step thread input => do
    let position ← mux.threads[thread]?
    let outcome ← mux.step options position input
    some
      { outcome.mux with
        threads := mux.threads.set thread outcome.position ++ outcome.started }
  | .fire watch => mux.fire watch
  | .pool action =>
    if action.outside then
      (mux.pool.next multiplexerPool action).map fun pool => { mux with pool := pool }
    else none

def MuxRun [DecidableEq Conn] (options : MultiplexerOptions) (actions : List (MuxAction Conn))
    (mux : Multiplexer Conn) : Prop :=
  Run (fun before action after => before.next options action = some after) {} actions mux

variable {after mux : Multiplexer Conn} {input : MuxInput} {options : MultiplexerOptions}
  {thread : Nat}

theorem Multiplexer.step_cases [DecidableEq Conn]
    (isNext : mux.next options (.step thread input) = some after) :
    ∃ position outcome, mux.threads[thread]? = some position ∧
      mux.step options position input = some outcome ∧
      after =
        { outcome.mux with
          threads := mux.threads.set thread outcome.position ++ outcome.started } := by
  rcases Option.bind_eq_some_iff.mp isNext with ⟨position, isAt, isNext⟩
  rcases Option.bind_eq_some_iff.mp isNext with ⟨outcome, isOutcome, isNext⟩
  exact ⟨position, outcome, isAt, isOutcome, (Option.some.inj isNext).symm⟩

theorem Multiplexer.next_step [DecidableEq Conn] {position : MuxPosition Conn}
    {outcome : Outcome Conn} (isAt : mux.threads[thread]? = some position)
    (isStep : mux.step options position input = some outcome) :
    mux.next options (.step thread input) =
      some
        { outcome.mux with
          threads := mux.threads.set thread outcome.position ++ outcome.started } := by
  simp only [next, isAt, isStep, bind, Option.bind_some]

theorem Multiplexer.fire_cases {index : Nat} (isNext : mux.fire index = some after) :
    ∃ watch, mux.watches[index]? = some watch ∧ watch.state = .armed ∧
      mux.watchDone watch.target = true ∧
      after =
        { mux with
          watches := mux.watches.set index { watch with state := .started }
          threads := mux.threads ++
            [.take (.done watch.target watch.registration) watch.queryId] } := by
  rcases Option.bind_eq_some_iff.mp isNext with ⟨watch, isAt, isNext⟩
  split at isNext
  · next isReady => exact ⟨watch, isAt, isReady.1, isReady.2, (Option.some.inj isNext).symm⟩
  · cases isNext

theorem Multiplexer.pool_cases [DecidableEq Conn] {action : PoolAction Conn}
    (isNext : mux.next options (.pool action) = some after) :
    ∃ pool, mux.pool.next multiplexerPool action = some pool ∧
      after = { mux with pool := pool } := by
  rw [Multiplexer.next] at isNext
  split at isNext
  · rcases Option.map_eq_some_iff.mp isNext with ⟨pool, isPool, isAfter⟩
    exact ⟨pool, isPool, isAfter.symm⟩
  · cases isNext

/-! ## Query ids -/

section

open List

/-- From a value of the counter the loop of `register` ends with this result. -/
inductive Probes (isPending : BitVec 16 → Bool) (start : BitVec 16) :
    BitVec 16 → Option (BitVec 16) → Prop
  | free {queryId : BitVec 16} :
    isPending (queryId + 1) = false → Probes isPending start queryId (some (queryId + 1))
  | exhausted {queryId : BitVec 16} :
    isPending (queryId + 1) = true → queryId + 1 = start → Probes isPending start queryId none
  | next {queryId : BitVec 16} {result : Option (BitVec 16)} :
    isPending (queryId + 1) = true → queryId + 1 ≠ start →
    Probes isPending start (queryId + 1) result → Probes isPending start queryId result

/-- So many ids after an id, cyclically, from a distance on. -/
def idsAfter (start : BitVec 16) (distance count : Nat) : List (BitVec 16) :=
  (range' distance count).map fun distance => start + BitVec.ofNat 16 distance

variable {isPending : BitVec 16 → Bool} {start : BitVec 16}

theorem add_ofNat_succ (tried : Nat) :
    start + BitVec.ofNat 16 tried + 1 = start + BitVec.ofNat 16 (tried + 1) := by
  rw [BitVec.add_assoc, BitVec.ofNat_add]
  rfl

theorem nextQueryId_eq {tried fuel : Nat} (isTried : tried + fuel = 2 ^ 16) :
    (0 < fuel → Probes isPending start (start + BitVec.ofNat 16 tried)
        (nextQueryId isPending start fuel (start + BitVec.ofNat 16 tried))) ∧
      nextQueryId isPending start fuel (start + BitVec.ofNat 16 tried) =
        (idsAfter start (tried + 1) fuel).find? (!isPending ·) := by
  induction fuel generalizing tried with
  | zero => exact ⟨nofun, rfl⟩
  | succ fuel induction =>
    have isRest : tried + 1 + fuel = 2 ^ 16 := by omega
    rcases induction isRest with ⟨probes, isFirst⟩
    have isLast : start + BitVec.ofNat 16 (tried + 1) = start ↔ fuel = 0 := by
      rw [← BitVec.toNat_inj, BitVec.toNat_add, BitVec.toNat_ofNat]
      have := start.isLt
      omega
    rw [← add_ofNat_succ] at probes isFirst isLast
    rw [idsAfter, range'_succ, map_cons, find?_cons, ← add_ofNat_succ, nextQueryId]
    cases pending : isPending (start + BitVec.ofNat 16 tried + 1) with
    | false => exact ⟨fun _ => .free pending, rfl⟩
    | true =>
      rw [Bool.not_true, if_neg Bool.false_ne_true]
      split
      · next exhausted =>
        rw [isLast.mp exhausted]
        exact ⟨fun _ => .exhausted pending exhausted, rfl⟩
      · next notLast =>
        have isLater : 0 < fuel := Nat.pos_of_ne_zero fun isZero => notLast (isLast.mpr isZero)
        exact ⟨fun _ => .next pending notLast (probes isLater), isFirst⟩

theorem mem_idsAfter (queryId : BitVec 16) : queryId ∈ idsAfter start 1 (2 ^ 16) := by
  refine mem_map.mpr ⟨(queryId - start - 1).toNat + 1, ?_, ?_⟩
  · rw [mem_range'_1]
    omega
  · rw [← add_ofNat_succ, BitVec.ofNat_toNat, BitVec.setWidth_eq]
    bv_omega

/-- The loop of `register` ends with the first id after the counter that is not
pending, and without one exactly if all ids are pending. -/
theorem freeQueryId_first [DecidableEq Conn] (mux : Multiplexer Conn) :
    Probes (fun queryId => (mux.queries queryId).isSome) mux.queryId mux.queryId mux.freeQueryId ∧
      mux.freeQueryId =
        (idsAfter mux.queryId 1 (2 ^ 16)).find? (fun queryId => !(mux.queries queryId).isSome) ∧
      (mux.freeQueryId = none ↔ ∀ queryId, (mux.queries queryId).isSome = true) := by
  have isStart : mux.queryId + BitVec.ofNat 16 0 = mux.queryId := BitVec.add_zero _
  rcases @nextQueryId_eq (fun queryId => (mux.queries queryId).isSome) mux.queryId 0 (2 ^ 16) rfl
    with ⟨probes, isFirst⟩
  rw [isStart] at probes isFirst
  refine ⟨probes (by decide), isFirst, ?_⟩
  rw [Multiplexer.freeQueryId, isFirst, find?_eq_none]
  constructor
  · intro areAll queryId
    simpa [Option.isSome_iff_ne_none] using areAll queryId (mem_idsAfter queryId)
  · intro areAll queryId _
    simp [areAll queryId]

end

end SingBox.Transport
