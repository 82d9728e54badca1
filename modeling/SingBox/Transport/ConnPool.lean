import SingBox.Foundation.Run
import Mathlib.Logic.Function.Basic

/-! # The connection pool

`ConnPool` of the DNS transports, with all its goroutines. A step of a
goroutine is one section under the mutex, one call of a function of the options
or of the dialer, or one blocking operation, so that the steps of different
goroutines interleave as they do in the source. States and connects are heap
objects, named by numbers; `Reset` replaces the current state while goroutines
still hold the old one. An element of `idleElements` is an element of `idle`.
-/

namespace SingBox.Transport

open Function Option

inductive ConnPoolMode
  | single
  | ordered
  deriving DecidableEq

structure ConnPoolOptions where
  mode : ConnPoolMode
  maxInflight : Nat := 0
  deriving DecidableEq

/-- There is a `sem`. -/
def ConnPoolOptions.limited (options : ConnPoolOptions) : Bool :=
  options.mode = .ordered && 0 < options.maxInflight

/-- An error: its text, and whether it is a `*queryMultiplexerReadError`, the
only error type that is looked at. -/
structure Failure where
  text : String
  ofRead : Bool := false
  deriving DecidableEq

/-- `net.ErrClosed`. -/
def errClosed : Failure := { text := "use of closed network connection" }

/-- `connPoolState`. The cause of its context is set when it is cancelled, and
`sharedCtx` names the context of the shared connection. -/
structure ConnPoolState (Conn : Type) where
  cancelled : Option Failure := none
  all : List Conn := []
  idle : List Conn := []
  shared : Option Conn := none
  sharedClaimed : Bool := false
  sharedCtx : Option Nat := none
  connecting : Option Nat := none

structure ConnPoolConnect where
  done : Bool := false
  err : Option Failure := none
  deriving DecidableEq

/-- The context of a shared connection, a child of the context of its state. -/
structure SharedContext where
  state : Nat
  cause : Option Failure := none
  deriving DecidableEq

structure Acquired (Conn : Type) where
  conn : Conn
  connCtx : Option Nat := none
  created : Bool
  deriving DecidableEq

/-- The error and the cause of a caller's context that is done. -/
structure CallerDone where
  err : Failure
  cause : Failure
  deriving DecidableEq

/-- `ConnPool` and its heap. `Close` sets `closed` and clears `state` in one
section, and nothing else does either: a pool without a state is a closed one.
The last three fields record what the dialer has returned, what was passed to
`options.Close`, and which connections `acquireShared` has returned, in order. -/
structure ConnPool (Conn : Type) where
  state : Option Nat := some 0
  states : Nat → ConnPoolState Conn := fun _ => {}
  nextState : Nat := 1
  connects : Nat → ConnPoolConnect := fun _ => {}
  nextConnect : Nat := 0
  sharedContexts : Nat → SharedContext := fun _ => ⟨0, none⟩
  nextContext : Nat := 0
  contexts : Nat → Option CallerDone := fun _ => none
  /-- The slots of `sem` that are taken. -/
  inflight : Nat := 0
  dialed : List Conn := []
  closes : List (Conn × Failure) := []
  returned : List (Conn × Bool) := []

/-- The next thing a goroutine does. -/
inductive PoolPosition (Conn : Type)
  /-- The head of the loop of `acquireOrdered`. -/
  | ordered (ctx : Nat)
  | orderedDead (ctx : Nat) (conn : Conn)
  | slot (ctx state : Nat)
  | dialing (ctx state : Nat)
  | dialAbort (conn : Conn) (err : Failure)
  | install (state : Nat) (conn : Conn)
  | installRefused (conn : Conn)
  /-- The head of the loop of `acquireShared`. -/
  | shared (ctx : Nat)
  | sharedDead (ctx : Nat) (conn : Conn)
  /-- The `go` statement of `acquireShared`. -/
  | startDial (ctx state connect : Nat)
  /-- The `select` of `acquireShared`. -/
  | wait (ctx state connect : Nat) (startDial : Bool)
  | checkClosed (ctx : Nat)
  | collect (ctx state connect : Nat) (startDial : Bool)
  /-- `connectSingle`, in its own goroutine. -/
  | connectDial (ctx state connect : Nat)
  | connectAbort (state connect : Nat) (conn : Conn) (err : Failure)
  | connectInstall (state connect : Nat) (result : Except Failure Conn)
  | connectRefused (connect : Nat) (conn : Conn)
  | connectDone (connect : Nat)
  | release (conn : Conn) (reuse : Bool)
  | invalidate (conn : Conn) (cause : Failure)
  /-- The connection has left the pool and is passed to `options.Close` next. -/
  | close (conn : Conn) (cause : Failure)
  | reset
  | closePool
  /-- `closeState`: its context is cancelled first. -/
  | cancelState (state : Nat)
  | closeState (state : Nat) (visited : List Conn)
  | finished (result : Except Failure (Option (Acquired Conn)))

/-- What a step does not decide itself: the answer of `options.IsAlive`, the
result of the dialer and which of two cancellations reached its context first,
the ready case of a `select`, the next key of a map. -/
inductive PoolInput (Conn : Type)
  | go
  | alive (answer : Bool)
  | dialed (result : Except Failure Conn) (stateFirst : Bool)
  | connected
  | callerDone
  | stateDone
  | visit (conn : Conn)

section

variable {Conn : Type} [DecidableEq Conn] (options : ConnPoolOptions)

namespace ConnPool

variable (pool : ConnPool Conn)

def closed : Bool := pool.state.isNone

variable (id : Nat)

def updateState (change : ConnPoolState Conn → ConnPoolState Conn) : ConnPool Conn :=
  { pool with states := update pool.states id (change (pool.states id)) }

def updateConnect (change : ConnPoolConnect → ConnPoolConnect) : ConnPool Conn :=
  { pool with connects := update pool.connects id (change (pool.connects id)) }

/-- `options.Close`. -/
def closeConn (conn : Conn) (cause : Failure) : ConnPool Conn :=
  { pool with closes := pool.closes ++ [(conn, cause)] }

def releaseSlot : ConnPool Conn :=
  if options.limited then
    { pool with inflight := pool.inflight - 1 }
  else pool

def cancelShared (ctx : Option Nat) (cause : Failure) : ConnPool Conn :=
  match ctx with
  | none => pool
  | some ctx =>
    { pool with
      sharedContexts := update pool.sharedContexts ctx
        { pool.sharedContexts ctx with
          cause := (pool.sharedContexts ctx).cause <|> some cause } }

def removeConn (conn : Conn) (cause : Failure) : ConnPool Conn :=
  let state := pool.states id
  match options.mode with
  | .single =>
    if state.shared = some conn then
      (pool.updateState id fun state =>
        { state with
          all := state.all.filter (· ≠ conn)
          shared := none
          sharedClaimed := false
          sharedCtx := none }).cancelShared state.sharedCtx cause
    else
      pool.updateState id fun state => { state with all := state.all.filter (· ≠ conn) }
  | .ordered =>
    pool.updateState id fun state =>
      { state with
        all := state.all.filter (· ≠ conn)
        idle := state.idle.filter (· ≠ conn) }

def claim (conn : Conn) : ConnPool Conn × Acquired Conn :=
  let state := pool.states id
  let created := !state.sharedClaimed
  ({ pool.updateState id fun state => { state with sharedClaimed := true } with
      returned := pool.returned ++ [(conn, created)] },
    { conn := conn, connCtx := state.sharedCtx, created := created })

def startConnect : ConnPool Conn :=
  { pool.updateState id fun state => { state with connecting := some pool.nextConnect } with
    connects := update pool.connects pool.nextConnect {}
    nextConnect := pool.nextConnect + 1 }

def installShared (conn : Conn) : ConnPool Conn :=
  { pool.updateState id fun state =>
      { state with
        shared := some conn
        sharedCtx := some pool.nextContext
        all := state.all.insert conn } with
    sharedContexts := update pool.sharedContexts pool.nextContext ⟨id, none⟩
    nextContext := pool.nextContext + 1 }

/-- The cause of the context of a shared connection, once it is done. -/
def connCause (ctx : Nat) : Option Failure :=
  (pool.sharedContexts ctx).cause <|> (pool.states (pool.sharedContexts ctx).state).cancelled

/-- The cause for which a dial that has just returned is given up. -/
def dialErr (ctx id : Nat) (stateFirst : Bool) : Option Failure :=
  let callerCause := (pool.contexts ctx).map CallerDone.cause
  let stateCause := (pool.states id).cancelled
  if stateFirst then stateCause <|> callerCause else callerCause <|> stateCause

end ConnPool

structure PoolOutcome (Conn : Type) where
  pool : ConnPool Conn
  position : PoolPosition Conn

namespace ConnPool

variable (pool : ConnPool Conn)

def goto (position : PoolPosition Conn) : PoolOutcome Conn := ⟨pool, position⟩

def fail (err : Failure) : PoolOutcome Conn := pool.goto (.finished (.error err))

def done : PoolOutcome Conn := pool.goto (.finished (.ok none))

/-! ## Ordered connections -/

def acquireOrdered (ctx : Nat) (alive : Bool) : PoolOutcome Conn :=
  match pool.state with
  | none => pool.fail errClosed
  | some id =>
    match (pool.states id).idle with
    | [] => pool.goto (.slot ctx id)
    | idleConn :: idle =>
      if alive then
        (pool.updateState id fun state => { state with idle := idle }).goto
          (.finished (.ok (some { conn := idleConn, created := false })))
      else
        (pool.updateState id fun state =>
          { state with
            idle := idle
            all := state.all.filter (· ≠ idleConn) }).goto (.orderedDead ctx idleConn)

/-- `acquireSlot`, when it gets one. -/
def acquireSlot (ctx id : Nat) : Option (PoolOutcome Conn) :=
  if options.limited then
    if pool.inflight < options.maxInflight then
      some ({ pool with inflight := pool.inflight + 1 }.goto (.dialing ctx id))
    else none
  else some (pool.goto (.dialing ctx id))

/-- The error of `acquireSlot` once its context is done. -/
def slotErr (ctx id : Nat) : Option Failure :=
  (pool.contexts ctx).map CallerDone.err <|> (pool.states id).cancelled

/-- `dialAndInstall` from the return of the dialer to the lock. -/
def dialReturned (ctx id : Nat) (stateFirst : Bool) : Except Failure Conn → PoolOutcome Conn
  | .error err => (pool.releaseSlot options).fail ((pool.dialErr ctx id stateFirst).getD err)
  | .ok conn =>
    let pool := { pool with dialed := pool.dialed ++ [conn] }
    match pool.dialErr ctx id stateFirst with
    | some err => pool.goto (.dialAbort conn err)
    | none => pool.goto (.install id conn)

def install (id : Nat) (conn : Conn) : PoolOutcome Conn :=
  if pool.closed || pool.state != some id then pool.goto (.installRefused conn)
  else
    ((pool.updateState id fun state => { state with all := state.all.insert conn }).releaseSlot
      options).goto (.finished (.ok (some { conn := conn, created := true })))

/-! ## Shared connections -/

def acquireShared (ctx : Nat) (alive : Bool) : PoolOutcome Conn :=
  match pool.state with
  | none => pool.fail errClosed
  | some id =>
    match (pool.states id).shared, (pool.states id).connecting with
    | some conn, _ =>
      if alive then
        let (pool, acquired) := pool.claim id conn
        pool.goto (.finished (.ok (some acquired)))
      else (pool.removeConn options id conn errClosed).goto (.sharedDead ctx conn)
    | none, some connect => pool.goto (.wait ctx id connect false)
    | none, none => (pool.startConnect id).goto (.startDial ctx id pool.nextConnect)

def collectShared (ctx id connect : Nat) (startDial alive : Bool) : PoolOutcome Conn :=
  match (pool.connects connect).err with
  | some err => if startDial then pool.fail err else pool.goto (.shared ctx)
  | none =>
    if pool.closed || pool.state != some id then pool.fail errClosed
    else
      match (pool.states id).shared with
      | none => pool.goto (.shared ctx)
      | some conn =>
        if alive then
          let (pool, acquired) := pool.claim id conn
          pool.goto (.finished (.ok (some acquired)))
        else (pool.removeConn options id conn errClosed).goto (.sharedDead ctx conn)

/-- `connectSingle` from the return of the dialer to the lock. -/
def connectReturned (ctx id connect : Nat) (stateFirst : Bool) :
    Except Failure Conn → PoolOutcome Conn
  | .error err =>
    pool.goto (.connectInstall id connect (.error ((pool.dialErr ctx id stateFirst).getD err)))
  | .ok conn =>
    let pool := { pool with dialed := pool.dialed ++ [conn] }
    match pool.dialErr ctx id stateFirst with
    | some err => pool.goto (.connectAbort id connect conn err)
    | none => pool.goto (.connectInstall id connect (.ok conn))

/-- The locked section of `connectSingle`. -/
def connectInstall (id connect : Nat) (result : Except Failure Conn) : PoolOutcome Conn :=
  let pool := pool.updateState id fun state => { state with connecting := none }
  match result with
  | .error err =>
    (pool.updateConnect connect fun connect => { connect with err := some err }).goto
      (.connectDone connect)
  | .ok conn =>
    if pool.closed || pool.state != some id then
      (pool.updateConnect connect fun connect => { connect with err := some errClosed }).goto
        (.connectRefused connect conn)
    else
      (pool.installShared id conn).goto (.connectDone connect)

/-! ## Giving connections back -/

def release (conn : Conn) (reuse alive : Bool) : PoolOutcome Conn :=
  match pool.state with
  | none => pool.goto (.close conn errClosed)
  | some id =>
    if conn ∉ (pool.states id).all then pool.goto (.close conn errClosed)
    else if !reuse || !alive then
      (pool.removeConn options id conn errClosed).goto (.close conn errClosed)
    else if options.mode = .ordered ∧ conn ∉ (pool.states id).idle then
      (pool.updateState id fun state => { state with idle := state.idle ++ [conn] }).done
    else pool.done

def invalidate (conn : Conn) (cause : Failure) : PoolOutcome Conn :=
  match pool.state with
  | none => pool.goto (.close conn cause)
  | some id =>
    if conn ∉ (pool.states id).all then pool.done
    else (pool.removeConn options id conn cause).goto (.close conn cause)

/-! ## Reset and close -/

def reset : PoolOutcome Conn :=
  match pool.state with
  | none => pool.done
  | some old =>
    { pool with
      state := some pool.nextState
      states := update pool.states pool.nextState {}
      nextState := pool.nextState + 1 }.goto (.cancelState old)

def closePool : PoolOutcome Conn :=
  match pool.state with
  | none => pool.done
  | some old => { pool with state := none }.goto (.cancelState old)

def cancelState (id : Nat) : PoolOutcome Conn :=
  (pool.updateState id fun state =>
    { state with cancelled := state.cancelled <|> some errClosed }).goto (.closeState id [])

/-- A key of the map that is not closed yet, or the end of the loop. -/
def closeNext (id : Nat) (visited : List Conn) : PoolInput Conn → Option (PoolOutcome Conn)
  | .visit conn =>
    if conn ∈ (pool.states id).all ∧ conn ∉ visited then
      some ((pool.closeConn conn errClosed).goto (.closeState id (conn :: visited)))
    else none
  | .go => if ∀ conn ∈ (pool.states id).all, conn ∈ visited then some pool.done else none
  | _ => none

/-! ## A step of a goroutine -/

/-- The `select` of `acquireShared`. -/
def wake (ctx id connect : Nat) (startDial : Bool) : PoolInput Conn → Option (PoolOutcome Conn)
  | .connected =>
    if (pool.connects connect).done then some (pool.goto (.collect ctx id connect startDial))
    else none
  | .callerDone => (pool.contexts ctx).map fun caller => pool.fail caller.err
  | .stateDone =>
    if (pool.states id).cancelled.isSome then some (pool.goto (.checkClosed ctx)) else none
  | _ => none

def next : PoolPosition Conn → PoolInput Conn → Option (PoolOutcome Conn)
  | .ordered ctx, .alive alive => some (pool.acquireOrdered ctx alive)
  | .orderedDead ctx conn, .go => some ((pool.closeConn conn errClosed).goto (.ordered ctx))
  | .slot ctx id, .go => pool.acquireSlot options ctx id
  | .slot ctx id, .callerDone =>
    if options.limited then (pool.slotErr ctx id).map pool.fail else none
  | .dialing ctx id, .dialed result stateFirst =>
    some (pool.dialReturned options ctx id stateFirst result)
  | .dialAbort conn err, .go => some (((pool.closeConn conn err).releaseSlot options).fail err)
  | .install id conn, .go => some (pool.install options id conn)
  | .installRefused conn, .go =>
    some (((pool.closeConn conn errClosed).releaseSlot options).fail errClosed)
  | .shared ctx, .alive alive => some (pool.acquireShared options ctx alive)
  | .sharedDead ctx conn, .go => some ((pool.closeConn conn errClosed).goto (.shared ctx))
  | .startDial ctx id connect, .go => some (pool.goto (.wait ctx id connect true))
  | .wait ctx id connect startDial, input => pool.wake ctx id connect startDial input
  | .checkClosed ctx, .go =>
    some (if pool.closed then pool.fail errClosed else pool.goto (.shared ctx))
  | .collect ctx id connect startDial, .alive alive =>
    some (pool.collectShared options ctx id connect startDial alive)
  | .connectDial ctx id connect, .dialed result stateFirst =>
    some (pool.connectReturned ctx id connect stateFirst result)
  | .connectAbort id connect conn err, .go =>
    some ((pool.closeConn conn err).goto (.connectInstall id connect (.error err)))
  | .connectInstall id connect result, .go => some (pool.connectInstall id connect result)
  | .connectRefused connect conn, .go =>
    some ((pool.closeConn conn errClosed).goto (.connectDone connect))
  | .connectDone connect, .go =>
    some (pool.updateConnect connect fun connect => { connect with done := true }).done
  | .release conn reuse, .alive alive => some (pool.release options conn reuse alive)
  | .invalidate conn cause, .go => some (pool.invalidate options conn cause)
  | .close conn cause, .go => some (pool.closeConn conn cause).done
  | .reset, .go => some pool.reset
  | .closePool, .go => some pool.closePool
  | .cancelState id, .go => some (pool.cancelState id)
  | .closeState id visited, input => pool.closeNext id visited input
  | _, _ => none

omit [DecidableEq Conn] in
theorem isCurrent_of_open {pool : ConnPool Conn} {id : Nat}
    (isOpen : ¬(pool.closed || pool.state != some id) = true) : pool.state = some id := by
  simp only [Bool.or_eq_true, bne_iff_ne, not_or, not_not] at isOpen
  exact isOpen.2

end ConnPool

end

/-! ## The pool and its goroutines -/

inductive PoolCall (Conn : Type)
  | acquire (ctx : Nat)
  | acquireShared (ctx : Nat)
  | release (conn : Conn) (reuse : Bool)
  | invalidate (conn : Conn) (cause : Failure)
  | reset
  | close

def PoolCall.position (options : ConnPoolOptions) : PoolCall Conn → PoolPosition Conn
  | .acquire ctx =>
    match options.mode with
    | .single => .shared ctx
    | .ordered => .ordered ctx
  | .acquireShared ctx =>
    match options.mode with
    | .single => .shared ctx
    | .ordered => .finished (.error errClosed)
  | .release conn reuse => .release conn reuse
  | .invalidate conn cause => .invalidate conn cause
  | .reset => .reset
  | .close => .closePool

inductive PoolAction (Conn : Type)
  | call (call : PoolCall Conn)
  | step (thread : Nat) (input : PoolInput Conn)
  /-- A caller's context is cancelled or reaches its deadline. -/
  | expire (ctx : Nat) (caller : CallerDone)

/-- The goroutines that a step at this position starts. -/
def PoolPosition.started : PoolPosition Conn → List (PoolPosition Conn)
  | .startDial ctx id connect => [.connectDial ctx id connect]
  | _ => []

theorem PoolPosition.eq_of_started {position started : PoolPosition Conn}
    (member : started ∈ position.started) :
    ∃ ctx id connect, started = .connectDial ctx id connect := by
  cases position with
  | startDial ctx id connect => exact ⟨ctx, id, connect, List.mem_singleton.mp member⟩
  | _ => cases member

/-- The pool with all goroutines that have ever run in it. -/
structure PoolSystem (Conn : Type) where
  pool : ConnPool Conn := {}
  threads : List (PoolPosition Conn) := []

/-- A call of a method, by a goroutine of the caller. -/
def PoolSystem.call (options : ConnPoolOptions) (system : PoolSystem Conn) (call : PoolCall Conn) :
    PoolSystem Conn :=
  { system with threads := system.threads ++ [call.position options] }

/-- A goroutine is at its next position, and the goroutines it starts are added. -/
def PoolSystem.moved (system : PoolSystem Conn) (thread : Nat) (position : PoolPosition Conn)
    (outcome : PoolOutcome Conn) : PoolSystem Conn where
  pool := outcome.pool
  threads := system.threads.set thread outcome.position ++ position.started

def PoolSystem.next [DecidableEq Conn] (options : ConnPoolOptions) (system : PoolSystem Conn) :
    PoolAction Conn → Option (PoolSystem Conn)
  | .call call => some (system.call options call)
  | .step thread input => do
    let position ← system.threads[thread]?
    let outcome ← system.pool.next options position input
    some (system.moved thread position outcome)
  | .expire ctx caller =>
    some
      { system with
        pool :=
          { system.pool with
            contexts := update system.pool.contexts ctx
              (system.pool.contexts ctx <|> some caller) } }

variable {input : PoolInput Conn} {options : ConnPoolOptions} {system : PoolSystem Conn}
  {thread : Nat}

theorem PoolSystem.step_cases [DecidableEq Conn] {after : PoolSystem Conn}
    (isNext : system.next options (.step thread input) = some after) :
    ∃ position outcome, system.threads[thread]? = some position ∧
      system.pool.next options position input = some outcome ∧
      after = system.moved thread position outcome := by
  rcases bind_eq_some_iff.mp isNext with ⟨position, isAt, isNext⟩
  rcases bind_eq_some_iff.mp isNext with ⟨outcome, isOutcome, isNext⟩
  exact ⟨position, outcome, isAt, isOutcome, (some.inj isNext).symm⟩

theorem PoolSystem.next_step [DecidableEq Conn] {position : PoolPosition Conn}
    {outcome : PoolOutcome Conn} (isAt : system.threads[thread]? = some position)
    (isStep : system.pool.next options position input = some outcome) :
    system.next options (.step thread input) = some (system.moved thread position outcome) := by
  simp only [next, isAt, isStep, bind, bind_some]

def PoolRun [DecidableEq Conn] (options : ConnPoolOptions) (actions : List (PoolAction Conn))
    (system : PoolSystem Conn) : Prop :=
  Run (fun before action after => before.next options action = some after) {} actions system

end SingBox.Transport
