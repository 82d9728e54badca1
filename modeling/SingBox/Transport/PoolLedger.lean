import SingBox.Transport.ConnPool
import SingBox.Foundation.Update

/-! # Where the connections of a pool are

The ledger of a pool says which connections the dialer has returned, which are
tracked in each state and which were passed to `options.Close`. A goroutine may
hold one connection on the way between these, or walk over a state that was
replaced. Every step moves at most one connection, in one of eight ways.
-/

namespace SingBox.Transport

open Function Option

structure Ledger (Conn : Type) where
  state : Option Nat
  nextState : Nat
  members : Nat → List Conn
  dialed : List Conn
  closes : List (Conn × Failure)

def ConnPool.ledger (pool : ConnPool Conn) : Ledger Conn where
  state := pool.state
  nextState := pool.nextState
  members id := (pool.states id).all
  dialed := pool.dialed
  closes := pool.closes

namespace PoolPosition

/-- The connection of a dial that has not reached its install section. -/
def dialedConn : PoolPosition Conn → Option Conn
  | .dialAbort conn _ | .install _ conn | .connectAbort _ _ conn _
  | .connectInstall _ _ (.ok conn) => some conn
  | _ => none

/-- The connection that the next step passes to `options.Close`, after the pool
has dropped it or refused it. -/
def droppedConn : PoolPosition Conn → Option Conn
  | .orderedDead _ conn | .installRefused conn | .sharedDead _ conn | .connectRefused _ conn
  | .close conn _ => some conn
  | _ => none

def holds (position : PoolPosition Conn) : Option Conn :=
  position.dialedConn.or position.droppedConn

/-- The replaced state whose connections are being closed, with those that are. -/
def closing : PoolPosition Conn → Option (Nat × List Conn)
  | .cancelState id => some (id, [])
  | .closeState id visited => some (id, visited)
  | _ => none

end PoolPosition

namespace ConnPool

variable {Conn : Type} {options : ConnPoolOptions} (pool : ConnPool Conn)

/-! ## The ledger after each change -/

theorem ledger_updateState (id : Nat) (change : ConnPoolState Conn → ConnPoolState Conn) :
    (pool.updateState id change).ledger =
      { pool.ledger with
        members := update pool.ledger.members id (change (pool.states id)).all } := by
  simp only [ledger, updateState, Ledger.mk.injEq, true_and, and_true]
  funext other
  by_cases same : other = id <;> simp [same]

theorem ledger_updateState_same (id : Nat) (change : ConnPoolState Conn → ConnPoolState Conn)
    (same : (change (pool.states id)).all = (pool.states id).all) :
    (pool.updateState id change).ledger = pool.ledger := by
  rw [ledger_updateState, same]
  exact congrArg (fun members => { pool.ledger with members := members })
    (update_eq_self id pool.ledger.members)

@[simp] theorem ledger_releaseSlot : (pool.releaseSlot options).ledger = pool.ledger := by
  rw [releaseSlot]
  split <;> rfl

@[simp] theorem ledger_cancelShared (ctx : Option Nat) (cause : Failure) :
    (pool.cancelShared ctx cause).ledger = pool.ledger := by
  cases ctx <;> rfl

@[simp] theorem ledger_claim (id : Nat) (conn : Conn) :
    (pool.claim id conn).1.ledger = pool.ledger :=
  pool.ledger_updateState_same id (fun state => { state with sharedClaimed := true }) rfl

@[simp] theorem ledger_startConnect (id : Nat) : (pool.startConnect id).ledger = pool.ledger :=
  pool.ledger_updateState_same id
    (fun state => { state with connecting := some pool.nextConnect }) rfl

theorem ledger_installShared [DecidableEq Conn] (id : Nat) (conn : Conn) :
    (pool.installShared id conn).ledger =
      { pool.ledger with
        members := update pool.ledger.members id
          ((pool.ledger.members id).insert conn) } :=
  pool.ledger_updateState id fun state =>
    { state with
      shared := some conn
      sharedCtx := some pool.nextContext
      all := state.all.insert conn }

theorem ledger_removeConn [DecidableEq Conn] (id : Nat) (conn : Conn) (cause : Failure) :
    (pool.removeConn options id conn cause).ledger =
      { pool.ledger with
        members := update pool.ledger.members id
          ((pool.ledger.members id).filter (· ≠ conn)) } := by
  rw [removeConn]
  split
  · split
    · rw [ledger_cancelShared, ledger_updateState]
      rfl
    · rw [ledger_updateState]
      rfl
  · rw [ledger_updateState]
    rfl

end ConnPool

/-! ## What one step moves -/

/-- The ways in which a step of a goroutine can move connections. -/
inductive Moves [DecidableEq Conn] (ledger : Ledger Conn) (position : PoolPosition Conn)
    (after : Ledger Conn) (next : PoolPosition Conn) : Prop
  /-- Nothing moves; the goroutine may get hold of a connection it was given. -/
  | keep :
    after = ledger →
    (position.holds = none ∨ next.holds = position.holds) →
    next.closing = position.closing →
    Moves ledger position after next
  | dial (conn : Conn) :
    after = { ledger with dialed := ledger.dialed ++ [conn] } →
    position.holds = none →
    next.holds = some conn →
    position.closing = none →
    next.closing = none →
    Moves ledger position after next
  | install (id : Nat) (conn : Conn) :
    ledger.state = some id →
    after =
      { ledger with
        members := update ledger.members id ((ledger.members id).insert conn) } →
    position.holds = some conn →
    position.closing = none →
    next.closing = none →
    Moves ledger position after next
  | drop (id : Nat) (conn : Conn) :
    ledger.state = some id →
    after =
      { ledger with
        members := update ledger.members id
          ((ledger.members id).filter (· ≠ conn)) } →
    position.holds = none →
    next.holds = some conn →
    position.closing = none →
    next.closing = none →
    Moves ledger position after next
  | close (conn : Conn) (cause : Failure) :
    after = { ledger with closes := ledger.closes ++ [(conn, cause)] } →
    position.holds = some conn →
    position.closing = none →
    next.closing = none →
    Moves ledger position after next
  | swap (old : Nat) (new : Option Nat) :
    ledger.state = some old →
    (new = none ∧ after = { ledger with state := none } ∨ new = some ledger.nextState ∧ after =
        { ledger with
          state := some ledger.nextState
          nextState := ledger.nextState + 1
          members := update ledger.members ledger.nextState [] }) →
    position.holds = none →
    position.closing = none →
    next.closing = some (old, []) →
    Moves ledger position after next
  | visit (id : Nat) (visited : List Conn) (conn : Conn) (cause : Failure) :
    after = { ledger with closes := ledger.closes ++ [(conn, cause)] } →
    position.holds = none →
    position.closing = some (id, visited) →
    next.closing = some (id, conn :: visited) →
    Moves ledger position after next
  | swept (id : Nat) (visited : List Conn) :
    after = ledger →
    position.holds = none →
    position.closing = some (id, visited) →
    (∀ conn ∈ ledger.members id, conn ∈ visited) →
    next.closing = none →
    Moves ledger position after next

namespace ConnPool

variable {Conn : Type} [DecidableEq Conn] {options : ConnPoolOptions} {pool : ConnPool Conn}

/-- The move of a step, from its outcome. -/
def Outcome (pool : ConnPool Conn) (position : PoolPosition Conn) (outcome : PoolOutcome Conn) :
    Prop :=
  Moves pool.ledger position outcome.pool.ledger outcome.position

theorem acquireOrdered_moves (ctx : Nat) (alive : Bool) :
    pool.Outcome (.ordered ctx) (pool.acquireOrdered ctx alive) := by
  rw [acquireOrdered]
  split
  · exact .keep rfl (.inl rfl) rfl
  next id isCurrent =>
  split
  · exact .keep rfl (.inl rfl) rfl
  next idleConn _ _ =>
  split
  · refine .keep ?_ (.inl rfl) rfl
    apply ledger_updateState_same
    rfl
  · exact .drop id idleConn isCurrent (pool.ledger_updateState id _) rfl rfl rfl rfl

theorem acquireShared_moves (ctx : Nat) (alive : Bool) :
    pool.Outcome (.shared ctx) (pool.acquireShared options ctx alive) := by
  rw [acquireShared]
  split
  · exact .keep rfl (.inl rfl) rfl
  next id isCurrent =>
  split
  · next conn _ =>
    split
    · exact .keep (pool.ledger_claim id conn) (.inl rfl) rfl
    · exact .drop id conn isCurrent (pool.ledger_removeConn id conn _) rfl rfl rfl rfl
  · exact .keep rfl (.inl rfl) rfl
  · exact .keep (pool.ledger_startConnect id) (.inl rfl) rfl

theorem collectShared_moves (ctx id connect : Nat) (startDial alive : Bool) :
    pool.Outcome (.collect ctx id connect startDial)
      (pool.collectShared options ctx id connect startDial alive) := by
  rw [collectShared]
  split
  · split <;> exact .keep rfl (.inl rfl) rfl
  split
  · exact .keep rfl (.inl rfl) rfl
  next isOpen =>
  split
  · exact .keep rfl (.inl rfl) rfl
  next conn _ =>
  have isCurrent := isCurrent_of_open isOpen
  split
  · exact .keep (pool.ledger_claim id conn) (.inl rfl) rfl
  · exact .drop id conn isCurrent (pool.ledger_removeConn id conn _) rfl rfl rfl rfl

theorem install_moves (id : Nat) (conn : Conn) :
    pool.Outcome (.install id conn) (pool.install options id conn) := by
  rw [install]
  split
  · exact .keep rfl (.inr rfl) rfl
  next isOpen =>
  refine .install id conn (isCurrent_of_open isOpen) ?_ rfl rfl rfl
  exact (ledger_releaseSlot _).trans (pool.ledger_updateState id _)

theorem connectInstall_moves (id connect : Nat) (result : Except Failure Conn) :
    pool.Outcome (.connectInstall id connect result) (pool.connectInstall id connect result) := by
  have same : (pool.updateState id fun state => { state with connecting := none }).ledger =
      pool.ledger := pool.ledger_updateState_same id _ rfl
  cases result with
  | error => exact .keep same (.inl rfl) rfl
  | ok conn =>
    simp only [connectInstall]
    split
    · exact .keep same (.inr rfl) rfl
    next isOpen =>
    refine .install id conn (isCurrent_of_open isOpen) ?_ rfl rfl rfl
    exact (ledger_installShared _ id conn).trans (by rw [same])

theorem dialReturned_moves (ctx id : Nat) (stateFirst : Bool) (result : Except Failure Conn) :
    pool.Outcome (.dialing ctx id) (pool.dialReturned options ctx id stateFirst result) := by
  cases result with
  | error => exact .keep pool.ledger_releaseSlot (.inl rfl) rfl
  | ok conn =>
    simp only [dialReturned]
    split <;> exact .dial conn rfl rfl rfl rfl rfl

theorem release_moves (conn : Conn) (reuse alive : Bool) :
    pool.Outcome (.release conn reuse) (pool.release options conn reuse alive) := by
  rw [release]
  split
  · exact .keep rfl (.inl rfl) rfl
  next id isCurrent =>
  split
  · exact .keep rfl (.inl rfl) rfl
  split
  · exact .drop id conn isCurrent (pool.ledger_removeConn id conn _) rfl rfl rfl rfl
  split
  · refine .keep ?_ (.inl rfl) rfl
    apply ledger_updateState_same
    rfl
  · exact .keep rfl (.inl rfl) rfl

theorem invalidate_moves (conn : Conn) (cause : Failure) :
    pool.Outcome (.invalidate conn cause) (pool.invalidate options conn cause) := by
  rw [invalidate]
  split
  · exact .keep rfl (.inl rfl) rfl
  next id isCurrent =>
  split
  · exact .keep rfl (.inl rfl) rfl
  · exact .drop id conn isCurrent (pool.ledger_removeConn id conn _) rfl rfl rfl rfl

theorem reset_moves : pool.Outcome .reset pool.reset := by
  rw [reset]
  split
  · exact .keep rfl (.inl rfl) rfl
  next old isCurrent =>
  refine .swap old (some pool.nextState) isCurrent (.inr ⟨rfl, ?_⟩) rfl rfl rfl
  have fresh := pool.ledger_updateState pool.nextState fun _ => {}
  exact congrArg (fun ledger =>
    { ledger with
      state := some pool.nextState
      nextState := pool.nextState + 1 }) fresh

theorem closePool_moves : pool.Outcome .closePool pool.closePool := by
  rw [closePool]
  split
  · exact .keep rfl (.inl rfl) rfl
  · next old isCurrent => exact .swap old none isCurrent (.inl ⟨rfl, rfl⟩) rfl rfl rfl

variable {outcome : PoolOutcome Conn} {id ctx : Nat} {input : PoolInput Conn}

theorem acquireSlot_moves (isNext : pool.acquireSlot options ctx id = some outcome) :
    pool.Outcome (.slot ctx id) outcome := by
  rw [acquireSlot] at isNext
  split at isNext
  · split at isNext <;> cases isNext
    exact .keep rfl (.inl rfl) rfl
  · cases isNext
    exact .keep rfl (.inl rfl) rfl

theorem next_moves {position : PoolPosition Conn}
    (isNext : pool.next options position input = some outcome) : pool.Outcome position outcome := by
  cases position <;> cases input <;> try cases isNext
  case ordered.alive => exact acquireOrdered_moves _ _
  case slot.go => exact acquireSlot_moves isNext
  case slot.callerDone =>
    rcases ite_none_right_eq_some.mp isNext with ⟨-, isNext⟩
    rcases map_eq_some_iff.mp isNext with ⟨err, -, rfl⟩
    exact .keep rfl (.inl rfl) rfl
  case dialing.dialed => exact dialReturned_moves _ _ _ _
  case dialAbort.go | installRefused.go => exact .close _ _ (ledger_releaseSlot _) rfl rfl rfl
  case install.go => exact install_moves _ _
  case shared.alive => exact acquireShared_moves _ _
  case startDial.go | connectDone.go => exact .keep rfl (.inl rfl) rfl
  case wait.connected | wait.stateDone =>
    rcases ite_none_right_eq_some.mp isNext with ⟨-, ⟨⟩⟩
    exact .keep rfl (.inl rfl) rfl
  case wait.callerDone =>
    rcases map_eq_some_iff.mp isNext with ⟨_, -, rfl⟩
    exact .keep rfl (.inl rfl) rfl
  case checkClosed.go => split <;> exact .keep rfl (.inl rfl) rfl
  case collect.alive => exact collectShared_moves _ _ _ _ _
  case connectDial.dialed result _ =>
    cases result with
    | error => exact .keep rfl (.inl rfl) rfl
    | ok conn =>
      simp only [connectReturned]
      split <;> exact .dial conn rfl rfl rfl rfl rfl
  case connectInstall.go => exact connectInstall_moves _ _ _
  case release.alive => exact release_moves _ _ _
  case invalidate.go => exact invalidate_moves _ _
  case reset.go => exact reset_moves
  case closePool.go => exact closePool_moves
  case cancelState.go => exact .keep (ledger_updateState_same _ _ _ rfl) (.inl rfl) rfl
  case closeState.visit id visited conn =>
    rcases ite_none_right_eq_some.mp isNext with ⟨-, ⟨⟩⟩
    exact .visit id visited conn errClosed rfl rfl rfl rfl
  case closeState.go id visited =>
    rcases ite_none_right_eq_some.mp isNext with ⟨isVisited, ⟨⟩⟩
    exact .swept id visited rfl rfl rfl isVisited rfl
  all_goals exact .close _ _ rfl rfl rfl rfl

end ConnPool

end SingBox.Transport
