import SingBox.Transport.ConnPool
import SingBox.Foundation.Update

/-! # How a connection is shared

What a pool in single mode keeps in each state: the shared connection, whether
it has been handed out, and whether a dial is under way. Every step of a
goroutine changes this in one of eight ways.
-/

namespace SingBox.Transport

structure SharedSlot (Conn : Type) where
  shared : Option Conn
  claimed : Bool
  connecting : Bool
  all : List Conn

def ConnPoolState.slot (state : ConnPoolState Conn) : SharedSlot Conn where
  shared := state.shared
  claimed := state.sharedClaimed
  connecting := state.connecting.isSome
  all := state.all

structure Sharing (Conn : Type) where
  state : Option Nat
  nextState : Nat
  slots : Nat → SharedSlot Conn
  dialed : List Conn
  returned : List (Conn × Bool)

def ConnPool.sharing (pool : ConnPool Conn) : Sharing Conn where
  state := pool.state
  nextState := pool.nextState
  slots id := (pool.states id).slot
  dialed := pool.dialed
  returned := pool.returned

namespace PoolPosition

/-- The state for which the goroutine dials, or is about to start a dial. -/
def dials : PoolPosition Conn → Option Nat
  | .startDial _ id _ | .connectDial _ id _ | .connectAbort id _ _ _ | .connectInstall id _ _ =>
    some id
  | _ => none

/-- The connection that the goroutine is about to install. -/
def carries : PoolPosition Conn → Option Conn
  | .connectInstall _ _ (.ok conn) => some conn
  | _ => none

def isOrdered : PoolPosition Conn → Bool
  | .ordered _ | .orderedDead _ _ | .slot _ _ | .dialing _ _ | .dialAbort _ _ | .install _ _
  | .installRefused _ => true
  | _ => false

end PoolPosition

namespace Sharing

variable [DecidableEq Conn] (sharing : Sharing Conn)

def setSlot (id : Nat) (slot : SharedSlot Conn) : Sharing Conn :=
  { sharing with slots := Function.update sharing.slots id slot }

def without (id : Nat) (conn : Conn) : SharedSlot Conn :=
  let slot := sharing.slots id
  if slot.shared = some conn then
    { slot with shared := none, claimed := false, all := slot.all.filter (· ≠ conn) }
  else { slot with all := slot.all.filter (· ≠ conn) }

end Sharing

/-- The ways in which a step of a goroutine can change what is shared. -/
inductive Shares [DecidableEq Conn] (sharing : Sharing Conn) (position : PoolPosition Conn)
    (after : Sharing Conn) (next : PoolPosition Conn) : Prop
  | keep :
    after.slots = sharing.slots →
    after.returned = sharing.returned →
    after.dialed = sharing.dialed →
    after.nextState = sharing.nextState →
    (after.state = sharing.state ∨ after.state = none) →
    next.carries = none →
    next.dials = position.dials →
    position.started = [] →
    Shares sharing position after next
  | dial (conn : Conn) :
    after = { sharing with dialed := sharing.dialed ++ [conn] } →
    (next.carries = none ∨ next.carries = some conn) →
    next.dials = position.dials →
    position.started = [] →
    Shares sharing position after next
  /-- A dial is announced. -/
  | announce (id : Nat) :
    sharing.state = some id →
    (sharing.slots id).shared = none →
    (sharing.slots id).connecting = false →
    after = sharing.setSlot id { sharing.slots id with connecting := true } →
    next.carries = none →
    position.dials = none →
    next.dials = some id →
    position.started = [] →
    Shares sharing position after next
  /-- The dial is left to a goroutine of its own. -/
  | start (id : Nat) (started : PoolPosition Conn) :
    after = sharing →
    next.carries = none →
    position.dials = some id →
    next.dials = none →
    position.started = [started] →
    started.dials = some id →
    started.carries = none →
    Shares sharing position after next
  /-- The dial has ended, with a connection to share or without. -/
  | settle (id : Nat) (installed : Option Conn) :
    (installed = none ∨ position.carries = installed) →
    after =
      sharing.setSlot id
        { sharing.slots id with
          connecting := false
          shared := installed.or (sharing.slots id).shared
          all := installed.elim (sharing.slots id).all (sharing.slots id).all.insert } →
    next.carries = none →
    position.dials = some id →
    next.dials = none →
    position.started = [] →
    Shares sharing position after next
  | claim (id : Nat) (conn : Conn) :
    sharing.state = some id →
    (sharing.slots id).shared = some conn →
    after =
      { sharing.setSlot id { sharing.slots id with claimed := true } with
        returned := sharing.returned ++ [(conn, !(sharing.slots id).claimed)] } →
    next.carries = none →
    position.dials = none →
    next.dials = none →
    position.started = [] →
    Shares sharing position after next
  | remove (id : Nat) (conn : Conn) :
    sharing.state = some id →
    ((sharing.slots id).shared = some conn ∨ conn ∈ (sharing.slots id).all) →
    after = sharing.setSlot id (sharing.without id conn) →
    next.carries = none →
    position.dials = none →
    next.dials = none →
    position.started = [] →
    Shares sharing position after next
  | renew :
    after =
      { sharing.setSlot sharing.nextState ⟨none, false, false, []⟩ with
        state := some sharing.nextState
        nextState := sharing.nextState + 1 } →
    next.carries = none →
    position.dials = none →
    next.dials = none →
    position.started = [] →
    Shares sharing position after next

namespace ConnPool

variable {Conn : Type} {options : ConnPoolOptions} (pool : ConnPool Conn)

/-! ## What is shared after each change -/

theorem sharing_updateState (id : Nat) (change : ConnPoolState Conn → ConnPoolState Conn) :
    (pool.updateState id change).sharing =
      pool.sharing.setSlot id (change (pool.states id)).slot := by
  simp only [sharing, updateState, Sharing.setSlot, Sharing.mk.injEq, true_and, and_true]
  funext other
  by_cases same : other = id <;> simp [same]

theorem sharing_updateState_same (id : Nat) (change : ConnPoolState Conn → ConnPoolState Conn)
    (same : (change (pool.states id)).slot = (pool.states id).slot) :
    (pool.updateState id change).sharing = pool.sharing := by
  rw [sharing_updateState, same]
  exact congrArg (fun slots => { pool.sharing with slots := slots })
    (Function.update_eq_self id pool.sharing.slots)

theorem sharing_cancelShared (ctx : Option Nat) (cause : Failure) :
    (pool.cancelShared ctx cause).sharing = pool.sharing := by
  cases ctx <;> rfl

theorem sharing_claim (id : Nat) (conn : Conn) :
    (pool.claim id conn).1.sharing =
      { pool.sharing.setSlot id { pool.sharing.slots id with claimed := true } with
        returned := pool.sharing.returned ++ [(conn, !(pool.sharing.slots id).claimed)] } :=
  congrArg
    (fun sharing : Sharing Conn =>
      { sharing with
        returned := pool.sharing.returned ++ [(conn, !(pool.sharing.slots id).claimed)] })
    (pool.sharing_updateState id fun state => { state with sharedClaimed := true })

theorem sharing_startConnect (id : Nat) :
    (pool.startConnect id).sharing =
      pool.sharing.setSlot id { pool.sharing.slots id with connecting := true } :=
  pool.sharing_updateState id fun state => { state with connecting := some pool.nextConnect }

variable [DecidableEq Conn]

theorem sharing_installShared (id : Nat) (conn : Conn) :
    (pool.installShared id conn).sharing =
      pool.sharing.setSlot id
        { pool.sharing.slots id with
          shared := some conn
          all := (pool.sharing.slots id).all.insert conn } :=
  pool.sharing_updateState id fun state =>
    { state with
      shared := some conn
      sharedCtx := some pool.nextContext
      all := state.all.insert conn }

theorem sharing_removeConn (isSingle : options.mode = .single) (id : Nat) (conn : Conn)
    (cause : Failure) :
    (pool.removeConn options id conn cause).sharing =
      pool.sharing.setSlot id (pool.sharing.without id conn) := by
  have isSlot : (pool.sharing.slots id).shared = (pool.states id).shared := rfl
  simp only [removeConn, isSingle, Sharing.without, isSlot]
  split
  · rw [sharing_cancelShared, sharing_updateState]
    rfl
  · rw [sharing_updateState]
    rfl

/-! ## What one step changes -/

/-- The change of a step, from its outcome. -/
def SharedOutcome (position : PoolPosition Conn) (outcome : PoolOutcome Conn) : Prop :=
  Shares pool.sharing position outcome.pool.sharing outcome.position ∧
    outcome.position.isOrdered = false

variable {pool} {position : PoolPosition Conn} {input : PoolInput Conn} {outcome : PoolOutcome Conn}

theorem shared_goto {next : PoolPosition Conn} (isFree : next.carries = none := by rfl)
    (sameDials : next.dials = position.dials := by rfl)
    (startsNone : position.started = [] := by rfl)
    (isSingle : next.isOrdered = false := by rfl) : pool.SharedOutcome position (pool.goto next) :=
  ⟨.keep rfl rfl rfl rfl (.inl rfl) isFree sameDials startsNone, isSingle⟩

theorem acquireShared_shares (isSingle : options.mode = .single) (ctx : Nat) (alive : Bool) :
    pool.SharedOutcome (.shared ctx) (pool.acquireShared options ctx alive) := by
  rw [acquireShared]
  split
  · exact shared_goto
  next id isCurrent =>
  split
  · next conn isShared =>
    split
    · exact ⟨.claim id conn isCurrent isShared (pool.sharing_claim id conn) rfl rfl rfl rfl, rfl⟩
    · exact ⟨.remove id conn isCurrent (.inl isShared)
        (pool.sharing_removeConn isSingle id conn _) rfl rfl rfl rfl, rfl⟩
  · exact shared_goto
  · next isUnshared notConnecting =>
    have notConnecting : (pool.states id).connecting.isSome = false := by
      rw [notConnecting]
      rfl
    exact ⟨.announce id isCurrent isUnshared notConnecting (pool.sharing_startConnect id)
      rfl rfl rfl rfl, rfl⟩

theorem collectShared_shares (isSingle : options.mode = .single) (ctx id connect : Nat)
    (startDial alive : Bool) :
    pool.SharedOutcome (.collect ctx id connect startDial)
      (pool.collectShared options ctx id connect startDial alive) := by
  rw [collectShared]
  split
  · split <;> exact shared_goto
  split
  · exact shared_goto
  next isOpen =>
  split
  · exact shared_goto
  next conn isShared =>
  have isCurrent := isCurrent_of_open isOpen
  split
  · exact ⟨.claim id conn isCurrent isShared (pool.sharing_claim id conn) rfl rfl rfl rfl, rfl⟩
  · exact ⟨.remove id conn isCurrent (.inl isShared)
      (pool.sharing_removeConn isSingle id conn _) rfl rfl rfl rfl, rfl⟩

theorem connectReturned_shares (ctx id connect : Nat) (stateFirst : Bool)
    (result : Except Failure Conn) :
    pool.SharedOutcome (.connectDial ctx id connect)
      (pool.connectReturned ctx id connect stateFirst result) := by
  cases result with
  | error => exact shared_goto
  | ok conn =>
    simp only [connectReturned]
    split
    · exact ⟨.dial conn rfl (.inl rfl) rfl rfl, rfl⟩
    · exact ⟨.dial conn rfl (.inr rfl) rfl rfl, rfl⟩

theorem connectInstall_shares (id connect : Nat) (result : Except Failure Conn) :
    pool.SharedOutcome (.connectInstall id connect result)
      (pool.connectInstall id connect result) := by
  have settled : (pool.updateState id fun state => { state with connecting := none }).sharing =
      pool.sharing.setSlot id { pool.sharing.slots id with connecting := false } :=
    pool.sharing_updateState id _
  cases result with
  | error => exact ⟨.settle id none (.inl rfl) settled rfl rfl rfl rfl, rfl⟩
  | ok conn =>
    simp only [connectInstall]
    split
    · exact ⟨.settle id none (.inl rfl) settled rfl rfl rfl rfl, rfl⟩
    refine ⟨.settle id (some conn) (.inr rfl) ?_ rfl rfl rfl rfl, rfl⟩
    refine (sharing_installShared _ id conn).trans ?_
    rw [settled]
    simp [Sharing.setSlot]

theorem release_shares (isSingle : options.mode = .single) (conn : Conn) (reuse alive : Bool) :
    pool.SharedOutcome (.release conn reuse) (pool.release options conn reuse alive) := by
  rw [release]
  split
  · exact shared_goto
  next id isCurrent =>
  split
  · exact shared_goto
  next isTracked =>
  split
  · exact ⟨.remove id conn isCurrent (.inr (not_not.mp isTracked))
      (pool.sharing_removeConn isSingle id conn _) rfl rfl rfl rfl, rfl⟩
  · rw [if_neg (by simp [isSingle])]
    exact shared_goto

theorem invalidate_shares (isSingle : options.mode = .single) (conn : Conn) (cause : Failure) :
    pool.SharedOutcome (.invalidate conn cause) (pool.invalidate options conn cause) := by
  rw [invalidate]
  split
  · exact shared_goto
  next id isCurrent =>
  split
  · exact shared_goto
  next isTracked =>
  exact ⟨.remove id conn isCurrent (.inr (not_not.mp isTracked))
    (pool.sharing_removeConn isSingle id conn _) rfl rfl rfl rfl, rfl⟩

theorem reset_shares : pool.SharedOutcome .reset pool.reset := by
  rw [reset]
  split
  · exact shared_goto
  have fresh := pool.sharing_updateState pool.nextState fun _ => {}
  refine ⟨.renew ?_ rfl rfl rfl rfl, rfl⟩
  exact congrArg (fun sharing =>
    { sharing with
      state := some pool.nextState
      nextState := pool.nextState + 1 }) fresh

theorem closePool_shares : pool.SharedOutcome .closePool pool.closePool := by
  rw [closePool]
  split
  · exact shared_goto
  · exact ⟨.keep rfl rfl rfl rfl (.inr rfl) rfl rfl rfl, rfl⟩

theorem next_shares (isSingle : options.mode = .single) (notOrdered : position.isOrdered = false)
    (isNext : pool.next options position input = some outcome) :
    pool.SharedOutcome position outcome := by
  cases position <;> try contradiction
  all_goals cases input <;> try cases isNext
  case shared.alive => exact acquireShared_shares isSingle _ _
  case startDial.go ctx id connect =>
    exact ⟨.start id (.connectDial ctx id connect) rfl rfl rfl rfl rfl rfl rfl, rfl⟩
  case wait.connected | wait.stateDone | closeState.visit | closeState.go =>
    rcases Option.ite_none_right_eq_some.mp isNext with ⟨-, ⟨⟩⟩
    exact shared_goto
  case wait.callerDone =>
    rcases Option.map_eq_some_iff.mp isNext with ⟨_, -, rfl⟩
    exact shared_goto
  case checkClosed.go => split <;> exact shared_goto
  case collect.alive => exact collectShared_shares isSingle _ _ _ _ _
  case connectDial.dialed => exact connectReturned_shares _ _ _ _ _
  case connectInstall.go => exact connectInstall_shares _ _ _
  case release.alive => exact release_shares isSingle _ _ _
  case invalidate.go => exact invalidate_shares isSingle _ _
  case reset.go => exact reset_shares
  case closePool.go => exact closePool_shares
  case cancelState.go id =>
    have same : (pool.cancelState id).pool.sharing = pool.sharing :=
      pool.sharing_updateState_same id _ rfl
    exact ⟨.keep (congrArg Sharing.slots same) rfl rfl rfl (.inl rfl) rfl rfl rfl, rfl⟩
  all_goals exact ⟨.keep rfl rfl rfl rfl (.inl rfl) rfl rfl rfl, rfl⟩

end ConnPool

end SingBox.Transport
