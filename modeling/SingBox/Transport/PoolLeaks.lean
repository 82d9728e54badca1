import SingBox.Transport.PoolLedger

/-! # No connection leaks from the pool

Every connection the dialer has returned is tracked in the current state, has
been passed to `options.Close`, or is owed by a goroutine: one that holds it, or
one that still has to visit it in a state that was replaced.
-/

namespace SingBox.Transport

open List Option Function Nat

variable {Conn : Type} (ledger : Ledger Conn) {actions : List (PoolAction Conn)}
  {position : PoolPosition Conn}

def Ledger.Tracked (conn : Conn) : Prop :=
  ∃ id, ledger.state = some id ∧ conn ∈ ledger.members id

def Ledger.Closed (conn : Conn) : Prop :=
  ∃ cause, (conn, cause) ∈ ledger.closes

/-- The goroutine still has to install the connection or to close it. -/
def PoolPosition.Owes (position : PoolPosition Conn) (conn : Conn) : Prop :=
  position.holds = some conn ∨
    ∃ id visited, position.closing = some (id, visited) ∧
      conn ∈ ledger.members id ∧ conn ∉ visited

/-- A state whose connections are being closed has been replaced. -/
def PoolPosition.Replaced (position : PoolPosition Conn) : Prop :=
  ∀ id visited, position.closing = some (id, visited) →
    id < ledger.nextState ∧ ledger.state ≠ some id ∧ ∀ conn ∈ visited, ledger.Closed conn

def Ledger.Formed : Prop :=
  ∀ id, ledger.state = some id → id < ledger.nextState

namespace Moves

variable [DecidableEq Conn] {ledger after : Ledger Conn} {position next : PoolPosition Conn}
  {id : Nat}

section

variable (moves : Moves ledger position after next)
include moves

theorem formed (isFormed : ledger.Formed) : after.Formed := by
  cases moves with
  | swap _ _ _ isNew =>
    rcases isNew with ⟨-, rfl⟩ | ⟨-, rfl⟩
    · nofun
    rintro id ⟨⟩
    exact lt_succ_self _
  | keep same | swept id visited same => exact same ▸ isFormed
  | dial conn same | install id conn _ same | drop id conn _ same | close conn cause same
  | visit _ _ _ _ same => subst same; exact isFormed

variable {conn : Conn} {other : PoolPosition Conn}

theorem closed_mono (isClosed : ledger.Closed conn) : after.Closed conn := by
  rcases isClosed with ⟨cause, member⟩
  cases moves with
  | close other otherCause same | visit id visited other otherCause same =>
    subst same
    exact ⟨cause, mem_append_left _ member⟩
  | swap _ _ _ isNew => rcases isNew with ⟨-, rfl⟩ | ⟨-, rfl⟩ <;> exact ⟨cause, member⟩
  | keep same | swept id visited same | dial other same | install id other _ same
  | drop _ _ _ same => subst same; exact ⟨cause, member⟩

theorem replaced_state (isOld : id < ledger.nextState) (isReplaced : ledger.state ≠ some id) :
    id < after.nextState ∧ after.state ≠ some id ∧ after.members id = ledger.members id := by
  cases moves with
  | install current conn isCurrent same | drop current conn isCurrent same =>
    subst same
    refine ⟨isOld, isReplaced, update_of_ne ?_ _ _⟩
    rintro rfl
    exact isReplaced isCurrent
  | swap _ _ _ isNew =>
    rcases isNew with ⟨-, rfl⟩ | ⟨-, rfl⟩
    · exact ⟨isOld, by simp, rfl⟩
    have isOther : id ≠ ledger.nextState := by omega
    refine ⟨lt_succ_of_lt isOld, ?_, update_of_ne isOther _ _⟩
    intro isNew
    exact isOther (some.inj isNew).symm
  | keep same | swept _ visited same | dial conn same | close conn cause same
  | visit _ _ _ _ same => subst same; exact ⟨isOld, isReplaced, rfl⟩

theorem replaced_other (isReplaced : other.Replaced ledger) : other.Replaced after := by
  intro id visited isClosing
  rcases isReplaced id visited isClosing with ⟨isOld, notCurrent, areClosed⟩
  rcases moves.replaced_state isOld notCurrent with ⟨isOld, notCurrent, -⟩
  exact ⟨isOld, notCurrent, fun conn member => moves.closed_mono (areClosed conn member)⟩

theorem owes_other (isReplaced : other.Replaced ledger) (owes : other.Owes ledger conn) :
    other.Owes after conn := by
  rcases owes with isHeld | ⟨id, visited, isClosing, member, notVisited⟩
  · exact .inl isHeld
  rcases isReplaced id visited isClosing with ⟨isOld, notCurrent, -⟩
  have same := (moves.replaced_state isOld notCurrent).2.2
  exact .inr ⟨id, visited, isClosing, same ▸ member, notVisited⟩

theorem replaced_next (isFormed : ledger.Formed) (isReplaced : position.Replaced ledger) :
    next.Replaced after := by
  have kept := moves.replaced_other isReplaced
  intro id visited isClosing
  cases moves with
  | keep same _ sameClosing => exact kept id visited (sameClosing ▸ isClosing)
  | swap _ _ isCurrent isNew _ _ nextClosing =>
    cases nextClosing.symm.trans isClosing
    have isOld := isFormed id isCurrent
    rcases isNew with ⟨-, rfl⟩ | ⟨-, rfl⟩
    · exact ⟨isOld, by simp, by simp⟩
    refine ⟨lt_succ_of_lt isOld, ?_, by simp⟩
    intro isNew
    exact Nat.ne_of_lt isOld (some.inj isNew).symm
  | visit _ visitedBefore _ cause same _ wasClosing nextClosing =>
    cases nextClosing.symm.trans isClosing
    rcases kept id visitedBefore wasClosing with ⟨isOld, notCurrent, areClosed⟩
    refine ⟨isOld, notCurrent, ?_⟩
    intro other member
    rcases mem_cons.mp member with rfl | member
    · subst same
      exact ⟨cause, mem_concat_self⟩
    · exact areClosed other member
  | swept _ _ _ _ _ _ nextClosing | dial _ _ _ _ _ nextClosing | install _ _ _ _ _ _ nextClosing
  | drop _ _ _ _ _ _ _ nextClosing | close _ _ _ _ _ nextClosing =>
    cases nextClosing.symm.trans isClosing

end

def Accounted (after : Ledger Conn) (next : PoolPosition Conn) (conn : Conn) : Prop :=
  after.Tracked conn ∨ after.Closed conn ∨ next.Owes after conn

variable (moves : Moves ledger position after next)
include moves

variable {conn : Conn}

theorem accounted_of_tracked (isFormed : ledger.Formed) (isTracked : ledger.Tracked conn) :
    Accounted after next conn := by
  rcases isTracked with ⟨id, isState, member⟩
  cases moves with
  | install current other isCurrent same =>
    cases isCurrent.symm.trans isState
    subst same
    refine .inl ⟨id, isState, ?_⟩
    simp only [update_self]
    exact mem_insert_of_mem member
  | drop _ other isCurrent same _ nextHolds =>
    cases isCurrent.symm.trans isState
    by_cases isDropped : conn = other
    · subst isDropped
      exact .inr (.inr (.inl nextHolds))
    subst same
    refine .inl ⟨id, isState, ?_⟩
    simp only [update_self]
    exact mem_filter.mpr ⟨member, by simpa using isDropped⟩
  | swap _ _ isCurrent isNew _ _ nextClosing =>
    cases isCurrent.symm.trans isState
    refine .inr (.inr (.inr ⟨id, [], nextClosing, ?_, by simp⟩))
    rcases isNew with ⟨-, rfl⟩ | ⟨-, rfl⟩
    · exact member
    · have isOther : id ≠ ledger.nextState := Nat.ne_of_lt (isFormed id isCurrent)
      simpa only [update_of_ne isOther] using member
  | keep same | swept _ visited same | dial other same | close other cause same
  | visit _ _ _ _ same => subst same; exact .inl ⟨id, isState, member⟩

theorem accounted_of_held (isHeld : position.holds = some conn) : Accounted after next conn := by
  cases moves with
  | keep _ sameHolds =>
    rcases sameHolds with isFree | sameHolds
    · cases isFree.symm.trans isHeld
    · exact .inr (.inr (.inl (sameHolds.trans isHeld)))
  | install current other isCurrent same wasHeld =>
    cases wasHeld.symm.trans isHeld
    subst same
    refine .inl ⟨current, isCurrent, ?_⟩
    simp only [update_self]
    exact mem_insert_self
  | close _ cause same wasHeld =>
    cases wasHeld.symm.trans isHeld
    subst same
    exact .inr (.inl ⟨cause, mem_concat_self⟩)
  | dial _ _ isFree | drop _ _ _ _ isFree | swap _ _ _ _ isFree | visit _ _ _ _ _ isFree
  | swept _ _ _ isFree => cases isFree.symm.trans isHeld

theorem accounted_of_closing {visited : List Conn}
    (isClosing : position.closing = some (id, visited)) (member : conn ∈ ledger.members id)
    (notVisited : conn ∉ visited) : Accounted after next conn := by
  cases moves with
  | keep same _ sameClosing =>
    subst same
    exact .inr (.inr (.inr ⟨id, visited, sameClosing.trans isClosing, member, notVisited⟩))
  | visit current before other cause same _ wasClosing nextClosing =>
    cases wasClosing.symm.trans isClosing
    subst same
    by_cases isClosed : conn = other
    · subst isClosed
      exact .inr (.inl ⟨cause, mem_concat_self⟩)
    · refine .inr (.inr (.inr ⟨id, other :: visited, nextClosing, member, ?_⟩))
      exact not_mem_cons_of_ne_of_not_mem isClosed notVisited
  | swept _ _ _ _ wasClosing areVisited =>
    cases wasClosing.symm.trans isClosing
    exact absurd (areVisited conn member) notVisited
  | dial _ _ _ _ notClosing | install _ _ _ _ _ notClosing | drop _ _ _ _ _ _ notClosing
  | close _ _ _ _ notClosing | swap _ _ _ _ _ notClosing => cases notClosing.symm.trans isClosing

theorem dialed_cases (isDialed : conn ∈ after.dialed) :
    conn ∈ ledger.dialed ∨ next.holds = some conn := by
  cases moves with
  | dial other same _ nextHolds =>
    subst same
    rcases mem_append.mp isDialed with earlier | last
    · exact .inl earlier
    · exact .inr (mem_singleton.mp last ▸ nextHolds)
  | swap _ _ _ isNew => rcases isNew with ⟨-, rfl⟩ | ⟨-, rfl⟩ <;> exact .inl isDialed
  | keep same | swept _ visited same | install _ other _ same | drop _ other _ same
  | close other cause same | visit _ visited other cause same => subst same; exact .inl isDialed

end Moves

/-! ## Whole runs -/

/-- Every connection of the dialer has one of its fates. -/
structure PoolSystem.Accounted (system : PoolSystem Conn) : Prop where
  formed : system.pool.ledger.Formed
  replaced : ∀ position ∈ system.threads, position.Replaced system.pool.ledger
  fates : ∀ conn ∈ system.pool.dialed,
    system.pool.ledger.Tracked conn ∨ system.pool.ledger.Closed conn ∨
      ∃ position ∈ system.threads, position.Owes system.pool.ledger conn

namespace PoolSystem.Accounted

variable {options : ConnPoolOptions} {system after : PoolSystem Conn}

theorem start : ({} : PoolSystem Conn).Accounted where
  formed := by
    rintro _ ⟨⟩
    exact Nat.zero_lt_one
  replaced := by simp
  fates := by simp

theorem closing_call (call : PoolCall Conn) : (call.position options).closing = none := by
  cases call <;> simp only [PoolCall.position] <;> first | rfl | (split <;> rfl)

theorem call (isAccounted : system.Accounted) (call : PoolCall Conn) :
    (system.call options call).Accounted where
  formed := isAccounted.formed
  replaced := by
    rw [PoolSystem.call, forall_mem_append, forall_mem_singleton]
    exact ⟨isAccounted.replaced, by simp [PoolPosition.Replaced, closing_call]⟩
  fates := by
    intro conn isDialed
    rcases isAccounted.fates conn isDialed with isTracked | isClosed | ⟨position, member, owes⟩
    · exact .inl isTracked
    · exact .inr (.inl isClosed)
    · exact .inr (.inr ⟨position, mem_append_left _ member, owes⟩)

variable [DecidableEq Conn]

theorem step (isAccounted : system.Accounted) {thread : Nat} {outcome : PoolOutcome Conn}
    (isAt : system.threads[thread]? = some position)
    (moves : system.pool.Outcome position outcome) :
    (system.moved thread position outcome).Accounted := by
  have isReplaced := isAccounted.replaced position (mem_of_getElem? isAt)
  have isNext := mem_set_self outcome.position isAt
  have wrap : ∀ {conn}, Moves.Accounted outcome.pool.ledger outcome.position conn →
      outcome.pool.ledger.Tracked conn ∨ outcome.pool.ledger.Closed conn ∨
        ∃ next ∈ system.threads.set thread outcome.position ++ position.started,
          next.Owes outcome.pool.ledger conn := by
    intro conn fate
    exact fate.imp_right (Or.imp_right fun owes =>
      ⟨outcome.position, mem_append_left _ isNext, owes⟩)
  refine ⟨moves.formed isAccounted.formed, ?_, ?_⟩
  · intro next member
    rcases mem_set_append_cases member with member | rfl | isStarted
    · exact moves.replaced_other (isAccounted.replaced next member)
    · exact moves.replaced_next isAccounted.formed isReplaced
    · rcases PoolPosition.eq_of_started isStarted with ⟨_, id, _, rfl⟩
      rintro id visited ⟨⟩
  · intro conn isDialed
    rcases moves.dialed_cases isDialed with wasDialed | isHeld
    · rcases isAccounted.fates conn wasDialed with isTracked | isClosed | ⟨other, member, owes⟩
      · exact wrap (moves.accounted_of_tracked isAccounted.formed isTracked)
      · exact .inr (.inl (moves.closed_mono isClosed))
      rcases eq_or_mem_set outcome.position isAt member with rfl | stays
      · rcases owes with isHeld | ⟨_, _, isClosing, isMember, notVisited⟩
        · exact wrap (moves.accounted_of_held isHeld)
        · exact wrap (moves.accounted_of_closing isClosing isMember notVisited)
      · have owes := moves.owes_other (isAccounted.replaced other member) owes
        exact .inr (.inr ⟨other, mem_append_left _ stays, owes⟩)
    · exact wrap (.inr (.inr (.inl isHeld)))

theorem next (isAccounted : system.Accounted) {action : PoolAction Conn}
    (isNext : system.next options action = some after) : after.Accounted := by
  cases action with
  | call call =>
    cases isNext
    exact isAccounted.call call
  | step =>
    rcases PoolSystem.step_cases isNext with ⟨_, _, isAt, isOutcome, rfl⟩
    exact isAccounted.step isAt (ConnPool.next_moves isOutcome)
  | expire =>
    cases isNext
    exact { isAccounted with }

theorem of_run (run : PoolRun options actions system) :
    system.Accounted :=
  run.preserves start fun isAccounted isNext => isAccounted.next isNext

end PoolSystem.Accounted

/-! ## The fate of every connection -/

namespace ConnPool

def Tracked (pool : ConnPool Conn) (conn : Conn) : Prop :=
  ∃ id, pool.state = some id ∧ conn ∈ (pool.states id).all

def PassedToClose (pool : ConnPool Conn) (conn : Conn) : Prop :=
  ∃ cause, (conn, cause) ∈ pool.closes

/-- `Reset` or `Close` has taken the state of the connection out of the pool
and has not passed the connection to `options.Close` yet. -/
def SweptOut (pool : ConnPool Conn) (position : PoolPosition Conn) (conn : Conn) : Prop :=
  ∃ id visited, position.closing = some (id, visited) ∧
    conn ∈ (pool.states id).all ∧ conn ∉ visited

end ConnPool

/-- No connection is on its way through the goroutine: it is not between the
return of a dial and the end of its install section, not between dropping a
connection and `options.Close`, and not in `closeState`. -/
def PoolPosition.Quiet (position : PoolPosition Conn) : Prop :=
  position.dialedConn = none ∧ position.droppedConn = none ∧ position.closing = none

theorem PoolPosition.holds_cases {conn : Conn} (isHeld : position.holds = some conn) :
    position.dialedConn = some conn ∨ position.droppedConn = some conn := by
  rcases or_eq_some_iff.mp isHeld with isDialed | ⟨-, isDropped⟩
  · exact .inl isDialed
  · exact .inr isDropped

theorem dialed_connections_accounted [DecidableEq Conn] {options : ConnPoolOptions}
    {actions : List (PoolAction Conn)} {system : PoolSystem Conn}
    (run : PoolRun options actions system) :
    (∀ conn ∈ system.pool.dialed, system.pool.Tracked conn ∨ system.pool.PassedToClose conn ∨
        ∃ position ∈ system.threads, position.dialedConn = some conn ∨
          position.droppedConn = some conn ∨ system.pool.SweptOut position conn) ∧
      (system.pool.closed → (∀ position ∈ system.threads, position.Quiet) →
        ∀ conn ∈ system.pool.dialed, system.pool.PassedToClose conn) := by
  have isAccounted := PoolSystem.Accounted.of_run run
  constructor
  · intro conn isDialed
    rcases isAccounted.fates conn isDialed with isTracked | isClosed | ⟨position, member, owes⟩
    · exact .inl isTracked
    · exact .inr (.inl isClosed)
    refine .inr (.inr ⟨position, member, ?_⟩)
    rcases owes with isHeld | isSwept
    · exact (PoolPosition.holds_cases isHeld).imp_right .inl
    · exact .inr (.inr isSwept)
  · intro isClosed areQuiet conn isDialed
    rcases isAccounted.fates conn isDialed with isTracked | isPassed | ⟨position, member, owes⟩
    · rcases isTracked with ⟨id, isState, -⟩
      have isNone : system.pool.state = none := isNone_iff_eq_none.mp isClosed
      cases isNone.symm.trans isState
    · exact isPassed
    · rcases areQuiet position member with ⟨notDialed, notDropped, notClosing⟩
      rcases owes with isHeld | ⟨_, _, isClosing, -⟩
      · rcases PoolPosition.holds_cases isHeld with isDialed | isDropped
        · cases notDialed.symm.trans isDialed
        · cases notDropped.symm.trans isDropped
      · cases notClosing.symm.trans isClosing

def dialAndClose : List (PoolAction Nat) :=
  [.call (.acquire 0), .step 0 (.alive true), .step 0 .go, .step 0 (.dialed (.ok 7) false),
    .step 0 .go, .call .close, .step 1 .go, .step 1 .go, .step 1 (.visit 7), .step 1 .go]

theorem dialed_connections_accounted_after_close :
    ∃ system, PoolRun ⟨.ordered, 1⟩ dialAndClose system ∧ system.pool.closed = true ∧
      7 ∈ system.pool.dialed ∧ system.pool.PassedToClose 7 := by
  have run : PoolRun ⟨.ordered, 1⟩ dialAndClose _ := Run.of_execute rfl
  have isDialed : 7 ∈ [7] := mem_singleton_self 7
  refine ⟨_, run, rfl, isDialed, (dialed_connections_accounted run).2 rfl ?_ 7 isDialed⟩
  intro _ member
  rcases mem_cons.mp member with rfl | member
  · exact ⟨rfl, rfl, rfl⟩
  · cases mem_singleton.mp member
    exact ⟨rfl, rfl, rfl⟩

/-- A connection is dialed and installed; `Reset` has replaced its state and is
not in `closeState` yet when `Close` runs to its end. -/
def closeDuringReset : List (PoolAction Nat) :=
  [.call (.acquire 0), .step 0 (.alive true), .step 0 .go, .step 0 (.dialed (.ok 7) false),
    .step 0 .go, .call .reset, .step 1 .go, .call .close, .step 2 .go, .step 2 .go, .step 2 .go]

/-- `Close` has returned and the dial has long finished, but the connection is
neither tracked nor closed: `Reset` still holds its state. -/
theorem replaced_connection_unclosed :
    ∃ system, PoolRun ⟨.ordered, 1⟩ closeDuringReset system ∧
      system.threads =
        [.finished (.ok (some { conn := 7, created := true })), .cancelState 0,
          .finished (.ok none)] ∧
      system.pool.closed = true ∧ 7 ∈ system.pool.dialed ∧ ¬system.pool.Tracked 7 ∧
      ¬system.pool.PassedToClose 7 := by
  have run : PoolRun ⟨.ordered, 1⟩ closeDuringReset _ := Run.of_execute rfl
  refine ⟨_, run, rfl, rfl, mem_singleton_self 7, ?_, ?_⟩
  · rintro ⟨_, isState, -⟩
    cases isState
  · rintro ⟨_, member⟩
    cases member

end SingBox.Transport
