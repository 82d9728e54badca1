import SingBox.Transport.Multiplexer
import SingBox.Foundation.Custody
import SingBox.Foundation.Update

/-! # Who has to complete a query

A call of `ExchangeAsync` that is not answered yet is in the hands of one
goroutine or of one entry of `queries`, and so is a registration whose fate is
not settled. Every step of a goroutine passes these on in one of five ways.
-/

namespace SingBox.Transport

open List Option Function

variable {Conn : Type}

/-- The entry is the one that this round of `exchangeAsync` has registered. -/
def Write.Owns (write : Write Conn) (pending : PendingQuery Conn) : Prop :=
  pending.registration = write.registration ∧ pending.call = write.request.call

/-- A goroutine may complete the query: a reader one of its own connection, a
callback the one it was made for. -/
def Taker.Right (pending : PendingQuery Conn) : Taker Conn → Prop
  | .writer _ _ => True
  | .reader conn _ => pending.conn = conn
  | .done _ registration => pending.registration = registration

namespace MuxPosition

def call : MuxPosition Conn → Option Nat
  | .dispatch request _ | .singleDial request | .singleWrite request | .singleRead request =>
    some request.call
  | .acquire attempt | .acquiring attempt _ | .register attempt _ _ _ => some attempt.request.call
  | .write _ => none
  | .take _ _ => none
  | .stopContext _ pending | .stopConn _ pending => some pending.call
  | .taken _ pending => pending.map PendingQuery.call
  | .await _ following => following.call
  | .answer call _ _ _ => some call
  | .read _ => none
  | .finished => none

/-- The registration that the goroutine has removed and has to settle. -/
def registration : MuxPosition Conn → Option Nat
  | .stopContext _ pending | .stopConn _ pending => some pending.registration
  | .taken _ pending => pending.map PendingQuery.registration
  | .await _ following => following.registration
  | .answer _ registration _ _ => registration
  | _ => none

/-- The write that the goroutine is in, or after which it has to call `take`. -/
def writer : MuxPosition Conn → Option (Write Conn)
  | .write round => some round
  | .take (.writer round _) _ => some round
  | _ => none

/-- What `take` has returned to a goroutine after a failed write is the query
of this write. -/
def Owned : MuxPosition Conn → Prop
  | .take (.writer round _) queryId => queryId = round.queryId
  | .stopContext (.writer round _) pending | .stopConn (.writer round _) pending
  | .taken (.writer round _) (some pending) => round.Owns pending
  | .await _ following => following.writer = none ∧ following.Owned
  | _ => True

/-- The next step may change `queries`. -/
def touches : MuxPosition Conn → Bool
  | .register _ _ _ _ => true
  | .take _ _ => true
  | _ => false

/-- The goroutine has removed a query that it may complete. -/
def Right : MuxPosition Conn → Prop
  | .stopContext taker pending | .stopConn taker pending | .taken taker (some pending) =>
    taker.Right pending
  | _ => True

def reader : MuxPosition Conn → Option Conn
  | .take (.reader conn _) _ | .stopContext (.reader conn _) _ | .stopConn (.reader conn _) _
  | .taken (.reader conn _) _ => some conn
  | .await _ following => following.reader
  | .answer _ _ _ reading => reading
  | .read conn => some conn
  | _ => none

def takes : MuxPosition Conn → Bool
  | .take _ _ => true
  | _ => false

/-- What waits for the pool is not in `take`. -/
def Plain : MuxPosition Conn → Prop
  | .await _ following => following.Right ∧ following.takes = false ∧ following.Plain
  | _ => True

/-- The goroutine goes on with its query and does not start a write or a `take`. -/
structure Goes (position next : MuxPosition Conn) : Prop where
  call : position.Owned → next.call = position.call
  owned : position.Owned → next.writer = none ∧ next.Owned
  reader : next.reader = position.reader
  right : position.Right → position.Plain → next.Right ∧ next.Plain ∧ next.takes = false

/-- Nothing depends on what the goroutine finds in the entries. -/
def idle : MuxPosition Conn → Bool
  | .write _ | .take _ _ | .stopContext _ _ | .stopConn _ _ | .taken _ (some _) => false
  | .await _ following => following.idle
  | _ => true

theorem spec_idle {position : MuxPosition Conn} (isIdle : position.idle = true) :
    (position.writer = none ∧ position.Owned) ∧ position.Right ∧ position.Plain ∧
      position.takes = false := by
  induction position with
  | taken taker pending =>
    cases pending with
    | none => simp [writer, Owned, Right, Plain, takes]
    | some pending => cases isIdle
  | await _ following induction =>
    have ⟨owned, right⟩ := induction isIdle
    exact ⟨⟨rfl, owned⟩, trivial, ⟨right.1, right.2.2, right.2.1⟩, rfl⟩
  | _ => simp_all [idle, writer, Owned, Right, Plain, takes]

end MuxPosition

/-- Where calls and registrations are kept, apart from goroutines. -/
structure Books (Conn : Type) where
  calls : Nat
  registrations : Nat
  queries : BitVec 16 → Option (PendingQuery Conn)
  answers : List Nat
  fates : List Nat

def Multiplexer.books (mux : Multiplexer Conn) : Books Conn where
  calls := mux.calls
  registrations := mux.registrations
  queries := mux.queries
  answers := mux.answers.map Prod.fst
  fates := mux.fates.map Prod.fst

/-- The ways in which a step of a goroutine can pass on what it has to do. -/
inductive Passes (books : Books Conn) (position : MuxPosition Conn) (after : Books Conn)
    (next : MuxPosition Conn) : Prop
  | keep :
    after = books →
    next.call = position.call →
    next.registration = position.registration →
    Passes books position after next
  | register (queryId : BitVec 16) (pending : PendingQuery Conn) :
    books.queries queryId = none →
    pending.registration = books.registrations →
    after =
      { books with
        registrations := books.registrations + 1
        queries := update books.queries queryId (some pending) } →
    position.call = some pending.call →
    position.registration = none →
    next.call = none →
    next.registration = none →
    Passes books position after next
  | take (queryId : BitVec 16) (pending : PendingQuery Conn) :
    books.queries queryId = some pending →
    after = { books with queries := update books.queries queryId none } →
    position.call = none →
    position.registration = none →
    next.call = some pending.call →
    next.registration = some pending.registration →
    Passes books position after next
  | answer (call : Nat) (registration : Option Nat) :
    after =
      { books with
        answers := books.answers ++ [call]
        fates := books.fates ++ registration.toList } →
    position.call = some call →
    position.registration = registration →
    next.call = none →
    next.registration = none →
    Passes books position after next
  | redispatch (registration : Nat) :
    after = { books with fates := books.fates ++ [registration] } →
    next.call = position.call →
    position.registration = some registration →
    next.registration = none →
    Passes books position after next

theorem nextQueryId_free {isPending : BitVec 16 → Bool} {start queryId found : BitVec 16}
    {fuel : Nat} (isFound : nextQueryId isPending start fuel queryId = some found) :
    isPending found = false := by
  induction fuel generalizing queryId with
  | zero => cases isFound
  | succ _ induction =>
    rw [nextQueryId] at isFound
    split at isFound
    · next isFree =>
      cases isFound
      simpa using isFree
    · split_ifs at isFound
      exact induction isFound

namespace Multiplexer

variable {mux : Multiplexer Conn} {queryId : BitVec 16} {taker : Taker Conn} {input : MuxInput}

/-- What a step passes on, with goroutines started that have nothing to do. -/
structure PassesOn (mux : Multiplexer Conn) (position : MuxPosition Conn)
    (outcome : Outcome Conn) : Prop where
  passes : Passes mux.books position outcome.mux.books outcome.position
  untouched : position.touches = false → outcome.mux.queries = mux.queries
  started : ∀ next ∈ outcome.started, next.call = none ∧ next.registration = none ∧
    next.writer = none ∧ next.Owned

inductive Does (mux : Multiplexer Conn) (position : MuxPosition Conn) : Outcome Conn → Prop
  | go {pool readEpoch watches next} :
    position.Goes next →
    (position.Owned → next.registration = position.registration) →
    (∀ watch ∈ watches, watch.state = .armed → watch ∈ mux.watches) →
    Does mux position
      ({ mux with pool := pool, readEpoch := readEpoch, watches := watches }.goto next)
  | redispatch {pool registration next} :
    position.Goes next →
    (position.Owned → position.registration = some registration) →
    next.registration = none →
    Does mux position (({ mux with pool := pool }.settle registration .redispatched).goto next)
  | startReader {attempt poolThread conn connCtx} :
    position = .acquiring attempt poolThread →
    mux.poolResult poolThread = some (.ok (some ⟨conn, some connCtx, true⟩)) →
    Does mux position
      { mux := { mux with readersStarted := mux.readersStarted ++ [conn] }
        position := .register attempt conn connCtx true
        started := [.read conn] }
  | register {attempt conn connCtx created retry queryId} :
    position = .register attempt conn connCtx created →
    mux.freeQueryId = some queryId →
    Does mux position
      ((mux.insertPending attempt conn connCtx created retry queryId).goto
        (.write
          { toAttempt := attempt, conn := conn, created := created, queryId := queryId,
            registration := mux.registrations }))
  | fail {write err} :
    position = .write write →
    Does mux position (mux.goto (.take (.writer write err) write.queryId))
  | take {taker queryId pending} :
    position = .take taker queryId →
    mux.queries queryId = some pending →
    Does mux position
      ({ mux with queries := update mux.queries queryId none }.goto
        (.stopContext taker pending))
  | answer {call registration result reading} :
    position = .answer call registration result reading →
    Does mux position
      ((mux.callback call registration result).goto (reading.elim .finished .read))
  | returnReader {pool conn} :
    position = .read conn →
    Does mux position
      ({ mux with pool := pool, readersReturned := mux.readersReturned ++ [conn] }.goto
        (mux.awaiting .finished))
  | message {readEpoch conn message} :
    position = .read conn →
    Does mux position
      ({ mux with readEpoch := readEpoch }.goto (.take (.reader conn message) message.id))

variable {options : MultiplexerOptions} {outcome : Outcome Conn} {position : MuxPosition Conn}
  {pending : Option (PendingQuery Conn)} {next : MuxPosition Conn}

theorem goes_idle (isIdle : next.idle = true) (call : position.Owned → next.call = position.call)
    (reader : next.reader = position.reader) :
    position.Goes next :=
  ⟨call, fun _ => (MuxPosition.spec_idle isIdle).1, reader,
    fun _ _ => (MuxPosition.spec_idle isIdle).2⟩

theorem Does.idle {pool : PoolSystem Conn} {readEpoch : Conn → BitVec 64}
    (isIdle : next.idle = true := by rfl) (reader : next.reader = position.reader := by rfl)
    (call : position.Owned → next.call = position.call := by exact fun _ => rfl)
    (registration : position.Owned → next.registration = position.registration := by
      exact fun _ => rfl) :
    mux.Does position ({ mux with pool := pool, readEpoch := readEpoch }.goto next) :=
  .go (goes_idle isIdle call reader) registration fun _ member _ => member

theorem mem_of_stopWatch {index : Nat} {watch : Watch}
    (member : watch ∈ (mux.stopWatch index).watches) (isArmed : watch.state = .armed) :
    watch ∈ mux.watches := by
  rcases mem_iff_getElem?.mp member with ⟨_, isAt⟩
  rw [stopWatch, getElem?_modify] at isAt
  rcases map_eq_some_iff.mp isAt with ⟨_, wasAt, isWatch⟩
  have wasMember := mem_of_getElem? wasAt
  split at isWatch
  · split at isWatch
    · subst isWatch
      cases isArmed
    · exact isWatch ▸ wasMember
  · exact isWatch ▸ wasMember

theorem takenBy_does (isNext : mux.takenBy pending taker = some outcome) :
    mux.Does (.taken taker pending) outcome := by
  rcases taker with ⟨write, _⟩ | ⟨_, _⟩ | ⟨target, _⟩
  · cases isNext
    cases pending with
    | none => exact .idle
    | some pending =>
      have isCall : write.Owns pending → some write.request.call = some pending.call :=
        fun owns => congrArg some owns.2.symm
      rw [writeFailed]
      split
      · exact .redispatch (goes_idle rfl isCall rfl) (fun owns => congrArg some owns.1) rfl
      · exact .idle rfl rfl isCall fun owns => congrArg some owns.1.symm
  · cases isNext
    cases pending <;> exact .idle
  · cases target <;> cases pending <;> try cases isNext
    · exact .idle
    · rcases map_eq_some_iff.mp isNext with ⟨_, -, rfl⟩
      exact .idle
    · exact .idle
    · rcases map_eq_some_iff.mp isNext with ⟨_, -, rfl⟩
      split
      · exact .redispatch (goes_idle rfl (fun _ => rfl) rfl) (fun _ => rfl) rfl
      · exact .idle

theorem step_does [DecidableEq Conn]
    (isNext : mux.step options position input = some outcome) : mux.Does position outcome := by
  -- Only one kind of input goes with a position.
  cases position <;> cases input <;> try cases isNext
  case singleDial.dialed result | singleWrite.written result =>
    cases result <;> cases isNext <;> exact .idle
  case dispatch.reuse =>
    rw [dispatch]
    split <;> exact .idle
  case singleRead.received result =>
    rcases result with _ | _ | _ <;> exact .idle
  case acquire.go => exact .idle
  case acquiring.go =>
    rcases bind_eq_some_iff.mp isNext with ⟨result, isResult, isNext⟩
    unfold acquired at isNext
    split at isNext
    · cases isNext
      exact .idle
    · split at isNext
      · next isCreated =>
        subst isCreated
        cases isNext
        exact .startReader rfl isResult
      · cases isNext
        exact .idle
    · cases isNext
  case register.go =>
    rw [register]
    split
    · exact .idle
    · next isFree => exact .register rfl isFree
  case write.written result =>
    cases result <;> cases isNext
    · exact .fail rfl
    · exact .idle
  case take.go taker _ =>
    rw [take]
    split
    · cases taker <;> exact .idle
    · next isPending => exact .take rfl isPending
  case stopContext.go taker _ | stopConn.go taker _ =>
    refine .go ⟨fun _ => rfl, fun isOwned => ?_, ?_, fun right _ => ?_⟩ (fun _ => rfl)
      fun _ => mem_of_stopWatch
    · cases taker <;> exact ⟨rfl, isOwned⟩
    · cases taker <;> rfl
    · exact ⟨right, trivial, rfl⟩
  case taken.go => exact takenBy_does isNext
  case await.go =>
    rcases map_eq_some_iff.mp isNext with ⟨result, -, rfl⟩
    exact .go ⟨fun _ => rfl, id, rfl, fun _ plain => ⟨plain.1, plain.2.2, plain.2.1⟩⟩
      (fun _ => rfl) fun _ member _ => member
  case answer.go => exact .answer rfl
  case read.received result =>
    rcases result with _ | _ | _
    · exact .returnReader rfl
    · exact .idle
    · exact .message rfl

theorem step_passes [DecidableEq Conn] (isOwned : position.Owned)
    (isNext : mux.step options position input = some outcome) : mux.PassesOn position outcome := by
  cases step_does isNext with
  | go goes same =>
    exact ⟨.keep rfl (goes.call isOwned) (same isOwned), fun _ => rfl, by simp [goto]⟩
  | redispatch goes held free =>
    refine ⟨.redispatch _ ?_ (goes.call isOwned) (held isOwned) free, fun _ => rfl, by simp [goto]⟩
    simp [books, goto, settle]
  | startReader isAt =>
    subst isAt
    refine ⟨.keep rfl rfl rfl, fun _ => rfl, ?_⟩
    rw [forall_mem_singleton]
    exact ⟨rfl, rfl, rfl, trivial⟩
  | register isAt isFree =>
    subst isAt
    have notPending := isSome_eq_false_iff.mp (nextQueryId_free isFree)
    exact ⟨.register _ _ (isNone_iff_eq_none.mp notPending) rfl rfl rfl rfl rfl rfl,
      (fun isUntouched => nomatch isUntouched), by simp [goto]⟩
  | take isAt isPending =>
    subst isAt
    exact ⟨.take _ _ isPending rfl rfl rfl rfl rfl, (fun isUntouched => nomatch isUntouched),
      by simp [goto]⟩
  | @answer call registration _ reading isAt =>
    subst isAt
    refine ⟨.answer call registration ?_ rfl rfl ?_ ?_, fun _ => rfl, by simp [goto]⟩
    · cases registration <;> simp [books, goto, callback]
    · cases reading <;> rfl
    · cases reading <;> rfl
  | fail isAt | returnReader isAt | message isAt =>
    subst isAt
    exact ⟨.keep rfl rfl rfl, fun _ => rfl, by simp [goto]⟩

/-! ## Writes -/

/-- The entry under the id of a write is the one of this write. -/
def Guards (mux : Multiplexer Conn) (position : MuxPosition Conn) : Prop :=
  ∀ round pending, position.writer = some round → mux.queries round.queryId = some pending →
    round.Owns pending

theorem Guards.of_none (isFree : position.writer = none) : mux.Guards position := by
  intro _ _ isWriter
  cases isFree.symm.trans isWriter

/-- A goroutine gets into a write only by registering its query, and keeps to
the query of its write. -/
theorem step_owned [DecidableEq Conn] (isOwned : position.Owned)
    (guards : mux.Guards position) (isNext : mux.step options position input = some outcome) :
    outcome.position.Owned ∧ outcome.mux.Guards outcome.position := by
  cases step_does isNext with
  | go goes | redispatch goes => exact ⟨(goes.owned isOwned).2, .of_none (goes.owned isOwned).1⟩
  | startReader => exact ⟨trivial, .of_none rfl⟩
  | register =>
    refine ⟨trivial, ?_⟩
    rintro round pending ⟨⟩ isPending
    simp only [goto, insertPending, update_self] at isPending
    cases isPending
    exact ⟨rfl, rfl⟩
  | fail isAt =>
    subst isAt
    refine ⟨rfl, ?_⟩
    rintro _ pending ⟨⟩
    exact guards _ pending rfl
  | @take taker queryId pending isAt isPending =>
    subst isAt
    cases taker with
    | writer round =>
      have sameId : queryId = round.queryId := isOwned
      exact ⟨guards round pending rfl (sameId ▸ isPending), .of_none rfl⟩
    | _ => exact ⟨trivial, .of_none rfl⟩
  | @answer _ _ _ reading => cases reading <;> exact ⟨trivial, .of_none rfl⟩
  | returnReader => exact ⟨⟨rfl, trivial⟩, .of_none rfl⟩
  | message => exact ⟨trivial, .of_none rfl⟩

/-! ## Entries -/

/-- An entry after a step was there before, or was made by `register` under the
id it hands out. -/
theorem step_queries [DecidableEq Conn] (isNext : mux.step options position input = some outcome)
    {pending : PendingQuery Conn} (isPending : outcome.mux.queries queryId = some pending) :
    mux.queries queryId = some pending ∨
      ∃ attempt conn connCtx created, position = .register attempt conn connCtx created ∧
        mux.freeQueryId = some queryId ∧ pending.conn = conn ∧
        pending.registration = mux.registrations := by
  cases step_does isNext with
  | register isAt isFree =>
    simp only [goto, insertPending, update_apply] at isPending
    split at isPending
    · next same =>
      subst same
      cases isPending
      exact .inr ⟨_, _, _, _, isAt, isFree, rfl, rfl⟩
    · exact .inl isPending
  | take =>
    simp only [goto, update_apply] at isPending
    split_ifs at isPending
    exact .inl isPending
  | _ => exact .inl isPending

end Multiplexer

end SingBox.Transport
