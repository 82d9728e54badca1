import SingBox.Transport.MuxCompletion

/-! # Messages and callbacks find their queries

Readers and the functions left with `context.AfterFunc` know a query by its id
only. They find the right one when every message carries an id that was
registered on its connection, every connection has one reader, and an id is
handed out again only when nobody who was given it before can still use it.
-/

namespace SingBox.Transport

open Option

variable {Conn : Type}

namespace Multiplexer

/-- The position is right, and a `take` to come will find the right query. -/
structure Faithful (mux : Multiplexer Conn) (position : MuxPosition Conn) : Prop where
  right : position.Right
  plain : position.Plain
  reader : ∀ conn message queryId, position = .take (.reader conn message) queryId →
    (conn, queryId) ∈ mux.registered
  done : ∀ target registration queryId, position = .take (.done target registration) queryId →
    ∀ pending, mux.queries queryId = some pending → pending.registration = registration

/-- The ways in which a step can change who knows which id. -/
inductive Alters (mux : Multiplexer Conn) (position : MuxPosition Conn) (outcome : Outcome Conn) :
    Prop
  | keep :
    (∀ queryId pending, outcome.mux.queries queryId = some pending →
      mux.queries queryId = some pending) →
    (∀ watch ∈ outcome.mux.watches, watch.state = .armed → watch ∈ mux.watches) →
    outcome.mux.registered = mux.registered →
    outcome.mux.readersStarted = mux.readersStarted →
    outcome.mux.readersReturned = mux.readersReturned →
    outcome.position.reader = position.reader →
    outcome.started = [] →
    Alters mux position outcome
  | register (attempt : Attempt) (conn : Conn) (connCtx : Nat) (created retry : Bool)
      (queryId : BitVec 16) (next : Write Conn) :
      position = .register attempt conn connCtx created →
      mux.freeQueryId = some queryId →
      outcome = (mux.insertPending attempt conn connCtx created retry queryId).goto (.write next) →
      Alters mux position outcome
  | startReader (attempt : Attempt) (poolThread : Nat) (conn : Conn) (connCtx : Nat)
      (next : MuxPosition Conn) :
      position = .acquiring attempt poolThread →
      mux.poolResult poolThread = some (.ok (some ⟨conn, some connCtx, true⟩)) →
      next.reader = none →
      outcome =
        { mux := { mux with readersStarted := mux.readersStarted ++ [conn] }
          position := next
          started := [.read conn] } →
      Alters mux position outcome
  | returnReader (conn : Conn) :
    position = .read conn →
    outcome.mux.queries = mux.queries →
    outcome.mux.watches = mux.watches →
    outcome.mux.registered = mux.registered →
    outcome.mux.readersStarted = mux.readersStarted →
    outcome.mux.readersReturned = mux.readersReturned ++ [conn] →
    outcome.position.reader = none →
    outcome.started = [] →
    Alters mux position outcome

variable {mux : Multiplexer Conn} {next position : MuxPosition Conn} {outcome : Outcome Conn}
  {pending : Option (PendingQuery Conn)} {taker : Taker Conn} {input : MuxInput}
  {options : MultiplexerOptions}

theorem step_alters [DecidableEq Conn]
    (isNext : mux.step options position input = some outcome) : mux.Alters position outcome := by
  cases step_does isNext with
  | go goes _ armed =>
    exact .keep (fun _ _ isPending => isPending) armed rfl rfl rfl goes.reader rfl
  | redispatch goes =>
    exact .keep (fun _ _ isPending => isPending) (fun _ member _ => member) rfl rfl rfl
      goes.reader rfl
  | startReader isAt isResult => exact .startReader _ _ _ _ _ isAt isResult rfl rfl
  | register isAt isFree => exact .register _ _ _ _ _ _ _ isAt isFree rfl
  | @take taker _ _ isAt =>
    subst isAt
    refine .keep (fun _ _ isPending => ?_) (fun _ member _ => member) rfl rfl rfl ?_ rfl
    · simp only [goto, Function.update_apply] at isPending
      split_ifs at isPending
      exact isPending
    · cases taker <;> rfl
  | returnReader isAt => exact .returnReader _ isAt rfl rfl rfl rfl rfl rfl rfl
  | @answer _ _ _ reading isAt =>
    subst isAt
    refine .keep (fun _ _ isPending => isPending) (fun _ member _ => member) rfl rfl rfl ?_ rfl
    cases reading <;> rfl
  | fail isAt | message isAt =>
    subst isAt
    exact .keep (fun _ _ isPending => isPending) (fun _ member _ => member) rfl rfl rfl rfl rfl

/-! ## What a goroutine will find -/

theorem Faithful.of_not_take (right : position.Right)
    (plain : position.Plain) (notTake : position.takes = false) : mux.Faithful position where
  right := right
  plain := plain
  reader _ _ _ isTake := by
    rw [isTake] at notTake
    cases notTake
  done _ _ _ isTake := by
    rw [isTake] at notTake
    cases notTake

/-- A goroutine goes on faithfully if a reader gets an id of its connection and
finds a query of its connection. -/
theorem step_faithful [DecidableEq Conn]
    (isFaithful : mux.Faithful position)
    (honest : ∀ conn message, position = .read conn → input = .received (.ok (some message)) →
      (conn, message.id) ∈ mux.registered)
    (finds : ∀ conn message queryId pending, position = .take (.reader conn message) queryId →
      mux.queries queryId = some pending → pending.conn = conn)
    (isNext : mux.step options position input = some outcome) :
    outcome.mux.Faithful outcome.position := by
  cases step_does isNext with
  | go goes | redispatch goes =>
    have ⟨right, plain, notTake⟩ := goes.right isFaithful.right isFaithful.plain
    exact .of_not_take right plain notTake
  | startReader | register => exact .of_not_take trivial trivial rfl
  | fail => exact ⟨trivial, trivial, by rintro _ _ _ ⟨⟩, by rintro _ _ _ ⟨⟩⟩
  | @take taker queryId pending isAt isPending =>
    subst isAt
    refine .of_not_take ?_ trivial rfl
    cases taker with
    | writer => trivial
    | reader conn message => exact finds conn message queryId pending rfl isPending
    | done target registration =>
      exact isFaithful.done target registration queryId rfl pending isPending
  | @answer _ _ _ reading => cases reading <;> exact .of_not_take trivial trivial rfl
  | returnReader => exact .of_not_take trivial ⟨trivial, rfl, trivial⟩ rfl
  | message isAt =>
    subst isAt
    refine ⟨trivial, trivial, ?_, by rintro _ _ _ ⟨⟩⟩
    rintro _ _ _ ⟨⟩
    have isPosition := congrArg (Option.map Outcome.position) isNext
    cases input with
    | received result =>
      rcases result with _ | _ | _ <;> cases isPosition
      exact honest _ _ rfl rfl
    | _ => cases isPosition

end Multiplexer

end SingBox.Transport
