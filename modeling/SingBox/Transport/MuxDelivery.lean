import SingBox.Transport.MuxIdentity

/-! # Responses and aborts hit the right query

In every run in which the server answers on a connection only what was asked on
it, a connection gets one reader, and no id is handed out that a reader of
another connection or a callback of an earlier query can still use, a message
completes a query of its connection and a callback the query it was made for.
-/

namespace SingBox.Transport

open List

variable {Conn : Type} {actions : List (MuxAction Conn)} {options : MultiplexerOptions}
  {mux : Multiplexer Conn} {action : MuxAction Conn} {input : MuxInput}

namespace Multiplexer

/-- When `register` hands out an id, no callback that was made for an earlier
query with this id can still look it up, and every other connection on which the
id was used has lost its reader; a message carries an id that was registered on
its connection; no connection gets a second reader. -/
structure SparesIds (mux : Multiplexer Conn) (action : MuxAction Conn) : Prop where
  register : ∀ thread input attempt conn connCtx created queryId, action = .step thread input →
    mux.threads[thread]? = some (.register attempt conn connCtx created) →
    mux.freeQueryId = some queryId →
    (∀ watch ∈ mux.watches, watch.queryId = queryId → watch.state ≠ .armed) ∧
      (∀ target registration, .take (.done target registration) queryId ∉ mux.threads) ∧
      ∀ other, (other, queryId) ∈ mux.registered → other = conn ∨ other ∈ mux.readersReturned
  read : ∀ thread conn message, action = .step thread (.received (.ok (some message))) →
    mux.threads[thread]? = some (.read conn) → (conn, message.id) ∈ mux.registered
  start : ∀ thread attempt poolThread conn connCtx, action = .step thread .go →
    mux.threads[thread]? = some (.acquiring attempt poolThread) →
    mux.poolResult poolThread = some (.ok (some ⟨conn, some connCtx, true⟩)) →
    conn ∉ mux.readersStarted

/-- Where the reader of each connection is: in a goroutine, or gone. -/
def readerAt (mux : Multiplexer Conn) : MuxPlace → Option Conn :=
  holder MuxPosition.reader PendingQuery.conn mux.threads (fun _ => none) mux.readersReturned

/-- Everybody who knows an id knows the query that has it, if any has. -/
structure Addressed (mux : Multiplexer Conn) : Prop where
  faithful : ∀ position ∈ mux.threads, mux.Faithful position
  watches : ∀ watch ∈ mux.watches, watch.state = .armed → ∀ pending,
    mux.queries watch.queryId = some pending → pending.registration = watch.registration
  connections : ∀ conn queryId pending, (conn, queryId) ∈ mux.registered →
    conn ∉ mux.readersReturned → mux.queries queryId = some pending → pending.conn = conn
  readers : Custody mux.readerAt (· ∈ mux.readersStarted)

namespace Addressed

variable {mux after : Multiplexer Conn}

theorem start : ({} : Multiplexer Conn).Addressed where
  faithful := by simp
  watches := by simp
  connections := by simp
  readers := .empty holder_empty (by simp)

variable {position : MuxPosition Conn} {conn : Conn} {thread connCtx : Nat} {attempt : Attempt}
  {created retry : Bool} {queryId : BitVec 16} {pending : PendingQuery Conn}

theorem not_returned (isAddressed : mux.Addressed) (isAt : mux.threads[thread]? = some position)
    (isReader : position.reader = some conn) : conn ∉ mux.readersReturned := by
  intro isReturned
  rcases mem_iff_getElem?.mp isReturned with ⟨index, isRecorded⟩
  have isHeld : mux.readerAt (.thread thread) = some conn := by
    simp only [readerAt, holder, isAt]
    exact isReader
  have samePlace := isAddressed.readers.unique isHeld
    (show mux.readerAt (.record index) = some conn from isRecorded)
  cases samePlace

theorem faithful_mono (isFaithful : mux.Faithful position)
    (grows : ∀ pair ∈ mux.registered, pair ∈ after.registered)
    (spares : ∀ target registration queryId pending,
      position = .take (.done target registration) queryId →
      after.queries queryId = some pending → mux.queries queryId = some pending) :
    after.Faithful position where
  __ := isFaithful
  reader conn message queryId isTake := grows _ (isFaithful.reader conn message queryId isTake)
  done target registration queryId isTake pending isPending :=
    isFaithful.done target registration queryId isTake pending
      (spares target registration queryId pending isTake isPending)

theorem faithful_congr (isFaithful : mux.Faithful position)
    (sameQueries : after.queries = mux.queries)
    (sameRegistered : after.registered = mux.registered) : after.Faithful position :=
  faithful_mono isFaithful (fun _ isRegistered => sameRegistered ▸ isRegistered)
    fun _ _ _ _ _ isPending => sameQueries ▸ isPending

variable {outcome : Outcome Conn}

theorem step_readers (isAddressed : mux.Addressed)
    (isAt : mux.threads[thread]? = some position) (alters : mux.Alters position outcome)
    (once : ∀ attempt poolThread conn connCtx, position = .acquiring attempt poolThread →
      mux.poolResult poolThread = some (.ok (some ⟨conn, some connCtx, true⟩)) →
      conn ∉ mux.readersStarted) :
    Custody
      (holder MuxPosition.reader PendingQuery.conn
        (mux.threads.set thread outcome.position ++ outcome.started) (fun _ => none)
        outcome.mux.readersReturned) (· ∈ outcome.mux.readersStarted) := by
  have noneStarted : ∀ fresh ∈ ([] : List (MuxPosition Conn)), fresh.reader = none := by simp
  have custody := isAddressed.readers
  cases alters with
  | keep _ _ _ sameStarted sameReturned sameReader startsNone =>
    rw [sameStarted, sameReturned, startsNone]
    exact custody_keep isAt noneStarted custody sameReader
  | register attempt conn connCtx _ _ _ next isRegister _ isOutcome =>
    subst isOutcome isRegister
    exact custody_keep isAt noneStarted custody rfl
  | startReader _ _ conn connCtx next isAcquiring isResult isFree isOutcome =>
    subst isOutcome isAcquiring
    have kept : Custody
        (holder MuxPosition.reader PendingQuery.conn (mux.threads.set thread next ++ [])
          (fun _ => none) mux.readersReturned) (· ∈ mux.readersStarted) :=
      custody_keep isAt noneStarted custody isFree
    rw [append_nil] at kept
    apply custody_begin kept rfl (once _ _ conn connCtx rfl isResult)
    intro _
    simp
  | returnReader _ isRead _ _ _ sameStarted isReturned isFree startsNone =>
    subst isRead
    rw [sameStarted, isReturned, startsNone]
    exact custody_settle isAt noneStarted custody rfl isFree

/-- What is under an id after `register`, unless it has handed out this id. -/
theorem queries_insertPending {other : BitVec 16} (isOther : other ≠ queryId) :
    (mux.insertPending attempt conn connCtx created retry queryId).queries other =
      mux.queries other :=
  Function.update_of_ne isOther _ mux.queries

theorem pending_of_insertPending
    (isPending : (mux.insertPending attempt conn connCtx created retry queryId).queries queryId =
      some pending) : pending.conn = conn ∧ pending.registration = mux.registrations := by
  simp only [insertPending, Function.update_self] at isPending
  cases isPending
  exact ⟨rfl, rfl⟩

section

variable (isAddressed : mux.Addressed) (alters : mux.Alters position outcome)
  (registers : ∀ attempt conn connCtx created queryId,
    position = .register attempt conn connCtx created → mux.freeQueryId = some queryId →
    (∀ watch ∈ mux.watches, watch.queryId = queryId → watch.state ≠ .armed) ∧
      (∀ target registration, .take (.done target registration) queryId ∉ mux.threads) ∧
      ∀ other, (other, queryId) ∈ mux.registered → other = conn ∨ other ∈ mux.readersReturned)
include isAddressed alters registers

theorem step_watches {watch : Watch} (member : watch ∈ outcome.mux.watches)
    (isArmed : watch.state = .armed)
    (isPending : outcome.mux.queries watch.queryId = some pending) :
    pending.registration = watch.registration := by
  cases alters with
  | keep stays armed =>
    exact isAddressed.watches watch (armed watch member isArmed) isArmed pending
      (stays _ _ isPending)
  | register attempt conn connCtx _ _ queryId next isRegister isFree isOutcome =>
    subst isOutcome
    rcases mem_append.mp member with earlier | isNew
    · have isOther : watch.queryId ≠ queryId := fun same =>
        (registers _ _ _ _ _ isRegister isFree).1 watch earlier same isArmed
      exact isAddressed.watches watch earlier isArmed pending
        ((queries_insertPending isOther).symm.trans isPending)
    · have isNew : watch.queryId = queryId ∧ watch.registration = mux.registrations := by
        rcases mem_pair.mp isNew with rfl | rfl <;> exact ⟨rfl, rfl⟩
      rw [isNew.1] at isPending
      exact (pending_of_insertPending isPending).2.trans isNew.2.symm
  | startReader _ _ conn _ _ _ _ _ isOutcome =>
    subst isOutcome
    exact isAddressed.watches watch member isArmed pending isPending
  | returnReader _ _ sameQueries sameWatches =>
    exact isAddressed.watches watch (sameWatches ▸ member) isArmed pending (sameQueries ▸ isPending)

theorem step_connections (member : (conn, queryId) ∈ outcome.mux.registered)
    (notReturned : conn ∉ outcome.mux.readersReturned)
    (isPending : outcome.mux.queries queryId = some pending) : pending.conn = conn := by
  cases alters with
  | keep stays _ sameRegistered _ sameReturned =>
    exact isAddressed.connections conn queryId pending (sameRegistered ▸ member)
      (sameReturned ▸ notReturned) (stays _ _ isPending)
  | register attempt _ connCtx _ _ free next isRegister isFree isOutcome =>
    subst isOutcome
    by_cases same : queryId = free
    · subst same
      have isConn := (pending_of_insertPending isPending).1
      rcases mem_append.mp member with earlier | isNew
      · rcases (registers _ _ _ _ _ isRegister isFree).2.2 conn earlier with rfl | isReturned
        · exact isConn
        · exact absurd isReturned notReturned
      · cases mem_singleton.mp isNew
        exact isConn
    · have wasPending := (queries_insertPending same).symm.trans isPending
      rcases mem_append.mp member with earlier | isNew
      · exact isAddressed.connections conn queryId pending earlier notReturned wasPending
      · cases mem_singleton.mp isNew
        exact absurd rfl same
  | startReader _ _ _ _ _ _ _ _ isOutcome =>
    subst isOutcome
    exact isAddressed.connections conn queryId pending member notReturned isPending
  | returnReader _ _ sameQueries _ sameRegistered _ isReturned =>
    have notBefore : conn ∉ mux.readersReturned := by
      intro wasReturned
      exact notReturned (isReturned ▸ mem_append_left _ wasReturned)
    exact isAddressed.connections conn queryId pending (sameRegistered ▸ member) notBefore
      (sameQueries ▸ isPending)

theorem step_others {other : MuxPosition Conn} (member : other ∈ mux.threads) :
    outcome.mux.Faithful other := by
  have isFaithful := isAddressed.faithful other member
  cases alters with
  | keep stays _ sameRegistered =>
    apply faithful_mono isFaithful
    · exact fun pair isRegistered => sameRegistered ▸ isRegistered
    · exact fun _ _ queryId pending _ isPending => stays queryId pending isPending
  | register attempt conn connCtx _ _ free next isRegister isFree isOutcome =>
    subst isOutcome
    apply faithful_mono isFaithful
    · exact fun pair isRegistered => mem_append_left _ isRegistered
    · intro target registration queryId _ isTake isPending
      have isOther : queryId ≠ free := by
        rintro rfl
        exact (registers _ _ _ _ _ isRegister isFree).2.1 target registration (isTake ▸ member)
      exact (queries_insertPending isOther).symm.trans isPending
  | startReader _ _ conn _ _ _ _ _ isOutcome =>
    subst isOutcome
    exact faithful_congr isFaithful rfl rfl
  | returnReader _ _ sameQueries _ sameRegistered =>
    exact faithful_congr isFaithful sameQueries sameRegistered

end

theorem started_faithful {next : MuxPosition Conn} (alters : mux.Alters position outcome)
    (isStarted : next ∈ outcome.started) : outcome.mux.Faithful next := by
  cases alters with
  | keep _ _ _ _ _ _ startsNone | returnReader conn _ _ _ _ _ _ _ startsNone =>
    rw [startsNone] at isStarted
    cases isStarted
  | register attempt conn connCtx _ _ _ next _ _ isOutcome =>
    subst isOutcome
    cases isStarted
  | startReader _ _ _ _ _ _ _ _ isOutcome =>
    subst isOutcome
    cases mem_singleton.mp isStarted
    exact .of_not_take trivial trivial rfl

variable [DecidableEq Conn] {options : MultiplexerOptions}

theorem step (isAddressed : mux.Addressed) (spares : mux.SparesIds (.step thread input))
    (isNext : mux.next options (.step thread input) = some after) : after.Addressed := by
  rcases step_cases isNext with ⟨position, outcome, isAt, isOutcome, rfl⟩
  have alters := step_alters isOutcome
  have isFaithful := isAddressed.faithful position (mem_of_getElem? isAt)
  have registers := fun attempt conn connCtx created queryId
      (isRegister : position = .register attempt conn connCtx created) =>
    spares.register thread input attempt conn connCtx created queryId rfl (isRegister ▸ isAt)
  refine ⟨?_, ?_, ?_, ?_⟩
  · intro _ member
    rcases mem_set_append_cases member with member | rfl | isStarted
    · exact faithful_congr (isAddressed.step_others alters registers member) rfl rfl
    · have isOwn : outcome.mux.Faithful outcome.position := by
        apply step_faithful isFaithful _ _ isOutcome
        · rintro conn message rfl rfl
          exact spares.read thread conn message rfl isAt
        · rintro conn message queryId pending rfl isPending
          -- The reader is still running, so the id belongs to its connection.
          exact isAddressed.connections conn queryId pending
            (isFaithful.reader conn message queryId rfl) (isAddressed.not_returned isAt rfl)
            isPending
      exact faithful_congr isOwn rfl rfl
    · exact faithful_congr (started_faithful alters isStarted) rfl rfl
  · intro _ member isArmed pending isPending
    exact isAddressed.step_watches alters registers member isArmed isPending
  · intro conn _ _ member notReturned isPending
    exact isAddressed.step_connections alters registers member notReturned isPending
  · apply isAddressed.step_readers isAt alters
    rintro attempt poolThread conn connCtx rfl isResult
    cases input with
    | go => exact spares.start thread attempt poolThread conn connCtx rfl isAt isResult
    | _ => cases isOutcome

theorem next (isAddressed : mux.Addressed) (spares : mux.SparesIds action)
    (isNext : mux.next options action = some after) : after.Addressed := by
  cases action with
  | exchange =>
    cases isNext
    refine ⟨?_, isAddressed.watches, isAddressed.connections, custody_start isAddressed.readers rfl⟩
    rw [forall_mem_append, forall_mem_singleton]
    refine ⟨fun position member => ?_, .of_not_take trivial trivial rfl⟩
    exact faithful_congr (isAddressed.faithful position member) rfl rfl
  | step => exact isAddressed.step spares isNext
  | fire =>
    rcases fire_cases isNext with ⟨watch, isAt, isArmed, -, rfl⟩
    refine ⟨?_, ?_, isAddressed.connections, custody_start isAddressed.readers rfl⟩
    · rw [forall_mem_append, forall_mem_singleton]
      refine ⟨fun position member => ?_, trivial, trivial, by simp, ?_⟩
      · exact faithful_congr (isAddressed.faithful position member) rfl rfl
      · rintro _ _ _ ⟨⟩
        exact isAddressed.watches watch (mem_of_getElem? isAt) isArmed
    · intro other member isArmed
      rcases mem_or_eq_of_mem_set member with member | rfl
      · exact isAddressed.watches other member isArmed
      · cases isArmed
  | pool =>
    rcases pool_cases isNext with ⟨_, -, rfl⟩
    refine ⟨?_, isAddressed.watches, isAddressed.connections, isAddressed.readers⟩
    intro position member
    exact faithful_congr (isAddressed.faithful position member) rfl rfl

theorem of_run (run : Run (fun before action after => before.next options action = some after ∧
      before.SparesIds action) {} actions mux) : mux.Addressed :=
  run.preserves start fun isAddressed isNext => isAddressed.next isNext.2 isNext.1

end Addressed

end Multiplexer

theorem completions_hit_their_queries [DecidableEq Conn] {options : MultiplexerOptions}
    {actions : List (MuxAction Conn)} {mux : Multiplexer Conn}
    (run : Run (fun before action after => before.next options action = some after ∧
      before.SparesIds action) {} actions mux) :
    ∀ position ∈ mux.threads, position.Right := by
  intro position member
  exact ((Multiplexer.Addressed.of_run run).faithful position member).right

/-- A check of the steps of a first query: nothing is registered before it, and
messages are read with ids that were registered. -/
def Multiplexer.isFirst [DecidableEq Conn] (mux : Multiplexer Conn) (thread : Nat)
    (input : MuxInput) : Bool :=
  match mux.threads[thread]?, input with
  | some (.register _ _ _ _), _ =>
    mux.watches.isEmpty && mux.registered.isEmpty && !mux.threads.any MuxPosition.takes
  | some (.read conn), .received (.ok (some message)) => mux.registered.contains (conn, message.id)
  | some (.acquiring _ _), _ => mux.readersStarted.isEmpty
  | _, _ => true

def Multiplexer.firstNext [DecidableEq Conn] (options : MultiplexerOptions)
    (mux : Multiplexer Conn) : MuxAction Conn → Option (Multiplexer Conn)
  | .step thread input =>
    if mux.isFirst thread input then mux.next options (.step thread input) else none
  | .exchange ctx message => mux.next options (.exchange ctx message)
  | .fire watch => mux.next options (.fire watch)
  | .pool action => mux.next options (.pool action)

theorem Multiplexer.sparesIds_of_first [DecidableEq Conn] {thread : Nat}
    (checked : mux.isFirst thread input = true) :
    mux.SparesIds (.step thread input) := by
  refine ⟨?_, ?_, ?_⟩
  · rintro _ _ attempt conn connCtx _ _ isStep isAt -
    cases isStep
    simp only [isFirst, isAt, Bool.and_eq_true, List.isEmpty_iff, Bool.not_eq_true',
      any_eq_false] at checked
    rcases checked with ⟨⟨noWatch, noneRegistered⟩, noTake⟩
    rw [noWatch, noneRegistered]
    exact ⟨by simp, fun _ _ member => noTake _ member rfl, by simp⟩
  · rintro _ conn _ isStep isAt
    cases isStep
    simpa only [isFirst, isAt, contains_iff_mem] using checked
  · rintro _ _ _ _ _ isStep isAt - member
    cases isStep
    simp only [isFirst, isAt, List.isEmpty_iff] at checked
    rw [checked] at member
    cases member

theorem Multiplexer.sparesIds_of_firstNext [DecidableEq Conn] {after : Multiplexer Conn}
    (isNext : mux.firstNext options action = some after) :
    mux.next options action = some after ∧ mux.SparesIds action := by
  cases action with
  | step =>
    rw [firstNext] at isNext
    split at isNext
    · next checked => exact ⟨isNext, sparesIds_of_first checked⟩
    · cases isNext
  | _ => exact ⟨isNext, by simp, by simp, by simp⟩

def askedFirst : List (MuxAction Nat) :=
  registeredQuery ++ [.step 0 (.written (.ok ()))]

theorem completions_hit_their_queries_first :
    ∃ mux pending,
      Run (fun (before : Multiplexer Nat) action after =>
        before.next { retryReadError := false, probeReuse := false } action = some after ∧
          before.SparesIds action)
        {} (askedFirst ++ [.step 1 (.received (.ok (some { id := 1 }))), .step 1 .go]) mux ∧
      mux.threads[1]? = some (.stopContext (.reader 7 { id := 1 }) pending) ∧
      (MuxPosition.stopContext (.reader 7 { id := 1 }) pending).Right := by
  have executed := Run.start.extend_execute Multiplexer.sparesIds_of_firstNext
    (rfl : Run.execute (Multiplexer.firstNext { retryReadError := false, probeReuse := false }) {}
      (askedFirst ++ [.step 1 (.received (.ok (some { id := 1 }))), .step 1 .go]) = some _)
  exact ⟨_, _, executed, rfl,
    completions_hit_their_queries executed _ (mem_of_getElem? (i := 1) rfl)⟩

/-- After a reset a second query is asked on a new connection. Then the reader of
the old connection, which is still running, gets a message with its id. -/
def answeredByOther : List (MuxAction Nat) :=
  askedFirst ++
  [.pool (.call .reset), .pool (.step 2 .go), .exchange 1 {}, .step 2 (.reuse false), .step 2 .go,
    .pool (.step 3 (.alive true)), .pool (.step 3 .go), .pool (.step 4 (.dialed (.ok 8) false)),
    .pool (.step 4 .go), .pool (.step 4 .go), .pool (.step 3 .connected),
    .pool (.step 3 (.alive true)), .step 2 .go, .step 2 .go, .step 2 (.written (.ok ())),
    .step 1 (.received (.ok (some { id := 2 }))), .step 1 .go]

/-- A message of connection 7 completes a query that was sent on connection 8. -/
theorem response_hits_other_connection :
    ∃ mux pending, MuxRun { retryReadError := false, probeReuse := false } answeredByOther mux ∧
      mux.threads[1]? = some (.stopContext (.reader 7 { id := 2 }) pending) ∧
      pending.conn = 8 ∧ pending.call = 1 :=
  ⟨_, _, Run.of_execute rfl, rfl, rfl, rfl⟩

end SingBox.Transport
