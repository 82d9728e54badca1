import SingBox.Dns.Client
import SingBox.Foundation.KeyedLock

/-! # Deduplication of queries

`Exchange` and `ExchangeAsync` as far as they share the locks of cache keys. A
call is cut before each access to shared state: the `LoadOrStore` of its key,
the wait for the channel it found, the read of the cache, the RDRC, the answer
of the transport, the `Delete` and the `close` of a release, and its return or
callback. What is found in the cache and in the RDRC, the answers of transports
and the environment at the time are part of an action, so a run has them in any
order.

A channel is named by the call that made it. A call also records what it did to
the map and to its channel, and who called it; the client does not look at that.
-/

namespace SingBox.Dns.Deduplication

open Function

inductive Result
  | formatError
  | strategyRejected
  | cached
  | optimistic
  | canceled
  | loopback (transportTag : Bytes)
  | rejectedCached
  | failed
  | rejected
  | exchanged
  deriving DecidableEq

inductive Stage
  | entering (call : Call) (allowWait : Bool)
  | waiting (started : Operation) (channel : Nat)
  | loading (started : Operation)
  | checking (started : Operation)
  | exchanging (started : Operation)
  | releasing (started : Operation) (result : Result)
  | closing (call : Call) (result : Result)
  | finishing (call : Call) (result : Result)
  | returned (call : Call) (result : Result)

/-- A call with the keys it has put into `cacheLock` and deleted from it, how
often it has closed its channel, and how often its callback was invoked. The
calls under whose contexts it runs stand with the innermost first. -/
structure Progress where
  async : Bool
  enclosing : List Nat
  stage : Stage
  stored : List DNSCacheKey := []
  deleted : List DNSCacheKey := []
  closed : Nat := 0
  callbacks : Nat := 0

structure State where
  cacheLock : DNSCacheKey → Option Nat
  backgroundRefresh : DNSCacheKey → Bool
  calls : Nat → Option Progress

def State.initial : State where
  cacheLock _ := none
  backgroundRefresh _ := false
  calls _ := none

/-- The key of the lock that `releaseCond` gives back. -/
def lock (started : Operation) : Option DNSCacheKey :=
  if started.holdsLock then started.cacheKey else none

namespace Stage

def call : Stage → Call
  | .entering call _ => call
  | .waiting started _ | .loading started | .checking started | .exchanging started
  | .releasing started _ => started.call
  | .closing call _ | .finishing call _ | .returned call _ => call

def owned : Stage → Option DNSCacheKey
  | .loading started | .checking started | .exchanging started | .releasing started _ =>
    lock started
  | _ => none

/-- Whether the context of the operation has been given to the transport. -/
def sent : Stage → Bool
  | .exchanging _ | .releasing _ _ | .closing _ _ | .finishing _ _ | .returned _ _ => true
  | _ => false

end Stage

namespace State

variable (state : State)

def owns (id : Nat) : Option DNSCacheKey := (state.calls id).bind fun progress =>
  progress.stage.owned

def isClosed (channel : Nat) : Bool :=
  (state.calls channel).any fun progress => decide (0 < progress.closed)

/-- The calls that enclose a new one whose context comes from the transport of
an outer call. -/
def enclosing (call : Call) : Option Nat → Option (List Nat)
  | none => some []
  | some outer =>
    (state.calls outer).bind fun progress =>
      if progress.stage.sent ∧ call.contextTag = some progress.stage.call.transportTag then
        some (outer :: progress.enclosing)
      else none

end State

/-! ## The steps of a call -/

/-- What a step of a call does beside going on. -/
inductive Effect
  | none
  | store (key : DNSCacheKey)
  | refresh (key : DNSCacheKey)
  | delete (key : DNSCacheKey)
  | close
  | finish

/-- `found` tells whether a cached response is stale; `listed` is the answer of
the RDRC. -/
inductive Move
  | enter (environment : BitVec 64)
  | wake (environment : BitVec 64)
  | cancel
  | load (found : Option Bool)
  | check (listed : Bool)
  | deliver (result : TransportResult)
  | release
  | close
  | finish

/-- The operation of a call that has waited: its key is computed anew, and the
lock is not its own. -/
def rekey (client : ClientOptions) (started : Operation) (environment : BitVec 64) : Operation :=
  { started with
    holdsLock := false
    cacheKey := some (newCacheKey client started.call.transportTag environment
      started.question started.message started.call.options)
    keyed := started.keyed_anew client environment }

/-- How an exchange ends once the transport has answered. -/
def answered (started : Operation) (result : TransportResult) : Result :=
  match exchangeToTransport started.message result with
  | none => .failed
  | some response =>
    if ClientState.rejects started.call.responseChecker response then .rejected else .exchanged

/-- The cache key of a call, unless it does not use the cache. -/
def requestKey (client : ClientOptions) (call : Call) (environment : BitVec 64) :
    Option DNSCacheKey :=
  match asks : call.message.question.head? with
  | none => none
  | some question => (ClientState.operation client call question environment asks).cacheKey

namespace Stage

variable (client : ClientOptions) (state : State)

/-- `beginExchange` up to the lock of the key. A call that must not wait is made
anew by a goroutine that may. -/
def enter (call : Call) (allowWait : Bool) (environment : BitVec 64) : Stage × Effect :=
  match asks : call.message.question.head? with
  | none => (.finishing call .formatError, .none)
  | some question =>
    if ClientState.strategyRejects question call.options.strategy then
      (.finishing call .strategyRejected, .none)
    else
      let started := ClientState.operation client call question environment asks
      match started.cacheKey with
      | none => (.checking started, .none)
      | some key =>
        match state.cacheLock key with
        | some channel =>
          if allowWait then (.waiting started channel, .none)
          else (.entering call true, .none)
        | none => (.loading { started with holdsLock := true }, .store key)

/-- The read of the cache. A stale response is returned and refreshed in the
background, unless the call forbids it. -/
def load (started : Operation) (found : Option Bool) : Stage × Effect :=
  match started.cacheKey, found with
  | some _, some false => (.releasing started .cached, .none)
  | some key, some true =>
    if !started.call.options.disableOptimisticCache then
      (.releasing started .optimistic, .refresh key)
    else (.checking started, .none)
  | _, _ => (.checking started, .none)

/-- The end of `beginExchange`: the loopback check and the RDRC. -/
def check (started : Operation) (listed : Bool) : Stage :=
  if started.call.contextTag = some started.call.transportTag then
    .releasing started (.loopback started.call.transportTag)
  else if started.cacheKey.isSome && started.call.responseChecker.isSome && client.rdrc &&
      listed then
    .releasing started .rejectedCached
  else .exchanging started

def release (started : Operation) (result : Result) : Stage × Effect :=
  match lock started with
  | some key => (.closing started.call result, .delete key)
  | none => (.finishing started.call result, .none)

def advance : Stage → Move → Option (Stage × Effect)
  | .entering call allowWait, .enter environment =>
    some (enter client state call allowWait environment)
  | .waiting started channel, .wake environment =>
    if state.isClosed channel then some (.loading (rekey client started environment), .none)
    else none
  | .waiting started _, .cancel => some (.finishing started.call .canceled, .none)
  | .loading started, .load found => some (load started found)
  | .checking started, .check listed => some (check client started listed, .none)
  | .exchanging started, .deliver result =>
    some (.releasing started (answered started result), .none)
  | .releasing started result, .release => some (release started result)
  | .closing call result, .close => some (.finishing call result, .close)
  | .finishing call result, .finish => some (.returned call result, .finish)
  | _, _ => none

end Stage

def Progress.record (progress : Progress) (stage : Stage) : Effect → Progress
  | .store key => { progress with stage := stage, stored := progress.stored ++ [key] }
  | .delete key => { progress with stage := stage, deleted := progress.deleted ++ [key] }
  | .close => { progress with stage := stage, closed := progress.closed + 1 }
  | .finish =>
    { progress with stage := stage, callbacks := progress.callbacks + progress.async.toNat }
  | _ => { progress with stage := stage }

/-! ## The steps of the client -/

inductive Action
  | call (id : Nat) (call : Call) (async : Bool) (outer : Option Nat)
  | move (id : Nat) (move : Move)
  | refreshed (key : DNSCacheKey)

namespace State

variable (client : ClientOptions) (state : State)

def setCall (id : Nat) (progress : Progress) : State :=
  { state with calls := update state.calls id (some progress) }

def perform (id : Nat) : Effect → State
  | .store key => { state with cacheLock := update state.cacheLock key (some id) }
  | .delete key => { state with cacheLock := update state.cacheLock key none }
  | .refresh key => { state with backgroundRefresh := update state.backgroundRefresh key true }
  | _ => state

/-- `ExchangeAsync` begins without the right to wait. -/
def next : Action → Option State
  | .call id call async outer =>
    match state.calls id with
    | some _ => none
    | none =>
      (state.enclosing call outer).map fun enclosing =>
        state.setCall id ⟨async, enclosing, .entering call (!async), [], [], 0, 0⟩
  | .move id move =>
    match state.calls id with
    | none => none
    | some progress =>
      (progress.stage.advance client state move).map fun (stage, effect) =>
        (state.setCall id (progress.record stage effect)).perform id effect
  | .refreshed key =>
    if state.backgroundRefresh key then
      some { state with
        backgroundRefresh := update state.backgroundRefresh key false }
    else none

end State

def QueryRun (client : ClientOptions) : List Action → State → Prop :=
  Run (fun state action after => state.next client action = some after) .initial

end SingBox.Dns.Deduplication
