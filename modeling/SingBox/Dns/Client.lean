import SingBox.CacheFile.DnsCache
import SingBox.Dns.CacheKey
import SingBox.Foundation.Run

/-! # The DNS client

`Client.Exchange` and `Client.lookupToExchange` of a client without `DNSCacheStore`:
with a memory cache, the cache of rejected responses (RDRC), and background
refreshes. A call is cut at every
point where another goroutine can step in: taking or awaiting the lock of its
key, reading the cache, asking the RDRC, and getting the answer of the
transport. `ExchangeAsync` either takes the same steps or, if it would have to
wait, becomes a call of `Exchange`.

Each cache entry also records where it came from. The client does not look at
that; it is what the results about the cache speak of.
-/

namespace SingBox.Dns

open CacheFile Function

def rcodeFormatError : Int := 1

/-- `NOERROR` and `NXDOMAIN`, the only answers that are cached. -/
def Msg.acceptable (response : Msg) : Bool :=
  response.rcode == rcodeSuccess || response.rcode == rcodeNameError

/-! ## Cached messages -/

def reverseRotateSlice (answers : List RR) (steps : Nat) : List RR :=
  if answers.length ≤ 1 then answers
  else
    answers.drop (answers.length - steps % answers.length) ++
      answers.take (answers.length - steps % answers.length)

def removeAnswersOfType (answers : List RR) (rrtype : BitVec 16) : List RR :=
  answers.filter fun record => record.rrtype != rrtype

/-- Rotate the answers of one type, and the index for the next time. -/
def rotateType (rrtype : BitVec 16) (answers : List RR) (index : Nat) : List RR × Nat :=
  let own := answers.filter fun record => record.rrtype == rrtype
  if 1 < own.length then
    (removeAnswersOfType answers rrtype ++ reverseRotateSlice own ((index + 1) % own.length),
      (index + 1) % own.length)
  else (answers, index)

/-- The response that a cache entry was made of, and the call it was made for. -/
structure Source where
  upstream : Msg
  options : QueryOptions
  responseChecker : Option (Msg → Bool)

/-- A cached `dnsMsg` with its expiry in nanoseconds. An index is an `int32`; it is the
remainder by the number of records of its type, of which a message has fewer than 2^16. -/
structure CacheEntry where
  msg : Msg
  ipv4Index : Nat := 0
  ipv6Index : Nat := 0
  expireAt : Int
  source : Source

def CacheEntry.roundRobin (entry : CacheEntry) : Msg × CacheEntry :=
  let ipv4 := rotateType typeA entry.msg.answer entry.ipv4Index
  let ipv6 := rotateType typeAAAA ipv4.1 entry.ipv6Index
  ({ entry.msg with answer := ipv6.1 }, { entry with ipv4Index := ipv4.2, ipv6Index := ipv6.2 })

def CacheEntry.getRoundRobin (client : ClientOptions) (entry : CacheEntry) : Msg × CacheEntry :=
  if client.roundRobinCache then entry.roundRobin else (entry.msg, entry)

/-! ## Calls -/

structure Call where
  transportTag : Bytes
  message : Msg
  options : QueryOptions
  responseChecker : Option (Msg → Bool)
  contextTag : Option Bytes

/-- `exchangeOperation`. There is no cache key if the cache is not used. -/
structure Operation where
  call : Call
  message : Msg
  question : Question
  cacheKey : Option DNSCacheKey
  holdsLock : Bool
  asks : call.message.question.head? = some question
  keyed : ∀ key ∈ cacheKey, key.question = question ∧ key.transportTag = call.transportTag

theorem Operation.keyed_anew (client : ClientOptions) (started : Operation)
    (environment : BitVec 64) :
    ∀ key ∈ some (newCacheKey client started.call.transportTag environment started.question
        started.message started.call.options),
      key.question = started.question ∧ key.transportTag = started.call.transportTag := by
  rintro _ ⟨⟩
  exact ⟨rfl, rfl⟩

/-- The key under which the cache and the RDRC may keep an answer. -/
def Operation.answerKey (started : Operation) (response : Msg) : Option DNSCacheKey :=
  if response.acceptable then started.cacheKey else none

inductive Outcome
  | fixed (response : Msg)
  | cached (response : Msg) (source : Source)
  | exchanged (response : Msg)
  | rejected (response : Msg)
  | rejectedCached
  | failed

/-- Where a call stands. A lookup that found nothing in the cache is `asked`. -/
inductive Phase
  | asked (call : Call)
  | waiting (operation : Operation) (holder : Nat)
  | loading (operation : Operation)
  | checking (operation : Operation)
  | exchanging (operation : Operation)
  | returned (call : Call) (outcome : Outcome)

structure Refresh where
  message : Msg
  options : QueryOptions
  responseChecker : Option (Msg → Bool)

structure ClientState where
  cache : DNSCacheKey → Option CacheEntry
  cacheLock : DNSCacheKey → Option Nat
  rdrc : SaveCacheKey → Bool
  backgroundRefresh : DNSCacheKey → Option Refresh
  calls : Nat → Option Phase

/-- The answer of a transport: a message, a bare response code, or an error. -/
inductive TransportResult
  | message (response : Msg)
  | rcode (code : Int)
  | error

def exchangeToTransport (message : Msg) : TransportResult → Option Msg
  | .message response => some (stripDNSPadding response)
  | .rcode code => some (FixedResponseStatus message code)
  | .error => none

namespace ClientState

def initial : ClientState where
  cache _ := none
  cacheLock _ := none
  rdrc _ := false
  backgroundRefresh _ := none
  calls _ := none

variable (lib : DnsLib) (client : ClientOptions) (state : ClientState) (id : Nat)

def setPhase (phase : Phase) : ClientState :=
  { state with calls := update state.calls id (some phase) }

def release (operation : Operation) : ClientState :=
  match operation.cacheKey with
  | some key =>
    if operation.holdsLock then
      { state with cacheLock := update state.cacheLock key none }
    else state
  | none => state

def finish (operation : Operation) (outcome : Outcome) : ClientState :=
  (state.release operation).setPhase id (.returned operation.call outcome)

def saveRDRC (transportTag : Bytes) (question : Question) : ClientState :=
  if client.rdrc then
    { state with
      rdrc := update state.rdrc ⟨transportTag, question.name, question.qtype⟩ true }
  else state

variable (key : DNSCacheKey)

/-- `storeCache` of a client without `DNSCacheStore`. -/
def storeCache (message : Msg) (timeToLive : BitVec 32) (now : Int)
    (source : Source) : ClientState :=
  if timeToLive = 0 then state
  else
    { state with
      cache := update state.cache key
        (some ⟨message, 0, 0, now + timeToLive.toNat * second, source⟩) }

/-- `loadResponse` of a client without `DNSCacheStore`: what is found, the entry it came
from, and the cache after. -/
def loadResponse (now : Int) : Option (Msg × Bool × Source) × ClientState :=
  match state.cache key with
  | none => (none, state)
  | some entry =>
    let rotated := entry.getRoundRobin client
    match agedResponse client rotated.1 entry.expireAt now with
    | some (response, _, isStale) =>
      (some (response, isStale, entry.source),
        { state with cache := update state.cache key (some rotated.2) })
    | none => (none, { state with cache := update state.cache key none })

def startRefresh (refresh : Refresh) : ClientState :=
  if (state.backgroundRefresh key).isSome then state
  else
    { state with
      backgroundRefresh := update state.backgroundRefresh key (some refresh) }

/-- Whether a message has nothing but a question and perhaps a plain OPT record. -/
def isSimpleRequest (message : Msg) : Bool :=
  message.question.length == 1 && message.ns.isEmpty &&
    match message.extra with
    | [] => true
    | [record] =>
      record.isOPT && decide (0 < record.class_) && record.ttl == 0 &&
        record.options.all fun option => option.option == edns0Subnet
    | _ => false

def strategyRejects (question : Question) (strategy : DomainStrategy) : Bool :=
  question.qtype == typeA && strategy == .ipv6Only ||
    question.qtype == typeAAAA && strategy == .ipv4Only

def operation (call : Call) (question : Question) (environment : BitVec 64)
    (asks : call.message.question.head? = some question) : Operation where
  call := call
  message := prepareExchangeMessage client call.message call.options
  question := question
  cacheKey :=
    if !isSimpleRequest call.message || client.disableCache || call.options.disableCache then none
    else
      some (newCacheKey client call.transportTag environment question
        (prepareExchangeMessage client call.message call.options) call.options)
  holdsLock := false
  asks := asks
  keyed key isKey := by
    split at isKey <;> cases isKey
    exact ⟨rfl, rfl⟩

/-- `beginExchange` up to the lock of the key. -/
def beginExchange (call : Call) (environment : BitVec 64) : ClientState :=
  match asks : call.message.question.head? with
  | none =>
    state.setPhase id
      (.returned call (.fixed (FixedResponseStatus call.message rcodeFormatError)))
  | some question =>
    if strategyRejects question call.options.strategy then
      state.setPhase id
        (.returned call (.fixed (FixedResponseStatus call.message rcodeSuccess)))
    else
      let started := operation client call question environment asks
      match started.cacheKey with
      | none => state.setPhase id (.checking started)
      | some key =>
        match state.cacheLock key with
        | some holder => state.setPhase id (.waiting started holder)
        | none =>
          { state.setPhase id (.loading { started with holdsLock := true }) with
            cacheLock := update state.cacheLock key (some id) }

/-- A call that has waited computes its key anew. -/
def wake (started : Operation) (environment : BitVec 64) : ClientState :=
  state.setPhase id (.loading
    { started with
      cacheKey := some (newCacheKey client started.call.transportTag environment
        started.question started.message started.call.options)
      keyed := started.keyed_anew client environment })

def load (started : Operation) (now : Int) : ClientState :=
  match started.cacheKey with
  | none => state.setPhase id (.checking started)
  | some key =>
    let loaded := state.loadResponse client key now
    match loaded.1 with
    | none => loaded.2.setPhase id (.checking started)
    | some (response, isStale, source) =>
      let answer := Outcome.cached { response with id := started.message.id } source
      if !isStale then loaded.2.finish id started answer
      else if !started.call.options.disableOptimisticCache then
        (loaded.2.startRefresh key
          ⟨started.message, started.call.options, started.call.responseChecker⟩).finish id
            started answer
      else loaded.2.setPhase id (.checking started)

/-- The end of `beginExchange`: the loopback check and the RDRC. -/
def check (started : Operation) : ClientState :=
  if started.call.contextTag = some started.call.transportTag then
    state.finish id started .failed
  else if started.cacheKey.isSome && started.call.responseChecker.isSome && client.rdrc &&
      state.rdrc ⟨started.call.transportTag, started.question.name, started.question.qtype⟩ then
    state.finish id started .rejectedCached
  else state.setPhase id (.exchanging started)

/-- Whether the checker of a call turns a response down. -/
def rejects (responseChecker : Option (Msg → Bool)) (response : Msg) : Bool :=
  match responseChecker with
  | none => false
  | some accepts => !response.acceptable || !accepts response

def finishExchange (started : Operation) (response : Msg) (environment : BitVec 64)
    (now : Int) : ClientState :=
  if rejects started.call.responseChecker response then
    let saved :=
      if (started.answerKey response).isSome then
        state.saveRDRC client started.call.transportTag started.question
      else state
    saved.finish id started (.rejected response)
  else
    let applied := applyResponseOptions client started.question started.call.options response
    let stored :=
      match (started.answerKey response).bind (finishCacheKey environment) with
      | none => state
      | some key =>
        state.storeCache key applied.1 applied.2 now
          ⟨response, started.call.options, started.call.responseChecker⟩
    stored.finish id started
      (.exchanged (finishResponse lib client started.question started.call.options
        started.message response))

/-- The goroutine of `backgroundRefreshDNS` after the exchange. -/
def finishRefresh (refresh : Refresh) (response : Msg)
    (environment : BitVec 64) (now : Int) : ClientState :=
  if rejects refresh.responseChecker response then
    state.saveRDRC client key.transportTag key.question
  else if !response.acceptable then state
  else
    match finishCacheKey environment key with
    | none => state
    | some storeKey =>
      let applied := applyResponseOptions client key.question refresh.options response
      state.storeCache storeKey applied.1 applied.2 now
        ⟨response, refresh.options, refresh.responseChecker⟩

def classINET : BitVec 16 := 1

/-- The request that `lookupToExchange` makes of a name. -/
def lookupMessage (name : Bytes) (qtype : BitVec 16) : Msg where
  recursionDesired := true
  question := [⟨name, qtype, classINET⟩]

/-- `questionCache`; a lookup that it does not answer goes on with an exchange. -/
def questionCache (call : Call) (question : Question) (environment : BitVec 64)
    (now : Int) : ClientState :=
  if client.disableCache || call.options.disableCache then state.setPhase id (.asked call)
  else
    let key := newCacheKey client call.transportTag environment question call.message call.options
    let loaded := state.loadResponse client key now
    match loaded.1 with
    | none => loaded.2.setPhase id (.asked call)
    | some (response, isStale, source) =>
      if !isStale then loaded.2.setPhase id (.returned call (.cached response source))
      else if !call.options.disableOptimisticCache then
        (loaded.2.startRefresh key ⟨prepareExchangeMessage client call.message call.options,
          call.options, call.responseChecker⟩).setPhase id
            (.returned call (.cached response source))
      else loaded.2.setPhase id (.asked call)

end ClientState

/-! ## Steps -/

inductive ClientAction
  | exchange (id : Nat) (call : Call) (environment : BitVec 64)
  | lookup (id : Nat) (call : Call) (name : Bytes) (qtype : BitVec 16) (environment : BitVec 64)
      (now : Int)
  | proceed (id : Nat) (environment : BitVec 64)
  | wake (id : Nat) (environment : BitVec 64)
  | cancel (id : Nat)
  | load (id : Nat) (now : Int)
  | check (id : Nat)
  | deliver (id : Nat) (result : TransportResult) (environment : BitVec 64) (now : Int)
  | refresh (key : DNSCacheKey) (result : TransportResult) (environment : BitVec 64) (now : Int)
  | evict (key : DNSCacheKey)
  | clearCache
  | forgetRDRC (key : SaveCacheKey)

/-- One step of the client. The lock that a call waits for is released when
another call or none holds it. -/
def ClientState.next (lib : DnsLib) (client : ClientOptions) (state : ClientState) :
    ClientAction → Option ClientState
  | .exchange id call environment =>
    match state.calls id with
    | none => some (state.beginExchange client id call environment)
    | some _ => none
  | .lookup id call name qtype environment now =>
    match state.calls id with
    | none =>
      if call.message = lookupMessage name qtype then
        some (state.questionCache client id call ⟨name, qtype, classINET⟩ environment now)
      else none
    | some _ => none
  | .proceed id environment =>
    match state.calls id with
    | some (.asked call) => some (state.beginExchange client id call environment)
    | _ => none
  | .wake id environment =>
    match state.calls id with
    | some (.waiting started holder) =>
      if (started.cacheKey.bind state.cacheLock) = some holder then none
      else some (state.wake client id started environment)
    | _ => none
  | .cancel id =>
    match state.calls id with
    | some (.waiting started _) => some (state.setPhase id (.returned started.call .failed))
    | _ => none
  | .load id now =>
    match state.calls id with
    | some (.loading started) => some (state.load client id started now)
    | _ => none
  | .check id =>
    match state.calls id with
    | some (.checking started) => some (state.check client id started)
    | _ => none
  | .deliver id result environment now =>
    match state.calls id with
    | some (.exchanging started) =>
      match exchangeToTransport started.message result with
      | none => some (state.finish id started .failed)
      | some response => some (state.finishExchange lib client id started response environment now)
    | _ => none
  | .refresh key result environment now =>
    match state.backgroundRefresh key with
    | none => none
    | some refresh =>
      let ended := { state with
        backgroundRefresh := update state.backgroundRefresh key none }
      match exchangeToTransport refresh.message result with
      | none => some ended
      | some response => some (ended.finishRefresh client key refresh response environment now)
  | .evict key => some { state with cache := update state.cache key none }
  | .clearCache => some { state with cache := fun _ => none }
  | .forgetRDRC key => some { state with rdrc := update state.rdrc key false }

end SingBox.Dns
