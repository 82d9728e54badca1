import SingBox.Dns.Alike
import SingBox.Foundation.Update

/-! # Where the answers of the client come from

In every run each cache entry, each rejection in the RDRC and each outcome of a
call can be traced back to a call that was begun and to a response that was
delivered for it. The results about the cache are read off from this.
-/

namespace SingBox.Dns

open CacheFile ClientState Function Bool

/-! ## What has happened in a run -/

variable (actions : List ClientAction) {call : Call} {response : Msg} {key : DNSCacheKey}
  {source : Source} {id : Nat}

def Begun (id : Nat) (call : Call) : Prop :=
  (∃ environment, .exchange id call environment ∈ actions) ∨
    ∃ name qtype environment now, .lookup id call name qtype environment now ∈ actions

def Call.Asks (call : Call) (transportTag : Bytes) (question : Question) : Prop :=
  call.transportTag = transportTag ∧ call.message.question.head? = some question

def Refreshed (transportTag : Bytes) (question : Question) (response : Msg) : Prop :=
  ∃ key message result environment now, key.transportTag = transportTag ∧
    key.question = question ∧ .refresh key result environment now ∈ actions ∧
    exchangeToTransport message result = some response

/-- A transport answered a question, for a call or for a background refresh. -/
def Delivered (transportTag : Bytes) (question : Question) (response : Msg) : Prop :=
  (∃ id call message result environment now, Begun actions id call ∧
    call.Asks transportTag question ∧ .deliver id result environment now ∈ actions ∧
    exchangeToTransport message result = some response) ∨
  Refreshed actions transportTag question response

/-- A response was accepted for a call to the transport with the question. -/
structure Accepted (actions : List ClientAction) (transportTag : Bytes) (question : Question)
    (source : Source) : Prop where
  asked : ∃ id call, Begun actions id call ∧ call.Asks transportTag question ∧
    call.options = source.options ∧ call.responseChecker = source.responseChecker
  delivered : Delivered actions transportTag question source.upstream
  acceptable : source.upstream.acceptable = true
  notRejected : rejects source.responseChecker source.upstream = false

/-- A response was rejected for a call to the transport with the name and type.
Only a background refresh keeps a rejection for the response code. -/
def RejectedFor (key : SaveCacheKey) : Prop :=
  ∃ id call question response, Begun actions id call ∧ call.Asks key.transportName question ∧
    question.name = key.questionName ∧ question.qtype = key.qType ∧
    Delivered actions key.transportName question response ∧
    rejects call.responseChecker response = true ∧
    (response.acceptable = true ∨ Refreshed actions key.transportName question response)

theorem answerKey_eq_some {started : Operation} (isKey : started.answerKey response = some key) :
    response.acceptable = true ∧ started.cacheKey = some key := by
  rw [Operation.answerKey] at isKey
  split at isKey
  · next acceptable => exact ⟨acceptable, isKey⟩
  · cases isKey

theorem finishCacheKey_eq_some {environment : BitVec 64} {asked : DNSCacheKey}
    (isKey : finishCacheKey environment asked = some key) :
    key.question = asked.question ∧ key.transportTag = asked.transportTag := by
  rw [finishCacheKey] at isKey
  split at isKey <;> cases isKey
  exact ⟨rfl, rfl⟩

/-! ## Traced states -/

section

variable (lib : DnsLib) (client : ClientOptions) (actions : List ClientAction)

def OutcomeTraced (call : Call) : Outcome → Prop
  | .fixed response =>
    call.message.question = [] ∧ response = FixedResponseStatus call.message rcodeFormatError ∨
    ∃ question, call.message.question.head? = some question ∧
      strategyRejects question call.options.strategy = true ∧
      response = FixedResponseStatus call.message rcodeSuccess
  | .cached response source =>
    ∃ question, call.message.question.head? = some question ∧
      Accepted actions call.transportTag question source ∧
      Alike response (filterHints question.qtype source.options.strategy source.upstream)
  | .exchanged response =>
    ∃ question upstream, call.message.question.head? = some question ∧
      Delivered actions call.transportTag question upstream ∧
      rejects call.responseChecker upstream = false ∧
      response = finishResponse lib client question call.options
        (prepareExchangeMessage client call.message call.options) upstream
  | .rejected response =>
    ∃ question, call.message.question.head? = some question ∧
      Delivered actions call.transportTag question response ∧
      rejects call.responseChecker response = true
  | .rejectedCached =>
    ∃ question, call.message.question.head? = some question ∧
      RejectedFor actions ⟨call.transportTag, question.name, question.qtype⟩
  | .failed => True

def OperationTraced (id : Nat) (started : Operation) : Prop :=
  Begun actions id started.call ∧
    started.message = prepareExchangeMessage client started.call.message started.call.options

def PhaseTraced (id : Nat) : Phase → Prop
  | .asked call => Begun actions id call
  | .waiting started _ | .loading started | .checking started | .exchanging started =>
    OperationTraced client actions id started
  | .returned call outcome => Begun actions id call ∧ OutcomeTraced lib client actions call outcome

def EntryTraced (key : DNSCacheKey) (entry : CacheEntry) : Prop :=
  Accepted actions key.transportTag key.question entry.source ∧
    entry.msg = (applyResponseOptions client key.question entry.source.options
      entry.source.upstream).1

def RefreshTraced (key : DNSCacheKey) (refresh : Refresh) : Prop :=
  ∃ id call, Begun actions id call ∧ call.Asks key.transportTag key.question ∧
    call.options = refresh.options ∧ call.responseChecker = refresh.responseChecker

structure Traced (state : ClientState) : Prop where
  entries : ∀ key entry, state.cache key = some entry → EntryTraced client actions key entry
  rejections : ∀ key, state.rdrc key = true → RejectedFor actions key
  refreshes : ∀ key refresh, state.backgroundRefresh key = some refresh →
    RefreshTraced actions key refresh
  calls : ∀ id phase, state.calls id = some phase → PhaseTraced lib client actions id phase

end

variable {lib : DnsLib} {client : ClientOptions} {actions : List ClientAction}
  {state : ClientState} {outcome : Outcome} {phase : Phase}

namespace Traced

theorem initial : Traced lib client actions .initial where
  entries _ _ isEntry := by cases isEntry
  rejections _ isRejected := by cases isRejected
  refreshes _ _ isRefresh := by cases isRefresh
  calls _ _ isPhase := by cases isPhase

/-! ## Pieces of steps -/

variable {id : Nat}

theorem setPhase (traced : Traced lib client actions state)
    (isTraced : PhaseTraced lib client actions id phase) :
    Traced lib client actions (state.setPhase id phase) where
  __ := traced
  calls := forall_update traced.calls fun found isFound => by
    cases isFound
    exact isTraced

theorem withLock (traced : Traced lib client actions state) (cacheLock : DNSCacheKey → Option Nat) :
    Traced lib client actions { state with cacheLock := cacheLock } :=
  { traced with }

variable {started : Operation} {now : Int} {refresh : Refresh}

section

variable (traced : Traced lib client actions state)
include traced

theorem finish (begun : Begun actions id started.call)
    (isTraced : OutcomeTraced lib client actions started.call outcome) :
    Traced lib client actions (state.finish id started outcome) := by
  have released : Traced lib client actions (state.release started) := by
    rw [release]
    split
    · split
      · exact traced.withLock _
      · exact traced
    · exact traced
  exact released.setPhase ⟨begun, isTraced⟩

variable {question : Question} {key : DNSCacheKey}

theorem saveRDRC {transportTag : Bytes}
    (rejected : RejectedFor actions ⟨transportTag, question.name, question.qtype⟩) :
    Traced lib client actions (state.saveRDRC client transportTag question) := by
  rw [ClientState.saveRDRC]
  split
  · refine ⟨traced.entries, ?_, traced.refreshes, traced.calls⟩
    intro key isRejected
    change update state.rdrc ⟨transportTag, question.name, question.qtype⟩ true key =
      true at isRejected
    by_cases same : key = ⟨transportTag, question.name, question.qtype⟩
    · rw [same]
      exact rejected
    · rw [update_of_ne same] at isRejected
      exact traced.rejections key isRejected
  · exact traced

theorem updateCache {new : Option CacheEntry}
    (isTraced : ∀ entry, new = some entry → EntryTraced client actions key entry) :
    Traced lib client actions { state with cache := update state.cache key new } :=
  ⟨forall_update traced.entries isTraced, traced.rejections, traced.refreshes, traced.calls⟩

theorem storeCache {timeToLive : BitVec 32} (isQuestion : key.question = question)
    (accepted : Accepted actions key.transportTag question source) :
    Traced lib client actions (state.storeCache key
      (applyResponseOptions client question source.options source.upstream).1 timeToLive now
      source) := by
  subst isQuestion
  rw [ClientState.storeCache]
  split
  · exact traced
  refine traced.updateCache ?_
  rintro _ ⟨⟩
  exact ⟨accepted, rfl⟩

/-- Reading the cache changes at most the rotation of an entry. -/
theorem loadResponse (key : DNSCacheKey) (now : Int) :
    Traced lib client actions (state.loadResponse client key now).2 ∧
      ∀ response isStale source,
        (state.loadResponse client key now).1 = some (response, isStale, source) →
        Accepted actions key.transportTag key.question source ∧
          Alike response (filterHints key.question.qtype source.options.strategy
            source.upstream) := by
  rw [ClientState.loadResponse]
  split
  · refine ⟨traced, ?_⟩
    rintro response isStale source ⟨⟩
  · next entry isEntry =>
    rcases traced.entries key entry isEntry with ⟨accepted, isMsg⟩
    have rotated : (entry.getRoundRobin client).2.msg = entry.msg ∧
        (entry.getRoundRobin client).2.source = entry.source := by
      rw [CacheEntry.getRoundRobin]
      split <;> exact ⟨rfl, rfl⟩
    dsimp only
    split
    · next isAged =>
      constructor
      · refine traced.updateCache ?_
        rintro updated ⟨⟩
        rw [EntryTraced, rotated.1, rotated.2]
        exact ⟨accepted, isMsg⟩
      · rintro response isStale source ⟨⟩
        refine ⟨accepted, (alike_of_aged isAged).trans
          ((entry.alike_getRoundRobin client).trans ?_)⟩
        rw [isMsg]
        exact .normalizeTTL _ _
    · refine ⟨traced.updateCache fun updated isUpdated => (by cases isUpdated), ?_⟩
      rintro _ _ _ ⟨⟩

theorem startRefresh (isTraced : RefreshTraced actions key refresh) :
    Traced lib client actions (state.startRefresh key refresh) := by
  rw [ClientState.startRefresh]
  split
  · exact traced
  refine ⟨traced.entries, traced.rejections, ?_, traced.calls⟩
  refine forall_update traced.refreshes ?_
  rintro _ ⟨⟩
  exact isTraced

end

/-! ## Steps -/

variable {environment : BitVec 64} (traced : Traced lib client actions state)
include traced

theorem beginExchange (begun : Begun actions id call) :
    Traced lib client actions (state.beginExchange client id call environment) := by
  unfold ClientState.beginExchange
  split
  · next asks => exact traced.setPhase ⟨begun, .inl ⟨List.head?_eq_none_iff.mp asks, rfl⟩⟩
  next question asks =>
  split
  · next rejects => exact traced.setPhase ⟨begun, .inr ⟨question, asks, rejects, rfl⟩⟩
  have started : OperationTraced client actions id
      (operation client call question environment asks) := ⟨begun, rfl⟩
  dsimp only
  split
  · exact traced.setPhase started
  split
  · exact traced.setPhase started
  have loading : PhaseTraced lib client actions id
      (.loading { operation client call question environment asks with
        holdsLock := true }) := started
  exact (traced.setPhase loading).withLock _

section

variable (isStarted : OperationTraced client actions id started)
include isStarted

theorem wake : Traced lib client actions (state.wake client id started environment) :=
  traced.setPhase isStarted

theorem load : Traced lib client actions (state.load client id started now) := by
  rw [ClientState.load]
  split
  · exact traced.setPhase isStarted
  next key isKey =>
  rcases started.keyed key isKey with ⟨isQuestion, isTag⟩
  rcases traced.loadResponse key now with ⟨loaded, served⟩
  dsimp only
  split
  · exact loaded.setPhase isStarted
  next response isStale source isLoaded =>
  rcases served response isStale source isLoaded with ⟨accepted, alike⟩
  have answer : OutcomeTraced lib client actions started.call
      (.cached { response with id := started.message.id } source) := by
    refine ⟨started.question, started.asks, ?_, (Alike.id _ _).trans ?_⟩
    · rw [← isTag, ← isQuestion]
      exact accepted
    · rw [← isQuestion]
      exact alike
  split
  · exact loaded.finish isStarted.1 answer
  split
  · have refresh : RefreshTraced actions key ⟨started.message, started.call.options,
        started.call.responseChecker⟩ := by
      refine ⟨id, started.call, isStarted.1, ⟨isTag.symm, ?_⟩, rfl, rfl⟩
      rw [isQuestion]
      exact started.asks
    exact (loaded.startRefresh refresh).finish isStarted.1 answer
  · exact loaded.setPhase isStarted

theorem check : Traced lib client actions (state.check client id started) := by
  rw [ClientState.check]
  split
  · exact traced.finish isStarted.1 trivial
  split
  · next found =>
    rw [and_eq_true] at found
    exact traced.finish isStarted.1 ⟨started.question, started.asks, traced.rejections _ found.2⟩
  · exact traced.setPhase isStarted

theorem finishExchange
    (delivered : Delivered actions started.call.transportTag started.question response) :
    Traced lib client actions
      (state.finishExchange lib client id started response environment now) := by
  rw [ClientState.finishExchange]
  split
  · next isRejected =>
    have outcome : OutcomeTraced lib client actions started.call (.rejected response) :=
      ⟨started.question, started.asks, delivered, isRejected⟩
    split
    · next usesCache =>
      rcases Option.isSome_iff_exists.mp usesCache with ⟨key, isKey⟩
      have acceptable := (answerKey_eq_some isKey).1
      have rejected : RejectedFor actions
          ⟨started.call.transportTag, started.question.name, started.question.qtype⟩ :=
        ⟨id, started.call, started.question, response, isStarted.1, ⟨rfl, started.asks⟩, rfl,
          rfl, delivered, isRejected, .inl acceptable⟩
      exact (traced.saveRDRC rejected).finish isStarted.1 outcome
    · exact traced.finish isStarted.1 outcome
  · next notRejected =>
    rw [not_eq_true] at notRejected
    have outcome : OutcomeTraced lib client actions started.call (.exchanged
        (finishResponse lib client started.question started.call.options started.message
          response)) := by
      refine ⟨started.question, response, started.asks, delivered, notRejected, ?_⟩
      rw [isStarted.2]
    split
    · exact traced.finish isStarted.1 outcome
    next key isKey =>
    rcases Option.bind_eq_some_iff.mp isKey with ⟨asked, isAsked, isFinished⟩
    rcases answerKey_eq_some isAsked with ⟨acceptable, isCacheKey⟩
    rcases started.keyed asked isCacheKey with ⟨askedQuestion, askedTag⟩
    rcases finishCacheKey_eq_some isFinished with ⟨keyQuestion, keyTag⟩
    have accepted : Accepted actions key.transportTag started.question
        ⟨response, started.call.options, started.call.responseChecker⟩ := by
      rw [keyTag.trans askedTag]
      exact ⟨⟨id, started.call, isStarted.1, ⟨rfl, started.asks⟩, rfl, rfl⟩, delivered,
        acceptable, notRejected⟩
    exact (traced.storeCache (keyQuestion.trans askedQuestion) accepted).finish isStarted.1 outcome

end

theorem finishRefresh (isTraced : RefreshTraced actions key refresh)
    (refreshed : Refreshed actions key.transportTag key.question response) :
    Traced lib client actions
      (state.finishRefresh client key refresh response environment now) := by
  rcases isTraced with ⟨id, call, begun, asks, isOptions, isChecker⟩
  rw [ClientState.finishRefresh]
  split
  · next isRejected =>
    refine traced.saveRDRC ?_
    rw [← isChecker] at isRejected
    exact ⟨id, call, key.question, response, begun, asks, rfl, rfl, .inr refreshed, isRejected,
      .inr refreshed⟩
  · next notRejected =>
    rw [not_eq_true] at notRejected
    split
    · exact traced
    next isAcceptable =>
    have acceptable : response.acceptable = true := by simpa using isAcceptable
    split
    · exact traced
    next storeKey isKey =>
    rcases finishCacheKey_eq_some isKey with ⟨keyQuestion, keyTag⟩
    have accepted : Accepted actions storeKey.transportTag key.question
        ⟨response, refresh.options, refresh.responseChecker⟩ := by
      rw [keyTag]
      exact ⟨⟨id, call, begun, asks, isOptions, isChecker⟩, .inr refreshed, acceptable, notRejected⟩
    exact traced.storeCache keyQuestion accepted

theorem questionCache {question : Question} (begun : Begun actions id call)
    (asks : call.message.question.head? = some question) :
    Traced lib client actions (state.questionCache client id call question environment now) := by
  rw [ClientState.questionCache]
  split
  · exact traced.setPhase begun
  rcases traced.loadResponse (newCacheKey client call.transportTag environment question
    call.message call.options) now with ⟨loaded, served⟩
  dsimp only
  split
  · exact loaded.setPhase begun
  next response isStale source isLoaded =>
  rcases served response isStale source isLoaded with ⟨accepted, alike⟩
  have answer : OutcomeTraced lib client actions call (.cached response source) :=
    ⟨question, asks, accepted, alike⟩
  split
  · exact loaded.setPhase ⟨begun, answer⟩
  split
  · have refresh : RefreshTraced actions (newCacheKey client call.transportTag environment
        question call.message call.options)
        ⟨prepareExchangeMessage client call.message call.options, call.options,
          call.responseChecker⟩ :=
      ⟨id, call, begun, ⟨rfl, asks⟩, rfl, rfl⟩
    exact (loaded.startRefresh refresh).setPhase ⟨begun, answer⟩
  · exact loaded.setPhase begun

theorem next {action : ClientAction} {after : ClientState}
    (member : action ∈ actions) (isStep : state.next lib client action = some after) :
    Traced lib client actions after := by
  cases action <;> simp only [ClientState.next] at isStep
  case exchange id call environment =>
    split at isStep <;> cases isStep
    exact traced.beginExchange (.inl ⟨environment, member⟩)
  case lookup id call name qtype environment now =>
    split at isStep
    · split_ifs at isStep with isMessage
      cases isStep
      refine traced.questionCache (.inr ⟨name, qtype, environment, now, member⟩) ?_
      rw [isMessage]
      rfl
    · cases isStep
  case proceed id environment =>
    split at isStep <;> cases isStep
    next call isCall => exact traced.beginExchange (traced.calls id _ isCall)
  case wake id environment =>
    split at isStep
    · next started holder isCall =>
      split_ifs at isStep
      cases isStep
      exact traced.wake (traced.calls id _ isCall)
    · cases isStep
  case cancel id =>
    split at isStep <;> cases isStep
    next started _ isCall =>
    have isStarted : OperationTraced client _ id started := traced.calls id _ isCall
    exact traced.setPhase ⟨isStarted.1, trivial⟩
  case load id now =>
    split at isStep <;> cases isStep
    next started isCall => exact traced.load (traced.calls id _ isCall)
  case check id =>
    split at isStep <;> cases isStep
    next started isCall => exact traced.check (traced.calls id _ isCall)
  case deliver id result environment now =>
    split at isStep
    · next started isCall =>
      have isStarted : OperationTraced client _ id started := traced.calls id _ isCall
      split at isStep
      · cases isStep
        exact traced.finish isStarted.1 trivial
      next response isResponse =>
      cases isStep
      exact traced.finishExchange isStarted (.inl ⟨id, started.call, started.message,
        result, environment, now, isStarted.1, ⟨rfl, started.asks⟩, member, isResponse⟩)
    · cases isStep
  case refresh key result environment now =>
    split at isStep
    · cases isStep
    next refresh isRefresh =>
    have ended : Traced lib client actions { state with
        backgroundRefresh := update state.backgroundRefresh key none } :=
      ⟨traced.entries, traced.rejections,
        forall_update traced.refreshes (fun _ isNone => by cases isNone), traced.calls⟩
    split at isStep
    · cases isStep
      exact ended
    next isResponse =>
    cases isStep
    exact ended.finishRefresh (traced.refreshes key refresh isRefresh)
      ⟨key, refresh.message, result, environment, now, rfl, rfl, member, isResponse⟩
  case evict key =>
    cases isStep
    exact traced.updateCache fun _ isNone => by cases isNone
  case clearCache =>
    cases isStep
    exact ⟨fun _ _ isEntry => (by cases isEntry), traced.rejections, traced.refreshes, traced.calls⟩
  case forgetRDRC key =>
    cases isStep
    refine ⟨traced.entries, ?_, traced.refreshes, traced.calls⟩
    intro other isRejected
    change update state.rdrc key false other = true at isRejected
    by_cases same : other = key
    · rw [same, update_self] at isRejected
      cases isRejected
    · rw [update_of_ne same] at isRejected
      exact traced.rejections other isRejected

end Traced

/-! ## Runs -/

def ClientRun (lib : DnsLib) (client : ClientOptions) : List ClientAction → ClientState → Prop :=
  Run (fun state action after => state.next lib client action = some after) .initial

theorem traced_of_run (run : ClientRun lib client actions state) :
    Traced lib client actions state :=
  run.invariant_among (Traced lib client actions) .initial fun traced => traced.next

end SingBox.Dns
