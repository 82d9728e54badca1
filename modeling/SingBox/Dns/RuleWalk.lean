import SingBox.Dns.Alias
import SingBox.Foundation.Run

/-! # The DNS rule walk

`exchangeWithRules` looks at the rules in order while the exchanges that
evaluate actions have launched are under way. The walk is a step machine: one
step for every read of a future, so that a completion can fall between any two
reads. A walk that cannot go on is suspended; `resumeExchangeWithRules` settles
the finished futures, sweeps the armed race rules, and waits for a token on
the wake channel or walks on from the same rule.
-/

namespace SingBox.Dns

open Adapter Netip Route Function

structure Reply where
  response : Option Msg := none
  err : Option String := none
  deriving DecidableEq

/-- The parts of `Router` that stay the same during an exchange. The client
answers the exchange that is launched as the `launch`-th of this query. -/
structure Router where
  lib : SingLib
  names : NameLib
  rules : List DNSRule
  disabled : Nat → Bool
  transport : String → Option Transport
  defaultTransport : Transport
  defaultDomainStrategy : DomainStrategy
  defaultRejectRcode : Int
  closing : Bool
  exchange : (launch : Nat) → Transport → Msg → QueryOptions → Reply

def respondMissingResponseMessage : String :=
  "respond action requires an evaluated response from a preceding evaluate action"

def errDrop : String := "packet dropped"

def rcodeRefused : Int := 5

/-! ## Options of an exchange -/

def applyDNSRouteOptions (options : QueryOptions) (routeOptions : RouteOptions) : QueryOptions :=
  let options :=
    { options with
      disableCache := options.disableCache || routeOptions.disableCache
      disableOptimisticCache :=
        options.disableOptimisticCache || routeOptions.disableOptimisticCache
      rewriteTTL := routeOptions.rewriteTTL <|> options.rewriteTTL
      timeout := if 0 < routeOptions.timeout then routeOptions.timeout else options.timeout }
  let options :=
    if routeOptions.clientSubnet.isValid then
      { options with clientSubnet := routeOptions.clientSubnet, removeClientSubnet := false }
    else options
  if routeOptions.removeClientSubnet then
    { options with clientSubnet := .zero, removeClientSubnet := true }
  else options

inductive RouteStatus
  | missing
  | skipped
  | resolved (transport : Transport) (options : QueryOptions)
  deriving DecidableEq

namespace Router

variable (router : Router)

def resolveDNSRoute (server : String) (routeOptions : RouteOptions) (allowFakeIP : Bool)
    (options : QueryOptions) : RouteStatus :=
  match router.transport server with
  | none => .missing
  | some transport =>
    if transport.isFakeIP && !allowFakeIP then .skipped
    else
      let options := applyDNSRouteOptions options routeOptions
      .resolved transport
        (if transport.isFakeIP then { options with disableCache := true } else options)

def finalizeExchangeOptions (options : QueryOptions) : QueryOptions :=
  if options.strategy = .asIS then { options with strategy := router.defaultDomainStrategy }
  else options

def resolveRejectRcode (actionRcode : Int) : Int :=
  if actionRcode ≠ -1 then actionRcode
  else if router.defaultRejectRcode ≠ -1 then router.defaultRejectRcode
  else rcodeRefused

def dnsRejectResponse (query : Query) (actionRcode : Int) : Msg where
  id := query.message.id
  rcode := router.resolveRejectRcode actionRcode
  response := true
  question := [query.question]

end Router

/-! ## The state of a walk -/

/-- `dnsEvaluatedFuture`. The reply is there from the launch on and can be read
once `done` is closed; `sent` records that the callback is over. -/
structure Future where
  tag : String
  transport : Transport
  reply : Reply
  terminal : Bool := false
  done : Bool := false
  sent : Bool := false
  settled : Bool := false
  deriving DecidableEq

def Future.view (future : Future) : Option Msg :=
  if future.done && future.reply.err.isNone then future.reply.response else none

structure ArmedRule where
  ruleIndex : Nat
  rule : DNSRule
  futures : List Nat
  anonymousFuture : Option Nat
  bindsAnonymous : Bool
  options : QueryOptions

/-- `dnsRuleWalkState`. A future is named by its place in `futures`, and `wake`
says whether a token is in the channel. -/
structure WalkState where
  ruleIndex : Nat := 0
  effectiveOptions : QueryOptions
  anonymousFuture : Option Nat := none
  namedFutures : String → Option Nat := fun _ => none
  namedResponses : String → Option Msg := fun _ => none
  namedTransports : String → Option Transport := fun _ => none
  futures : List Future := []
  armedRules : List ArmedRule := []
  terminalFuture : Option Nat := none
  terminalIndex : Nat := 0
  wake : Bool := false

namespace WalkState

variable (state : WalkState)

def resolved (future : Nat) : Bool :=
  state.futures[future]?.any Future.done

def view (future : Nat) : Option Msg :=
  state.futures[future]?.bind Future.view

def futureTransport (future : Nat) : Option Transport :=
  state.futures[future]?.map Future.transport

def anonymousResponse : Option Msg :=
  state.anonymousFuture.bind state.view

def pendingFuture (future : Option Nat) : Option Nat :=
  future.filter fun future => !state.resolved future

/-- One turn of the loop of `settleDNSFutures`. -/
def settle (position : Nat) : WalkState :=
  match state.futures[position]? with
  | none => state
  | some future =>
    if future.settled || !future.done then state
    else
      let state :=
        { state with
          futures := state.futures.set position { future with settled := true } }
      if future.tag = "" then state
      else
        { state with
          namedResponses := update state.namedResponses future.tag future.view
          namedTransports :=
            update state.namedTransports future.tag (some future.transport) }

end WalkState

inductive PendingExchange
  | exchange (transport : Transport) (options : QueryOptions)
  | future (future : Nat)

/-- `dnsWalkSuspension`. -/
inductive Suspension
  | await (future : Nat)
  | drain
  | pending (exchange : PendingExchange)

/-- Who settles or sweeps: the walk at a rule, or the loop that resumes it. -/
inductive Caller
  | walk (rule : DNSRule)
  | resume (suspension : Suspension)

/-- The next statement of the goroutine that runs the exchange. -/
inductive Position
  /-- The head of the loop over the rules. -/
  | visit
  /-- `settleDNSFutures`, at this future. -/
  | settle (caller : Caller) (position : Nat)
  /-- The pending futures of a race rule, with the tags still to look at. -/
  | collect (rule : DNSRule) (tags : List String) (pending : List Nat)
  /-- The await checks of a rule, with the tags still to look at. -/
  | await (rule : DNSRule) (tags : List String)
  | evaluate (rule : DNSRule)
  | act (rule : DNSRule)
  /-- A respond action without a tag, past its await check. -/
  | respond
  | sweep (caller : Caller) (index : Nat)
  /-- The futures of an armed rule that are still to be looked at. -/
  | ready (caller : Caller) (index : Nat) (armed : ArmedRule) (futures : List Nat)
  | sweepEvaluate (caller : Caller) (index : Nat) (armed : ArmedRule)
  | sweepAct (caller : Caller) (index : Nat) (armed : ArmedRule)
  | decide (suspension : Suspension)
  /-- The `select` on the wake channel. -/
  | blocked (suspension : Suspension)
  | finish (pending : PendingExchange)
  | returned (result : ExchangeResult)

/-- A predefined response that waits for the exchange of its last alias. -/
structure Frame where
  qtype : BitVec 16
  response : Msg
  deriving DecidableEq

/-- The result of the outermost exchange, from that of the innermost. -/
def unwind : List Frame → ExchangeResult → ExchangeResult
  | [], result => result
  | frame :: frames, result =>
    unwind frames { response := some (mergeFollowed frame.qtype frame.response result) }

/-- An exchange under way. `async` holds during the first walk of
`exchangeWithRulesAsync`. -/
structure Exchange where
  query : Query
  state : WalkState
  position : Position := .visit
  launches : Nat := 0
  frames : List Frame := []
  async : Bool

def exchangeWithRules (query : Query) : Exchange where
  query := query
  state := { effectiveOptions := query.options }
  async := false

def exchangeWithRulesAsync (query : Query) : Exchange where
  query := query
  state := { effectiveOptions := query.options }
  async := true

/-- Both entry points of an exchange. -/
inductive Starts (query : Query) : Exchange → Prop
  | sync : Starts query (exchangeWithRules query)
  | async : Starts query (exchangeWithRulesAsync query)

/-! ## Steps of the walk -/

namespace Exchange

variable (router : Router) (exchange : Exchange)

def goto (position : Position) : Exchange := { exchange with position := position }

/-- `continue` in the loop over the rules. -/
def nextRule : Exchange :=
  { exchange with
    state := { exchange.state with ruleIndex := exchange.state.ruleIndex + 1 }
    position := .visit }

def return_ (result : ExchangeResult) : Exchange :=
  { exchange with position := .returned (unwind exchange.frames result) }

/-- The walk returns a suspension. The first walk of `exchangeWithRulesAsync`
leaves a pending exchange to the client at once. -/
def suspend (suspension : Suspension) : Exchange :=
  match exchange.async, suspension with
  | true, .pending (.exchange transport options) =>
    { exchange with position := .finish (.exchange transport options), async := false }
  | _, suspension => { exchange with position := .settle (.resume suspension) 0, async := false }

def launchedFuture (tag : String) (transport : Transport) (options : QueryOptions)
    (terminal : Bool) : Future where
  tag := tag
  transport := transport
  reply := router.exchange exchange.launches transport exchange.query.message
    (router.finalizeExchangeOptions options)
  terminal := terminal

/-- `launchDNSEvaluate`. The new future is the last one. -/
def launch (tag : String) (transport : Transport) (options : QueryOptions) (terminal : Bool) :
    Exchange :=
  { exchange with
    state :=
      { exchange.state with
        futures := exchange.state.futures ++
          [exchange.launchedFuture router tag transport options terminal] }
    launches := exchange.launches + 1 }

def evaluationMetadata (response : Option Msg) : InboundContext :=
  { exchange.query.metadata.resetRuleCache with
    dnsResponse := response
    namedDNSResponses := exchange.state.namedResponses
    destinationAddressMatchFromResponse := false }

variable (rule : DNSRule)

def matches_ (response : Option Msg) : Bool :=
  (rule.rule.match (RuleItem.match router.lib) (exchange.evaluationMetadata response)).matched

def hasBindings : Bool :=
  !(matchResponseTags rule.rule).isEmpty || matchResponseAnonymous rule.rule

/-- The exchange of an alias. The walk that made it is over, and its futures are
not looked at again. -/
abbrev nest (nested : Query) (frame : Frame) : Exchange :=
  { query := nested
    state := { effectiveOptions := nested.options }
    launches := exchange.launches
    frames := frame :: exchange.frames
    async := false }

/-- The result of a predefined action, or the exchange of its last alias. -/
def predefined (action : PredefinedAction) (options : QueryOptions) : Exchange :=
  let response := action.response exchange.query
  match followPredefinedCNAME router.names router.closing exchange.query response options with
  | none => exchange.return_ { response := some response }
  | some nested => exchange.nest nested ⟨exchange.query.question.qtype, response⟩

def evaluateAction (tag : String) (transport : Transport) (options : QueryOptions) : Exchange :=
  let future := exchange.state.futures.length
  let launched := exchange.launch router tag transport options false
  if tag = "" then
    { launched with state := { launched.state with anonymousFuture := some future } }
  else
    { launched with
      state :=
        { launched.state with
          namedFutures := update launched.state.namedFutures tag (some future) } }

/-- A response of a future, or the error for a missing one. -/
def respondWith (response : Option Msg) (transport : Option Transport) : Exchange :=
  match response with
  | none => exchange.return_ { err := some respondMissingResponseMessage }
  | some response => exchange.return_ { response := some response, transport := transport }

def respondAction : Exchange :=
  let tag := matchResponseTag rule.rule
  if tag ≠ "" then
    exchange.respondWith (exchange.state.namedResponses tag) (exchange.state.namedTransports tag)
  else if hasBindings rule then exchange.goto .respond
  else
    match exchange.state.pendingFuture exchange.state.anonymousFuture with
    | some future => exchange.suspend (.await future)
    | none => exchange.goto .respond

/-- A route action with armed rules before it. A speculative one is launched
already. -/
def routeArmed (speculative : Bool) (transport : Transport) (options : QueryOptions) : Exchange :=
  if speculative && exchange.state.terminalFuture.isNone then
    let future := exchange.state.futures.length
    let launched := exchange.launch router "" transport options true
    { launched with
      state :=
        { launched.state with
          terminalFuture := some future
          terminalIndex := exchange.state.ruleIndex } }.suspend .drain
  else exchange.suspend .drain

def routeAction (transport : Transport) (options : QueryOptions) : Exchange :=
  match exchange.state.terminalFuture with
  | some future =>
    if exchange.state.terminalIndex = exchange.state.ruleIndex then
      exchange.suspend (.pending (.future future))
    else exchange.suspend (.pending (.exchange transport options))
  | none => exchange.suspend (.pending (.exchange transport options))

/-- A reject action; an unknown method falls through to `next`. -/
def rejectAction (action : RejectAction) (next : Exchange) : Exchange :=
  match action.method with
  | .default =>
    exchange.return_
      { response := some (router.dnsRejectResponse exchange.query action.rcode)
        rejectAction := some action }
  | .drop => exchange.return_ { rejectAction := some action, err := some errDrop }
  | .reply => next

/-- The actions that wait for the armed rules. -/
def whenDrained (next : Exchange) : Exchange :=
  if exchange.state.armedRules.isEmpty then next else exchange.suspend .drain

def act : Exchange :=
  match rule.action with
  | none => exchange.nextRule
  | some (.routeOptions options) =>
    { exchange with
      state :=
        { exchange.state with
          effectiveOptions :=
            applyDNSRouteOptions exchange.state.effectiveOptions options } }.nextRule
  | some (.evaluate server tag speculative options) =>
    match router.transport server with
    | none =>
      if tag = "" then
        { exchange with state := { exchange.state with anonymousFuture := none } }.nextRule
      else exchange.nextRule
    | some transport =>
      let launched := (exchange.evaluateAction router tag transport
        (applyDNSRouteOptions exchange.state.effectiveOptions options)).nextRule
      if speculative then launched else exchange.whenDrained launched
  | some .respond => exchange.whenDrained (exchange.respondAction rule)
  | some (.route server speculative options) =>
    match router.resolveDNSRoute server options exchange.query.allowFakeIP
        exchange.state.effectiveOptions with
    | .missing | .skipped => exchange.nextRule
    | .resolved transport options =>
      if exchange.state.armedRules.isEmpty then exchange.routeAction transport options
      else exchange.routeArmed router speculative transport options
  | some (.reject action) =>
    exchange.whenDrained (exchange.rejectAction router action exchange.nextRule)
  | some (.predefined action) =>
    exchange.whenDrained (exchange.predefined router action exchange.state.effectiveOptions)

/-- The head of the loop over the rules, and what follows it. -/
def visit : Exchange :=
  match router.rules[exchange.state.ruleIndex]? with
  | none =>
    exchange.whenDrained <| exchange.suspend <|
      .pending (.exchange router.defaultTransport exchange.state.effectiveOptions)
  | some rule =>
    if router.disabled exchange.state.ruleIndex then exchange.nextRule
    else if hasBindings rule then exchange.goto (.settle (.walk rule) 0)
    else exchange.goto (.evaluate rule)

def awaitTags : List String → Exchange
  | [] =>
    match exchange.state.pendingFuture
        (if matchResponseAnonymous rule.rule then exchange.state.anonymousFuture else none) with
    | some future => exchange.suspend (.await future)
    | none => exchange.goto (.evaluate rule)
  | tag :: tags =>
    match exchange.state.pendingFuture (exchange.state.namedFutures tag) with
    | some future => exchange.suspend (.await future)
    | none => exchange.goto (.await rule tags)

def evaluate : Exchange :=
  if exchange.matches_ router rule exchange.state.anonymousResponse then
    exchange.goto (.act rule)
  else exchange.nextRule

/-! ## Race rules -/

/-- Arm the rule with the futures that are pending; without any it is swept at
once. -/
def arm (pending : List Nat) : Exchange :=
  let bindsAnonymous := matchResponseAnonymous rule.rule
  let anonymousFuture := if bindsAnonymous then exchange.state.anonymousFuture else none
  let pending := pending ++ (exchange.state.pendingFuture anonymousFuture).toList
  let armedRule : ArmedRule :=
    { ruleIndex := exchange.state.ruleIndex
      rule := rule
      futures := pending
      anonymousFuture := anonymousFuture
      bindsAnonymous := bindsAnonymous
      options := exchange.state.effectiveOptions }
  let armed :=
    { exchange with
      state :=
        { exchange.state with armedRules := exchange.state.armedRules ++ [armedRule] } }
  if pending.isEmpty then armed.goto (.sweep (.walk rule) 0) else armed.nextRule

def collect (pending : List Nat) : List String → Exchange
  | [] => exchange.arm rule pending
  | tag :: tags =>
    exchange.goto <| .collect rule tags <|
      pending ++ (exchange.state.pendingFuture (exchange.state.namedFutures tag)).toList

variable (caller : Caller)

def sweep (index : Nat) : Exchange :=
  match exchange.state.armedRules[index]?, caller with
  | some armed, _ => exchange.goto (.ready caller index armed armed.futures)
  | none, .walk _ => exchange.nextRule
  | none, .resume suspension => exchange.goto (.decide suspension)

def ready (index : Nat) (armed : ArmedRule) : List Nat → Exchange
  | future :: futures =>
    if exchange.state.resolved future then
      exchange.goto (.ready caller index armed futures)
    else exchange.goto (.sweep caller (index + 1))
  | [] =>
    let taken :=
      { exchange with
        state :=
          { exchange.state with armedRules := exchange.state.armedRules.eraseIdx index } }
    if router.disabled armed.ruleIndex then taken.goto (.sweep caller index)
    else taken.goto (.sweepEvaluate caller index armed)

def sweepResponse (armed : ArmedRule) : Option Msg :=
  if armed.bindsAnonymous then armed.anonymousFuture.bind exchange.state.view
  else exchange.state.anonymousResponse

def sweepEvaluate (index : Nat) (armed : ArmedRule) : Exchange :=
  if exchange.matches_ router armed.rule (exchange.sweepResponse armed) then
    exchange.goto (.sweepAct caller index armed)
  else exchange.goto (.sweep caller index)

def sweepRespond (armed : ArmedRule) : Exchange :=
  let tag := matchResponseTag armed.rule.rule
  if tag ≠ "" then
    exchange.respondWith (exchange.state.namedResponses tag) (exchange.state.namedTransports tag)
  else
    match armed.anonymousFuture <|> exchange.state.anonymousFuture with
    | some future =>
      exchange.respondWith (exchange.state.view future) (exchange.state.futureTransport future)
    | none => exchange.respondWith none none

/-- A sweep commits to an exchange. The walk forgets the other armed rules. -/
def sweepPending (pending : PendingExchange) : Exchange :=
  match caller with
  | .walk _ =>
    { exchange with state := { exchange.state with armedRules := [] } }.suspend
      (.pending pending)
  | .resume _ => exchange.goto (.finish pending)

def sweepAct (index : Nat) (armed : ArmedRule) : Exchange :=
  match armed.rule.action with
  | some .respond => exchange.sweepRespond armed
  | some (.route server _ options) =>
    match router.resolveDNSRoute server options exchange.query.allowFakeIP armed.options with
    | .missing | .skipped => exchange.goto (.sweep caller index)
    | .resolved transport options => exchange.sweepPending caller (.exchange transport options)
  | some (.reject action) =>
    exchange.rejectAction router action (exchange.goto (.sweep caller index))
  | some (.predefined action) => exchange.predefined router action armed.options
  | _ => exchange.goto (.sweep caller index)

/-! ## Resuming -/

def decide_ : Suspension → Exchange
  | .pending pending => exchange.goto (.finish pending)
  | .await future =>
    if exchange.state.resolved future then exchange.goto .visit
    else exchange.goto (.blocked (.await future))
  | .drain =>
    if exchange.state.armedRules.isEmpty then exchange.goto .visit
    else exchange.goto (.blocked .drain)

def settleAt (position : Nat) : Exchange :=
  if position < exchange.state.futures.length then
    { exchange with
      state := exchange.state.settle position
      position := .settle caller (position + 1) }
  else
    match caller with
    | .walk rule =>
      if rule.race then exchange.goto (.collect rule (matchResponseTags rule.rule) [])
      else exchange.goto (.await rule (matchResponseTags rule.rule))
    | .resume _ => exchange.goto (.sweep caller 0)

/-- `finishPendingExchange`: an exchange of its own, or the speculative one. -/
def finish : PendingExchange → Option Exchange
  | .exchange transport options =>
    let reply := router.exchange exchange.launches transport exchange.query.message
      (router.finalizeExchangeOptions options)
    some <| { exchange with launches := exchange.launches + 1 }.return_
      { response := reply.response, transport := some transport, err := reply.err }
  | .future future =>
    match exchange.state.futures[future]? with
    | none => none
    | some finished =>
      if finished.done then
        some <| exchange.return_
          { response := finished.view
            transport := some finished.transport
            err := finished.reply.err }
      else none

/-- One step of the goroutine. There is none while it waits, and none after it
has returned. -/
def walk : Option Exchange :=
  match exchange.position with
  | .visit => some (exchange.visit router)
  | .settle caller position => some (exchange.settleAt caller position)
  | .collect rule tags pending => some (exchange.collect rule pending tags)
  | .await rule tags => some (exchange.awaitTags rule tags)
  | .evaluate rule => some (exchange.evaluate router rule)
  | .act rule => some (exchange.act router rule)
  | .respond =>
    some <| exchange.respondWith exchange.state.anonymousResponse <|
      exchange.state.anonymousFuture.bind exchange.state.futureTransport
  | .sweep caller index => some (exchange.sweep caller index)
  | .ready caller index armed futures => some (exchange.ready router caller index armed futures)
  | .sweepEvaluate caller index armed => some (exchange.sweepEvaluate router caller index armed)
  | .sweepAct caller index armed => some (exchange.sweepAct router caller index armed)
  | .decide suspension => some (exchange.decide_ suspension)
  | .blocked suspension =>
    if exchange.state.wake then
      some
        { exchange with
          state := { exchange.state with wake := false }
          position := .settle (.resume suspension) 0 }
    else none
  | .finish pending => exchange.finish router pending
  | .returned _ => none

/-! ## Steps of the callbacks -/

/-- The callback stores the reply and closes `done`. -/
def complete (future : Nat) : Option Exchange :=
  match exchange.state.futures[future]? with
  | none => none
  | some pending =>
    if pending.done then none
    else
      some
        { exchange with
          state :=
            { exchange.state with
              futures := exchange.state.futures.set future { pending with done := true } } }

/-- The callback sends a token, which is dropped if there is one already. -/
def send (future : Nat) : Option Exchange :=
  match exchange.state.futures[future]? with
  | none => none
  | some finished =>
    if finished.done && !finished.sent then
      some
        { exchange with
          state :=
            { exchange.state with
              futures := exchange.state.futures.set future { finished with sent := true }
              wake := true } }
    else none

end Exchange

inductive WalkAction
  | walk
  | complete (future : Nat)
  | send (future : Nat)
  deriving DecidableEq

def Exchange.next (router : Router) (exchange : Exchange) : WalkAction → Option Exchange
  | .walk => exchange.walk router
  | .complete future => exchange.complete future
  | .send future => exchange.send future

end SingBox.Dns
