import SingBox.Dns.Timing

/-! # The walk of a running router

Rules can be switched off and on while an exchange is under way, so every step
of the walk reads them anew, and the context of the caller can end while the
exchange waits. This module says what a step of the walk can do with any list
of rules, race rules included.
-/

namespace SingBox.Dns

open Route Option

inductive LiveAction
  /-- A step of the walk that finds these rules disabled. -/
  | walk (disabled : Nat → Bool)
  | complete (future : Nat)
  | send (future : Nat)
  /-- The context of the caller ends with this error. -/
  | cancel (err : String)

def Router.switched (router : Router) (disabled : Nat → Bool) : Router :=
  { router with disabled := disabled }

/-- The places that select on the context of the caller. -/
def Position.selects : Position → Bool
  | .blocked _ => true
  | .finish (.future _) => true
  | _ => false

namespace WalkState

def sent (state : WalkState) (future : Nat) : Bool :=
  state.futures[future]?.any Future.sent

/-- No callback has made a step. What the walk has launched is under way. -/
structure Kept (before after : WalkState) : Prop where
  resolved : after.resolved = before.resolved
  sent : after.sent = before.sent

namespace Kept

variable {before after : WalkState}

theorem of_futures (sameFutures : after.futures = before.futures) : before.Kept after where
  resolved := by
    funext future
    rw [WalkState.resolved, sameFutures, WalkState.resolved]
  sent := by
    funext future
    rw [WalkState.sent, sameFutures, WalkState.sent]

theorem refl (state : WalkState) : state.Kept state := of_futures rfl

theorem launch {new : Future} (isLaunched : after.futures = before.futures ++ [new])
    (notDone : new.done = false) (notSent : new.sent = false) : before.Kept after where
  resolved := by
    funext future
    rw [WalkState.resolved, isLaunched, any_getElem?_concat notDone, WalkState.resolved]
  sent := by
    funext future
    rw [WalkState.sent, isLaunched, any_getElem?_concat notSent, WalkState.sent]

theorem settle (state : WalkState) (position : Nat) : state.Kept (state.settle position) := by
  rcases state.settle_cases position with ⟨same, _⟩ | ⟨old, _, _, isOld, _, isState, _⟩
  · rw [same]
    exact refl state
  rw [isState]
  constructor
  · funext future
    exact any_getElem?_set Future.done { old with settled := true } isOld rfl future
  · funext future
    exact any_getElem?_set Future.sent { old with settled := true } isOld rfl future

end Kept

end WalkState

/-- An evaluate action that is not speculative. -/
def DNSRule.waits (rule : DNSRule) : Bool :=
  match rule.action with
  | some (.evaluate _ _ speculative _) => !speculative
  | _ => false

namespace Exchange

def live (router : Router) (exchange : Exchange) : LiveAction → Option Exchange
  | .walk disabled => exchange.walk (router.switched disabled)
  | .complete future => exchange.complete future
  | .send future => exchange.send future
  | .cancel err =>
    if exchange.position.selects then some (exchange.return_ { err := some err }) else none

variable {router : Router} {exchange after : Exchange} {rule : DNSRule}

theorem cancel_cases {err : String} (isNext : exchange.live router (.cancel err) = some after) :
    exchange.position.selects = true ∧ after = exchange.return_ { err := some err } := by
  rw [live] at isNext
  split at isNext
  · next isSelect => exact ⟨isSelect, (some.inj isNext).symm⟩
  · cases isNext

/-! ## Actions of a rule -/

/-- The exchange with the speculative route of its rule launched. -/
def speculate (router : Router) (exchange : Exchange) (transport : Transport)
    (options : QueryOptions) : Exchange :=
  let launched := exchange.launch router "" transport options true
  { launched with
    state :=
      { launched.state with
        terminalFuture := some exchange.state.futures.length
        terminalIndex := exchange.state.ruleIndex } }

/-- What a rule that matches in its turn can do. -/
inductive Acted (router : Router) (exchange : Exchange) (rule : DNSRule) : Exchange → Prop
  | pass (options : QueryOptions) (anonymous : Option Nat) :
    Acted router exchange rule
      { exchange with
        state :=
          { exchange.state with
            effectiveOptions := options
            anonymousFuture := anonymous } }.nextRule
  | launch (server tag : String) (speculative : Bool) (options : RouteOptions)
      (transport : Transport) (queryOptions : QueryOptions) :
      rule.action = some (.evaluate server tag speculative options) →
      (speculative = false → exchange.state.armedRules = []) →
      Acted router exchange rule
        (exchange.evaluateAction router tag transport queryOptions).nextRule
  | drain : Acted router exchange rule (exchange.suspend .drain)
  | await (future : Nat) :
    exchange.state.resolved future = false →
    Acted router exchange rule (exchange.suspend (.await future))
  | speculate (server : String) (options : RouteOptions) (transport : Transport)
      (queryOptions : QueryOptions) :
      rule.action = some (.route server true options) →
      exchange.state.terminalFuture = none →
      Acted router exchange rule
        ((exchange.speculate router transport queryOptions).suspend .drain)
  | respond :
    exchange.state.armedRules = [] →
    rule.action = some .respond →
    Acted router exchange rule (exchange.goto .respond)
  | return_ (result : ExchangeResult) :
    exchange.state.armedRules = [] →
    rule.waits = false →
    Acted router exchange rule (exchange.return_ result)
  | pending (pending : PendingExchange) (server : String) (speculative : Bool)
      (options : RouteOptions) :
      exchange.state.armedRules = [] →
      rule.action = some (.route server speculative options) →
      (∀ transport options, pending = .exchange transport options →
        exchange.state.terminalFuture = none ∨
          exchange.state.terminalIndex ≠ exchange.state.ruleIndex) →
      Acted router exchange rule (exchange.suspend (.pending pending))
  | predefined (action : PredefinedAction) (options : QueryOptions) :
    exchange.state.armedRules = [] →
    rule.action = some (.predefined action) →
    Acted router exchange rule (exchange.predefined router action options)

theorem acted_whenDrained {next : Exchange}
    (acted : exchange.state.armedRules = [] → Acted router exchange rule next) :
    Acted router exchange rule (exchange.whenDrained next) := by
  rw [whenDrained]
  split
  · next isDrained => exact acted (List.isEmpty_iff.mp isDrained)
  · exact .drain

theorem waits_of_respond (isRespond : rule.action = some .respond) : rule.waits = false := by
  rw [DNSRule.waits, isRespond]

section

variable (isDrained : exchange.state.armedRules = [])
include isDrained

variable (isRespond : rule.action = some .respond)
include isRespond

theorem acted_respondWith (response : Option Msg) (transport : Option Transport) :
    Acted router exchange rule (exchange.respondWith response transport) := by
  cases response <;> exact .return_ _ isDrained (waits_of_respond isRespond)

theorem acted_respondAction :
    Acted router exchange rule (exchange.respondAction rule) := by
  rw [respondAction]
  split
  · exact acted_respondWith isDrained isRespond _ _
  split
  · exact .respond isDrained isRespond
  split
  · next isPending =>
    apply Acted.await
    rw [WalkState.pendingFuture, filter_eq_some_iff] at isPending
    simpa using isPending.2
  · exact .respond isDrained isRespond

end

variable {options : RouteOptions} {server : String} {speculative : Bool} {armed : ArmedRule}
  {caller : Caller} {index future other : Nat}

theorem acted_routeAction (isDrained : exchange.state.armedRules = [])
    (isRoute : rule.action = some (.route server speculative options)) (transport : Transport)
    (queryOptions : QueryOptions) :
    Acted router exchange rule (exchange.routeAction transport queryOptions) := by
  rw [routeAction]
  split
  · split
    · exact .pending _ server speculative options isDrained isRoute
        fun _ _ isExchange => by cases isExchange
    · next notHere =>
      exact .pending _ server speculative options isDrained isRoute fun _ _ _ => .inr notHere
  · next isNone =>
    exact .pending _ server speculative options isDrained isRoute fun _ _ _ => .inl isNone

theorem acted_routeArmed (isRoute : rule.action = some (.route server speculative options))
    (transport : Transport) (queryOptions : QueryOptions) :
    Acted router exchange rule
      (exchange.routeArmed router speculative transport queryOptions) := by
  rw [routeArmed]
  split
  · next isFirst =>
    rw [Bool.and_eq_true, isNone_iff_eq_none] at isFirst
    rcases isFirst with ⟨rfl, isNone⟩
    exact .speculate server options transport queryOptions isRoute isNone
  · exact .drain

theorem acted_act : Acted router exchange rule (exchange.act router rule) := by
  rw [act]
  cases isAction : rule.action with
  | none => exact .pass _ _
  | some action =>
    cases action with
    | routeOptions options => exact .pass _ _
    | evaluate server tag speculative options =>
      dsimp only
      split
      · split <;> exact .pass _ _
      next transport _ =>
      cases speculative with
      | true =>
        exact .launch server tag true options transport _ isAction
          nofun
      | false =>
        apply acted_whenDrained
        intro isDrained
        exact .launch server tag false options transport _ isAction fun _ => isDrained
    | respond => exact acted_whenDrained fun isDrained => acted_respondAction isDrained isAction
    | route server _ options =>
      dsimp only
      split
      · exact .pass _ _
      · exact .pass _ _
      split
      · next isDrained => exact acted_routeAction (List.isEmpty_iff.mp isDrained) isAction _ _
      · exact acted_routeArmed isAction _ _
    | reject action =>
      apply acted_whenDrained
      intro isDrained
      have notWaiting : rule.waits = false := by rw [DNSRule.waits, isAction]
      rw [rejectAction]
      split
      · exact .return_ _ isDrained notWaiting
      · exact .return_ _ isDrained notWaiting
      · exact .pass _ _
    | predefined action =>
      exact acted_whenDrained fun isDrained => .predefined action _ isDrained isAction

/-! ## Armed rules -/

/-- The futures an armed rule waits for, from those of its tags. -/
def armedFutures (exchange : Exchange) (rule : DNSRule) (pending : List Nat) : List Nat :=
  pending ++ (exchange.state.pendingFuture
    (if matchResponseAnonymous rule.rule then exchange.state.anonymousFuture else none)).toList

def arming (exchange : Exchange) (armed : ArmedRule) : Exchange :=
  { exchange with
    state := { exchange.state with armedRules := exchange.state.armedRules ++ [armed] } }

theorem arm_cases (rule : DNSRule) (pending : List Nat) :
    ∃ armed : ArmedRule, armed.ruleIndex = exchange.state.ruleIndex ∧ armed.rule = rule ∧
      armed.futures = exchange.armedFutures rule pending ∧
      (exchange.arm rule pending = (exchange.arming armed).goto (.sweep (.walk rule) 0) ∨
        exchange.arm rule pending = (exchange.arming armed).nextRule) := by
  refine ⟨
    { ruleIndex := exchange.state.ruleIndex
      rule := rule
      futures := exchange.armedFutures rule pending
      anonymousFuture :=
        if matchResponseAnonymous rule.rule then exchange.state.anonymousFuture else none
      bindsAnonymous := matchResponseAnonymous rule.rule
      options := exchange.state.effectiveOptions }, rfl, rfl, rfl, ?_⟩
  by_cases isEmpty : (exchange.armedFutures rule pending).isEmpty = true
  · exact .inl (if_pos isEmpty)
  · exact .inr (if_neg isEmpty)

/-- What an armed rule that matches can do. -/
inductive SweepActed (router : Router) (exchange : Exchange) (caller : Caller) (index : Nat)
    (armed : ArmedRule) : Exchange → Prop
  | pass : SweepActed router exchange caller index armed (exchange.goto (.sweep caller index))
  | return_ (result : ExchangeResult) :
    armed.rule.waits = false →
    SweepActed router exchange caller index armed (exchange.return_ result)
  | pending (pending : PendingExchange) :
    armed.rule.waits = false →
    SweepActed router exchange caller index armed (exchange.sweepPending caller pending)
  | predefined (action : PredefinedAction) (options : QueryOptions) :
    armed.rule.action = some (.predefined action) →
    SweepActed router exchange caller index armed (exchange.predefined router action options)

theorem sweepActed_respondWith (isRespond : armed.rule.action = some .respond)
    (response : Option Msg) (transport : Option Transport) :
    SweepActed router exchange caller index armed (exchange.respondWith response transport) := by
  cases response <;> exact .return_ _ (waits_of_respond isRespond)

theorem sweepActed_sweepAct :
    SweepActed router exchange caller index armed
      (exchange.sweepAct router caller index armed) := by
  rw [sweepAct]
  cases isAction : armed.rule.action with
  | none => exact .pass
  | some action =>
    cases action with
    | respond =>
      dsimp only
      rw [sweepRespond]
      split
      · exact sweepActed_respondWith isAction _ _
      · split <;> exact sweepActed_respondWith isAction _ _
    | route =>
      dsimp only
      split
      · exact .pass
      · exact .pass
      · exact .pending _ (by rw [DNSRule.waits, isAction])
    | reject action =>
      dsimp only
      rw [rejectAction]
      split
      · exact .return_ _ (by rw [DNSRule.waits, isAction])
      · exact .return_ _ (by rw [DNSRule.waits, isAction])
      · exact .pass
    | predefined action => exact .predefined action _ isAction
    | _ => exact .pass

theorem predefined_cases (action : PredefinedAction) (options : QueryOptions) :
    (∃ result, exchange.predefined router action options = exchange.return_ result) ∨
      ∃ nested frame, exchange.predefined router action options =
        exchange.nest nested frame := by
  rw [predefined]
  split
  · exact .inl ⟨_, rfl⟩
  · exact .inr ⟨_, _, rfl⟩

variable (suspension : Suspension)

theorem suspend_cases :
    exchange.suspend suspension =
        { exchange with position := .settle (.resume suspension) 0, async := false } ∨
      ∃ transport options, suspension = .pending (.exchange transport options) ∧
        exchange.suspend suspension =
          { exchange with position := .finish (.exchange transport options), async := false } := by
  unfold suspend
  split
  · exact .inr ⟨_, _, rfl, rfl⟩
  · exact .inl rfl

/-! ## Futures under way -/

/-- A step of the walk leaves the futures to the callbacks, or the walk of an
alias starts. -/
inductive Continues (exchange : Exchange) : Exchange → Prop
  | on {after : Exchange} :
    after.frames = exchange.frames →
    exchange.state.Kept after.state →
    Continues exchange after
  | nest (nested : Query) (frame : Frame) : Continues exchange (exchange.nest nested frame)

theorem continues_goto (position : Position) : exchange.Continues (exchange.goto position) :=
  .on rfl (.refl _)

theorem continues_return (result : ExchangeResult) : exchange.Continues (exchange.return_ result) :=
  .on rfl (.refl _)

theorem continues_nextRule : exchange.Continues exchange.nextRule :=
  .on rfl (.of_futures rfl)

@[simp]
theorem suspend_state : (exchange.suspend suspension).state = exchange.state := by
  rcases exchange.suspend_cases suspension with isState | ⟨_, _, _, isState⟩ <;> rw [isState]

@[simp]
theorem suspend_frames : (exchange.suspend suspension).frames = exchange.frames := by
  rcases exchange.suspend_cases suspension with isState | ⟨_, _, _, isState⟩ <;> rw [isState]

theorem continues_suspend : exchange.Continues (exchange.suspend suspension) :=
  .on (suspend_frames suspension) (suspend_state suspension ▸ .refl _)

theorem continues_predefined (action : PredefinedAction) (options : QueryOptions) :
    exchange.Continues (exchange.predefined router action options) := by
  rcases exchange.predefined_cases action options with ⟨result, isState⟩ | ⟨nested, frame, isState⟩
  · rw [isState]
    exact continues_return result
  · rw [isState]
    exact .nest nested frame

theorem evaluateAction_frames (tag : String) (transport : Transport) (options : QueryOptions) :
    (exchange.evaluateAction router tag transport options).frames = exchange.frames := by
  rw [evaluateAction]
  split <;> rfl

theorem continues_acted (acted : Acted router exchange rule after) : exchange.Continues after := by
  cases acted with
  | pass options => exact .on rfl (.of_futures rfl)
  | launch server tag _ options transport queryOptions =>
    have kept : exchange.state.Kept
        (exchange.evaluateAction router tag transport queryOptions).state := by
      rw [evaluateAction]
      split <;> exact .launch rfl rfl rfl
    exact .on (evaluateAction_frames tag transport queryOptions) ⟨kept.1, kept.2⟩
  | speculate _ options transport queryOptions =>
    have launched :
        exchange.state.Kept (exchange.speculate router transport queryOptions).state :=
      .launch rfl rfl rfl
    refine .on (suspend_frames _) ?_
    rw [suspend_state]
    exact launched
  | respond => exact continues_goto _
  | return_ result => exact continues_return result
  | predefined action options => exact continues_predefined action options
  | _ => exact continues_suspend _

theorem continues_visit : exchange.Continues (exchange.visit router) := by
  rw [visit]
  split
  · rw [whenDrained]
    split <;> exact continues_suspend _
  split
  · exact continues_nextRule
  · split <;> exact continues_goto _

theorem continues_settleAt (caller : Caller) (position : Nat) :
    exchange.Continues (exchange.settleAt caller position) := by
  unfold settleAt
  split
  · exact .on rfl (.settle exchange.state position)
  split
  · split <;> exact continues_goto _
  · exact continues_goto _

theorem continues_collect (pending : List Nat) (tags : List String) :
    exchange.Continues (exchange.collect rule pending tags) := by
  cases tags with
  | nil =>
    rw [collect]
    rcases exchange.arm_cases rule pending with ⟨_, -, -, -, isArmed | isArmed⟩ <;>
      rw [isArmed] <;> exact .on rfl (.of_futures rfl)
  | cons => exact continues_goto _

theorem continues_awaitTags (tags : List String) :
    exchange.Continues (exchange.awaitTags rule tags) := by
  cases tags with
  | nil | cons tag tags =>
    rw [awaitTags]
    split
    · exact continues_suspend _
    · exact continues_goto _

theorem continues_sweep (caller : Caller) (index : Nat) :
    exchange.Continues (exchange.sweep caller index) := by
  unfold sweep
  split
  · exact continues_goto _
  · exact continues_nextRule
  · exact continues_goto _

theorem continues_ready (caller : Caller) (index : Nat) (armed : ArmedRule) (futures : List Nat) :
    exchange.Continues (exchange.ready router caller index armed futures) := by
  cases futures with
  | nil =>
    rw [ready]
    split <;> exact .on rfl (.of_futures rfl)
  | cons =>
    rw [ready]
    split <;> exact continues_goto _

theorem continues_sweepActed
    (acted : SweepActed router exchange caller index armed after) : exchange.Continues after := by
  cases acted with
  | pass => exact continues_goto _
  | return_ result => exact continues_return result
  | pending =>
    cases caller with
    | walk =>
      refine .on (suspend_frames _) ?_
      rw [sweepPending, suspend_state]
      exact .of_futures rfl
    | resume => exact continues_goto _
  | predefined action options => exact continues_predefined action options

theorem continues_decide : exchange.Continues (exchange.decide_ suspension) := by
  cases suspension with
  | pending => exact continues_goto _
  | _ =>
    rw [decide_]
    split <;> exact continues_goto _

theorem continues_finish {pending : PendingExchange}
    (isNext : exchange.finish router pending = some after) : exchange.Continues after := by
  cases pending with
  | exchange =>
    cases isNext
    exact .on rfl (.of_futures rfl)
  | future =>
    rw [finish] at isNext
    split at isNext
    · cases isNext
    · split at isNext <;> cases isNext
      exact continues_return _

theorem continues_walk (isNext : exchange.walk router = some after) : exchange.Continues after := by
  rw [walk] at isNext
  split at isNext
  · exact some.inj isNext ▸ continues_visit
  · exact some.inj isNext ▸ continues_settleAt _ _
  · exact some.inj isNext ▸ continues_collect _ _
  · exact some.inj isNext ▸ continues_awaitTags _
  · next =>
    rw [← some.inj isNext, evaluate]
    split
    · exact continues_goto _
    · exact continues_nextRule
  · exact some.inj isNext ▸ continues_acted acted_act
  · rw [← some.inj isNext]
    cases exchange.state.anonymousResponse <;> exact continues_return _
  · exact some.inj isNext ▸ continues_sweep _ _
  · exact some.inj isNext ▸ continues_ready _ _ _ _
  · rw [← some.inj isNext, sweepEvaluate]
    split <;> exact continues_goto _
  · exact some.inj isNext ▸ continues_sweepActed sweepActed_sweepAct
  · exact some.inj isNext ▸ continues_decide _
  · split at isNext <;> cases isNext
    exact .on rfl (.of_futures rfl)
  · exact continues_finish isNext
  · cases isNext

/-! ## Steps of the callbacks -/

section

variable (completed : exchange.complete future = some after)
include completed

theorem resolved_complete :
    after.state.resolved other = true ↔ other = future ∨ exchange.state.resolved other = true := by
  rcases complete_cases completed with ⟨_, isPending, -, rfl⟩
  have fits := index_lt isPending
  by_cases same : other = future
  · subst same
    simp [WalkState.resolved, fits]
  · simp [WalkState.resolved, Ne.symm same, same]

theorem sent_complete : after.state.sent = exchange.state.sent := by
  rcases complete_cases completed with ⟨pending, isPending, -, rfl⟩
  funext other
  exact any_getElem?_set Future.sent { pending with done := true } isPending rfl other

theorem unsent_of_complete
    (sound : ∀ future, exchange.state.sent future = true → exchange.state.resolved future = true) :
    exchange.state.sent future = false := by
  rcases complete_cases completed with ⟨_, isPending, notDone, rfl⟩
  apply Bool.eq_false_iff.mpr
  intro isSent
  have isDone := sound future isSent
  rw [WalkState.resolved, isPending] at isDone
  cases notDone.symm.trans isDone

end

variable (sent : exchange.send future = some after)
include sent

theorem resolved_send :
    after.state.resolved = exchange.state.resolved := by
  rcases send_cases sent with ⟨finished, isFinished, -, -, rfl⟩
  funext other
  exact any_getElem?_set Future.done { finished with sent := true } isFinished rfl other

theorem sent_send (isSent : after.state.sent other = true) :
    exchange.state.sent other = true ∨ exchange.state.resolved other = true := by
  rcases send_cases sent with ⟨_, isFinished, isDone, -, rfl⟩
  by_cases same : other = future
  · subst same
    refine .inr ?_
    rw [WalkState.resolved, isFinished]
    exact isDone
  · refine .inl ?_
    simpa [WalkState.sent, Ne.symm same] using isSent

end Exchange

/-! ## A race rule between two actions -/

/-- An evaluate action, a race rule that responds with what it evaluates to, and
a speculative route. -/
def raceOptions : List RuleOptions :=
  [.default { action := some (.evaluate "up" "a" false {}) },
    .default
      { matchResponse := some ⟨true, "a", fun _ => rfl⟩
        action := some .respond
        race := true },
    .default { action := some (.route "down" true {}) }]

/-- The first exchange fails. -/
def raceRouter : Router :=
  { sampleRouter with
    rules := raceOptions.map (RuleOptions.build .sample sampleSets)
    exchange := fun launch _ _ _ =>
      if launch = 0 then { err := some "refused" } else { response := some {} } }

end SingBox.Dns
