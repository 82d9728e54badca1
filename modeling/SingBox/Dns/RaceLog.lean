import SingBox.Dns.LiveWalk
import SingBox.Foundation.Fence

/-! # What a walk does with its rules

An observer writes down when the walk skips, arms or evaluates a rule, when a
rule launches an exchange and through which rule the walk commits. The log
belongs to one walk: the walk of an alias starts its own.
-/

namespace SingBox.Dns

open Route

abbrev WalkEvent := FenceEvent Nat

section

variable (rules : List DNSRule)

def races (index : Nat) : Bool :=
  rules[index]?.any DNSRule.race

def waits (index : Nat) : Bool :=
  rules[index]?.any DNSRule.waits

end

/-! ## How far the walk has come -/

def Suspension.phase : Suspension → FencePhase
  | .pending (.exchange _ _) => .finishing
  | .pending (.future _) => .over
  | .await _ => .walking
  | .drain => .walking

def Caller.phase : Caller → FencePhase
  | .walk _ => .walking
  | .resume suspension => suspension.phase

/-- A sweep of the walk itself is past the rule that it has armed. -/
def Caller.ahead : Caller → Nat
  | .walk _ => 1
  | .resume _ => 0

namespace Position

def phase : Position → FencePhase
  | .settle caller _ | .sweep caller _ | .ready caller _ _ _ | .sweepEvaluate caller _ _
  | .sweepAct caller _ _ => caller.phase
  | .decide suspension | .blocked suspension => suspension.phase
  | .finish (.exchange _ _) => .finishing
  | .finish (.future _) => .over
  | .returned _ => .over
  | _ => .walking

def ahead : Position → Nat
  | .sweep caller _ | .ready caller _ _ _ | .sweepEvaluate caller _ _ | .sweepAct caller _ _ =>
    caller.ahead
  | _ => 0

def taken : Position → Option ArmedRule
  | .sweepEvaluate _ _ armed => some armed
  | _ => none

end Position

def ArmedRule.entry (armed : ArmedRule) : FenceEntry Nat :=
  ⟨armed.ruleIndex, armed.futures⟩

/-! ## The observer -/

namespace WalkState

def bound (state : WalkState) (rule : DNSRule) : List Nat :=
  (matchResponseTags rule.rule).filterMap state.namedFutures ++
    (if matchResponseAnonymous rule.rule then state.anonymousFuture else none).toList

def resolvedFutures (state : WalkState) : List Nat :=
  (List.range state.futures.length).filter state.resolved

theorem mem_resolvedFutures {state : WalkState} {future : Nat}
    (isResolved : state.resolved future = true) : future ∈ state.resolvedFutures := by
  rcases resolved_iff.mp isResolved with ⟨_, isFuture, _⟩
  apply List.mem_filter.mpr
  exact ⟨List.mem_range.mpr (index_lt isFuture), isResolved⟩

end WalkState

namespace Exchange

/-- The walk is over after the step: the exchange has its result, has one
exchange left to finish, or goes on with the walk of an alias. -/
def commits (exchange after : Exchange) : Bool :=
  after.position.phase != .walking || after.frames.length != exchange.frames.length

def armedIndices (exchange : Exchange) : List Nat :=
  exchange.state.armedRules.map ArmedRule.ruleIndex

/-- What a step of the walk adds to the log. An exchange that is finished after
the walk is launched by the rule that the walk has committed through. -/
def events (router : Router) (exchange : Exchange) (log : List WalkEvent) (after : Exchange) :
    List WalkEvent :=
  let index := exchange.state.ruleIndex
  match exchange.position with
  | .visit =>
    if exchange.commits after then [.committed index]
    else if router.rules[index]?.isSome && router.disabled index then [.skipped index]
    else []
  | .collect rule [] _ => [.armed index (exchange.state.bound rule)]
  | .act _ =>
    if exchange.commits after then [.committed index]
    else if exchange.launches < after.launches then [.launched index exchange.armedIndices]
    else []
  | .respond => [.committed index]
  | .ready _ _ armed [] =>
    if router.disabled armed.ruleIndex then [.skipped armed.ruleIndex] else []
  | .sweepEvaluate _ _ armed => [.evaluated armed.ruleIndex exchange.state.resolvedFutures]
  | .sweepAct _ _ armed => if exchange.commits after then [.swept armed.ruleIndex] else []
  | .finish _ =>
    if exchange.launches < after.launches then
      (log.getLast?.bind FenceEvent.ends).toList.map (.launched · exchange.armedIndices)
    else []
  | _ => []

end Exchange

/-- An exchange with the log of its walk and the logs of the walks before. -/
structure Observed where
  exchange : Exchange
  log : List WalkEvent := []
  past : List (List WalkEvent) := []

def Observed.observe (router : Router) (observed : Observed) (after : Exchange) : Observed :=
  let log := observed.log ++ observed.exchange.events router observed.log after
  if after.frames.length = observed.exchange.frames.length then
    { exchange := after, log := log, past := observed.past }
  else { exchange := after, past := observed.past ++ [log] }

def Observed.next (router : Router) (observed : Observed) (action : LiveAction) : Option Observed :=
  (observed.exchange.live router action).map fun after =>
    match action with
    | .walk disabled => observed.observe (router.switched disabled) after
    | _ => { observed with exchange := after }

/-! ## The fence of a walk -/

namespace Exchange

def fence (exchange : Exchange) (log : List WalkEvent) : Fence Nat where
  index := exchange.state.ruleIndex + exchange.position.ahead
  armed := exchange.state.armedRules.map ArmedRule.entry
  taken := exchange.position.taken.map ArmedRule.entry
  speculative := exchange.state.terminalFuture.map fun _ => exchange.state.terminalIndex
  phase := exchange.position.phase
  log := log

end Exchange

/-- The futures of the tags that have been looked at are pending or resolved. -/
def WalkState.Collected (state : WalkState) (rule : DNSRule) (tags : List String)
    (pending : List Nat) : Prop :=
  ∃ seen, matchResponseTags rule.rule = seen ++ tags ∧
    ∀ tag ∈ seen, ∀ future, state.namedFutures tag = some future →
      future ∈ pending ∨ state.resolved future = true

section

variable (rules : List DNSRule)

/-- What a position says about the rule it stands at. -/
def Position.Placed (state : WalkState) : Position → Prop
  | .visit => True
  | .settle (.walk rule) _ => rules[state.ruleIndex]? = some rule
  | .settle (.resume suspension) _ => suspension.phase ≠ .walking → state.armedRules = []
  | .collect rule tags pending =>
    rules[state.ruleIndex]? = some rule ∧ rule.race = true ∧ state.Collected rule tags pending
  | .await rule _ | .evaluate rule | .act rule =>
    rules[state.ruleIndex]? = some rule ∧ rule.race = false
  | .respond =>
    (∃ rule, rules[state.ruleIndex]? = some rule ∧ rule.race = false ∧
      rule.action = some .respond) ∧ state.armedRules = []
  | .sweep (.walk _) _ => True
  | .sweep (.resume suspension) _ => suspension.phase ≠ .walking → state.armedRules = []
  | .ready caller index armed futures =>
    caller.phase = .walking ∧ state.armedRules[index]? = some armed ∧
      ∀ future ∈ armed.futures, future ∈ futures ∨ state.resolved future = true
  | .sweepEvaluate caller _ armed | .sweepAct caller _ armed =>
    caller.phase = .walking ∧ rules[armed.ruleIndex]? = some armed.rule ∧ armed.rule.race = true
  | .decide suspension => suspension.phase ≠ .walking → state.armedRules = []
  | .blocked suspension => suspension.phase = .walking
  | .finish _ => True
  | .returned _ => True

structure Placed (exchange : Exchange) : Prop where
  position : exchange.position.Placed rules exchange.state
  armed : ∀ armed ∈ exchange.state.armedRules,
    rules[armed.ruleIndex]? = some armed.rule ∧ armed.rule.race = true
  terminal : ∀ future, exchange.state.terminalFuture = some future →
    ∃ rule server speculative options, rules[exchange.state.terminalIndex]? = some rule ∧
      rule.action = some (.route server speculative options)

end

end SingBox.Dns
