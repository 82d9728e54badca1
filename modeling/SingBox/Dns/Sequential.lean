import SingBox.Dns.RuleBinding
import SingBox.Dns.RuleWalk
import SingBox.Foundation.Refinement

/-! # The sequential reference

What the rules mean when every evaluate action waits for its own exchange
before the next rule is looked at. There are no futures: an evaluated exchange
is there with its reply. The machine looks at one rule in each step.
-/

namespace SingBox.Dns

open Adapter Route RuleOptions List Option

structure Evaluated where
  transport : Transport
  reply : Reply
  deriving DecidableEq

def Evaluated.view (evaluated : Evaluated) : Option Msg :=
  if evaluated.reply.err.isNone then evaluated.reply.response else none

@[ext] structure SequentialState where
  query : Query
  ruleIndex : Nat := 0
  effectiveOptions : QueryOptions
  anonymous : Option Evaluated := none
  named : String → Option Evaluated := fun _ => none
  launches : Nat := 0
  frames : List Frame := []

inductive Sequential
  | running (state : SequentialState)
  | returned (result : ExchangeResult)

namespace SequentialState

variable (router : Router) (state : SequentialState)

def nextRule : Sequential := .running { state with ruleIndex := state.ruleIndex + 1 }

def return_ (result : ExchangeResult) : Sequential := .returned (unwind state.frames result)

def evaluationMetadata : InboundContext :=
  { state.query.metadata.resetRuleCache with
    dnsResponse := state.anonymous.bind Evaluated.view
    namedDNSResponses := fun tag => (state.named tag).bind Evaluated.view
    destinationAddressMatchFromResponse := false }

def matches_ (rule : DNSRule) : Bool :=
  (rule.rule.match (RuleItem.match router.lib) state.evaluationMetadata).matched

def exchange (transport : Transport) (options : QueryOptions) : Reply :=
  router.exchange state.launches transport state.query.message
    (router.finalizeExchangeOptions options)

/-- The exchange that answers the query. -/
def answer (transport : Transport) (options : QueryOptions) : Sequential :=
  let reply := state.exchange router transport options
  state.return_ { response := reply.response, transport := some transport, err := reply.err }

def evaluateAction (tag : String) (transport : Transport) (options : QueryOptions) :
    SequentialState :=
  let evaluated : Evaluated := ⟨transport, state.exchange router transport options⟩
  if tag = "" then
    { state with anonymous := some evaluated, launches := state.launches + 1 }
  else
    { state with
      named := Function.update state.named tag (some evaluated)
      launches := state.launches + 1 }

def respondWith (evaluated : Option Evaluated) : Sequential :=
  match evaluated.bind Evaluated.view with
  | none => state.return_ { err := some respondMissingResponseMessage }
  | some response =>
    state.return_
      { response := some response, transport := evaluated.map Evaluated.transport }

def respondAction (rule : DNSRule) : Sequential :=
  let tag := matchResponseTag rule.rule
  state.respondWith (if tag ≠ "" then state.named tag else state.anonymous)

def rejectAction (action : RejectAction) : Sequential :=
  match action.method with
  | .default =>
    state.return_
      { response := some (router.dnsRejectResponse state.query action.rcode)
        rejectAction := some action }
  | .drop => state.return_ { rejectAction := some action, err := some errDrop }
  | .reply => state.nextRule

def predefined (action : PredefinedAction) : Sequential :=
  let response := action.response state.query
  match followPredefinedCNAME router.names router.closing state.query response
      state.effectiveOptions with
  | none => state.return_ { response := some response }
  | some nested =>
    .running
      { query := nested
        effectiveOptions := nested.options
        launches := state.launches
        frames := ⟨state.query.question.qtype, response⟩ :: state.frames }

def act (rule : DNSRule) : Sequential :=
  match rule.action with
  | none => state.nextRule
  | some (.routeOptions options) =>
    { state with
      effectiveOptions := applyDNSRouteOptions state.effectiveOptions options }.nextRule
  | some (.evaluate server tag _ options) =>
    match router.transport server with
    | none => if tag = "" then { state with anonymous := none }.nextRule else state.nextRule
    | some transport =>
      (state.evaluateAction router tag transport
        (applyDNSRouteOptions state.effectiveOptions options)).nextRule
  | some .respond => state.respondAction rule
  | some (.route server _ options) =>
    match router.resolveDNSRoute server options state.query.allowFakeIP
        state.effectiveOptions with
    | .missing | .skipped => state.nextRule
    | .resolved transport options => state.answer router transport options
  | some (.reject action) => state.rejectAction router action
  | some (.predefined action) => state.predefined router action

def look : Sequential :=
  match router.rules[state.ruleIndex]? with
  | none => state.answer router router.defaultTransport state.effectiveOptions
  | some rule =>
    if router.disabled state.ruleIndex then state.nextRule
    else if state.matches_ router rule then state.act router rule
    else state.nextRule

end SequentialState

namespace Sequential

def step (router : Router) : Sequential → Sequential
  | .running state => state.look router
  | .returned result => .returned result

def start (query : Query) : Sequential :=
  .running { query := query, effectiveOptions := query.options }

def Returns (router : Router) (query : Query) (result : ExchangeResult) : Prop :=
  ∃ count, (step router)^[count] (start query) = .returned result

theorem Returns.unique {router : Router} {query : Query} {left right : ExchangeResult}
    (isLeft : Returns router query left) (isRight : Returns router query right) : left = right := by
  rcases isLeft with ⟨_, isLeft⟩
  rcases isRight with ⟨_, isRight⟩
  have same : Sequential.returned left = .returned right :=
    iterate_fixed_unique rfl rfl isLeft isRight
  exact Sequential.returned.inj same

end Sequential

/-! ## Rule lists without race rules -/

/-- What the walk relies on in an accepted list of rules without `race`. -/
structure Orderly (router : Router) : Prop where
  raceless : ∀ rule ∈ router.rules, rule.race = false
  reads : ∀ rule ∈ router.rules, ReadsBound rule.rule
  respond : ∀ rule ∈ router.rules, rule.action = some .respond →
    matchResponseTag rule.rule = "" → matchResponseTags rule.rule = []
  distinct : ∀ {first second : Nat} {firstRule secondRule : DNSRule}
    {firstServer secondServer tag : String} {firstSpeculative secondSpeculative : Bool}
    {firstOptions secondOptions : RouteOptions},
    router.rules[first]? = some firstRule → router.rules[second]? = some secondRule →
    firstRule.action = some (.evaluate firstServer tag firstSpeculative firstOptions) →
    secondRule.action = some (.evaluate secondServer tag secondSpeculative secondOptions) →
    tag ≠ "" → first = second

variable {lookup : String → Except String RuleSetMetadata} {sets : RuleSets}

theorem matchResponseTags_referenced {lib : SingLib} (options : RuleOptions) : ∀ {use},
    validateLegacyDNSModeDisabledRuleTree lookup options = .ok use →
      ∀ tag ∈ matchResponseTags (options.rule lib sets), tag ∈ use.referencedTags := by
  induction options using induct with
  | default options =>
    intro use accepted tag member
    rw [responseUse_of_accepted accepted]
    by_cases isEmpty : options.responseTag = ""
    · simp [rule, DefaultRuleOptions.rule, matchResponseTags, isEmpty] at member
    have enabled := DefaultRuleOptions.matchResponseEnabled_of_responseTag isEmpty
    simpa [rule, DefaultRuleOptions.rule, matchResponseTags, responseUse, enabled] using member
  | logical _ _ _ _ _ induction =>
    intro _ accepted tag member
    rcases logical_accepted accepted with ⟨_, subAccepted, sameTags, _⟩
    rw [sameTags]
    rcases mem_matchResponseTags_logical.mp member with ⟨_, childMember, bound⟩
    rw [rules_eq_map] at childMember
    rcases mem_map.mp childMember with ⟨childOptions, isChild, rfl⟩
    rcases subRule_accepted subAccepted childOptions isChild with
      ⟨childUse, childAccepted, within⟩
    exact within tag (induction childOptions isChild childAccepted tag bound)

theorem orderly_of_accepted {router : Router} {options : List RuleOptions}
    (accepted : AcceptedRules lookup options) (raceless : ∀ rule ∈ options, rule.race = false)
    (built : router.rules = options.map (build router.lib sets)) :
    Orderly router where
  raceless rule member := by
    rw [built] at member
    rcases mem_map.mp member with ⟨ruleOptions, isOptions, equal⟩
    rw [← equal]
    exact raceless ruleOptions isOptions
  reads rule member := by
    rw [built] at member
    rcases mem_map.mp member with ⟨ruleOptions, isOptions, equal⟩
    rcases accepted.tree ruleOptions isOptions with ⟨use, treeAccepted⟩
    rw [← equal]
    exact readsBound_of_accepted ruleOptions treeAccepted
  respond rule member isRespond noTag := by
    rw [built] at member
    rcases mem_map.mp member with ⟨ruleOptions, isOptions, equal⟩
    rcases accepted.tree ruleOptions isOptions with ⟨_, treeAccepted⟩
    subst equal
    cases ruleOptions with
    | default => exact if_pos noTag
    | logical _ _ _ action =>
      rcases logical_accepted treeAccepted with ⟨_, _, _, noTags⟩
      have none := noTags isRespond
      apply eq_nil_iff_forall_not_mem.mpr
      intro tag bound
      have referenced := matchResponseTags_referenced _ treeAccepted tag bound
      rw [none] at referenced
      cases referenced
  distinct {first second _ _ _ _ tag _ _ _ _} isFirst isSecond firstAction secondAction named := by
    rw [built, getElem?_map, map_eq_some_iff] at isFirst isSecond
    rcases isFirst with ⟨firstOptions, isFirst, firstEqual⟩
    rcases isSecond with ⟨secondOptions, isSecond, secondEqual⟩
    subst firstEqual secondEqual
    have firstTag : firstOptions.namedTag = some tag := by
      rw [namedTag, evaluateTag, show firstOptions.action = _ from firstAction]
      simp [named]
    have secondTag : secondOptions.namedTag = some tag := by
      rw [namedTag, evaluateTag, show secondOptions.action = _ from secondAction]
      simp [named]
    have pairwise := List.pairwise_iff_getElem.mp accepted.distinct
    rcases List.getElem?_eq_some_iff.mp isFirst with ⟨firstFits, isFirst⟩
    rcases List.getElem?_eq_some_iff.mp isSecond with ⟨secondFits, isSecond⟩
    subst isFirst isSecond
    rcases Nat.lt_trichotomy first second with before | same | after
    · exact absurd secondTag (pairwise first second firstFits secondFits before tag firstTag)
    · exact same
    · exact absurd firstTag (pairwise second first secondFits firstFits after tag secondTag)

end SingBox.Dns
