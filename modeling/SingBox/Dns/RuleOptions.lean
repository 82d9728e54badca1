import SingBox.Dns.Response
import SingBox.Route.PreMatch

/-! # DNS rules

The options of a DNS rule and the rule that `NewDNSRule` builds from them in
the non-legacy mode. Options whose items read only the request are given as
the predicates of those items, by the list the items are appended to. A rule
is bound to the responses that its `match_response` options name.
-/

namespace SingBox.Dns

open Adapter Netip Route List

/-- `RuleActionDNSRouteOptions`. A missing client subnet is the zero prefix. -/
structure RouteOptions where
  strategy : DomainStrategy := .asIS
  timeout : Int := 0
  disableCache : Bool := false
  disableOptimisticCache : Bool := false
  rewriteTTL : Option (BitVec 32) := none
  clientSubnet : Prefix := .zero
  removeClientSubnet : Bool := false
  deriving DecidableEq

inductive RejectMethod
  | default
  | drop
  | reply
  deriving DecidableEq

structure RejectAction where
  rcode : Int := -1
  method : RejectMethod := .default
  noDrop : Bool := false
  deriving DecidableEq

structure PredefinedAction where
  rcode : Int := rcodeSuccess
  answer : List RR := []
  ns : List RR := []
  extra : List RR := []
  deriving DecidableEq

inductive RuleAction
  | route (server : String) (speculative : Bool) (options : RouteOptions)
  | evaluate (server tag : String) (speculative : Bool) (options : RouteOptions)
  | respond
  | routeOptions (options : RouteOptions)
  | reject (action : RejectAction)
  | predefined (action : PredefinedAction)
  deriving DecidableEq

/-- `DNSRuleMatchResponse`: a tag is only ever parsed together with the flag. -/
structure MatchResponse where
  enabled : Bool
  tag : String := ""
  tagged : tag ≠ "" → enabled = true

structure DefaultRuleOptions where
  /-- The request items of `items`, apart from the two below. -/
  items : List (Request → Bool) := []
  ipVersion : Nat := 0
  queryType : List (BitVec 16) := []
  /-- `domain`, `domain_suffix`, `domain_keyword` and `domain_regex`. -/
  domain : List (Request → Bool) := []
  sourceIPCIDR : Option (Addr → Bool) := none
  sourceIPIsPrivate : Bool := false
  ipCIDR : Option (Addr → Bool) := none
  ipIsPrivate : Bool := false
  ipAcceptAny : Bool := false
  responseRcode : Option Int := none
  responseAnswer : List (RR → Bool) := []
  responseNs : List (RR → Bool) := []
  responseExtra : List (RR → Bool) := []
  /-- `source_port` and `source_port_range`. -/
  sourcePort : List (Request → Bool) := []
  /-- `port` and `port_range`. -/
  port : List (Request → Bool) := []
  ruleSet : List String := []
  ruleSetIPCIDRMatchSource : Bool := false
  ruleSetIPCIDRAcceptEmpty : Bool := false
  matchResponse : Option MatchResponse := none
  invert : Bool := false
  action : Option RuleAction := none
  race : Bool := false

inductive RuleOptions
  | default (options : DefaultRuleOptions)
  | logical (mode : LogicalMode) (rules : List RuleOptions) (invert : Bool)
      (action : Option RuleAction) (race : Bool)

theorem RuleOptions.induct {motive : RuleOptions → Prop}
    (default : ∀ options, motive (.default options))
    (logical : ∀ mode rules invert action race, (∀ rule ∈ rules, motive rule) →
      motive (.logical mode rules invert action race)) :
    ∀ options, motive options
  | .default options => default options
  | .logical mode rules invert action race =>
    logical mode rules invert action race fun rule _ => induct default logical rule
decreasing_by
  have smaller := sizeOf_lt_of_mem ‹rule ∈ rules›
  rw [RuleOptions.logical.sizeOf_spec]
  omega

namespace DefaultRuleOptions

variable (options : DefaultRuleOptions)

def matchResponseEnabled : Bool :=
  options.matchResponse.any MatchResponse.enabled

def responseTag : String :=
  (options.matchResponse.map MatchResponse.tag).getD ""

theorem matchResponseEnabled_of_responseTag {options : DefaultRuleOptions}
    (tagged : options.responseTag ≠ "") : options.matchResponseEnabled = true := by
  unfold responseTag at tagged
  unfold matchResponseEnabled
  cases isResponse : options.matchResponse with
  | none =>
    rw [isResponse] at tagged
    exact absurd rfl tagged
  | some response =>
    rw [isResponse] at tagged
    exact response.tagged tagged

/-- `IsValid`: something other than `invert` is set. -/
def isValid : Bool :=
  !options.items.isEmpty || options.ipVersion != 0 || !options.queryType.isEmpty ||
    !options.domain.isEmpty || options.sourceIPCIDR.isSome || options.sourceIPIsPrivate ||
    options.ipCIDR.isSome || options.ipIsPrivate || options.ipAcceptAny ||
    options.responseRcode.isSome || !options.responseAnswer.isEmpty ||
    !options.responseNs.isEmpty || !options.responseExtra.isEmpty ||
    !options.sourcePort.isEmpty || !options.port.isEmpty || !options.ruleSet.isEmpty ||
    options.ruleSetIPCIDRMatchSource || options.ruleSetIPCIDRAcceptEmpty ||
    options.matchResponse.isSome || options.action.isSome || options.race

end DefaultRuleOptions

namespace RuleOptions

def action : RuleOptions → Option RuleAction
  | .default options => options.action
  | .logical _ _ _ action _ => action

def race : RuleOptions → Bool
  | .default options => options.race
  | .logical _ _ _ _ race => race

/-- `dnsRuleActionEvaluateTag` of a rule with an evaluate action. -/
def evaluateTag (options : RuleOptions) : Option String :=
  match options.action with
  | some (.evaluate _ tag _ _) => some tag
  | _ => none

/-- `dnsRuleActionSpeculative`. -/
def speculative (options : RuleOptions) : Bool :=
  match options.action with
  | some (.evaluate _ _ speculative _) => speculative
  | some (.route _ speculative _) => speculative
  | _ => false

end RuleOptions

/-! ## Building the rule -/

/-- The loaded rule-sets. Their rules are headless rules. -/
structure RuleSets where
  ruleSet : String → RuleSet RuleItem
  headless : ∀ tag, ∀ rule ∈ ruleSet tag, rule.Everywhere Rule.IsBuiltHeadless

variable (lib : SingLib) (sets : RuleSets)

namespace DefaultRuleOptions

variable (options : DefaultRuleOptions)

def queryTypeItem : List RuleItem :=
  if options.queryType.isEmpty then [] else [RuleItem.queryType options.queryType]

def ipVersionItem : List RuleItem :=
  if 0 < options.ipVersion then [RuleItem.ipVersion lib (options.ipVersion == 6)] else []

def recordItem (selector : Msg → List RR) (records : List (RR → Bool)) : List RuleItem :=
  if records.isEmpty then [] else [.dnsResponseRecord selector records]

/-- The items of the Response Match Fields that look at records or the code. -/
def responseItems : List RuleItem :=
  options.responseRcode.toList.map .dnsResponseRCode ++
    recordItem (·.answer) options.responseAnswer ++
    recordItem (·.ns) options.responseNs ++
    recordItem (·.extra) options.responseExtra

def destinationIPItems : List RuleItem :=
  options.ipCIDR.toList.map (.ipCIDR false) ++
    (if options.ipIsPrivate then [.ipIsPrivate false] else []) ++
    (if options.ipAcceptAny then [.ipAcceptAny] else [])

def own : DefaultItems RuleItem where
  items := options.ipVersionItem lib ++ options.queryTypeItem ++ options.responseItems ++
    options.items.map .request
  sourceAddressItems := options.sourceIPCIDR.toList.map (.ipCIDR true) ++
    if options.sourceIPIsPrivate then [.ipIsPrivate true] else []
  sourcePortItems := options.sourcePort.map .request
  destinationAddressItems := options.domain.map .request
  destinationIPCIDRItems := options.destinationIPItems
  destinationPortItems := options.port.map .request

def ruleSetItem : Option (RuleSetItem RuleItem) :=
  if options.ruleSet.isEmpty then none
  else some <| .mk (options.ruleSet.map sets.ruleSet) options.ruleSetIPCIDRMatchSource
    options.ruleSetIPCIDRAcceptEmpty

/-- The rule of `NewDefaultDNSRule`. -/
def rule : Rule RuleItem :=
  .default (options.own lib) (options.ruleSetItem sets) options.invert
    options.matchResponseEnabled options.responseTag

end DefaultRuleOptions

namespace RuleOptions

mutual
def rule : RuleOptions → Rule RuleItem
  | .default options => options.rule lib sets
  | .logical mode children invert _ _ => .logical mode (rules children) invert

def rules : List RuleOptions → List (Rule RuleItem)
  | [] => []
  | child :: children => child.rule :: rules children
end

theorem rules_eq_map (children : List RuleOptions) :
    rules lib sets children = children.map (rule lib sets) := by
  induction children with
  | nil => rfl
  | cons _ _ induction => rw [rules, induction, map_cons]

end RuleOptions

structure DNSRule where
  rule : Rule RuleItem
  action : Option RuleAction
  race : Bool

def RuleOptions.build (options : RuleOptions) : DNSRule :=
  ⟨options.rule lib sets, options.action, options.race⟩

/-! ## Response bindings -/

section

variable {Item : Type}

def matchResponseTag : Rule Item → String
  | .default _ _ _ _ matchResponseTag => matchResponseTag
  | .logical _ _ _ => ""

mutual
def matchResponseTags : Rule Item → List String
  | .default _ _ _ _ matchResponseTag => if matchResponseTag = "" then [] else [matchResponseTag]
  | .logical _ rules _ => (matchResponseTagsOf rules).eraseDups

def matchResponseTagsOf : List (Rule Item) → List String
  | [] => []
  | rule :: rules => matchResponseTags rule ++ matchResponseTagsOf rules
end

mutual
def matchResponseAnonymous : Rule Item → Bool
  | .default _ _ _ matchResponse matchResponseTag => matchResponse && matchResponseTag == ""
  | .logical _ rules _ => matchResponseAnonymousIn rules

def matchResponseAnonymousIn : List (Rule Item) → Bool
  | [] => false
  | rule :: rules => matchResponseAnonymous rule || matchResponseAnonymousIn rules
end

theorem matchResponseTag_mem {rule : Rule Item} (tagged : matchResponseTag rule ≠ "") :
    matchResponseTag rule ∈ matchResponseTags rule := by
  cases rule with
  | default _ _ invert _ tag =>
    have named : tag ≠ "" := tagged
    rw [matchResponseTags, if_neg named]
    exact mem_singleton_self tag
  | logical => exact absurd rfl tagged

variable {invert : Bool} {mode : LogicalMode} {rules : List (Rule Item)}

theorem mem_matchResponseTags_logical {tag : String} :
    tag ∈ matchResponseTags (.logical mode rules invert) ↔
      ∃ child ∈ rules, tag ∈ matchResponseTags child := by
  rw [matchResponseTags, mem_eraseDups]
  induction rules with
  | nil => simp [matchResponseTagsOf]
  | cons _ _ induction => simp [matchResponseTagsOf, induction]

theorem matchResponseAnonymous_of_child {child : Rule Item} (member : child ∈ rules)
    (bound : matchResponseAnonymous child = true) :
    matchResponseAnonymous (.logical mode rules invert) = true := by
  rw [matchResponseAnonymous]
  induction rules with
  | nil => cases member
  | cons _ _ induction =>
    rw [matchResponseAnonymousIn, Bool.or_eq_true]
    rcases mem_cons.mp member with equal | later
    · subst equal
      exact .inl bound
    · exact .inr (induction later)

theorem matchResponseTags_ne_empty (rule : Rule Item) : "" ∉ matchResponseTags rule := by
  induction rule using Rule.induct with
  | step rule induction =>
    cases rule with
    | default _ _ invert =>
      rw [matchResponseTags]
      split
      · exact not_mem_nil
      · next tagged => simpa using Ne.symm tagged
    | logical =>
      rw [mem_matchResponseTags_logical]
      rintro ⟨child, member, bound⟩
      exact induction child member bound

end

end SingBox.Dns
