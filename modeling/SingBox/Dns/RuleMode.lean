import SingBox.Dns.RuleValidation

/-! # The mode of the DNS rules

`resolveLegacyDNSMode` decides from the rules, and from what the rule-sets they
refer to contain, whether the legacy mode is used. Some options are only
understood outside of it and disable it; address filters need it. Disabling wins.
-/

namespace SingBox.Dns

open Route List RuleOptions

def optionLegacyDNSRuleStrategy : String :=
  messageWithLink "Legacy `strategy` DNS rule action option"
    "migrate-dns-rule-action-strategy-to-rule-items"

structure ModeFlags where
  disabled : Bool := false
  needed : Bool := false
  neededFromStrategy : Bool := false
  deriving DecidableEq

def ModeFlags.merge (flags other : ModeFlags) : ModeFlags where
  disabled := flags.disabled || other.disabled
  needed := flags.needed || other.needed
  neededFromStrategy := flags.neededFromStrategy || other.neededFromStrategy

theorem ModeFlags.disabled_merge (flags other : ModeFlags) :
    (flags.merge other).disabled = (flags.disabled || other.disabled) :=
  rfl

/-! ## What a rule asks for by itself -/

/-- `dnsRuleActionDisablesLegacyDNSMode`; an unset action is a route without options. -/
def actionDisablesLegacyDNSMode (action : Option RuleAction) (race : Bool) : Bool :=
  race ||
    match action with
    | some (.route _ speculative options) | some (.evaluate _ _ speculative options) =>
      options.disableOptimisticCache || speculative
    | some (.routeOptions options) => options.disableOptimisticCache
    | _ => false

def actionHasStrategy : Option RuleAction → Bool
  | some (.route _ _ options) | some (.evaluate _ _ _ options) | some (.routeOptions options) =>
    options.strategy != .asIS
  | _ => false

def isResponseAction : Option RuleAction → Bool
  | some (.evaluate _ _ _ _) => true
  | some .respond => true
  | _ => false

variable (options : DefaultRuleOptions) {matchSource : Bool} {name : String}

def defaultRuleNeedsLegacyDNSModeFromAddressFilter : Bool :=
  options.ruleSetIPCIDRAcceptEmpty ||
    !options.matchResponseEnabled && hasAddressFields options

def defaultRuleDisablesLegacyDNSMode : Bool :=
  options.matchResponseEnabled || hasResponseMatchFields options ||
    isResponseAction options.action || decide (0 < options.ipVersion) ||
    !options.queryType.isEmpty

def defaultFlags : ModeFlags where
  disabled := defaultRuleDisablesLegacyDNSMode options ||
    actionDisablesLegacyDNSMode options.action options.race
  needed := defaultRuleNeedsLegacyDNSModeFromAddressFilter options ||
    actionHasStrategy options.action
  neededFromStrategy := actionHasStrategy options.action

def logicalFlags (action : Option RuleAction) (race : Bool) : ModeFlags where
  disabled := isResponseAction action || actionDisablesLegacyDNSMode action race
  needed := actionHasStrategy action
  neededFromStrategy := actionHasStrategy action

/-! ## What the rules ask for -/

section

variable (lookup : String → Except String RuleSetMetadata)

def mergeSets (matchSource : Bool) : List String → ModeFlags → Except String ModeFlags
  | [], flags => .ok flags
  | tag :: tags, flags => do
    let metadata ← lookup tag
    mergeSets matchSource tags
      { flags with
        disabled := flags.disabled || metadata.containsDNSQueryTypeRule
        needed := flags.needed || !matchSource && metadata.containsIPCIDRRule }

def dnsRuleModeRequirementsInDefaultRule (options : DefaultRuleOptions) : Except String ModeFlags :=
  mergeSets lookup options.ruleSetIPCIDRMatchSource options.ruleSet (defaultFlags options)

mutual
def dnsRuleModeRequirementsInRule : RuleOptions → Except String ModeFlags
  | .default options => dnsRuleModeRequirementsInDefaultRule lookup options
  | .logical _ rules _ action race => mergeRules "sub rule" 0 rules (logicalFlags action race)

def mergeRules (name : String) : Nat → List RuleOptions → ModeFlags → Except String ModeFlags
  | _, [], flags => .ok flags
  | index, rule :: rules, flags => do
    let ruleFlags ← (dnsRuleModeRequirementsInRule rule).mapError (cause s!"{name}[{index}]")
    mergeRules name (index + 1) rules (flags.merge ruleFlags)
end

def dnsRuleModeRequirements (rules : List RuleOptions) : Except String ModeFlags :=
  mergeRules lookup "dns rule" 0 rules {}

def resolveLegacyDNSMode (rules : List RuleOptions) : Except String (Bool × ModeFlags) := do
  let flags ← dnsRuleModeRequirements lookup rules
  if flags.disabled && flags.neededFromStrategy then .error optionLegacyDNSRuleStrategy
  else if flags.disabled then .ok (false, flags)
  else .ok (flags.needed, flags)

end

/-! ## Rule-sets that the rules refer to -/

namespace RuleOptions

mutual
def ruleSetTags : RuleOptions → List String
  | .default options => options.ruleSet
  | .logical _ rules _ _ _ => ruleSetTagsOf rules

def ruleSetTagsOf : List RuleOptions → List String
  | [] => []
  | rule :: rules => rule.ruleSetTags ++ ruleSetTagsOf rules
end

mutual
/-- The rule disables the legacy mode whatever the rule-sets contain. -/
def disables : RuleOptions → Bool
  | .default options => (defaultFlags options).disabled
  | .logical _ rules _ action race => (logicalFlags action race).disabled || disablesIn rules

def disablesIn : List RuleOptions → Bool
  | [] => false
  | rule :: rules => rule.disables || disablesIn rules
end

end RuleOptions

def AgreeOn (tags : List String) (lookup other : String → Except String RuleSetMetadata) : Prop :=
  ∀ tag ∈ tags, lookup tag = other tag

section

variable {lookup other : String → Except String RuleSetMetadata} {flags : ModeFlags}
  {tags : List String} {index : Nat}

theorem mergeSets_congr (agree : AgreeOn tags lookup other) :
    mergeSets lookup matchSource tags flags = mergeSets other matchSource tags flags := by
  induction tags generalizing flags with
  | nil => rfl
  | cons tag _ induction =>
    rw [mergeSets, mergeSets, agree tag mem_cons_self]
    cases other tag with
    | error => rfl
    | ok => exact induction (forall_mem_cons.mp agree).2

theorem refuseAddressSets_congr (agree : AgreeOn tags lookup other) :
    refuseAddressSets lookup tags = refuseAddressSets other tags := by
  induction tags with
  | nil => rfl
  | cons tag _ induction =>
    rw [refuseAddressSets, refuseAddressSets, agree tag mem_cons_self,
      induction (forall_mem_cons.mp agree).2]

variable {rules : List RuleOptions}

theorem AgreeOn.rule (agree : AgreeOn (ruleSetTagsOf rules) lookup other) :
    ∀ rule ∈ rules, AgreeOn rule.ruleSetTags lookup other := by
  induction rules with
  | nil => nofun
  | cons _ _ induction =>
    intro rule member tag isTag
    rcases mem_cons.mp member with rfl | member
    · exact agree tag (mem_append_left _ isTag)
    · exact induction (fun tag isTag => agree tag (mem_append_right _ isTag)) rule member tag isTag

theorem mergeRules_congr (same : ∀ rule ∈ rules,
      dnsRuleModeRequirementsInRule lookup rule = dnsRuleModeRequirementsInRule other rule) :
    mergeRules lookup name index rules flags = mergeRules other name index rules flags := by
  induction rules generalizing index flags with
  | nil => rfl
  | cons rule _ induction =>
    rw [mergeRules, mergeRules, same rule mem_cons_self]
    cases dnsRuleModeRequirementsInRule other rule with
    | error => rfl
    | ok => exact induction (forall_mem_cons.mp same).2

theorem dnsRuleModeRequirementsInRule_congr (rule : RuleOptions) :
    AgreeOn rule.ruleSetTags lookup other →
      dnsRuleModeRequirementsInRule lookup rule = dnsRuleModeRequirementsInRule other rule := by
  induction rule using induct with
  | default =>
    intro agree
    exact mergeSets_congr agree
  | logical _ _ _ _ _ induction =>
    intro agree
    rw [dnsRuleModeRequirementsInRule, dnsRuleModeRequirementsInRule]
    apply mergeRules_congr
    intro rule member
    exact induction rule member (AgreeOn.rule agree rule member)

theorem resolveLegacyDNSMode_congr (agree : AgreeOn (ruleSetTagsOf rules) lookup other) :
    resolveLegacyDNSMode lookup rules = resolveLegacyDNSMode other rules := by
  have same : dnsRuleModeRequirements lookup rules = dnsRuleModeRequirements other rules :=
    mergeRules_congr fun rule member =>
      dnsRuleModeRequirementsInRule_congr rule (agree.rule rule member)
  rw [resolveLegacyDNSMode, resolveLegacyDNSMode, same]

theorem validateSubRules_congr
    (same : ∀ rule ∈ rules, validateLegacyDNSModeDisabledRuleTree lookup rule =
      validateLegacyDNSModeDisabledRuleTree other rule) :
    validateSubRules lookup index rules = validateSubRules other index rules := by
  induction rules generalizing index with
  | nil => rfl
  | cons rule _ induction =>
    rw [validateSubRules, validateSubRules, same rule mem_cons_self,
      induction (forall_mem_cons.mp same).2]

theorem validateRuleTree_congr (rule : RuleOptions) :
    AgreeOn rule.ruleSetTags lookup other →
      validateLegacyDNSModeDisabledRuleTree lookup rule =
        validateLegacyDNSModeDisabledRuleTree other rule := by
  induction rule using induct with
  | default options =>
    intro agree
    have agree : AgreeOn options.ruleSet lookup other := agree
    rw [validateLegacyDNSModeDisabledRuleTree, validateLegacyDNSModeDisabledRuleTree,
      validateLegacyDNSModeDisabledDefaultRule, validateLegacyDNSModeDisabledDefaultRule,
      refuseUnboundSets, refuseUnboundSets, refuseAddressSets_congr agree]
  | logical _ _ _ _ _ induction =>
    intro agree
    rw [validateLegacyDNSModeDisabledRuleTree, validateLegacyDNSModeDisabledRuleTree,
      validateSubRules_congr fun rule member =>
        induction rule member (AgreeOn.rule agree rule member)]

theorem visitAll_congr {state : ValidationState}
    (same : ∀ rule ∈ rules, validateLegacyDNSModeDisabledRuleTree lookup rule =
      validateLegacyDNSModeDisabledRuleTree other rule) :
    ValidationState.visitAll lookup index rules state =
      ValidationState.visitAll other index rules state := by
  induction rules generalizing index state with
  | nil => rfl
  | cons rule _ induction =>
    have rest := fun index state => @induction index state
      (forall_mem_cons.mp same).2
    rw [ValidationState.visitAll, ValidationState.visitAll, ValidationState.visit,
      ValidationState.visit, same rule mem_cons_self]
    simp only [rest]

theorem validateLegacyDNSModeDisabledRules_congr
    (agree : AgreeOn (ruleSetTagsOf rules) lookup other) :
    validateLegacyDNSModeDisabledRules lookup rules =
      validateLegacyDNSModeDisabledRules other rules := by
  rw [validateLegacyDNSModeDisabledRules, validateLegacyDNSModeDisabledRules,
    visitAll_congr fun rule member => validateRuleTree_congr rule (agree.rule rule member)]

end

/-! ## When the legacy mode is disabled -/

section

variable {lookup : String → Except String RuleSetMetadata}

/-- The rule-set is found and has a rule about query types. -/
def isQueryTyped (lookup : String → Except String RuleSetMetadata) (tag : String) : Bool :=
  match lookup tag with
  | .ok metadata => metadata.containsDNSQueryTypeRule
  | .error _ => false

variable {final flags : ModeFlags} {rules : List RuleOptions}

theorem disabled_of_mergeSets {tags : List String}
    (isOk : mergeSets lookup matchSource tags flags = .ok final) :
    final.disabled = (flags.disabled || tags.any (isQueryTyped lookup)) := by
  induction tags generalizing flags with
  | nil =>
    cases isOk
    rw [any_nil, Bool.or_false]
  | cons _ _ induction =>
    rw [mergeSets] at isOk
    rcases bind_eq_ok isOk with ⟨_, isFound, isOk⟩
    rw [induction isOk, any_cons, isQueryTyped, isFound, Bool.or_assoc]

theorem disabled_of_mergeRules {index : Nat}
    (each : ∀ rule ∈ rules, ∀ flags, dnsRuleModeRequirementsInRule lookup rule = .ok flags →
      flags.disabled = (rule.disables || rule.ruleSetTags.any (isQueryTyped lookup)))
    (isOk : mergeRules lookup name index rules flags = .ok final) :
    final.disabled = (flags.disabled || (disablesIn rules ||
      (ruleSetTagsOf rules).any (isQueryTyped lookup))) := by
  induction rules generalizing index flags with
  | nil =>
    cases isOk
    simp [disablesIn, ruleSetTagsOf]
  | cons rule _ induction =>
    rw [mergeRules] at isOk
    rcases bind_eq_ok isOk with ⟨ruleFlags, isRule, isOk⟩
    have rest := induction (forall_mem_cons.mp each).2 isOk
    have first := each rule mem_cons_self ruleFlags (mapError_eq_ok isRule)
    rw [rest, ModeFlags.disabled_merge, first, disablesIn, ruleSetTagsOf, any_append]
    ac_rfl

theorem disabled_of_rule (rule : RuleOptions) : ∀ flags,
    dnsRuleModeRequirementsInRule lookup rule = .ok flags →
      flags.disabled = (rule.disables || rule.ruleSetTags.any (isQueryTyped lookup)) := by
  induction rule using induct with
  | default =>
    intro flags isOk
    exact disabled_of_mergeSets isOk
  | logical _ _ _ _ _ induction =>
    intro _ isOk
    rw [dnsRuleModeRequirementsInRule] at isOk
    rw [disabled_of_mergeRules induction isOk, disables, ruleSetTags, Bool.or_assoc]

theorem disabled_of_requirements (isOk : dnsRuleModeRequirements lookup rules = .ok flags) :
    flags.disabled = (disablesIn rules ||
      (ruleSetTagsOf rules).any (isQueryTyped lookup)) := by
  rw [disabled_of_mergeRules (fun rule _ => disabled_of_rule rule) isOk, Bool.false_or]

end

end SingBox.Dns
