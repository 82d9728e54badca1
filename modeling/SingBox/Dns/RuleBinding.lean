import SingBox.Dns.RuleValidation
import SingBox.Route.Congruence

/-! # What a DNS rule reads of the responses

A rule accepted in the non-legacy mode looks at a response only through its
bindings: a default rule without `match_response` has no item that reads one,
and the rule-sets of such a rule are matched with the request alone. So two
evaluations that agree on the bound responses agree.
-/

namespace SingBox.Dns

open Adapter Route List Option

variable {lib : SingLib} {sets : RuleSets}

inductive ReadsBound : Rule RuleItem → Prop
  | default {own ruleSetItem invert matchResponse matchResponseTag}
      (unbound : matchResponse = false → ∀ item ∈ own.all, item.IsQuery)
      (headless : ∀ item, ruleSetItem = some item → ∀ ruleSet ∈ item.setList,
        ∀ rule ∈ ruleSet, rule.Everywhere Rule.IsBuiltHeadless) :
      ReadsBound (.default own ruleSetItem invert matchResponse matchResponseTag)
  | logical {mode rules invert} (children : ∀ rule ∈ rules, ReadsBound rule) :
    ReadsBound (.logical mode rules invert)

/-! ## Accepted rules -/

namespace DefaultRuleOptions

variable {options : DefaultRuleOptions}

theorem isQuery_of_noResponseFields (noRecords : hasResponseMatchFields options = false)
    (noAddresses : hasAddressFields options = false) :
    ∀ item ∈ (options.own lib).all, item.IsQuery := by
  simp only [hasResponseMatchFields, Bool.or_eq_false_iff, Bool.not_eq_false',
    isSome_eq_false_iff, isNone_iff_eq_none] at noRecords
  simp only [hasAddressFields, Bool.or_eq_false_iff, isSome_eq_false_iff,
    isNone_iff_eq_none] at noAddresses
  rcases noRecords with ⟨⟨⟨noRcode, noAnswer⟩, noNs⟩, noExtra⟩
  rcases noAddresses with ⟨⟨noCIDR, notPrivate⟩, notAny⟩
  have noResponseItems : options.responseItems = [] := by
    simp [responseItems, recordItem, noRcode, noAnswer, noNs, noExtra]
  have noDestinationItems : options.destinationIPItems = [] := by
    simp [destinationIPItems, noCIDR, notPrivate, notAny]
  have noMap : ∀ (predicates : List (Request → Bool)), ∀ item ∈ predicates.map RuleItem.request,
      item.IsQuery := by
    intro _ item member
    rcases mem_map.mp member with ⟨_, _, equal⟩
    rw [← equal]
    trivial
  intro item member
  simp only [DefaultItems.all, own, noResponseItems, noDestinationItems, append_nil,
    mem_append] at member
  rcases member with ((((((version | queryType) | request) | (source | isPrivate)) | port) |
    domain) | port)
  · unfold ipVersionItem at version
    split at version
    · rw [mem_singleton.mp version]
      trivial
    · cases version
  · unfold queryTypeItem at queryType
    split at queryType
    · cases queryType
    · rw [mem_singleton.mp queryType]
      trivial
  · exact noMap _ item request
  · rcases mem_map.mp source with ⟨_, _, equal⟩
    rw [← equal]
    rfl
  · split at isPrivate
    · rw [mem_singleton.mp isPrivate]
      rfl
    · cases isPrivate
  · exact noMap _ item port
  · exact noMap _ item domain
  · exact noMap _ item port

theorem headless_of_ruleSetItem {item : RuleSetItem RuleItem}
    (isItem : options.ruleSetItem sets = some item) :
    ∀ ruleSet ∈ item.setList, ∀ rule ∈ ruleSet, rule.Everywhere Rule.IsBuiltHeadless := by
  unfold ruleSetItem at isItem
  split_ifs at isItem
  cases isItem
  intro _ setMember rule member
  rcases mem_map.mp setMember with ⟨tag, _, rfl⟩
  exact sets.headless tag rule member

end DefaultRuleOptions

theorem readsBound_of_accepted {lookup : String → Except String RuleSetMetadata}
    (options : RuleOptions) : ∀ {use},
    validateLegacyDNSModeDisabledRuleTree lookup options = .ok use →
      ReadsBound (options.rule lib sets) := by
  induction options using RuleOptions.induct with
  | default =>
    intro use accepted
    refine .default ?_ fun item isItem => DefaultRuleOptions.headless_of_ruleSetItem isItem
    intro disabled
    rcases noResponseFields_of_accepted accepted disabled with ⟨noRecords, noAddresses⟩
    exact DefaultRuleOptions.isQuery_of_noResponseFields noRecords noAddresses
  | logical _ _ _ _ _ induction =>
    intro _ accepted
    rcases logical_accepted accepted with ⟨_, subAccepted, _⟩
    refine .logical ?_
    intro _ member
    rw [RuleOptions.rules_eq_map] at member
    rcases mem_map.mp member with ⟨child, childMember, rfl⟩
    rcases subRule_accepted subAccepted child childMember with ⟨_, childAccepted, _⟩
    exact induction child childMember childAccepted

/-! ## Evaluations with the same bound responses -/

def withResponses (metadata : InboundContext) (response : Option Msg)
    (named : String → Option Msg) : InboundContext :=
  { metadata with dnsResponse := response, namedDNSResponses := named }

variable {item : RuleItem} {named : String → Option Msg} {own : DefaultItems RuleItem}
  {response : Option Msg} {invert matchResponse : Bool} {matchResponseTag : String}
  {ruleSetItem : Option (RuleSetItem RuleItem)} {ruleSet : RuleSet RuleItem}
  {metadata : InboundContext}

theorem match_withResponses_of_isQuery (isQuery : item.IsQuery) :
    item.match lib metadata = item.match lib (withResponses metadata response named) := by
  cases item with
  | ipCIDR isSource ipSet | ipIsPrivate isSource =>
    cases isQuery
    rfl
  | request => rfl
  | _ => exact isQuery.elim

theorem match_withNamed (item : RuleItem) :
    item.match lib metadata =
      item.match lib (withResponses metadata metadata.dnsResponse named) := by
  cases item <;> rfl

/-- How two evaluations of one rule with the same bound responses go on: a DNS
rule with other responses, a headless rule with the same response in another
map, and a headless rule that looks at no response. -/
inductive SameBound : Rule RuleItem → InboundContext → InboundContext → Prop
  | dns {rule metadata} (response : Option Msg) (named : String → Option Msg)
      (reads : ReadsBound rule)
      (request : metadata.destinationAddressMatchFromResponse = false)
      (tags : ∀ tag ∈ matchResponseTags rule, metadata.namedDNSResponses tag = named tag)
      (anonymous : matchResponseAnonymous rule = true → metadata.dnsResponse = response) :
      SameBound rule metadata (withResponses metadata response named)
  | response {rule metadata} (named : String → Option Msg)
      (headless : rule.Everywhere Rule.IsBuiltHeadless) :
      SameBound rule metadata (withResponses metadata metadata.dnsResponse named)
  | request {rule metadata} (response : Option Msg) (named : String → Option Msg)
      (headless : rule.Everywhere Rule.IsBuiltHeadless)
      (request : metadata.destinationAddressMatchFromResponse = false) :
      SameBound rule metadata (withResponses metadata response named)

theorem DefaultItems.corresponds_withResponses
    (same : ∀ item ∈ own.all, item.match lib metadata =
      item.match lib (withResponses metadata response named)) :
    own.Corresponds (RuleItem.match lib) (RuleItem.match lib) metadata
      (withResponses metadata response named) :=
  ⟨same, rfl, rfl, rfl⟩

section

variable
  (headless : Rule.IsBuiltHeadless (.default own ruleSetItem invert matchResponse matchResponseTag))
include headless

theorem isQuery_or_isIPCIDR : ∀ item ∈ own.all, item.IsQuery ∨ item.IsIPCIDR := by
  rcases headless with ⟨_, _, query, addresses⟩
  intro item member
  by_cases isQuery : item ∈ own.queryItems
  · exact .inl (query item isQuery)
  refine .inr (addresses item ?_)
  simp only [DefaultItems.queryItems, DefaultItems.all, mem_append] at isQuery member
  tauto

theorem headless_same_withResponses
    (request : metadata.destinationAddressMatchFromResponse = false) :
    ∀ item ∈ own.all, item.match lib metadata =
      item.match lib (withResponses metadata response named) := by
  intro item member
  rcases isQuery_or_isIPCIDR headless item member with isQuery | isIPCIDR
  · exact match_withResponses_of_isQuery isQuery
  cases item with
  | ipCIDR =>
    simp only [RuleItem.match, RuleItem.matchIPCIDR, withResponses, request,
      Bool.false_eq_true, if_false]
  | _ => exact isIPCIDR.elim

end

private theorem correspondsInSet_request
    (headless : ∀ rule ∈ ruleSet, rule.Everywhere Rule.IsBuiltHeadless)
    (request : metadata.destinationAddressMatchFromResponse = false) :
    Rule.CorrespondsInSet (RuleItem.match lib) (RuleItem.match lib) SameBound ruleSet metadata
      (withResponses metadata response named) := by
  unfold Rule.CorrespondsInSet
  cases mergeable : mergeableRuleIn ruleSet with
  | some branch =>
    rcases mergeableRuleIn_eq_some mergeable with ⟨matchResponse, matchResponseTag, isSet⟩
    have branchHeadless : Rule.IsBuiltHeadless
        (.default branch none false matchResponse matchResponseTag) :=
      (headless _ (by rw [isSet]; exact mem_singleton_self _)).here
    exact DefaultItems.corresponds_withResponses
      (headless_same_withResponses branchHeadless request)
  | none => exact ⟨rfl, fun child member => .request response named (headless child member) request⟩

theorem sameBound_correspondence :
    Rule.Correspondence (RuleItem.match lib) (RuleItem.match lib) SameBound where
  deferred same := by cases same <;> rfl
  bound {own ruleSetItem invert matchResponse matchResponseTag first second} same := by
    cases same with
    | dns response named reads request tags anonymous =>
      cases reads with
      | default unbound headless =>
        cases matchResponse with
        | false =>
          refine .some ⟨DefaultItems.corresponds_withResponses fun item member =>
            match_withResponses_of_isQuery (unbound rfl item member), ?_⟩
          intro item isItem ruleSet member
          have nested : (item.nestedMetadata first).destinationAddressMatchFromResponse =
              false := request
          exact correspondsInSet_request (headless item isItem ruleSet member) nested
        | true =>
          have bound : (if matchResponseTag != "" then
              first.namedDNSResponses matchResponseTag else first.dnsResponse) =
              if matchResponseTag != "" then named matchResponseTag else response := by
            by_cases isTag : matchResponseTag = ""
            · simpa [isTag] using anonymous (by simp [matchResponseAnonymous, isTag])
            · simpa [isTag] using tags matchResponseTag (by simp [matchResponseTags, isTag])
          simp only [Rule.boundMetadata, withResponses] at bound ⊢
          rw [bound]
          cases (if matchResponseTag != "" then named matchResponseTag else response) with
          | none => exact .none
          | some _ =>
            refine .some ⟨DefaultItems.corresponds_withResponses fun item _ =>
              match_withNamed item, ?_⟩
            intro item isItem ruleSet member
            unfold Rule.CorrespondsInSet
            cases mergeableRuleIn ruleSet with
            | some =>
              exact DefaultItems.corresponds_withResponses fun item _ =>
                match_withNamed item
            | none =>
              exact ⟨rfl, fun child isChild =>
                .response named (headless item isItem ruleSet member child isChild)⟩
    | response named headless =>
      rcases headless.here with ⟨noSets, unbound, _⟩
      subst noSets unbound
      exact .some ⟨DefaultItems.corresponds_withResponses fun item _ =>
        match_withNamed item, by simp⟩
    | request response named headless request =>
      have here := headless.here
      rcases here with ⟨noSets, unbound, _⟩
      subst noSets unbound
      exact .some ⟨DefaultItems.corresponds_withResponses
        (headless_same_withResponses headless.here request), by simp⟩
  child same := by
    intro child member
    cases same with
    | dns response named reads request tags anonymous =>
      cases reads with
      | logical children =>
        exact .dns response named (children child member) request
          (fun tag bound => tags tag (mem_matchResponseTags_logical.mpr ⟨child, member, bound⟩))
          fun bound => anonymous (matchResponseAnonymous_of_child member bound)
    | response named headless => exact .response named (headless.child member)
    | request response named headless request =>
      exact .request response named (headless.child member) request

theorem match_eq_of_bound {rule : Rule RuleItem} (reads : ReadsBound rule)
    (metadata : InboundContext) (request : metadata.destinationAddressMatchFromResponse = false)
    (response : Option Msg) (named : String → Option Msg)
    (tags : ∀ tag ∈ matchResponseTags rule, metadata.namedDNSResponses tag = named tag)
    (anonymous : matchResponseAnonymous rule = true → metadata.dnsResponse = response) :
    rule.match (RuleItem.match lib) metadata =
      rule.match (RuleItem.match lib) (withResponses metadata response named) :=
  sameBound_correspondence.match_eq rule (.dns response named reads request tags anonymous)

end SingBox.Dns
