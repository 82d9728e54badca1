import SingBox.Route.Misjudgement

/-! # Legacy address filters

In the legacy DNS mode `LegacyPreMatch` decides before the lookup whether a
rule can be skipped, and `MatchAddressLimit` decides with the response. A rule
is skipped wrongly when the first answers no and the second would answer yes,
which is when its refusal is one of the wrong answers of `Misjudges`.
-/

namespace SingBox.Route

open Adapter DefaultItems

namespace Rule

section

variable {Item : Type} (itemMatch : Item → InboundContext → Bool)

/-- The result of `LegacyPreMatch` and the metadata it leaves behind. -/
def legacyPreMatch : Rule Item → InboundContext → Bool × InboundContext
  | .default _ _ _ true _, metadata => (false, metadata)
  | rule, metadata =>
    let outcome := rule.match itemMatch { metadata with ignoreDestinationIPCIDRMatch := true }
    (outcome.matched,
      { metadata with
        ignoreDestinationIPCIDRMatch := false
        deferredIPCIDRMatchGroups := outcome.deferred })

/-- The metadata that `MatchAddressLimit` matches with. -/
def addressLimitMetadata (metadata : InboundContext) (response : Dns.Msg) : InboundContext :=
  { metadata.resetRuleCache with
    dnsResponse := some response
    destinationAddressMatchFromResponse := true }

/-- A default rule is matched by its items, without its response binding. -/
def matchAddressLimit (rule : Rule Item) (metadata : InboundContext) (response : Dns.Msg) : Bool :=
  match rule with
  | .default own ruleSetItem invert _ _ =>
    (matchDefault itemMatch own ruleSetItem invert (addressLimitMetadata metadata response)).matched
  | .logical _ _ _ => (rule.match itemMatch (addressLimitMetadata metadata response)).matched

end

/-! ## DNS rules without response bindings -/

/-- Headless rules as they are built from options: destination IP items are
`ip_cidr` items. -/
def IsBuiltHeadless : Rule RuleItem → Prop
  | .default own ruleSetItem _ matchResponse _ =>
    ruleSetItem = none ∧ matchResponse = false ∧
      (∀ item ∈ own.queryItems, item.IsQuery) ∧
      ∀ item ∈ own.destinationIPCIDRItems, item.IsIPCIDR
  | .logical _ _ _ => True

inductive IsDNSRule : Rule RuleItem → Prop
  | default {own ruleSetItem invert matchResponseTag}
      (query : ∀ item ∈ own.queryItems, item.IsQuery)
      (headless : ∀ item, ruleSetItem = some item → ∀ ruleSet ∈ item.setList,
        ∀ rule ∈ ruleSet, rule.Everywhere IsBuiltHeadless) :
      IsDNSRule (.default own ruleSetItem invert false matchResponseTag)
  | logical {mode rules invert} (children : ∀ rule ∈ rules, IsDNSRule rule) :
    IsDNSRule (.logical mode rules invert)

/-- The flag for source addresses only reaches headless rules. -/
def WellBuilt (rule : Rule RuleItem) (before : InboundContext) : Prop :=
  (IsDNSRule rule ∧ before.ipCIDRMatchSource = false) ∨ rule.Everywhere IsBuiltHeadless

namespace WellBuilt

variable {before : InboundContext} {invert matchResponse : Bool} {matchResponseTag : String}
  {own : DefaultItems RuleItem} {ruleSetItem : Option (RuleSetItem RuleItem)} {rule : Rule RuleItem}

section

variable (built : (default own ruleSetItem invert matchResponse matchResponseTag).WellBuilt before)
include built

theorem matchResponse_eq_false : matchResponse = false := by
  rcases built with ⟨dns, _⟩ | headless
  · cases dns
    rfl
  · exact headless.here.2.1

theorem stable {lib : SingLib} {after : InboundContext}
    (lookup : Lookup before after) : own.Stable (RuleItem.match lib) before after := by
  rcases built with ⟨dns, noSource⟩ | headless
  · cases dns with
    | default query =>
      refine ⟨fun item member => (query item member).match_eq lookup, ?_⟩
      intro matchSource
      cases noSource.symm.trans matchSource
  · rcases headless.here with ⟨_, _, query, ipCIDR⟩
    exact ⟨fun item member => (query item member).match_eq lookup,
      fun matchSource item member => (ipCIDR item member).match_eq lookup matchSource⟩

private theorem headless {ruleSet : RuleSet RuleItem} {item : RuleSetItem RuleItem}
    (isItem : item ∈ ruleSetItem) (setMember : ruleSet ∈ item.setList)
    (ruleMember : rule ∈ ruleSet) : rule.Everywhere IsBuiltHeadless := by
  cases isItem
  rcases built with ⟨dns, _⟩ | headless
  · cases dns with
    | default _ headless => exact headless item rfl ruleSet setMember rule ruleMember
  · cases headless.here.1

theorem member (member : Independent ruleSetItem rule) : rule.Everywhere IsBuiltHeadless := by
  rcases member with ⟨item, isItem, ruleSet, setMember, _, ruleMember⟩
  exact built.headless isItem setMember ruleMember

theorem merged {lib : SingLib} {branch : DefaultItems RuleItem}
    (isMerged : Merged ruleSetItem branch) {nestedBefore nestedAfter : InboundContext}
    (lookup : Lookup nestedBefore nestedAfter) :
    branch.Stable (RuleItem.match lib) nestedBefore nestedAfter := by
  cases ruleSetItem with
  | none =>
    cases isMerged
    exact stable_empty
  | some item =>
    rcases isMerged with ⟨ruleSet, setMember, mergeable⟩
    rcases mergeableRuleIn_eq_some mergeable with ⟨_, _, rfl⟩
    exact stable (.inr (built.headless rfl setMember (List.mem_singleton_self _))) lookup

end

theorem child {mode : LogicalMode} {rules : List (Rule RuleItem)}
    (built : (logical mode rules invert).WellBuilt before)
    (ruleMember : rule ∈ rules) : rule.WellBuilt before.resetRuleCache := by
  rcases built with ⟨dns, _⟩ | headless
  · cases dns with
    | logical children => exact .inl ⟨children rule ruleMember, rfl⟩
  · exact .inr (headless.child ruleMember)

end WellBuilt

variable {lib : SingLib} {own : DefaultItems RuleItem}
  {ruleSetItem : Option (RuleSetItem RuleItem)} {rule : Rule RuleItem} {metadata : InboundContext}

/-- The wrong answers of a tree are those that `Misjudges` follows. -/
theorem misjudges_iff (rule : Rule RuleItem) : ∀ {answer : Bool} {before after : InboundContext},
    rule.WellBuilt before → Lookup before after →
      (Misjudges (RuleItem.match lib) answer rule before after ↔
        Wrong (RuleItem.match lib) answer rule before after) := by
  induction rule using Rule.induct with
  | step rule induction =>
    intro answer before after built lookup
    cases rule with
    | default own ruleSetItem invert matchResponse matchResponseTag =>
      have unbound := built.matchResponse_eq_false
      subst unbound
      have nestedLookup : Lookup (nested ruleSetItem before) (nested ruleSetItem after) := by
        cases ruleSetItem with
        | none => exact lookup
        | some item => exact lookup.nestedMetadata item
      refine misjudges_default_iff_wrong (built.stable lookup) lookup nestedLookup
        (fun _ isMerged => built.merged isMerged nestedLookup) fun rule member _ => ?_
      refine induction rule ?_ (.inr (built.member member)) nestedLookup.resetRuleMatchCache
      rcases member with ⟨item, ⟨⟩, ruleSet, setMember, _, ruleMember⟩
      exact ⟨ruleSet, setMember, ruleMember⟩
    | logical =>
      exact misjudges_logical_iff_wrong lookup fun rule member _ =>
        induction rule member (built.child member) lookup.resetRuleCache

/-! ## Skipped rules -/

def beforeLookup (metadata : InboundContext) : InboundContext :=
  { metadata with ignoreDestinationIPCIDRMatch := true }

def afterLookup (metadata : InboundContext) (response : Dns.Msg) : InboundContext :=
  addressLimitMetadata { metadata with ignoreDestinationIPCIDRMatch := false } response

theorem lookup_of_fresh (fresh : metadata.FreshRuleCache)
    (response : Dns.Msg) : Lookup (beforeLookup metadata) (afterLookup metadata response) where
  request := rfl
  matchSource := fresh.ipCIDRMatchSource.symm
  ignoreBefore := rfl
  ignoreAfter := rfl
  freshBefore := fresh.deferredIPCIDRMatchGroups
  freshAfter := rfl

theorem IsDNSRule.legacyPreMatch_fst (dns : IsDNSRule rule) (metadata : InboundContext) :
    (rule.legacyPreMatch (RuleItem.match lib) metadata).1 =
      (rule.match (RuleItem.match lib) (beforeLookup metadata)).matched := by
  cases dns <;> rfl

theorem IsDNSRule.matchAddressLimit_eq (dns : IsDNSRule rule)
    (metadata : InboundContext) (response : Dns.Msg) :
    rule.matchAddressLimit (RuleItem.match lib)
        (rule.legacyPreMatch (RuleItem.match lib) metadata).2 response =
      (rule.match (RuleItem.match lib) (afterLookup metadata response)).matched := by
  cases dns <;> rfl

/-- The rule is never skipped before a lookup whose response it accepts. -/
def NeverSkippedWrongly (lib : SingLib) (rule : Rule RuleItem) (metadata : InboundContext) : Prop :=
  ∀ response,
    rule.matchAddressLimit (RuleItem.match lib)
        (rule.legacyPreMatch (RuleItem.match lib) metadata).2 response = true →
      (rule.legacyPreMatch (RuleItem.match lib) metadata).1 = true

theorem neverSkippedWrongly_iff (dns : IsDNSRule rule) (fresh : metadata.FreshRuleCache) :
    NeverSkippedWrongly lib rule metadata ↔
      ∀ response, ¬ Misjudges (RuleItem.match lib) false rule (beforeLookup metadata)
        (afterLookup metadata response) := by
  have built : rule.WellBuilt (beforeLookup metadata) := .inl ⟨dns, fresh.ipCIDRMatchSource⟩
  apply forall_congr'
  intro response
  rw [misjudges_iff rule built (lookup_of_fresh fresh response), Wrong, Verdict.ofBool,
    Outcome.verdict_eq_no_iff, dns.matchAddressLimit_eq, dns.legacyPreMatch_fst,
    ← Bool.not_eq_true, Bool.not_false]
  tauto

/-- A rule that is skipped before the lookup is refused with every response,
exactly when no response shows its refusal to be wrong. Inverted rules are
those for which the refusal comes from a sure match. -/
theorem inverted_skip_refused {rule : Rule RuleItem} (dns : IsDNSRule rule)
    {metadata : InboundContext} (fresh : metadata.FreshRuleCache) :
    ((rule.legacyPreMatch (RuleItem.match lib) metadata).1 = false → ∀ response,
      rule.matchAddressLimit (RuleItem.match lib)
        (rule.legacyPreMatch (RuleItem.match lib) metadata).2 response = false) ↔
      ∀ response, ¬ Misjudges (RuleItem.match lib) false rule (beforeLookup metadata)
        (afterLookup metadata response) := by
  rw [← neverSkippedWrongly_iff dns fresh, NeverSkippedWrongly]
  simp only [← Bool.not_eq_true]
  tauto

/-- A rule without inversion is never skipped wrongly exactly when no response
completes it late. -/
theorem default_neverSkippedWrongly {matchResponseTag : String}
    (dns : IsDNSRule (default own ruleSetItem false false matchResponseTag))
    {metadata : InboundContext} (fresh : metadata.FreshRuleCache) :
    NeverSkippedWrongly lib (default own ruleSetItem false false matchResponseTag) metadata ↔
      (own.matchItems (RuleItem.match lib) (beforeLookup metadata) = true →
        ¬ Completes (RuleItem.match lib) own ruleSetItem (beforeLookup metadata) → ∀ response,
          ¬ LateAnswer (RuleItem.match lib) own ruleSetItem (beforeLookup metadata)
            (afterLookup metadata response)) := by
  rw [neverSkippedWrongly_iff dns fresh]
  constructor
  · exact fun never items incomplete response late =>
      never response (.lateAnswer rfl items incomplete late)
  · intro never response misjudges
    cases misjudges with
    | lateAnswer _ items incomplete late => exact never items incomplete response late
    | clearedDeferral accepts | acceptedMember accepts => cases accepts

/-! ## Concrete rules -/

private def domainItem : RuleItem := .domain .sample (· == "a.example") .asIS

private def addressItem (address : BitVec 32) : RuleItem := .ipCIDR false (· == .v4 address)

private def addressRule (address : BitVec 32) (invert : Bool) : Rule RuleItem :=
  .default { destinationIPCIDRItems := [addressItem address] } none invert false ""

private def domainOrAddressRule (invert : Bool) : Rule RuleItem :=
  .default { destinationAddressItems := [domainItem]
             destinationIPCIDRItems := [addressItem 0x0a000001] } none invert false ""

private def domainAndSets (ruleSet : RuleSet RuleItem) (invert : Bool) : Rule RuleItem :=
  .default { destinationAddressItems := [domainItem] } (some (.mk [ruleSet] false false)) invert
    false ""

private def addressResponse (address : Bytes) : Dns.Msg :=
  { answer := [{ name := [], class_ := 1, ttl := 60, data := .a address }] }

private theorem addressRule_headless (address : BitVec 32) :
    (addressRule address false).Everywhere IsBuiltHeadless := by
  refine everywhere_iff.mpr ⟨⟨rfl, rfl, nofun, fun item member => ?_⟩, fun _ refers => refers.elim⟩
  cases List.mem_singleton.mp member
  rfl

private theorem domainAndSets_isDNSRule (addresses : List (BitVec 32)) (invert : Bool) :
    IsDNSRule (domainAndSets (addresses.map (addressRule · false)) invert) := by
  refine .default (fun item member => ?_) fun item isItem ruleSet setMember rule member => ?_
  · cases List.mem_singleton.mp member
    trivial
  · cases isItem
    cases List.mem_singleton.mp setMember
    rcases List.mem_map.mp member with ⟨address, _, rfl⟩
    exact addressRule_headless address

private def queryTypeRule : Rule RuleItem :=
  .default { items := [.request fun request => request.queryType == 1] } none false false ""

/-- The first child settles the rule, and what the second gets wrong does not count. -/
theorem inverted_skip_refused_settled :
    let rule : Rule RuleItem := .logical .or
      [queryTypeRule, domainAndSets [addressRule 1 false, addressRule 2 false] false] true
    let metadata : InboundContext := { domain := "a.example", queryType := 1 }
    ∀ response, rule.matchAddressLimit (RuleItem.match .sample)
      (rule.legacyPreMatch (RuleItem.match .sample) metadata).2 response = false := by
  refine (inverted_skip_refused (.logical fun rule member => ?_) ⟨rfl, rfl, rfl⟩).mpr
    (fun response misjudges => ?_) (by decide)
  · rcases List.mem_cons.mp member with rfl | member
    · refine .default (fun item member => ?_) nofun
      cases List.mem_singleton.mp member
      trivial
    · cases List.mem_singleton.mp member
      exact domainAndSets_isDNSRule [1, 2] false
  · cases misjudges with
    | decidingChild _ _ _ alone =>
      have refused := alone queryTypeRule List.mem_cons_self
      have accepted : true = false := by with_unfolding_all exact refused
      cases accepted
    | agreeingChild agrees => exact agrees rfl

/-- Two inverted rules that are skipped although a response is accepted. The
first has a domain item that matches and an independent rule-set of two
addresses; the second nests a rule whose domain item misses. -/
theorem inverted_skip_accepted :
    let sets := domainAndSets [addressRule 0x0a000001 false, addressRule 0x0a000002 false] true
    let nested : Rule RuleItem := .logical .and [domainOrAddressRule true] true
    ((sets.legacyPreMatch (RuleItem.match .sample) { domain := "a.example" }).1 = false ∧
      sets.matchAddressLimit (RuleItem.match .sample)
        (sets.legacyPreMatch (RuleItem.match .sample) { domain := "a.example" }).2
        (addressResponse [192, 0, 2, 1]) = true) ∧
    (nested.legacyPreMatch (RuleItem.match .sample) { domain := "b.example" }).1 = false ∧
      nested.matchAddressLimit (RuleItem.match .sample)
        (nested.legacyPreMatch (RuleItem.match .sample) { domain := "b.example" }).2
        (addressResponse [10, 0, 0, 1]) = true := by
  decide

/-- The address of a merged rule-set is an alternative to the domain. -/
theorem default_neverSkippedWrongly_merged :
    NeverSkippedWrongly .sample (domainAndSets [addressRule 0x0a000001 false] false)
      { domain := "a.example" } := by
  refine (default_neverSkippedWrongly (domainAndSets_isDNSRule [0x0a000001] false)
    ⟨rfl, rfl, rfl⟩).mpr fun _ incomplete => absurd (.inl ?_) incomplete
  exact ⟨_, ⟨_, List.mem_singleton_self _, rfl⟩, by decide⟩

/-- A rule with a domain item and an address is skipped when the domain misses,
although the address of the response would match. -/
theorem default_skip_accepted :
    ((domainOrAddressRule false).legacyPreMatch (RuleItem.match .sample)
        { domain := "b.example" }).1 = false ∧
      (domainOrAddressRule false).matchAddressLimit (RuleItem.match .sample)
        ((domainOrAddressRule false).legacyPreMatch (RuleItem.match .sample)
          { domain := "b.example" }).2 (addressResponse [10, 0, 0, 1]) = true := by
  decide

end Rule

end SingBox.Route
