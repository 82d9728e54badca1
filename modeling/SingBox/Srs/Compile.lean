import SingBox.Route.Headless
import SingBox.Srs.Files

/-! # Compiled rule-sets

A rule-set in source form is written to a binary file and loaded from it. The
file has no item for `domain_match_strategy`, so a compiled rule is built like
the source rule without its strategy. A rule whose lists are all empty comes
back without a condition and is refused.
-/

namespace SingBox.Srs

open Adapter Netip Route List HeadlessRule DefaultHeadlessRule Listable

variable {lib : Library} {context : HeadlessContext lib} {generateVersion : BitVec 8}

/-! ## Source rules -/

namespace DefaultHeadlessRule

variable (rule : DefaultHeadlessRule lib)

/-- A source file sets neither matchers nor IP sets. -/
def isSource : Bool :=
  rule.domainMatcher.isNone && rule.sourceIPSet.isNone && rule.ipSet.isNone &&
    rule.adGuardDomainMatcher.isNone

def withoutStrategy : DefaultHeadlessRule lib := { rule with domainMatchStrategy := .asIS }

/-- Something is written for the rule: a list that is not empty, or a flag. -/
def hasItem : Bool :=
  rule.queryType.isSet || rule.network.isSet || rule.hasDomains || rule.domainKeyword.isSet ||
    rule.domainRegex.isSet || rule.sourceIPCIDR.isSet || rule.ipCIDR.isSet ||
    rule.sourcePort.isSet || rule.sourcePortRange.isSet || rule.port.isSet ||
    rule.portRange.isSet || rule.processName.isSet || rule.processPath.isSet ||
    rule.processPathRegex.isSet || rule.packageName.isSet || rule.packageNameRegex.isSet ||
    rule.networkType.isSet || rule.networkIsExpensive || rule.networkIsConstrained ||
    rule.wifiSSID.isSet || rule.wifiBSSID.isSet || !rule.interfaceEntries.isEmpty ||
    rule.defaultInterfaceAddress.isSet || rule.adGuardDomain.isSet

end DefaultHeadlessRule

namespace HeadlessRule

mutual
def isSource : HeadlessRule lib → Bool
  | .default options => options.isSource
  | .logical _ rules _ _ => areSource rules

def areSource : List (HeadlessRule lib) → Bool
  | [] => true
  | rule :: rules => rule.isSource && areSource rules
end

mutual
def withoutStrategies : HeadlessRule lib → HeadlessRule lib
  | .default options => .default options.withoutStrategy
  | .logical mode rules _ invert => .logical mode (withoutStrategiesAll rules) .asIS invert

def withoutStrategiesAll : List (HeadlessRule lib) → List (HeadlessRule lib)
  | [] => []
  | rule :: rules => rule.withoutStrategies :: withoutStrategiesAll rules
end

mutual
/-- Something is written for every default rule of the tree. -/
def hasItems : HeadlessRule lib → Bool
  | .default options => options.hasItem
  | .logical _ rules _ _ => haveItems rules

def haveItems : List (HeadlessRule lib) → Bool
  | [] => true
  | rule :: rules => rule.hasItems && haveItems rules
end

variable {rules : List (HeadlessRule lib)}

theorem areSource_iff : areSource rules = true ↔ ∀ rule ∈ rules, rule.isSource = true := by
  induction rules with
  | nil => simp [areSource]
  | cons _ _ induction => simp [areSource, induction]

theorem haveItems_iff : haveItems rules = true ↔ ∀ rule ∈ rules, rule.hasItems = true := by
  induction rules with
  | nil => simp [haveItems]
  | cons _ _ induction => simp [haveItems, induction]

theorem withoutStrategiesAll_eq_map (rules : List (HeadlessRule lib)) :
    withoutStrategiesAll rules = rules.map withoutStrategies := by
  induction rules with
  | nil => rfl
  | cons _ _ induction => rw [withoutStrategiesAll, induction, map_cons]

end HeadlessRule

/-! ## Items of a compiled rule -/

variable {strategy : DomainMatchStrategy} {rule : DefaultHeadlessRule lib} {name : String}
  {slice : Listable Bytes} {built : Rule (HeadlessItem lib)} {Left Right : Type}
  {items : List (HeadlessItem lib)} {isSource : Bool}

theorem domainItems_recovered
    (noMatcher : rule.domainMatcher = none) (isLater : (generateVersion == 1) = false)
    (isOk : domainItems rule strategy = .ok items) (other : DomainMatchStrategy) :
    domainItems (rule.recovered false generateVersion) other = domainItems rule other := by
  have recovered : domainItems (rule.recovered false generateVersion) other =
      .ok ((rule.domainMatcherOf generateVersion).toList.map (HeadlessItem.domain · other)) := rfl
  rw [recovered, domainMatcherOf, writtenMatcher, isLater]
  rw [domainItems] at isOk ⊢
  cases isSet : rule.hasDomains with
  | false =>
    rw [noMatcher]
    rfl
  | true =>
    rw [isSet] at isOk
    cases isItem : (newDomainItem rule.domain.list rule.domainSuffix.list strategy :
        Except Err (HeadlessItem lib)) with
    | error _ =>
      rw [if_pos rfl, isItem] at isOk
      cases isOk
    | ok _ =>
      rw [newDomainItem] at isItem
      rw [if_pos rfl, if_pos rfl, newDomainItem]
      split_ifs at isItem with noEmptyDomain noEmptySuffix
      rw [if_neg noEmptyDomain, if_neg noEmptySuffix]
      rfl

section

variable (isOk : ipCIDRItems isSource name slice.list none = .ok items)
include isOk

theorem buildIPSet_of_ipCIDRItems (isSet : slice.isSet = true) :
    ∃ ranges, buildIPSet lib slice.list = .ok ranges := by
  rw [Listable.isSet] at isSet
  rw [ipCIDRItems, if_pos isSet, newIPCIDRItem] at isOk
  cases isBuilt : buildIPSet lib slice.list with
  | error =>
    rw [isBuilt] at isOk
    cases isOk
  | ok ranges => exact ⟨ranges, rfl⟩

theorem ipCIDRItems_recovered :
    (ipCIDRItems isSource name [] (ipSetOf lib slice) : Except Err (List (HeadlessItem lib))) =
      ipCIDRItems isSource name slice.list none := by
  rw [ipSetOf]
  cases isSet : slice.isSet with
  | false =>
    have isNil : slice.list = [] := by simpa [Listable.isSet] using isSet
    rw [isNil]
    rfl
  | true =>
    rcases buildIPSet_of_ipCIDRItems isOk isSet with ⟨_, isBuilt⟩
    have notEmpty : (!slice.list.isEmpty) = true := isSet
    rw [ipCIDRItems, ipCIDRItems, if_pos notEmpty, isBuilt, newIPCIDRItem, newIPCIDRItem, isBuilt]
    rfl

end

theorem networkManagerItems_recovered (rule : DefaultHeadlessRule lib) :
    networkManagerItems context (rule.recovered false generateVersion) =
      networkManagerItems context rule := by
  have same : ((rule.recovered false generateVersion).interfaceEntries.map fun entry =>
      (entry.1, entry.2.list.map buildPrefix)) =
      rule.interfaceEntries.map fun entry => (entry.1, entry.2.list.map buildPrefix) := by
    have entries := congrArg (map fun entry : BitVec 8 × List (Option Prefix) =>
      (entry.1, entry.2.map buildPrefix)) (list_entries_recovered rule.networkInterfaceAddress)
    rw [map_map, map_map] at entries
    exact entries
  rw [networkManagerItems, networkManagerItems, same]
  simp only [DefaultHeadlessRule.recovered, list_ofList]
  rfl

theorem adGuardItems_recovered
    (noMatcher : rule.adGuardDomainMatcher = none) (strategy : DomainMatchStrategy) :
    adGuardItems (rule.recovered false generateVersion) strategy = adGuardItems rule strategy := by
  have recovered : adGuardItems (rule.recovered false generateVersion) strategy =
      rule.adGuardMatcherOf.toList.map (HeadlessItem.adGuardDomain · strategy) := rfl
  rw [recovered, adGuardItems, adGuardMatcherOf]
  cases rule.adGuardDomain.isSet with
  | true => rfl
  | false =>
    rw [noMatcher]
    rfl

/-! ## Compiled default rules -/

theorem items_of_newDefaultHeadlessRule (builds : newDefaultHeadlessRule context rule = .ok built) :
    (∃ items, domainItems rule (context.strategyOf rule.domainMatchStrategy) = .ok items) ∧
      (∃ items : List (HeadlessItem lib), ipCIDRItems true "source_ip_cidr" rule.sourceIPCIDR.list
        rule.sourceIPSet = .ok items) ∧
      ∃ items : List (HeadlessItem lib), ipCIDRItems false "ipcidr" rule.ipCIDR.list
        rule.ipSet = .ok items := by
  rw [newDefaultHeadlessRule] at builds
  rcases bind_eq_ok builds with ⟨domain, isDomain, builds⟩
  rcases bind_eq_ok builds with ⟨_, _, builds⟩
  rcases bind_eq_ok builds with ⟨source, isSource, builds⟩
  rcases bind_eq_ok builds with ⟨ip, isIP, _⟩
  exact ⟨⟨domain, isDomain⟩, ⟨source, isSource⟩, ip, isIP⟩

theorem isSource_fields (isSource : rule.isSource = true) :
    rule.domainMatcher = none ∧ rule.sourceIPSet = none ∧ rule.ipSet = none ∧
      rule.adGuardDomainMatcher = none := by
  simpa [DefaultHeadlessRule.isSource, and_assoc] using isSource

theorem newDefaultHeadlessRule_recovered (isSource : rule.isSource = true)
    (isLater : (generateVersion == 1) = false)
    (builds : newDefaultHeadlessRule context rule = .ok built) :
    newDefaultHeadlessRule context (rule.recovered false generateVersion) =
      newDefaultHeadlessRule context rule.withoutStrategy := by
  rcases isSource_fields isSource with ⟨noMatcher, noSourceSet, noSet, noAdGuard⟩
  rcases items_of_newDefaultHeadlessRule builds with
    ⟨⟨domain, isDomain⟩, ⟨source, isSourceItems⟩, ip, isIP⟩
  have sourceItems : (ipCIDRItems true "source_ip_cidr"
      (rule.recovered false generateVersion).sourceIPCIDR.list
      (rule.recovered false generateVersion).sourceIPSet : Except Err (List (HeadlessItem lib))) =
      ipCIDRItems true "source_ip_cidr" rule.sourceIPCIDR.list rule.sourceIPSet := by
    rw [noSourceSet] at isSourceItems ⊢
    exact ipCIDRItems_recovered isSourceItems
  have ipItems : (ipCIDRItems false "ipcidr" (rule.recovered false generateVersion).ipCIDR.list
      (rule.recovered false generateVersion).ipSet : Except Err (List (HeadlessItem lib))) =
      ipCIDRItems false "ipcidr" rule.ipCIDR.list rule.ipSet := by
    rw [noSet] at isIP ⊢
    exact ipCIDRItems_recovered isIP
  have domainRegexItems (strategy : DomainMatchStrategy) :
      domainRegexItems context (rule.recovered false generateVersion) strategy =
        domainRegexItems context rule strategy := by
    simp only [domainRegexItems, DefaultHeadlessRule.recovered, list_ofList]
  rw [newDefaultHeadlessRule, newDefaultHeadlessRule]
  simp only [domainItems_recovered noMatcher isLater isDomain, domainRegexItems, sourceItems,
    ipItems, networkManagerItems_recovered, adGuardItems_recovered noAdGuard]
  simp only [DefaultHeadlessRule.recovered, list_ofList]
  rfl

/-! ## Conditions of a compiled rule -/

theorem isNone_ofList {Value : Type} (slice : Listable Value) :
    (ofList slice.list).isNone = !slice.isSet := by
  rw [ofList, Listable.isSet]
  cases slice.list.isEmpty <;> rfl

theorem isNone_ipSetOf (isOk : ipCIDRItems isSource name slice.list none = .ok items) :
    (ipSetOf lib slice).isNone = !slice.isSet := by
  rw [ipSetOf]
  cases isSet : slice.isSet with
  | false => rfl
  | true =>
    rcases buildIPSet_of_ipCIDRItems isOk isSet with ⟨_, isBuilt⟩
    rw [isBuilt]
    rfl

theorem isNone_recoveredMap (map : Option InterfaceAddresses) :
    ((map.filter fun map => !map.entries.isEmpty).map recoveredAddresses).isNone =
      ((map.map TypedMap.entries).getD []).isEmpty := by
  cases map with
  | none => rfl
  | some map =>
    rw [Option.filter_some]
    change _ = map.entries.isEmpty
    cases map.entries.isEmpty <;> rfl

theorem isNone_domainMatcherOf (rule : DefaultHeadlessRule lib) :
    (rule.domainMatcherOf generateVersion).isNone = !rule.hasDomains := by
  rw [domainMatcherOf]
  cases rule.hasDomains <;> rfl

theorem isNone_adGuardMatcherOf (rule : DefaultHeadlessRule lib) :
    rule.adGuardMatcherOf.isNone = !rule.adGuardDomain.isSet := by
  rw [adGuardMatcherOf]
  cases rule.adGuardDomain.isSet <;> rfl

theorem isValid_recovered (isSource : rule.isSource = true)
    (builds : newDefaultHeadlessRule context rule = .ok built) :
    (rule.recovered false generateVersion).isValid = rule.hasItem := by
  rcases isSource_fields isSource with ⟨_, noSourceSet, noSet, _⟩
  rcases items_of_newDefaultHeadlessRule builds with
    ⟨⟨domain, isDomain⟩, ⟨source, isSourceItems⟩, ip, isIP⟩
  rw [noSourceSet] at isSourceItems
  rw [noSet] at isIP
  have asNone : (none : Listable Bytes).isNone = true := rfl
  simp only [DefaultHeadlessRule.isValid, isIPOnly, DefaultHeadlessRule.recovered, isNone_ofList,
    isNone_recoveredMap, isNone_domainMatcherOf, isNone_adGuardMatcherOf,
    isNone_ipSetOf isSourceItems, isNone_ipSetOf isIP, Bool.false_eq_true, if_false,
    DefaultHeadlessRule.hasItem, beq_self_eq_true, Bool.not_and, Bool.not_not]
  ac_rfl

theorem isValid_withoutStrategy (hasItem : rule.hasItem = true) :
    rule.withoutStrategy.isValid = true := by
  cases isValid : rule.withoutStrategy.isValid with
  | true => rfl
  | false =>
    simp only [DefaultHeadlessRule.isValid, isIPOnly, withoutStrategy, Bool.not_eq_false',
      Bool.and_eq_true, Option.isNone_iff_eq_none, Bool.not_eq_true'] at isValid
    simp only [DefaultHeadlessRule.hasItem, hasDomains, interfaceEntries, isValid] at hasItem
    exact hasItem

/-! ## Trees of rules -/

variable {lefts : List Left}

theorem forall₂_congr_of_mem {relation other : Left → Right → Prop}
    {rights : List Right} (same : ∀ left ∈ lefts, ∀ right, relation left right ↔ other left right) :
    List.Forall₂ relation lefts rights ↔ List.Forall₂ other lefts rights := by
  induction lefts generalizing rights with
  | nil => rw [forall₂_nil_left_iff, forall₂_nil_left_iff]
  | cons left lefts induction =>
    have rest (rights : List Right) :
        List.Forall₂ relation lefts rights ↔ List.Forall₂ other lefts rights :=
      induction (forall_mem_cons.mp same).2
    simp only [forall₂_cons_left_iff, rest, same left mem_cons_self]

variable (context generateVersion) in
/-- The compiled rule is built if something is written for every default rule of
the tree, and then it is built like the source rule without its strategies. -/
def CompiledAlike (rule : HeadlessRule lib) : Prop :=
  ∀ compiled, newHeadlessRule context (rule.recovered false generateVersion) = .ok compiled ↔
    rule.hasItems = true ∧ newHeadlessRule context rule.withoutStrategies = .ok compiled

theorem newHeadlessRule_recovered (isLater : (generateVersion == 1) = false)
    (rule : HeadlessRule lib) : rule.isSource = true →
    ∀ built, newHeadlessRule context rule = .ok built →
      CompiledAlike context generateVersion rule := by
  induction rule using induct with
  | default options =>
    intro isSource built builds compiled
    have isValid : options.isValid = true := isValid_of_newHeadlessRule builds
    rw [newHeadlessRule, isValid] at builds
    have builds : newDefaultHeadlessRule context options = .ok built := builds
    have recovered := newDefaultHeadlessRule_recovered isSource isLater builds
    rw [HeadlessRule.recovered, withoutStrategies, newHeadlessRule, newHeadlessRule,
      isValid_recovered isSource builds, recovered, hasItems]
    cases hasItem : options.hasItem with
    | false => simp
    | true => simp [isValid_withoutStrategy hasItem]
  | logical _ rules _ _ induction =>
    intro isSource _ builds compiled
    rw [HeadlessRule.isSource, areSource_iff] at isSource
    rcases newHeadlessRule_logical_eq_ok_iff.mp builds with
      ⟨notEmpty, known, children, isMode, areBuilt, _⟩
    have each : ∀ rule ∈ rules, CompiledAlike context generateVersion rule := by
      intro rule member
      rcases exists_of_forall₂ areBuilt rule member with ⟨child, isChild⟩
      exact induction rule member (isSource rule member) child isChild
    rw [HeadlessRule.recovered, withoutStrategies, recoveredAll_eq_map, withoutStrategiesAll_eq_map,
      newHeadlessRule_logical_eq_ok_iff, newHeadlessRule_logical_eq_ok_iff, hasItems, haveItems_iff]
    simp only [forall₂_map_left_iff, forall₂_congr_of_mem each, forall₂_and_left,
      ne_eq, map_eq_nil_iff]
    constructor
    · rintro ⟨_, known, children, isKnown, ⟨haveItems, areBuilt⟩, isCompiled⟩
      exact ⟨haveItems, notEmpty, known, children, isKnown, areBuilt, isCompiled⟩
    · rintro ⟨haveItems, _, known, children, isKnown, areBuilt, isCompiled⟩
      exact ⟨notEmpty, known, children, isKnown, ⟨haveItems, areBuilt⟩, isCompiled⟩

/-! ## Rule-sets -/

/-- `loadBytes` of a binary file, up to the rules it builds. -/
def loadBinary (context : HeadlessContext lib) (content : Bytes) :
    Except Err (List (Rule (HeadlessItem lib))) := do
  let ruleSet ← read false content
  let rules ← ruleSet.upgrade
  newHeadlessRules context rules

/-- The two rules match the same metadata, whatever the network manager answers. -/
def MatchAlike (context : HeadlessContext lib) (rule other : Rule (HeadlessItem lib)) : Prop :=
  ∀ manager metadata, (rule.match (HeadlessItem.match context manager) metadata).matched =
    (other.match (HeadlessItem.match context manager) metadata).matched

/-- The strategies of the rule make no difference to what it matches. -/
def StrategyFree (context : HeadlessContext lib) (rule : HeadlessRule lib) : Prop :=
  ∃ built cleared, newHeadlessRule context rule = .ok built ∧
    newHeadlessRule context rule.withoutStrategies = .ok cleared ∧ MatchAlike context built cleared

theorem loadBinary_eq_ok_iff {ruleSet : PlainRuleSet lib} {file : Bytes}
    {compiled : List (Rule (HeadlessItem lib))} (version : 2 ≤ generateVersion.toNat)
    (isWritten : write ruleSet generateVersion = .ok file) :
    loadBinary context file = .ok compiled ↔
      (generateVersion.toNat ≤ ruleSetVersionCurrent ∧
        ∀ rule ∈ ruleSet.rules, rule.isAddressed = true ∧ rule.depth ≤ maxLogicalRuleDepth) ∧
      List.Forall₂ (fun rule compiled =>
        newHeadlessRule context (rule.recovered false generateVersion) = .ok compiled)
        ruleSet.rules compiled := by
  have decodes (decoded : PlainRuleSetCompat lib) : read false file = .ok decoded ↔ _ :=
    read_eq_ok_iff false isWritten
  rw [loadBinary]
  cases isRead : (read false file : Except Err (PlainRuleSetCompat lib)) with
  | error =>
    constructor
    · nofun
    · rintro ⟨areFine, _⟩
      rw [(decodes _).mpr ⟨areFine, rfl⟩] at isRead
      cases isRead
  | ok decoded =>
    rcases (decodes decoded).mp isRead with ⟨areFine, rfl⟩
    have upgraded : PlainRuleSetCompat.upgrade ⟨generateVersion,
        ruleSet.rules.map (HeadlessRule.recovered false generateVersion)⟩ =
        .ok (ruleSet.rules.map (HeadlessRule.recovered false generateVersion)) :=
      if_pos ⟨Nat.le_trans (by decide) version, areFine.1⟩
    change (do
      let rules ← PlainRuleSetCompat.upgrade _
      newHeadlessRules context rules) = _ ↔ _
    rw [upgraded, and_iff_right areFine]
    change newHeadlessRules context _ = _ ↔ _
    rw [newHeadlessRules, buildEach_eq_ok_iff, forall₂_map_left_iff]

theorem exists_forall₂_iff {Middle : Type} {first : Left → Middle → Prop}
    {second : Left → Right → Prop} {third : Middle → Right → Prop}
    (unique : ∀ left middle other, first left middle → first left other → middle = other)
    {middles : List Middle} (each : List.Forall₂ first lefts middles) :
    (∃ rights, List.Forall₂ second lefts rights ∧ List.Forall₂ third middles rights) ↔
      ∀ left ∈ lefts, ∃ middle right, first left middle ∧ second left right ∧
        third middle right := by
  induction each with
  | nil => simp
  | @cons left middle _ _ isFirst _ induction =>
    rw [forall_mem_cons, ← induction]
    constructor
    · rintro ⟨rights, seconds, thirds⟩
      cases seconds with
      | cons isSecond seconds =>
        cases thirds with
        | cons isThird thirds => exact ⟨⟨middle, _, isFirst, isSecond, isThird⟩, _, seconds, thirds⟩
    · rintro ⟨⟨other, right, isOther, isSecond, isThird⟩, rights, seconds, thirds⟩
      rw [← unique left middle other isFirst isOther] at isThird
      exact ⟨right :: rights, .cons isSecond seconds, .cons isThird thirds⟩

/-- The rules of a compiled rule-set match what the source rules match exactly if
the file can be read, every default rule has an item, and no strategy makes a
difference. -/
theorem loadBinary_matchAlike_iff {ruleSet : PlainRuleSet lib} {generateVersion : BitVec 8}
    {file : Bytes} {built : List (Rule (HeadlessItem lib))}
    (areSource : ∀ rule ∈ ruleSet.rules, rule.isSource = true)
    (builds : newHeadlessRules context ruleSet.rules = .ok built)
    (version : 2 ≤ generateVersion.toNat) (isWritten : write ruleSet generateVersion = .ok file) :
    (∃ compiled, loadBinary context file = .ok compiled ∧
      List.Forall₂ (MatchAlike context) built compiled) ↔
    generateVersion.toNat ≤ ruleSetVersionCurrent ∧
      ∀ rule ∈ ruleSet.rules, rule.isAddressed = true ∧ rule.depth ≤ maxLogicalRuleDepth ∧
        rule.hasItems = true ∧ StrategyFree context rule := by
  have isLater : (generateVersion == 1) = false := by
    rw [beq_eq_false_iff_ne]
    intro isFirst
    rw [isFirst] at version
    cases version with
    | step less => cases less
  have areBuilt := buildEach_eq_ok_iff.mp builds
  have each : ∀ rule ∈ ruleSet.rules, CompiledAlike context generateVersion rule := by
    intro rule member
    rcases exists_of_forall₂ areBuilt rule member with ⟨built, isBuilt⟩
    exact newHeadlessRule_recovered isLater rule (areSource rule member) built isBuilt
  have together : (∃ compiled, List.Forall₂ (fun rule compiled => rule.hasItems = true ∧
      newHeadlessRule context rule.withoutStrategies = .ok compiled) ruleSet.rules compiled ∧
      List.Forall₂ (MatchAlike context) built compiled) ↔ _ :=
    exists_forall₂_iff
      (fun rule built other isBuilt isOther => Except.ok.inj (isBuilt.symm.trans isOther)) areBuilt
  simp only [loadBinary_eq_ok_iff version isWritten, forall₂_congr_of_mem each]
  constructor
  · rintro ⟨compiled, ⟨⟨isKnown, areFine⟩, areCompiled⟩, areAlike⟩
    refine ⟨isKnown, fun rule member => ?_⟩
    rcases areFine rule member with ⟨isAddressed, isShallow⟩
    rcases together.mp ⟨compiled, areCompiled, areAlike⟩ rule member with
      ⟨own, cleared, isBuilt, ⟨hasItems, isCleared⟩, isAlike⟩
    exact ⟨isAddressed, isShallow, hasItems, own, cleared, isBuilt, isCleared, isAlike⟩
  · rintro ⟨isKnown, areFine⟩
    have belong : ∀ rule ∈ ruleSet.rules, ∃ own cleared,
        newHeadlessRule context rule = .ok own ∧ (rule.hasItems = true ∧
          newHeadlessRule context rule.withoutStrategies = .ok cleared) ∧
        MatchAlike context own cleared := by
      intro rule member
      rcases areFine rule member with
        ⟨_, _, hasItems, own, cleared, isBuilt, isCleared, isAlike⟩
      exact ⟨own, cleared, isBuilt, ⟨hasItems, isCleared⟩, isAlike⟩
    rcases together.mpr belong with ⟨compiled, areCompiled, areAlike⟩
    refine ⟨compiled, ⟨⟨isKnown, fun rule member => ?_⟩, areCompiled⟩, areAlike⟩
    exact ⟨(areFine rule member).1, (areFine rule member).2.1⟩

/-! ## Samples -/

/-- A router without a default strategy, and regular expressions that match
nothing. -/
def sampleContext : HeadlessContext Library.sample where
  defaultDomainMatchStrategy := some .asIS
  hasNetworkManager := true
  isAndroid := false
  matchDomain _ _ := false
  matchAdGuard _ _ := false
  ipSetContains _ _ := false
  toLower := id
  compile _ := .ok fun _ => false
  base := id
  normalizeWIFIBSSID := id

/-- `domain_keyword: ["a"]` with a strategy. -/
def keywordRule (strategy : DomainMatchStrategy) : HeadlessRule Library.sample :=
  .default { domainKeyword := some [[97]], domainMatchStrategy := strategy }

theorem loadBinary_matchAlike_keywordRule :
    ∃ compiled, loadBinary sampleContext
        (magicBytes ++ [2, 1, 0, 3, 1, 1, 97, 255, 0]) = .ok compiled ∧
      List.Forall₂ (MatchAlike sampleContext)
        [.default { destinationAddressItems := [.domainKeyword [[97]] .asIS] } none false false ""]
        compiled := by
  have isWritten : write (PlainRuleSet.single (keywordRule .asIS) rfl) 2 =
      .ok (magicBytes ++ [2, 1, 0, 3, 1, 1, 97, 255, 0]) := rfl
  have builds : newHeadlessRules sampleContext [keywordRule .asIS] = .ok [.default
      { destinationAddressItems := [.domainKeyword [[97]] .asIS] } none false false ""] := rfl
  apply (loadBinary_matchAlike_iff _ builds (by decide) isWritten).mpr
  · refine ⟨by decide, fun rule member => ?_⟩
    rw [mem_singleton.mp member]
    exact ⟨rfl, by decide, rfl, _, _, rfl, rfl, fun _ _ => rfl⟩
  · intro _ member
    rw [mem_singleton.mp member]
    rfl

/-- A connection to the domain `a` in which another host was sniffed. -/
def sniffedMetadata : InboundContext where
  destination := { fqdn := "a" }
  sniffHost := "b"

/-- The source rule looks at the domain of the destination and matches; the
compiled rule has lost its strategy, looks at the sniffed host and does not. -/
theorem loadBinary_loses_strategy :
    ∃ file built compiled,
      newHeadlessRules sampleContext [keywordRule .preferFQDN] = .ok [built] ∧
      write (PlainRuleSet.single (keywordRule .preferFQDN) rfl) 2 = .ok file ∧
      loadBinary sampleContext file = .ok [compiled] ∧
      (built.match (HeadlessItem.match sampleContext {}) sniffedMetadata).matched = true ∧
      (compiled.match (HeadlessItem.match sampleContext {}) sniffedMetadata).matched = false :=
  ⟨_, _, _, rfl, rfl, rfl, by decide +kernel, by decide +kernel⟩

end SingBox.Srs
