import SingBox.Srs.Library

/-! # Headless rules

The options of the rules of a rule-set. In a source file the lists of domains
and addresses are given as text; the reader of a binary file sets matchers and
IP sets in their place. `IsValid` compares with the zero value, so an empty
list counts as a condition.
-/

namespace SingBox.Srs

open Netip Route List

inductive DomainMatchStrategy
  | asIS
  | preferFQDN
  | preferSniffHost
  | fqdnOnly
  | sniffHostOnly
  deriving DecidableEq

/-- `badjson.TypedMap` of the library `sing`: entries in the order in which their keys
were put. -/
@[ext] structure TypedMap (Key Value : Type) where
  entries : List (Key × Value)
  keys : (entries.map Prod.fst).Nodup

namespace TypedMap

variable {Key Value : Type} [DecidableEq Key]

def empty : TypedMap Key Value := ⟨[], nodup_nil⟩

/-- A key that is there keeps its place. -/
def replace (key : Key) (value : Value) (entry : Key × Value) : Key × Value :=
  if entry.1 = key then (key, value) else entry

theorem keys_replace (key : Key) (value : Value) (entries : List (Key × Value)) :
    (entries.map (replace key value)).map Prod.fst = entries.map Prod.fst := by
  rw [map_map]
  apply map_congr_left
  intro _ _
  rw [Function.comp_apply, replace]
  split
  · next isKey => exact isKey.symm
  · rfl

def put (map : TypedMap Key Value) (key : Key) (value : Value) : TypedMap Key Value :=
  if isThere : key ∈ map.entries.map Prod.fst then
    ⟨map.entries.map (replace key value), by
      rw [keys_replace]
      exact map.keys⟩
  else
    ⟨map.entries ++ [(key, value)], by
      rw [map_append]
      apply map.keys.append (nodup_singleton key)
      intro _ isOther isKey
      exact isThere (mem_singleton.mp isKey ▸ isOther)⟩

variable {map : TypedMap Key Value}

theorem entries_put {key : Key} {value : Value} (isNew : key ∉ map.entries.map Prod.fst) :
    (map.put key value).entries = map.entries ++ [(key, value)] := by
  rw [put, dif_neg isNew]

theorem entries_foldl_put {entries : List (Key × Value)}
    (areNew : ((map.entries ++ entries).map Prod.fst).Nodup) :
    (entries.foldl (fun map entry => map.put entry.1 entry.2) map).entries =
      map.entries ++ entries := by
  induction entries generalizing map with
  | nil => rw [foldl_nil, append_nil]
  | cons entry entries induction =>
    have isNew : entry.1 ∉ map.entries.map Prod.fst := by
      rw [map_append, map_cons] at areNew
      intro isThere
      exact (nodup_append.mp areNew).2.2 _ isThere _ mem_cons_self rfl
    rw [foldl_cons, induction]
    · rw [entries_put isNew, append_assoc, singleton_append]
    · rw [entries_put isNew, append_assoc, singleton_append]
      exact areNew

end TypedMap

/-- A nil pointer to a `Prefixable` is a prefix that is not there. -/
abbrev InterfaceAddresses := TypedMap (BitVec 8) (Listable (Option Prefix))

structure DefaultHeadlessRule (lib : Library) where
  queryType : Listable (BitVec 16) := none
  network : Listable Bytes := none
  domain : Listable Bytes := none
  domainSuffix : Listable Bytes := none
  domainKeyword : Listable Bytes := none
  domainRegex : Listable Bytes := none
  sourceIPCIDR : Listable Bytes := none
  ipCIDR : Listable Bytes := none
  sourcePort : Listable (BitVec 16) := none
  sourcePortRange : Listable Bytes := none
  port : Listable (BitVec 16) := none
  portRange : Listable Bytes := none
  processName : Listable Bytes := none
  processPath : Listable Bytes := none
  processPathRegex : Listable Bytes := none
  packageName : Listable Bytes := none
  packageNameRegex : Listable Bytes := none
  networkType : Listable (BitVec 8) := none
  networkIsExpensive : Bool := false
  networkIsConstrained : Bool := false
  wifiSSID : Listable Bytes := none
  wifiBSSID : Listable Bytes := none
  domainMatchStrategy : DomainMatchStrategy := .asIS
  networkInterfaceAddress : Option InterfaceAddresses := none
  defaultInterfaceAddress : Listable (Option Prefix) := none
  invert : Bool := false
  domainMatcher : Option lib.Matcher := none
  sourceIPSet : Option (List IPRange) := none
  ipSet : Option (List IPRange) := none
  adGuardDomain : Listable Bytes := none
  adGuardDomainMatcher : Option lib.AdGuardMatcher := none

/-- The `mode` of a logical rule. A source file may hold any text. -/
inductive LogicalType
  | known (mode : LogicalMode)
  | unknown (mode : String)
  deriving DecidableEq

inductive HeadlessRule (lib : Library) where
  | default (options : DefaultHeadlessRule lib)
  | logical (mode : LogicalType) (rules : List (HeadlessRule lib))
      (domainMatchStrategy : DomainMatchStrategy) (invert : Bool)

variable {lib : Library} {rules : List (HeadlessRule lib)}

/-! ## Conditions -/

namespace DefaultHeadlessRule

variable (rule : DefaultHeadlessRule lib)

/-- Nothing is set but the destination addresses and `invert`. -/
def isIPOnly : Bool :=
  rule.queryType.isNone && rule.network.isNone && rule.domain.isNone &&
    rule.domainSuffix.isNone && rule.domainKeyword.isNone && rule.domainRegex.isNone &&
    rule.sourceIPCIDR.isNone && rule.sourcePort.isNone && rule.sourcePortRange.isNone &&
    rule.port.isNone && rule.portRange.isNone && rule.processName.isNone &&
    rule.processPath.isNone && rule.processPathRegex.isNone && rule.packageName.isNone &&
    rule.packageNameRegex.isNone && rule.networkType.isNone && !rule.networkIsExpensive &&
    !rule.networkIsConstrained && rule.wifiSSID.isNone && rule.wifiBSSID.isNone &&
    rule.domainMatchStrategy == .asIS && rule.networkInterfaceAddress.isNone &&
    rule.defaultInterfaceAddress.isNone && rule.domainMatcher.isNone &&
    rule.sourceIPSet.isNone && rule.adGuardDomain.isNone && rule.adGuardDomainMatcher.isNone

/-- `IsValid`: something other than `invert` is set. -/
def isValid : Bool :=
  !(rule.isIPOnly && rule.ipCIDR.isNone && rule.ipSet.isNone)

/-- The entries of `network_interface_address`; a nil map has none. -/
def interfaceEntries : List (BitVec 8 × Listable (Option Prefix)) :=
  (rule.networkInterfaceAddress.map TypedMap.entries).getD []

end DefaultHeadlessRule

namespace HeadlessRule

mutual
def isValid : HeadlessRule lib → Bool
  | .default options => options.isValid
  | .logical _ rules _ _ => !rules.isEmpty && areValid rules

def areValid : List (HeadlessRule lib) → Bool
  | [] => true
  | rule :: rules => rule.isValid && areValid rules
end

theorem areValid_iff :
    areValid rules = true ↔ ∀ rule ∈ rules, rule.isValid = true := by
  induction rules with
  | nil => simp [areValid]
  | cons _ _ induction => simp [areValid, induction]

mutual
/-- How deep the deepest rule stands below this one. -/
def depth : HeadlessRule lib → Nat
  | .default _ => 0
  | .logical _ rules _ _ => depthBelow rules

def depthBelow : List (HeadlessRule lib) → Nat
  | [] => 0
  | rule :: rules => max (rule.depth + 1) (depthBelow rules)
end

theorem depthBelow_le_iff {bound : Nat} :
    depthBelow rules ≤ bound ↔ ∀ rule ∈ rules, rule.depth < bound := by
  induction rules with
  | nil => simp [depthBelow]
  | cons _ _ induction =>
    rw [depthBelow, Nat.max_le, induction, Nat.succ_le_iff, forall_mem_cons]

mutual
variable {motive : HeadlessRule lib → Prop}

/-- Induction over a rule and the rules of its lists. -/
theorem induct (default : ∀ options, motive (.default options))
    (logical : ∀ mode rules strategy invert, (∀ rule ∈ rules, motive rule) →
      motive (.logical mode rules strategy invert)) : ∀ rule, motive rule
  | .default options => default options
  | .logical mode rules strategy invert =>
    logical mode rules strategy invert (induct_rules default logical rules)

private theorem induct_rules
    (default : ∀ options, motive (.default options))
    (logical : ∀ mode rules strategy invert, (∀ rule ∈ rules, motive rule) →
      motive (.logical mode rules strategy invert)) :
    ∀ (rules : List (HeadlessRule lib)), ∀ rule ∈ rules, motive rule
  | [], _, member => by cases member
  | first :: rules, rule, member => by
    rcases mem_cons.mp member with isFirst | member
    · rw [isFirst]
      exact induct default logical first
    · exact induct_rules default logical rules rule member
end

end HeadlessRule

/-! ## Rule-sets -/

/-- The slice and the texts in it. -/
def textsFit (slice : Listable Bytes) : Bool :=
  slice.fits && slice.list.all fun text => decide (text.length < 2 ^ 63)

/-- The slices have a length. -/
def DefaultHeadlessRule.fits (rule : DefaultHeadlessRule lib) : Bool :=
  rule.queryType.fits && textsFit rule.network && textsFit rule.domain &&
    textsFit rule.domainSuffix && textsFit rule.domainKeyword && textsFit rule.domainRegex &&
    textsFit rule.sourceIPCIDR && textsFit rule.ipCIDR && rule.sourcePort.fits &&
    textsFit rule.sourcePortRange && rule.port.fits && textsFit rule.portRange &&
    textsFit rule.processName && textsFit rule.processPath && textsFit rule.processPathRegex &&
    textsFit rule.packageName && textsFit rule.packageNameRegex && rule.networkType.fits &&
    textsFit rule.wifiSSID && textsFit rule.wifiBSSID &&
    Listable.fits (some rule.interfaceEntries) &&
    (rule.interfaceEntries.all fun entry => entry.2.fits) && rule.defaultInterfaceAddress.fits &&
    textsFit rule.adGuardDomain

mutual
def HeadlessRule.fits : HeadlessRule lib → Bool
  | .default options => options.fits
  | .logical _ rules _ _ => decide (rules.length < 2 ^ 63) && HeadlessRule.fitAll rules

def HeadlessRule.fitAll : List (HeadlessRule lib) → Bool
  | [] => true
  | rule :: rules => rule.fits && HeadlessRule.fitAll rules
end

theorem HeadlessRule.fitAll_iff :
    HeadlessRule.fitAll rules = true ↔ ∀ rule ∈ rules, rule.fits = true := by
  induction rules with
  | nil => simp [HeadlessRule.fitAll]
  | cons _ _ induction => simp [HeadlessRule.fitAll, induction]

/-- A rule-set in memory. The length of every slice in it is an `int`. -/
structure PlainRuleSet (lib : Library) where
  rules : List (HeadlessRule lib)
  count : rules.length < 2 ^ 63
  fits : HeadlessRule.fitAll rules = true

/-- A rule-set with the version of the file it was read from. -/
structure PlainRuleSetCompat (lib : Library) where
  version : BitVec 8
  rules : List (HeadlessRule lib)

def ruleSetVersionCurrent : Nat := 5

/-- `Upgrade`, with the rules of the plain rule-set. -/
def PlainRuleSetCompat.upgrade (ruleSet : PlainRuleSetCompat lib) :
    Except Err (List (HeadlessRule lib)) :=
  if 1 ≤ ruleSet.version.toNat ∧ ruleSet.version.toNat ≤ ruleSetVersionCurrent then
    .ok ruleSet.rules
  else .error (.new s!"unknown rule-set version: {ruleSet.version.toNat}")

end SingBox.Srs
