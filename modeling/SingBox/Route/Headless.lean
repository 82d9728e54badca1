import SingBox.Route.HeadlessItem
import SingBox.Route.Match
import SingBox.Srs.Binary

/-! # Building headless rules

`NewHeadlessRule`: the options of a rule become items, each in the list of its
group. A source file gives lists of domains and addresses, a binary file gives
matchers and IP sets; where both are set the lists are used.
-/

namespace SingBox.Route

open Adapter Netip Srs List Bool

variable {lib : Library} (context : HeadlessContext lib)

/-! ## Items -/

/-- `if len(values) > 0`: an item made of the values. -/
def itemOf {Value : Type} (values : List Value) (item : List Value → HeadlessItem lib) :
    List (HeadlessItem lib) :=
  if values.isEmpty then [] else [item values]

def tryItemOf {Value : Type} (values : List Value)
    (item : List Value → Except Err (HeadlessItem lib)) : Except Err (List (HeadlessItem lib)) :=
  if values.isEmpty then .ok [] else (item values).map fun item => [item]

def newDomainItem (domains domainSuffixes : List Bytes) (strategy : Srs.DomainMatchStrategy) :
    Except Err (HeadlessItem lib) :=
  if domains.contains [] then .error (.new "domain: empty item is not allowed")
  else if domainSuffixes.contains [] then
    .error (.new "domain_suffix: empty item is not allowed")
  else .ok (.domain (lib.newMatcher domains domainSuffixes false) strategy)

/-- The loop that compiles the expressions of a list. -/
def compileAll : Nat → List Bytes → Except Err (List (Bytes → Bool))
  | _, [] => .ok []
  | index, expression :: expressions => do
    let matcher ← (context.compile expression).mapError (.cause s!"parse expression {index}")
    let matchers ← compileAll (index + 1) expressions
    .ok (matcher :: matchers)

/-- `strconv.ParseUint` in base ten with 16 bits. -/
def parseUint16 (text : Bytes) : Except Err Nat :=
  match Text.parseDecimal text with
  | none => .error (.about "strconv.ParseUint" text)
  | some value => if value < 2 ^ 16 then .ok value else .error (.about "strconv.ParseUint" text)

def colon : BitVec 8 := 58

/-- The text of a port range, as its errors show it. -/
def showText (text : Bytes) : String := String.ofList (text.map fun byte => Char.ofNat byte.toNat)

def badPortRange (portRange : Bytes) (err : Err) : Err :=
  .cause ("bad port range: " ++ showText portRange) err

def parsePortRange (portRange : Bytes) : Except Err (Nat × Nat) :=
  match portRange.dropWhile (· != colon) with
  | [] => .error (.new ("bad port range: " ++ showText portRange))
  | _ :: after => do
    let before := portRange.takeWhile (· != colon)
    let start ← if before.isEmpty then .ok 0
      else (parseUint16 before).mapError (badPortRange portRange)
    let finish ← if after.isEmpty then .ok 0xFFFF
      else (parseUint16 after).mapError (badPortRange portRange)
    .ok (start, finish)

def newPortRangeItem (isSource : Bool) (rangeList : List Bytes) : Except Err (HeadlessItem lib) :=
  (rangeList.mapM parsePortRange).map (.portRange isSource)

def newIPCIDRItem (isSource : Bool) (prefixStrings : List Bytes) : Except Err (HeadlessItem lib) :=
  (buildIPSet lib prefixStrings).map (.ipCIDR isSource)

/-! ## Default rules -/

namespace HeadlessContext

/-- `as_is` is replaced by the default of the router. -/
def strategyOf (strategy : Srs.DomainMatchStrategy) : Srs.DomainMatchStrategy :=
  match strategy, context.defaultDomainMatchStrategy with
  | .asIS, some default => default
  | _, _ => strategy

end HeadlessContext

section

variable (options : DefaultHeadlessRule lib) (strategy : Srs.DomainMatchStrategy)

def domainItems : Except Err (List (HeadlessItem lib)) :=
  if options.hasDomains then
    (newDomainItem options.domain.list options.domainSuffix.list strategy).map fun item => [item]
  else .ok (options.domainMatcher.toList.map (HeadlessItem.domain · strategy))

def domainRegexItems : Except Err (List (HeadlessItem lib)) :=
  (tryItemOf options.domainRegex.list fun expressions =>
    (compileAll context 0 expressions).map (HeadlessItem.domainRegex · strategy)).mapError
      (.cause "domain_regex")

/-- A list of addresses, or else the IP set of a binary file. -/
def ipCIDRItems (isSource : Bool) (name : String) (prefixStrings : List Bytes)
    (ipSet : Option (List IPRange)) : Except Err (List (HeadlessItem lib)) :=
  if !prefixStrings.isEmpty then
    ((newIPCIDRItem isSource prefixStrings).map fun item => [item]).mapError (.cause name)
  else .ok (ipSet.toList.map (HeadlessItem.ipCIDR isSource))

def portRangeItems (isSource : Bool) (name : String) (rangeList : List Bytes) :
    Except Err (List (HeadlessItem lib)) :=
  (tryItemOf rangeList (newPortRangeItem isSource)).mapError (.cause name)

def regexItems (name : String) (expressions : List Bytes)
    (item : List (Bytes → Bool) → HeadlessItem lib) : Except Err (List (HeadlessItem lib)) :=
  (tryItemOf expressions fun expressions =>
    (compileAll context 0 expressions).map item).mapError (.cause name)

/-- The items that ask the network manager; without one they are left out. -/
def networkManagerItems : List (HeadlessItem lib) :=
  if context.hasNetworkManager then
    itemOf options.networkType.list .networkType ++
      (if options.networkIsExpensive then [.networkIsExpensive] else []) ++
      (if options.networkIsConstrained then [.networkIsConstrained] else []) ++
      itemOf options.wifiSSID.list .wifiSSID ++ itemOf options.wifiBSSID.list .wifiBSSID ++
      itemOf (options.interfaceEntries.map fun entry =>
        (entry.1, entry.2.list.map buildPrefix)) .networkInterfaceAddress ++
      itemOf (options.defaultInterfaceAddress.list.map buildPrefix) .defaultInterfaceAddress
  else []

def adGuardItems : List (HeadlessItem lib) :=
  if options.adGuardDomain.isSet then
    [.adGuardDomain (lib.newAdGuardMatcher options.adGuardDomain.list) strategy]
  else options.adGuardDomainMatcher.toList.map (HeadlessItem.adGuardDomain · strategy)

end

def newDefaultHeadlessRule (options : DefaultHeadlessRule lib) :
    Except Err (Rule (HeadlessItem lib)) := do
  let strategy := context.strategyOf options.domainMatchStrategy
  let domain ← domainItems options strategy
  let domainRegex ← domainRegexItems context options strategy
  let sourceIPCIDR ←
    ipCIDRItems true "source_ip_cidr" options.sourceIPCIDR.list options.sourceIPSet
  let ipCIDR ← ipCIDRItems false "ipcidr" options.ipCIDR.list options.ipSet
  let sourcePortRange ← portRangeItems true "source_port_range" options.sourcePortRange.list
  let portRange ← portRangeItems false "port_range" options.portRange.list
  let processPathRegex ← regexItems context "process_path_regex" options.processPathRegex.list
    .processPathRegex
  let packageNameRegex ← regexItems context "package_name_regex" options.packageNameRegex.list
    .packageNameRegex
  .ok (.default
    { items :=
        itemOf options.queryType.list .queryType ++ itemOf options.network.list .network ++
          itemOf options.processName.list .processName ++
          itemOf options.processPath.list .processPath ++ processPathRegex ++
          itemOf options.packageName.list .packageName ++ packageNameRegex ++
          networkManagerItems context options
      sourceAddressItems := sourceIPCIDR
      sourcePortItems := itemOf options.sourcePort.list (.port true) ++ sourcePortRange
      destinationAddressItems :=
        domain ++ itemOf options.domainKeyword.list (.domainKeyword · strategy) ++ domainRegex ++
          adGuardItems options strategy
      destinationIPCIDRItems := ipCIDR
      destinationPortItems := itemOf options.port.list (.port false) ++ portRange }
    none options.invert false "")

/-! ## Rules -/

def newLogicalMode : LogicalType → Except Err LogicalMode
  | .known mode => .ok mode
  | .unknown mode => .error (.new s!"unknown logical mode: {mode}")

mutual
def newHeadlessRule : HeadlessRule lib → Except Err (Rule (HeadlessItem lib))
  | .default options =>
    if !options.isValid then .error (.new "missing conditions")
    else newDefaultHeadlessRule context options
  | .logical mode rules strategy invert =>
    if !HeadlessRule.isValid (.logical mode rules strategy invert) then
      .error (.new "missing conditions")
    else do
      let mode ← newLogicalMode mode
      let rules ← newSubRules 0 rules
      .ok (.logical mode rules invert)

def newSubRules : Nat → List (HeadlessRule lib) → Except Err (List (Rule (HeadlessItem lib)))
  | _, [] => .ok []
  | index, rule :: rules => do
    let built ← (newHeadlessRule rule).mapError (.cause s!"sub rule[{index}]")
    let others ← newSubRules (index + 1) rules
    .ok (built :: others)
end

/-- A loop that builds rules one by one and names the index in its errors. -/
def buildEach {Options Built : Type} (build : Options → Except Err Built) (name : Nat → String) :
    Nat → List Options → Except Err (List Built)
  | _, [] => .ok []
  | index, options :: others => do
    let built ← (build options).mapError (.cause (name index))
    let rest ← buildEach build name (index + 1) others
    .ok (built :: rest)

/-- The loop of `reloadRules`. -/
def newHeadlessRules (rules : List (HeadlessRule lib)) :
    Except Err (List (Rule (HeadlessItem lib))) :=
  buildEach (newHeadlessRule context) (fun index => s!"parse rule_set.rules.[{index}]") 0 rules

theorem newSubRules_eq_buildEach (index : Nat) (rules : List (HeadlessRule lib)) :
    newSubRules context index rules =
      buildEach (newHeadlessRule context) (fun index => s!"sub rule[{index}]") index rules := by
  induction rules generalizing index with
  | nil => rfl
  | cons _ _ induction => rw [newSubRules, buildEach, induction]

theorem buildEach_eq_ok_iff {Options Built : Type} {build : Options → Except Err Built}
    {name : Nat → String} {index : Nat} {options : List Options} {built : List Built} :
    buildEach build name index options = .ok built ↔
      List.Forall₂ (fun options built => build options = .ok built) options built := by
  induction options generalizing index built with
  | nil =>
    rw [buildEach, forall₂_nil_left_iff, Except.ok.injEq]
    exact eq_comm
  | cons rule rules induction =>
    rw [buildEach, forall₂_cons_left_iff]
    cases isFirst : build rule with
    | error err =>
      constructor
      · nofun
      · rintro ⟨first, others, isOk, _⟩
        cases isOk
    | ok first =>
      cases isRest : buildEach build name (index + 1) rules with
      | error =>
        constructor
        · nofun
        · rintro ⟨_, others, _, areBuilt, _⟩
          rw [induction.mpr areBuilt] at isRest
          cases isRest
      | ok rest =>
        constructor
        · rintro ⟨⟩
          exact ⟨first, rest, rfl, induction.mp isRest, rfl⟩
        · rintro ⟨_, _, isOk, areBuilt, rfl⟩
          rw [induction.mpr areBuilt] at isRest
          cases isRest
          cases isOk
          rfl

theorem exists_of_forall₂ {Left Right : Type} {relation : Left → Right → Prop}
    {lefts : List Left} {rights : List Right} (each : List.Forall₂ relation lefts rights) :
    ∀ left ∈ lefts, ∃ right, relation left right := by
  intro _ member
  rcases forall₂_iff_get.mp each with ⟨sameLength, holds⟩
  rcases mem_iff_get.mp member with ⟨index, rfl⟩
  exact ⟨_, holds index index.isLt (sameLength ▸ index.isLt)⟩

/-! ## What is built -/

variable {context} {built : Rule (HeadlessItem lib)}

theorem isValid_of_newHeadlessRule {rule : HeadlessRule lib}
    (builds : newHeadlessRule context rule = .ok built) : rule.isValid = true := by
  cases isValid : rule.isValid with
  | true => rfl
  | false =>
    cases rule with
    | default options =>
      have isValid : options.isValid = false := isValid
      rw [newHeadlessRule, isValid] at builds
      cases builds
    | logical =>
      rw [newHeadlessRule, isValid] at builds
      cases builds

theorem newHeadlessRule_logical_eq_ok_iff {mode : LogicalType} {rules : List (HeadlessRule lib)}
    {strategy : Srs.DomainMatchStrategy} {invert : Bool} :
    newHeadlessRule context (.logical mode rules strategy invert) = .ok built ↔
      rules ≠ [] ∧ ∃ known children, mode = .known known ∧
        List.Forall₂ (fun rule built => newHeadlessRule context rule = .ok built) rules children ∧
        built = .logical known children invert := by
  constructor
  · intro builds
    have isValid := isValid_of_newHeadlessRule builds
    rw [newHeadlessRule, isValid, newSubRules_eq_buildEach] at builds
    rw [HeadlessRule.isValid, and_eq_true, not_eq_true',
      isEmpty_eq_false_iff] at isValid
    refine ⟨isValid.1, ?_⟩
    cases mode with
    | unknown mode => cases builds
    | known mode =>
      cases isChildren : buildEach (newHeadlessRule context)
          (fun index => s!"sub rule[{index}]") 0 rules with
      | error _ =>
        rw [isChildren] at builds
        cases builds
      | ok children =>
        rw [isChildren] at builds
        cases builds
        exact ⟨mode, children, rfl, buildEach_eq_ok_iff.mp isChildren, rfl⟩
  · rintro ⟨notEmpty, known, _, rfl, areBuilt, rfl⟩
    have areValid : HeadlessRule.areValid rules = true := by
      rw [HeadlessRule.areValid_iff]
      intro rule member
      rcases exists_of_forall₂ areBuilt rule member with ⟨_, builds⟩
      exact isValid_of_newHeadlessRule builds
    have isValid : HeadlessRule.isValid (.logical (.known known) rules strategy invert) = true := by
      rw [HeadlessRule.isValid, areValid, Bool.and_true, Bool.not_eq_true',
        isEmpty_eq_false_iff]
      exact notEmpty
    rw [newHeadlessRule, isValid, newSubRules_eq_buildEach, buildEach_eq_ok_iff.mpr areBuilt]
    rfl

end SingBox.Route
