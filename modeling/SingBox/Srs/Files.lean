import SingBox.Srs.RoundTrip

/-! # Rule-set files are read back

Among the files that are written the reader accepts those with a version that it
knows, with prefixes that have addresses and without a rule that is too deep; it
reads back what was written. A file of a newer version, or one with a prefix
without an address, is written all the same and then refused.
-/

namespace SingBox.Srs

open Decoder Netip Route Wire HeadlessRule DefaultHeadlessRule Listable List

variable {lib : Library} {recover : Bool} {generateVersion : BitVec 8}

/-! ## Files -/

theorem run_readHeader (version : BitVec 8) (rest : Bytes) :
    readHeader.run (magicBytes ++ version :: rest) =
      if ruleSetVersionCurrent < version.toNat then
        .error (.new s!"unsupported version: {version.toNat}")
      else .ok (version, rest) := by
  have isMagic : (readFull 3).run (magicBytes ++ version :: rest) =
      .ok (magicBytes, version :: rest) := by
    have isLength : magicBytes.length = 3 := rfl
    exact decodes_readFull isLength (version :: rest)
  rw [readHeader, StateT.run_bind, isMagic]
  change ((if ruleSetVersionCurrent < version.toNat then
    throw (.new s!"unsupported version: {version.toNat}")
    else pure version : Reader _)).run rest = _
  split <;> rfl

variable {file : Bytes} {ruleSet : PlainRuleSet lib}

theorem read_written (recover : Bool) (isWritten : write ruleSet generateVersion = .ok file) :
    ∃ rules, writeRules generateVersion ruleSet.rules = .ok rules ∧
      (read recover file : Except Err (PlainRuleSetCompat lib)) =
        if ruleSetVersionCurrent < generateVersion.toNat then
          .error (.new s!"unsupported version: {generateVersion.toNat}")
        else ((readRules recover).run (putUvarint ruleSet.rules.length ++ rules)).map
          fun result => ⟨generateVersion, result.1⟩ := by
  rcases bind_eq_ok isWritten with ⟨rules, isRules, ⟨⟩⟩
  refine ⟨rules, isRules, ?_⟩
  have isHeader := run_readHeader generateVersion
    (lib.compress (lib.writeUvarint ruleSet.rules.length ++ rules))
  split
  · next isNewer =>
    rw [if_pos isNewer] at isHeader
    rw [read, isHeader]
    rfl
  · next isKnown =>
    rw [if_neg isKnown] at isHeader
    simp only [read, isHeader, lib.decompress_compress, bind, Except.bind]
    rw [lib.writeUvarint_eq]
    cases (readRules recover).run _ with
    | error err | ok result => rfl

/-- The reader takes a written file exactly if it knows the version, every prefix
has an address and no rule is too deep, and this is what it reads. -/
theorem read_eq_ok_iff (recover : Bool)
    (isWritten : write ruleSet generateVersion = .ok file) {decoded : PlainRuleSetCompat lib} :
    read recover file = .ok decoded ↔
      (generateVersion.toNat ≤ ruleSetVersionCurrent ∧
        ∀ rule ∈ ruleSet.rules, rule.isAddressed = true ∧ rule.depth ≤ maxLogicalRuleDepth) ∧
      decoded = ⟨generateVersion,
        ruleSet.rules.map (recovered recover generateVersion)⟩ := by
  rcases read_written recover isWritten with ⟨rules, isRules, isRead⟩
  have accepts : (readRules recover).Accepts (putUvarint ruleSet.rules.length ++ rules)
      (ruleSet.rules.map (recovered recover generateVersion))
      (∀ rule ∈ ruleSet.rules, rule.isAddressed = true ∧ rule.depth ≤ maxLogicalRuleDepth) := by
    have fits := fitAll_iff.mp ruleSet.fits
    have count := ruleSet.count
    apply (decodes_readUvarint (by omega)).bind_accepts
    apply accepts_rules isRules
    intro rule member _ isPart _
    apply Accepts.mapError
    apply (accepts_readRule rule (fits rule member) isPart).congr
    rw [Nat.lt_succ_iff]
  have input := append_nil (putUvarint ruleSet.rules.length ++ rules)
  rw [isRead]
  constructor
  · intro isOk
    split_ifs at isOk with isKnown
    cases isResult : (readRules recover).run (putUvarint ruleSet.rules.length ++ rules) with
    | error =>
      rw [isResult] at isOk
      cases isOk
    | ok result =>
      rw [isResult] at isOk
      have areFine : ∀ rule ∈ ruleSet.rules, rule.isAddressed = true ∧
          rule.depth ≤ maxLogicalRuleDepth := by
        rw [← input] at isResult
        exact accepts.demands [] result isResult
      have decodes := accepts.decodes areFine []
      rw [input, isResult] at decodes
      cases decodes
      cases isOk
      exact ⟨⟨Nat.le_of_not_lt isKnown, areFine⟩, rfl⟩
  · rintro ⟨⟨isKnown, areFine⟩, rfl⟩
    have decodes := accepts.decodes areFine []
    rw [input] at decodes
    rw [if_neg (Nat.not_lt_of_le isKnown), decodes]
    rfl

/-! ## What is recovered -/

/-- The items of a rule that was read equal those of the rule that was written;
lists of domains and addresses are there as matchers and IP sets. -/
structure SameItems (generateVersion : BitVec 8) (rule decoded : DefaultHeadlessRule lib) :
    Prop where
  queryType : decoded.queryType.list = rule.queryType.list
  network : decoded.network.list = rule.network.list
  domainKeyword : decoded.domainKeyword.list = rule.domainKeyword.list
  domainRegex : decoded.domainRegex.list = rule.domainRegex.list
  sourcePort : decoded.sourcePort.list = rule.sourcePort.list
  sourcePortRange : decoded.sourcePortRange.list = rule.sourcePortRange.list
  port : decoded.port.list = rule.port.list
  portRange : decoded.portRange.list = rule.portRange.list
  processName : decoded.processName.list = rule.processName.list
  processPath : decoded.processPath.list = rule.processPath.list
  processPathRegex : decoded.processPathRegex.list = rule.processPathRegex.list
  packageName : decoded.packageName.list = rule.packageName.list
  packageNameRegex : decoded.packageNameRegex.list = rule.packageNameRegex.list
  wifiSSID : decoded.wifiSSID.list = rule.wifiSSID.list
  wifiBSSID : decoded.wifiBSSID.list = rule.wifiBSSID.list
  networkType : decoded.networkType.list = rule.networkType.list
  networkIsExpensive : decoded.networkIsExpensive = rule.networkIsExpensive
  networkIsConstrained : decoded.networkIsConstrained = rule.networkIsConstrained
  networkInterfaceAddress :
    (decoded.interfaceEntries.map fun entry => (entry.1, entry.2.list)) =
      rule.interfaceEntries.map fun entry => (entry.1, entry.2.list)
  defaultInterfaceAddress :
    decoded.defaultInterfaceAddress.list = rule.defaultInterfaceAddress.list
  invert : decoded.invert = rule.invert
  domain : decoded.domainMatcher =
    if rule.domain.list ≠ [] ∨ rule.domainSuffix.list ≠ [] then
      some (lib.newMatcher rule.domain.list rule.domainSuffix.list (generateVersion == 1))
    else none
  adGuardDomain : decoded.adGuardDomainMatcher =
    if rule.adGuardDomain.list ≠ [] then some (lib.newAdGuardMatcher rule.adGuardDomain.list)
    else none
  sourceIPCIDR : decoded.sourceIPSet =
    if rule.sourceIPCIDR.list ≠ [] then (buildIPSet lib rule.sourceIPCIDR.list).toOption else none
  ipCIDR : decoded.ipSet =
    if rule.ipCIDR.list ≠ [] then (buildIPSet lib rule.ipCIDR.list).toOption else none

mutual
/-- The tree has the same shape, modes, `invert` flags and items. -/
def Recovers (generateVersion : BitVec 8) : HeadlessRule lib → HeadlessRule lib → Prop
  | .default rule, .default decoded => SameItems generateVersion rule decoded
  | .logical mode rules _ invert, .logical decodedMode decoded _ decodedInvert =>
    decodedMode = mode ∧ decodedInvert = invert ∧ RecoversAll generateVersion rules decoded
  | _, _ => False

def RecoversAll (generateVersion : BitVec 8) :
    List (HeadlessRule lib) → List (HeadlessRule lib) → Prop
  | [], [] => True
  | rule :: rules, decoded :: others =>
    Recovers generateVersion rule decoded ∧ RecoversAll generateVersion rules others
  | _, _ => False
end

theorem Listable.isSet_iff {Value : Type} {slice : Listable Value} :
    slice.isSet = true ↔ slice.list ≠ [] := by
  rw [isSet, Bool.not_eq_true', isEmpty_eq_false_iff]

theorem list_entries_recovered (map : Option InterfaceAddresses) :
    (((((map.filter fun map => !map.entries.isEmpty).map recoveredAddresses).map
      TypedMap.entries).getD []).map fun entry => (entry.1, entry.2.list)) =
    (((map.map TypedMap.entries).getD []).map fun entry => (entry.1, entry.2.list)) := by
  cases map with
  | none => rfl
  | some map =>
    cases isEmpty : map.entries.isEmpty with
    | true =>
      rw [Option.filter, if_neg (by rw [isEmpty]; decide)]
      have isNil : map.entries = [] := isEmpty_iff.mp isEmpty
      change [] = map.entries.map _
      rw [isNil, map_nil]
    | false =>
      rw [Option.filter, if_pos (by rw [isEmpty]; decide)]
      change ((map.entries.map _).map _) = map.entries.map _
      rw [map_map]
      apply map_congr_left
      intro _ _
      exact Prod.ext rfl (list_ofList _)

theorem sameItems_recovered (rule : DefaultHeadlessRule lib) :
    SameItems generateVersion rule (rule.recovered recover generateVersion) where
  queryType := list_ofList _
  network := list_ofList _
  domainKeyword := list_ofList _
  domainRegex := list_ofList _
  sourcePort := list_ofList _
  sourcePortRange := list_ofList _
  port := list_ofList _
  portRange := list_ofList _
  processName := list_ofList _
  processPath := list_ofList _
  processPathRegex := list_ofList _
  packageName := list_ofList _
  packageNameRegex := list_ofList _
  wifiSSID := list_ofList _
  wifiBSSID := list_ofList _
  networkType := list_ofList _
  networkIsExpensive := rfl
  networkIsConstrained := rfl
  networkInterfaceAddress := list_entries_recovered _
  defaultInterfaceAddress := list_ofList _
  invert := rfl
  domain := by
    simp only [DefaultHeadlessRule.recovered, domainMatcherOf,
      hasDomains, Bool.or_eq_true, isSet_iff]
    rfl
  adGuardDomain := by
    simp only [DefaultHeadlessRule.recovered, adGuardMatcherOf, isSet_iff]
  sourceIPCIDR := by simp only [DefaultHeadlessRule.recovered, ipSetOf, isSet_iff]
  ipCIDR := by simp only [DefaultHeadlessRule.recovered, ipSetOf, isSet_iff]

mutual
theorem recovers_recovered : ∀ rule : HeadlessRule lib,
    Recovers generateVersion rule (rule.recovered recover generateVersion)
  | .default options => sameItems_recovered options
  | .logical _ rules _ _ => ⟨rfl, rfl, recoversAll_recovered rules⟩

theorem recoversAll_recovered : ∀ rules : List (HeadlessRule lib),
    RecoversAll generateVersion rules (recoveredAll recover generateVersion rules)
  | [] => trivial
  | rule :: rules => ⟨recovers_recovered rule, recoversAll_recovered rules⟩
end

/-! ## Round trip -/

/-- A file that was written is read back exactly if the reader knows its version
and its prefixes have addresses. -/
theorem read_written_iff (recover : Bool) {ruleSet : PlainRuleSet lib} {generateVersion : BitVec 8}
    {file : Bytes} (areShallow : ∀ rule ∈ ruleSet.rules, rule.depth ≤ maxLogicalRuleDepth)
    (isWritten : write ruleSet generateVersion = .ok file) :
    (∃ decoded : PlainRuleSetCompat lib, read recover file = .ok decoded ∧
      decoded.version = generateVersion ∧
      RecoversAll generateVersion ruleSet.rules decoded.rules) ↔
    generateVersion.toNat ≤ ruleSetVersionCurrent ∧
      ∀ rule ∈ ruleSet.rules, rule.isAddressed = true := by
  constructor
  · rintro ⟨_, isOk, _⟩
    rcases ((read_eq_ok_iff recover isWritten).mp isOk).1 with ⟨isKnown, areFine⟩
    exact ⟨isKnown, fun rule member => (areFine rule member).1⟩
  · rintro ⟨isKnown, areAddressed⟩
    have areFine : ∀ rule ∈ ruleSet.rules, rule.isAddressed = true ∧
        rule.depth ≤ maxLogicalRuleDepth :=
      fun rule member => ⟨areAddressed rule member, areShallow rule member⟩
    refine ⟨_, (read_eq_ok_iff recover isWritten).mpr ⟨⟨isKnown, areFine⟩, rfl⟩, rfl, ?_⟩
    rw [← recoveredAll_eq_map]
    exact recoversAll_recovered _

def PlainRuleSet.single (rule : HeadlessRule lib) (fits : rule.fits = true) : PlainRuleSet lib where
  rules := [rule]
  count := show 1 < 2 ^ 63 by decide
  fits := by
    rw [fitAll, fitAll, fits]
    rfl

def privateRule : HeadlessRule Library.sample :=
  .default { defaultInterfaceAddress := some [some (.from (.v4 0x0a000000) 8)] }

theorem read_written_privateRule :
    ∃ decoded : PlainRuleSetCompat Library.sample,
      read false (magicBytes ++ [4, 1, 0, 22, 1, 4, 10, 0, 0, 0, 8, 255, 0]) = .ok decoded ∧
        decoded.version = 4 ∧ RecoversAll 4 [privateRule] decoded.rules := by
  have isWritten : write (PlainRuleSet.single privateRule rfl) 4 =
      .ok (magicBytes ++ [4, 1, 0, 22, 1, 4, 10, 0, 0, 0, 8, 255, 0]) := rfl
  apply (read_written_iff false _ isWritten).mpr
  · exact ⟨by decide, fun rule member => by rw [mem_singleton.mp member]; rfl⟩
  · intro _ member
    rw [mem_singleton.mp member]
    decide

/-- Two rule-sets with the same file have the same version, and the same rules as
far as a file can hold them. -/
theorem written_injective {left right : PlainRuleSet lib} {other : BitVec 8}
    {decoded : PlainRuleSetCompat lib} (isLeft : write left generateVersion = .ok file)
    (isRight : write right other = .ok file) (isRead : read recover file = .ok decoded) :
    generateVersion = other ∧ left.rules.map (recovered recover generateVersion) =
      right.rules.map (recovered recover other) := by
  have isDecoded := ((read_eq_ok_iff recover isRight).mp isRead).2
  rw [((read_eq_ok_iff recover isLeft).mp isRead).2] at isDecoded
  exact PlainRuleSetCompat.mk.inj isDecoded

theorem written_injective_emptyPort :
    [privateRule].map (recovered false 4) =
      [.default { defaultInterfaceAddress := some [some (.from (.v4 0x0a000000) 8)]
                  port := some [] }].map (recovered false 4) :=
  (@written_injective _ _ 4 _ (.single privateRule rfl) (.single _ rfl) 4 _ rfl rfl rfl).2

/-- `default_interface_address: [null]`. -/
def nullRule : HeadlessRule Library.sample :=
  .default { defaultInterfaceAddress := some [none] }

/-- A prefix that is not there is written with an address of no bytes,
and the file is refused. So is one of a version that is not known yet. -/
theorem read_written_refused :
    (∃ file, write (PlainRuleSet.single nullRule rfl) 4 = .ok file ∧
      ∃ err, (read false file : Except Err (PlainRuleSetCompat Library.sample)) = .error err) ∧
    ∃ file, write (PlainRuleSet.single privateRule rfl) 6 = .ok file ∧
      ∃ err, (read false file : Except Err (PlainRuleSetCompat Library.sample)) = .error err :=
  ⟨⟨_, rfl, _, rfl⟩, _, rfl, _, rfl⟩

end SingBox.Srs
