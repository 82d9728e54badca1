import SingBox.Srs.IPSet

/-! # Rule-set files

`binary.go`. A default rule is a list of items, each with the byte of its type
in front, up to the final item that holds `invert`; fields that are not set are
left out. The writer knows the version of the file and refuses items that are
newer. Lists of domains are written as matchers, which the reader keeps; with
`recover` it also fills in the lists again.
-/

namespace SingBox.Srs

open Decoder Netip Route Wire

/-! ## Item types -/

inductive RuleItemType
  | queryType
  | network
  | domain
  | domainKeyword
  | domainRegex
  | sourceIPCIDR
  | ipCIDR
  | sourcePort
  | sourcePortRange
  | port
  | portRange
  | processName
  | processPath
  | packageName
  | wifiSSID
  | wifiBSSID
  | adGuardDomain
  | processPathRegex
  | networkType
  | networkIsExpensive
  | networkIsConstrained
  | networkInterfaceAddress
  | defaultInterfaceAddress
  | packageNameRegex
  deriving DecidableEq

namespace RuleItemType

/-- The types in the order of their `iota`. -/
def all : List RuleItemType :=
  [queryType, network, domain, domainKeyword, domainRegex, sourceIPCIDR, ipCIDR, sourcePort,
    sourcePortRange, port, portRange, processName, processPath, packageName, wifiSSID, wifiBSSID,
    adGuardDomain, processPathRegex, networkType, networkIsExpensive, networkIsConstrained,
    networkInterfaceAddress, defaultInterfaceAddress, packageNameRegex]

def code (type : RuleItemType) : BitVec 8 := BitVec.ofNat 8 (all.idxOf type)

def ofCode (byte : BitVec 8) : Option RuleItemType := all[byte.toNat]?

theorem ofCode_code (type : RuleItemType) : ofCode type.code = some type := by
  cases type <;> rfl

end RuleItemType

def ruleItemFinal : BitVec 8 := 0xff

theorem code_ne_final (type : RuleItemType) : type.code ≠ ruleItemFinal := by
  cases type <;> decide

variable (lib : Library)

/-! ## Reading -/

def readRuleItemString : Reader (Listable Bytes) := do
  let length ← readUvarint
  let result ← collect (fun _ => Listable.list <$> lib.readSlice 1) 0 length
  pure (.ofList result)

def readInterfaceEntry : Reader (BitVec 8 × Listable (Option Prefix)) := do
  let key ← readByte
  let value ← readPrefixes lib
  pure (key, value)

def readInterfaceAddresses : Reader InterfaceAddresses := do
  let size ← readUvarint
  let entries ← collect (fun _ => readInterfaceEntry lib) 0 size
  pure (entries.foldl (fun map entry => map.put entry.1 entry.2) .empty)

variable {lib}

def setDomainMatcher (recover : Bool) (rule : DefaultHeadlessRule lib) (matcher : lib.Matcher) :
    DefaultHeadlessRule lib :=
  { rule with
    domainMatcher := some matcher
    domain := if recover then (lib.dumpMatcher matcher).1 else rule.domain
    domainSuffix := if recover then (lib.dumpMatcher matcher).2 else rule.domainSuffix }

def setSourceIPSet (recover : Bool) (rule : DefaultHeadlessRule lib) (ranges : List IPRange) :
    DefaultHeadlessRule lib :=
  { rule with
    sourceIPSet := some ranges
    sourceIPCIDR := if recover then lib.prefixes ranges else rule.sourceIPCIDR }

def setIPSet (recover : Bool) (rule : DefaultHeadlessRule lib) (ranges : List IPRange) :
    DefaultHeadlessRule lib :=
  { rule with
    ipSet := some ranges
    ipCIDR := if recover then lib.prefixes ranges else rule.ipCIDR }

def setAdGuardMatcher (recover : Bool) (rule : DefaultHeadlessRule lib)
    (matcher : lib.AdGuardMatcher) : DefaultHeadlessRule lib :=
  { rule with
    adGuardDomainMatcher := some matcher
    adGuardDomain := if recover then lib.dumpAdGuardMatcher matcher else rule.adGuardDomain }

/-- The rule with the item of this type read into it. -/
def readItem (recover : Bool) (rule : DefaultHeadlessRule lib) :
    RuleItemType → Reader (DefaultHeadlessRule lib)
  | .queryType => (fun value => { rule with queryType := value }) <$> lib.readSlice 2
  | .network => (fun value => { rule with network := value }) <$> readRuleItemString lib
  | .domain => setDomainMatcher recover rule <$> lib.readMatcher
  | .domainKeyword => (fun value => { rule with domainKeyword := value }) <$> readRuleItemString lib
  | .domainRegex => (fun value => { rule with domainRegex := value }) <$> readRuleItemString lib
  | .sourceIPCIDR => setSourceIPSet recover rule <$> readIPSet lib
  | .ipCIDR => setIPSet recover rule <$> readIPSet lib
  | .sourcePort => (fun value => { rule with sourcePort := value }) <$> lib.readSlice 2
  | .sourcePortRange =>
    (fun value => { rule with sourcePortRange := value }) <$> readRuleItemString lib
  | .port => (fun value => { rule with port := value }) <$> lib.readSlice 2
  | .portRange => (fun value => { rule with portRange := value }) <$> readRuleItemString lib
  | .processName => (fun value => { rule with processName := value }) <$> readRuleItemString lib
  | .processPath => (fun value => { rule with processPath := value }) <$> readRuleItemString lib
  | .processPathRegex =>
    (fun value => { rule with processPathRegex := value }) <$> readRuleItemString lib
  | .packageName => (fun value => { rule with packageName := value }) <$> readRuleItemString lib
  | .packageNameRegex =>
    (fun value => { rule with packageNameRegex := value }) <$> readRuleItemString lib
  | .wifiSSID => (fun value => { rule with wifiSSID := value }) <$> readRuleItemString lib
  | .wifiBSSID => (fun value => { rule with wifiBSSID := value }) <$> readRuleItemString lib
  | .adGuardDomain => setAdGuardMatcher recover rule <$> lib.readAdGuardMatcher
  | .networkType => (fun value => { rule with networkType := value }) <$> lib.readSlice 1
  | .networkIsExpensive => pure { rule with networkIsExpensive := true }
  | .networkIsConstrained => pure { rule with networkIsConstrained := true }
  | .networkInterfaceAddress =>
    (fun value => { rule with networkInterfaceAddress := some value }) <$>
      readInterfaceAddresses lib
  | .defaultInterfaceAddress =>
    (fun value => { rule with defaultInterfaceAddress := value }) <$> readPrefixes lib

/-- A round of the loop of `readDefaultRule`, with the type of the last item. -/
def readRound (recover : Bool) (state : DefaultHeadlessRule lib × BitVec 8) :
    Reader ((DefaultHeadlessRule lib × BitVec 8) ⊕ DefaultHeadlessRule lib) := do
  let itemType ← readByte
  if itemType = ruleItemFinal then
    (fun invert => .inr { state.1 with invert := invert }) <$> readBool
  else
    match RuleItemType.ofCode itemType with
    | some type => (fun rule => .inl (rule, itemType)) <$> readItem recover state.1 type
    | none =>
      throw (.new (s!"unknown rule item type: {itemType.toNat}" ++
        s!", last type: {state.2.toNat}"))

/-- The loop ends, so it is never stuck. -/
def readDefaultRule (recover : Bool) : Reader (DefaultHeadlessRule lib) :=
  Decoder.loop (.new "stuck") (readRound recover) ({}, 0)

def readLogicalMode : Reader LogicalMode := do
  let mode ← readByte
  if mode = 0 then pure .and
  else if mode = 1 then pure .or
  else throw (.new s!"unknown logical mode: {mode.toNat}")

def readLogicalRule (readRule : Reader (HeadlessRule lib)) : Reader (HeadlessRule lib) := do
  let mode ← readLogicalMode
  let length ← readUvarint
  let rules ← collect
    (fun index => readRule.mapError (.cause s!"read logical rule [{index}]")) 0 length
  let invert ← readBool
  pure (.logical (.known mode) rules .asIS invert)

def maxLogicalRuleDepth : Nat := 100

/-- `readRule` at a depth that leaves room for so many levels, its own included. -/
def readRule (recover : Bool) : Nat → Reader (HeadlessRule lib)
  | 0 => throw (.new "logical rule nested too deep")
  | room + 1 => do
    let ruleType ← readByte
    if ruleType = 0 then .default <$> readDefaultRule recover
    else if ruleType = 1 then readLogicalRule (readRule recover room)
    else throw (.new s!"unknown rule type: {ruleType.toNat}")

/-- The uncompressed part of a file. -/
def readRules (recover : Bool) : Reader (List (HeadlessRule lib)) := do
  let length ← readUvarint
  collect
    (fun index => (readRule recover (maxLogicalRuleDepth + 1)).mapError
      (.cause s!"read rule[{index}]")) 0 length

def magicBytes : Bytes := [0x53, 0x52, 0x53]

def readHeader : Reader (BitVec 8) := do
  let magic ← readFull 3
  if magic ≠ magicBytes then throw (.new "invalid sing-box rule-set file")
  else do
    let version ← readByte
    if ruleSetVersionCurrent < version.toNat then
      throw (.new s!"unsupported version: {version.toNat}")
    else pure version

def read (recover : Bool) (file : Bytes) : Except Err (PlainRuleSetCompat lib) := do
  let (version, compressed) ← readHeader.run file
  let content ← lib.decompress compressed
  let (rules, _) ← (readRules recover).run content
  .ok ⟨version, rules⟩

/-! ## Writing -/

def concat : List (Except Err Bytes) → Except Err Bytes
  | [] => .ok []
  | part :: parts => do
    let written ← part
    let later ← concat parts
    .ok (written ++ later)

def whenSet (isSet : Bool) (item : Except Err Bytes) : Except Err Bytes :=
  if isSet then item else .ok []

/-- An item that older versions do not have. -/
def since (least : Nat) (generateVersion : BitVec 8) (name : String) (item : Bytes) :
    Except Err Bytes :=
  if generateVersion.toNat < least then
    .error (.new s!"{name} only supported in version {least} or later")
  else .ok item

variable (lib)

def writeText (text : Bytes) : Bytes := lib.writeUvarint text.length ++ text

def writeRuleItemString (type : RuleItemType) (value : List Bytes) : Bytes :=
  type.code :: (lib.writeUvarint value.length ++ value.flatMap (writeText lib))

def writeRuleItemUint8 (type : RuleItemType) (value : List (BitVec 8)) : Bytes :=
  type.code :: (lib.writeUvarint value.length ++ value)

def writeRuleItemUint16 (type : RuleItemType) (value : List (BitVec 16)) : Bytes :=
  type.code :: (lib.writeUvarint value.length ++ value.flatMap Bytes.putUint16)

def writeRuleItemCIDR (type : RuleItemType) (value : List Bytes) : Except Err Bytes := do
  let ranges ← buildIPSet lib value
  .ok (type.code :: writeIPSet lib ranges)

def writeInterfaceEntry (entry : BitVec 8 × Listable (Option Prefix)) : Bytes :=
  entry.1 :: writePrefixes lib entry.2

variable {lib}

namespace DefaultHeadlessRule

variable (rule : DefaultHeadlessRule lib) (generateVersion : BitVec 8)

/-- The matcher that is written for the lists of domains. -/
def writtenMatcher : lib.Matcher :=
  lib.newMatcher rule.domain.list rule.domainSuffix.list (generateVersion == 1)

def hasDomains : Bool := rule.domain.isSet || rule.domainSuffix.isSet

/-- The items in the order in which they are written. -/
def writtenItems : List (Except Err Bytes) :=
  [whenSet rule.queryType.isSet (.ok (writeRuleItemUint16 lib .queryType rule.queryType.list)),
    whenSet rule.network.isSet (.ok (writeRuleItemString lib .network rule.network.list)),
    whenSet rule.hasDomains
      (.ok (RuleItemType.domain.code :: lib.writeMatcher (rule.writtenMatcher generateVersion))),
    whenSet rule.domainKeyword.isSet
      (.ok (writeRuleItemString lib .domainKeyword rule.domainKeyword.list)),
    whenSet rule.domainRegex.isSet
      (.ok (writeRuleItemString lib .domainRegex rule.domainRegex.list)),
    whenSet rule.sourceIPCIDR.isSet
      ((writeRuleItemCIDR lib .sourceIPCIDR rule.sourceIPCIDR.list).mapError
        (.cause "source_ip_cidr")),
    whenSet rule.ipCIDR.isSet
      ((writeRuleItemCIDR lib .ipCIDR rule.ipCIDR.list).mapError (.cause "ipcidr")),
    whenSet rule.sourcePort.isSet (.ok (writeRuleItemUint16 lib .sourcePort rule.sourcePort.list)),
    whenSet rule.sourcePortRange.isSet
      (.ok (writeRuleItemString lib .sourcePortRange rule.sourcePortRange.list)),
    whenSet rule.port.isSet (.ok (writeRuleItemUint16 lib .port rule.port.list)),
    whenSet rule.portRange.isSet (.ok (writeRuleItemString lib .portRange rule.portRange.list)),
    whenSet rule.processName.isSet
      (.ok (writeRuleItemString lib .processName rule.processName.list)),
    whenSet rule.processPath.isSet
      (.ok (writeRuleItemString lib .processPath rule.processPath.list)),
    whenSet rule.processPathRegex.isSet
      (.ok (writeRuleItemString lib .processPathRegex rule.processPathRegex.list)),
    whenSet rule.packageName.isSet
      (.ok (writeRuleItemString lib .packageName rule.packageName.list)),
    whenSet rule.packageNameRegex.isSet
      (since 5 generateVersion "`package_name_regex` rule item is"
        (writeRuleItemString lib .packageNameRegex rule.packageNameRegex.list)),
    whenSet rule.networkType.isSet
      (since 3 generateVersion "`network_type` rule item is"
        (writeRuleItemUint8 lib .networkType rule.networkType.list)),
    whenSet rule.networkIsExpensive
      (since 3 generateVersion "`network_is_expensive` rule item is"
        [RuleItemType.networkIsExpensive.code]),
    whenSet rule.networkIsConstrained
      (since 3 generateVersion "`network_is_constrained` rule item is"
        [RuleItemType.networkIsConstrained.code]),
    whenSet (!rule.interfaceEntries.isEmpty)
      (since 4 generateVersion "`network_interface_address` rule item is"
        (RuleItemType.networkInterfaceAddress.code ::
          (lib.writeUvarint rule.interfaceEntries.length ++
            rule.interfaceEntries.flatMap (writeInterfaceEntry lib)))),
    whenSet rule.defaultInterfaceAddress.isSet
      (since 4 generateVersion "`default_interface_address` rule item is"
        (RuleItemType.defaultInterfaceAddress.code ::
          writePrefixes lib rule.defaultInterfaceAddress)),
    whenSet rule.wifiSSID.isSet (.ok (writeRuleItemString lib .wifiSSID rule.wifiSSID.list)),
    whenSet rule.wifiBSSID.isSet (.ok (writeRuleItemString lib .wifiBSSID rule.wifiBSSID.list)),
    whenSet rule.adGuardDomain.isSet
      (since 2 generateVersion "AdGuard rule items is"
        (RuleItemType.adGuardDomain.code ::
          lib.writeAdGuardMatcher (lib.newAdGuardMatcher rule.adGuardDomain.list)))]

end DefaultHeadlessRule

def writeDefaultRule (generateVersion : BitVec 8) (rule : DefaultHeadlessRule lib) :
    Except Err Bytes := do
  let items ← concat (rule.writtenItems generateVersion)
  .ok (0 :: (items ++ ruleItemFinal :: putBool rule.invert))

/-- The byte of the mode. The program panics on any other mode. -/
def writeLogicalMode : LogicalType → Except Err (BitVec 8)
  | .known .and => .ok 0
  | .known .or => .ok 1
  | .unknown mode => .error (.new ("unknown logical mode: " ++ mode))

mutual
def writeRule (generateVersion : BitVec 8) : HeadlessRule lib → Except Err Bytes
  | .default options => writeDefaultRule generateVersion options
  | .logical mode rules _ invert => do
    let modeByte ← writeLogicalMode mode
    let children ← writeRules generateVersion rules
    .ok (1 :: modeByte :: (lib.writeUvarint rules.length ++ (children ++ putBool invert)))

def writeRules (generateVersion : BitVec 8) : List (HeadlessRule lib) → Except Err Bytes
  | [] => .ok []
  | rule :: rules => do
    let written ← writeRule generateVersion rule
    let later ← writeRules generateVersion rules
    .ok (written ++ later)
end

def write (ruleSet : PlainRuleSet lib) (generateVersion : BitVec 8) : Except Err Bytes := do
  let rules ← writeRules generateVersion ruleSet.rules
  .ok (magicBytes ++ generateVersion ::
    lib.compress (lib.writeUvarint ruleSet.rules.length ++ rules))

end SingBox.Srs
