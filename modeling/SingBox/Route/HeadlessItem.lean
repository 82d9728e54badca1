import SingBox.Srs.IPSet

/-! # Items of headless rules

The items that `NewDefaultHeadlessRule` makes, each with the data it is made
from. What they call outside of the program is a parameter: the matchers of
domains and addresses, lower case, regular expressions, the base of a path.
Items about the network ask the network manager, whose answers are read at the
time of the match.
-/

namespace SingBox.Route

open Adapter Netip Srs

/-- The functions that items call, with the router's default strategy if there
is a router and whether there is a network manager. -/
structure HeadlessContext (lib : Library) where
  defaultDomainMatchStrategy : Option Srs.DomainMatchStrategy
  hasNetworkManager : Bool
  isAndroid : Bool
  matchDomain : lib.Matcher → Bytes → Bool
  matchAdGuard : lib.AdGuardMatcher → Bytes → Bool
  ipSetContains : List IPRange → Addr → Bool
  toLower : Bytes → Bytes
  compile : Bytes → Except Err (Bytes → Bool)
  base : Bytes → Bytes
  normalizeWIFIBSSID : Bytes → Bytes

structure NetworkInterface where
  name : Bytes
  type : BitVec 8
  addresses : List Prefix
  expensive : Bool
  constrained : Bool

structure NetworkManager where
  networkInterfaces : List NetworkInterface := []
  myInterfaces : List Bytes := []
  defaultNetworkInterface : Option NetworkInterface := none
  /-- The addresses of `InterfaceMonitor().DefaultInterface()`. -/
  defaultInterface : Option (List Prefix) := none
  wifiSSID : Bytes := []
  wifiBSSID : Bytes := []

inductive HeadlessItem (lib : Library) where
  | queryType (typeList : List (BitVec 16))
  | network (networks : List Bytes)
  | domain (matcher : lib.Matcher) (strategy : Srs.DomainMatchStrategy)
  | domainKeyword (keywords : List Bytes) (strategy : Srs.DomainMatchStrategy)
  | domainRegex (matchers : List (Bytes → Bool)) (strategy : Srs.DomainMatchStrategy)
  | ipCIDR (isSource : Bool) (ipSet : List IPRange)
  | port (isSource : Bool) (ports : List (BitVec 16))
  | portRange (isSource : Bool) (portRangeList : List (Nat × Nat))
  | processName (processes : List Bytes)
  | processPath (processes : List Bytes)
  | processPathRegex (matchers : List (Bytes → Bool))
  | packageName (packageNames : List Bytes)
  | packageNameRegex (matchers : List (Bytes → Bool))
  | networkType (types : List (BitVec 8))
  | networkIsExpensive
  | networkIsConstrained
  | wifiSSID (ssidList : List Bytes)
  | wifiBSSID (bssidList : List Bytes)
  | networkInterfaceAddress (interfaceAddresses : List (BitVec 8 × List Prefix))
  | defaultInterfaceAddress (interfaceAddresses : List Prefix)
  | adGuardDomain (matcher : lib.AdGuardMatcher) (strategy : Srs.DomainMatchStrategy)

namespace HeadlessItem

variable {lib : Library} (context : HeadlessContext lib) (manager : NetworkManager)

/-- The branch of the `switch` in the domain items; `prefer_sniff_host` has none
of its own. -/
def strategyBranch : Srs.DomainMatchStrategy → RuleItem.DomainMatchStrategy
  | .asIS => .asIS
  | .preferFQDN => .preferFQDN
  | .preferSniffHost => .asIS
  | .fqdnOnly => .fqdnOnly
  | .sniffHostOnly => .sniffHostOnly

/-- The host that the domain items look at, in lower case. -/
def matchHost (strategy : Srs.DomainMatchStrategy) (accepts : Bytes → Bool)
    (request : Request) : Bool :=
  let domainHost := RuleItem.domainHost lib.sing (strategyBranch strategy) request
  domainHost != "" && accepts (context.toLower (Bytes.ofString domainHost))

/-- `strings.Contains`. -/
def containsText (text part : Bytes) : Bool := text.tails.any fun rest => part.isPrefixOf rest

def portOf (isSource : Bool) (request : Request) : BitVec 16 :=
  if isSource then request.source.port else request.destination.port

def matchProcess (request : Request) (accepts : ConnectionOwner → Bool) : Bool :=
  request.processInfo.any accepts

def matchInterfaceType (entry : BitVec 8 × List Prefix) : Bool :=
  manager.networkInterfaces.any fun networkInterface =>
    !manager.myInterfaces.contains networkInterface.name &&
      networkInterface.type == entry.1 &&
      networkInterface.addresses.any fun it => entry.2.any fun subnet => subnet.overlaps it

def «match» : HeadlessItem lib → InboundContext → Bool
  | .queryType typeList, metadata => metadata.queryType != 0 && typeList.contains metadata.queryType
  | .network networks, metadata => networks.contains (Bytes.ofString metadata.network)
  | .domain matcher strategy, metadata =>
    matchHost context strategy (context.matchDomain matcher) metadata.toRequest
  | .domainKeyword keywords strategy, metadata =>
    matchHost context strategy (fun host => keywords.any (containsText host)) metadata.toRequest
  | .domainRegex matchers strategy, metadata =>
    matchHost context strategy (fun host => matchers.any fun matcher => matcher host)
      metadata.toRequest
  | .ipCIDR isSource ipSet, metadata =>
    RuleItem.matchIPCIDR lib.sing isSource (context.ipSetContains ipSet) metadata
  | .port isSource ports, metadata => ports.contains (portOf isSource metadata.toRequest)
  | .portRange isSource portRangeList, metadata =>
    let port := (portOf isSource metadata.toRequest).toNat
    portRangeList.any fun range => range.1 ≤ port && port ≤ range.2
  | .processName processes, metadata =>
    matchProcess metadata.toRequest fun info => info.processPath != "" &&
      processes.contains (context.base (Bytes.ofString info.processPath))
  | .processPath processes, metadata =>
    matchProcess metadata.toRequest fun info =>
      info.processPath != "" && processes.contains (Bytes.ofString info.processPath) ||
        context.isAndroid && info.androidPackageNames.any fun packageName =>
          processes.contains (Bytes.ofString packageName)
  | .processPathRegex matchers, metadata =>
    matchProcess metadata.toRequest fun info => info.processPath != "" &&
      matchers.any fun matcher => matcher (Bytes.ofString info.processPath)
  | .packageName packageNames, metadata =>
    matchProcess metadata.toRequest fun info => info.androidPackageNames.any fun packageName =>
      packageNames.contains (Bytes.ofString packageName)
  | .packageNameRegex matchers, metadata =>
    matchProcess metadata.toRequest fun info => matchers.any fun matcher =>
      info.androidPackageNames.any fun packageName => matcher (Bytes.ofString packageName)
  | .networkType types, _ =>
    manager.defaultNetworkInterface.any fun networkInterface =>
      types.contains networkInterface.type
  | .networkIsExpensive, _ => manager.defaultNetworkInterface.any NetworkInterface.expensive
  | .networkIsConstrained, _ => manager.defaultNetworkInterface.any NetworkInterface.constrained
  | .wifiSSID ssidList, _ => ssidList.contains manager.wifiSSID
  | .wifiBSSID bssidList, _ => (bssidList.map context.normalizeWIFIBSSID).contains manager.wifiBSSID
  | .networkInterfaceAddress interfaceAddresses, _ =>
    interfaceAddresses.all (matchInterfaceType manager)
  | .defaultInterfaceAddress interfaceAddresses, _ =>
    manager.defaultInterface.any fun addresses => interfaceAddresses.all fun address =>
      !(addresses.all fun it => !address.overlaps it)
  | .adGuardDomain matcher strategy, metadata =>
    matchHost context strategy (context.matchAdGuard matcher) metadata.toRequest

end HeadlessItem

end SingBox.Route
