import SingBox.Route.Item
import SingBox.Sniff.Packet

/-! # The router

The rules of the router, their actions, and what the router asks other
components for. The metadata of a connection is changed by the actions of the
rules that match, so later rules see what earlier actions have found out.
-/

namespace SingBox.Routing

open Adapter Netip Sniff

/-! ## Metadata -/

/-- The fields of `InboundContext` that the rules of the router read. The rule
cache is reset before every rule. -/
structure Visible extends Request where
  sourceMACAddress : Option Bytes := none

/-- The fields of `InboundContext` that the router reads and writes. -/
structure Context extends Visible where
  inboundType : String := ""
  lastInbound : String := ""
  inboundDetour : String := ""
  originDestination : Socksaddr := {}
  routeOriginalDestination : Socksaddr := {}
  destOverride : Bool := false
  fakeIP : Bool := false
  udpTimeout : Nat := 0
  snifferNames : List String := []
  sniffError : Option SniffError := none
  sniffContext : Option (List CryptoFragment) := none

structure Sniffed where
  protocol : String := ""
  sniffHost : String := ""
  client : String := ""
  sniffContext : Option (List CryptoFragment) := none

namespace Context

def sniffed (metadata : Context) : Sniffed where
  protocol := metadata.protocol
  sniffHost := metadata.sniffHost
  client := metadata.client
  sniffContext := metadata.sniffContext

def withSniffed (metadata : Context) (sniffed : Sniffed) : Context :=
  { metadata with
    protocol := sniffed.protocol
    sniffHost := sniffed.sniffHost
    client := sniffed.client
    sniffContext := sniffed.sniffContext }

end Context

/-- A sniffer that comes to an end, given a packet or the data read so far. -/
abbrev AnySniffer := Sniffed → Bytes → Id (Answer Sniffed)

mutual

/-- `errors.Is(err, ErrNeedMoreData)` -/
def needsMoreData : SniffError → Bool
  | .plain _ => false
  | .needMoreData _ => true
  | .errors errs => anyNeedsMoreData errs

def anyNeedsMoreData : List SniffError → Bool
  | [] => false
  | err :: errs => needsMoreData err || anyNeedsMoreData errs

end

def needsMore (err : Option SniffError) : Bool := err.any needsMoreData

/-! ## Rules -/

structure RouteOptions where
  overrideAddress : Socksaddr := {}
  overridePort : BitVec 16 := 0
  udpTimeout : Nat := 0

structure SniffAction where
  snifferNames : List String := []
  streamSniffers : List AnySniffer := []
  packetSniffers : List AnySniffer := []

/-- The options of a resolve action. What they mean is up to the DNS router. -/
structure ResolveAction where
  server : String := ""
  strategy : Nat := 0
  disableCache : Bool := false
  disableOptimisticCache : Bool := false
  rewriteTTL : Option Nat := none
  timeout : Nat := 0
  clientSubnet : Prefix := .zero
  matchOnly : Bool := false

inductive RejectMethod
  | default
  | drop
  | reply
  deriving DecidableEq

inductive RuleAction
  | route (outbound : String) (options : RouteOptions)
  | routeOptions (options : RouteOptions)
  | bypass (outbound : String) (options : RouteOptions)
  | direct
  /-- `flooded` is whether the drop counter of the action is used up. -/
  | reject (method : RejectMethod) (flooded : Bool)
  | hijackDNS
  | sniff (action : SniffAction)
  | sniffOverrideDestination
  | resolve (action : ResolveAction)

structure Rule where
  disabled : Bool := false
  accepts : Visible → Bool
  action : RuleAction

/-! ## Outbounds -/

inductive PreMatchAction
  | continue
  | flow
  | reject
  | drop
  | bypass
  | hijackDNS
  deriving DecidableEq

inductive LeafType
  | pass
  | plain
  /-- A `FlowOutbound`, and the options to resolve domains with if it is a
  `FlowOutboundDomainResolver`. -/
  | flow (preMatchFlow : String → Addr → PreMatchAction) (resolver : Option ResolveAction)

inductive Outbound
  | leaf (tag : String) (networks : List String) (type : LeafType)
  | selector (tag : String) (networks : List String) (selected : Outbound)
  /-- Any other `PreMatchOutboundGroup`, with the outbounds that it tries. -/
  | preMatchGroup (tag : String) (networks : List String) (candidates : Visible → List Outbound)
  | group (tag : String) (networks : List String) (now : String)

namespace Outbound

def tag : Outbound → String
  | .leaf tag _ _ | .selector tag _ _ | .preMatchGroup tag _ _ | .group tag _ _ => tag

def network : Outbound → List String
  | .leaf _ networks _ | .selector _ networks _ | .preMatchGroup _ networks _
  | .group _ networks _ => networks

/-- Type `pass`, directly or as the selected outbound of a selector. -/
def isPass : Outbound → Bool
  | .leaf _ _ .pass => true
  | .selector _ _ (.leaf _ _ .pass) => true
  | _ => false

end Outbound

/-! ## Other components -/

/-- Functions of the `sing` library on addresses. -/
structure AddressLib extends Route.SingLib where
  isIPv4 : Socksaddr → Bool
  isValid : Socksaddr → Bool
  isDomainName : String → Bool

structure FakeIPStore where
  contains : Addr → Bool
  lookup : Addr → Option String

structure Router where
  lib : AddressLib
  rules : List Rule
  outbound : String → Option Outbound
  /-- Every outbound has a tag. -/
  outbound_unnamed : outbound "" = none
  defaultOutbound : Outbound
  /-- An inbound that exists, and whether connections can be injected into it. -/
  inbound : String → Option Bool
  /-- The error for a destination of a deprecated feature. -/
  deprecatedDestination : String → Option Err
  findProcessInfo : Context → Option ConnectionOwner
  lookupMAC : Addr → Option Bytes
  lookupHostname : Addr → Option String
  fakeIP : Option FakeIPStore
  lookupReverseMapping : Addr → Option String
  hasTransport : String → Bool
  lookup : Visible → String → ResolveAction → Except Err (List Addr)
  lookupQUICSniff : Socksaddr → Socksaddr → Option String
  defaultStreamSniffers : List AnySniffer
  defaultPacketSniffers : List AnySniffer
  quicClientHello : AnySniffer
  /-- The size of a new packet buffer. -/
  packetSize : Nat

def Router.sample (rules : List Rule) : Router where
  lib :=
    { Route.SingLib.sample with
      isIPv4 := fun address => address.addr.is4
      isValid := fun address => address.addr.isValid || address.fqdn != ""
      isDomainName := fun name => name != "" }
  rules
  outbound _ := none
  outbound_unnamed := rfl
  defaultOutbound := .leaf "direct" ["tcp", "udp", "icmp"] (.flow (fun _ _ => .flow) none)
  inbound _ := none
  deprecatedDestination _ := none
  findProcessInfo _ := none
  lookupMAC _ := none
  lookupHostname _ := none
  fakeIP := none
  lookupReverseMapping _ := none
  hasTransport _ := false
  lookup _ _ _ := .error (.new "no server")
  lookupQUICSniff _ _ := none
  defaultStreamSniffers := []
  defaultPacketSniffers := []
  quicClientHello sniffed _ := { err := some invalid, metadata := sniffed }
  packetSize := 65535

/-! ## Metadata before the first rule -/

namespace Router

variable (router : Router) (metadata : Context)

def searchProcessInfo : Context :=
  if metadata.processInfo.isSome then metadata
  else { metadata with processInfo := router.findProcessInfo metadata }

def resolveNeighbor : Context :=
  if metadata.sourceMACAddress.isNone ∧ metadata.source.addr.isValid then
    { metadata with
      sourceMACAddress := router.lookupMAC metadata.source.addr
      sourceHostname :=
        (router.lookupHostname metadata.source.addr).getD metadata.sourceHostname }
  else metadata

def mapReverse : Context :=
  if metadata.domain = "" then
    { metadata with
      domain := (router.lookupReverseMapping metadata.destination.addr).getD metadata.domain }
  else metadata

def mapFakeIP : Except Err Context :=
  match router.fakeIP with
  | none => .ok (router.mapReverse metadata)
  | some store =>
    if metadata.destination.addr.isValid ∧ store.contains metadata.destination.addr then
      match store.lookup metadata.destination.addr with
      | none => .error (.new "missing fakeip record, try enable `experimental.cache_file`")
      | some domain =>
        if domain = "" then .ok metadata
        else
          .ok
            { metadata with
              originDestination := metadata.destination
              destination := { fqdn := domain, port := metadata.destination.port }
              fakeIP := true }
    else .ok (router.mapReverse metadata)

def setIPVersion : Context :=
  if router.lib.isIPv4 metadata.destination then { metadata with ipVersion := 4 }
  else if router.lib.isIPv6 metadata.destination then { metadata with ipVersion := 6 }
  else metadata

def prepareMatchMetadata : Except Err Context := do
  let metadata ← router.mapFakeIP (router.resolveNeighbor (router.searchProcessInfo metadata))
  .ok (router.setIPVersion metadata)

/-! ## Actions that only change metadata -/

def applyRouteOptionsOverride (options : RouteOptions) : Context :=
  let metadata :=
    if router.lib.isValid options.overrideAddress then
      { metadata with
        destination :=
          { addr := options.overrideAddress.addr
            port := metadata.destination.port
            fqdn := options.overrideAddress.fqdn } }
    else metadata
  let metadata :=
    if 0 < options.overridePort then
      { metadata with destination := { metadata.destination with port := options.overridePort } }
    else metadata
  if 0 < options.udpTimeout then { metadata with udpTimeout := options.udpTimeout } else metadata

/-- The destination that was sniffed. Only packet connections remember the
original one. -/
def sniffOverrideDestination (packets : Bool) (metadata : Context) : Context :=
  if !router.lib.isDomain metadata.destination && router.lib.isDomainName metadata.sniffHost then
    let overridden : Context :=
      { metadata with
        destination := { fqdn := metadata.sniffHost, port := metadata.destination.port } }
    if packets then
      { overridden with originDestination := metadata.destination, destOverride := true }
    else overridden
  else metadata

def resolvedVersion (addresses : List Addr) (ipVersion : Nat) : Nat :=
  if addresses = [] then ipVersion
  else if addresses.all Addr.is4 then 4
  else if addresses.all Addr.is6 then 6
  else ipVersion

def actionResolve (action : ResolveAction) : Except Err Context :=
  if router.lib.isDomain metadata.destination then do
    if action.server ≠ "" ∧ !router.hasTransport action.server then
      .error (.new ("DNS server not found: " ++ action.server))
    else
      let addresses ← router.lookup metadata.toVisible metadata.destination.fqdn action
      let ipVersion := resolvedVersion addresses metadata.ipVersion
      if action.matchOnly then .ok { metadata with cacheIPs := addresses, ipVersion }
      else .ok { metadata with destinationAddresses := addresses, ipVersion }
  else .ok metadata

end Router

end SingBox.Routing
