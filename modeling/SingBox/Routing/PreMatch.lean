import SingBox.Routing.Packets

/-! # Pre-matching

`PreMatch` is a second loop over the rules. It looks at the first packet of a
flow before there is a connection, and decides what it can without one. What it
leaves undecided is decided by `matchRule`.
-/

namespace SingBox.Routing

open Adapter Netip Sniff

/-! ## Flows -/

structure PreMatchResult where
  action : PreMatchAction
  outbound : Option Outbound := none
  destination : Option (Addr × BitVec 16) := none
  udpTimeout : Nat := 0

def continueResult : PreMatchResult := { action := .continue }

def rejectResult : PreMatchResult := { action := .reject }

def portProtocols (port : BitVec 16) : String :=
  if port = 53 then "dns"
  else if port = 123 then "ntp"
  else if port = 3478 then "stun"
  else if port = 443 then "quic"
  else ""

/-- In nanoseconds. -/
def protocolTimeouts (protocol : String) : Nat :=
  if protocol ∈ ["dns", "ntp", "stun"] then 10 * 10 ^ 9
  else if protocol ∈ ["quic", "dtls"] then 30 * 10 ^ 9
  else 0

def flowTimeout (metadata : Context) : Nat :=
  if metadata.network ≠ "udp" then 0
  else if 0 < metadata.udpTimeout then metadata.udpTimeout
  else if metadata.protocol = "" then
    protocolTimeouts (portProtocols metadata.destination.port)
  else protocolTimeouts metadata.protocol

namespace Router

variable (router : Router)

/-- `selectPreMatchOutbound`, with the number of levels of groups that are
left. -/
def selectPreMatchOutbound (metadata : Context) :
    Nat → Outbound → Option (Outbound × PreMatchAction)
  | 0, _ => none
  | depth + 1, .selector _ _ selected => selectPreMatchOutbound metadata depth selected
  | depth + 1, .preMatchGroup _ _ candidates =>
    (candidates metadata.toVisible).findSome? (selectPreMatchOutbound metadata depth)
  | depth + 1, .group _ _ now => do
    let outbound ← router.outbound now
    selectPreMatchOutbound metadata depth outbound
  | _ + 1, .leaf tag networks type =>
    if metadata.network ∈ networks then
      match type with
      | .flow preMatchFlow resolver =>
        let action := preMatchFlow metadata.network metadata.destination.addr
        if action = .continue then none
        else some (.leaf tag networks (.flow preMatchFlow resolver), action)
      | _ => none
    else none

/-- The addresses of the destination, and `none` if they cannot be looked up. -/
def flowAddresses (metadata : Context) (resolver : Option ResolveAction) : Option (List Addr) :=
  if metadata.destinationAddresses = [] then
    match resolver with
    | none => some []
    | some options => (router.lookup metadata.toVisible metadata.destination.fqdn options).toOption
  else some metadata.destinationAddresses

/-- A flow to a domain. -/
def domainFlow (metadata : Context) (packetDestination : Socksaddr) (outbound : Outbound)
    (preMatchFlow : String → Addr → PreMatchAction) (resolver : Option ResolveAction) :
    PreMatchResult :=
  if !metadata.fakeIP && !metadata.destOverride then continueResult
  else
    match router.flowAddresses metadata resolver with
    | none => rejectResult
    | some addresses =>
      match addresses.find? fun address =>
          address.is4 == router.lib.isIPv4 packetDestination with
      | none => rejectResult
      | some address =>
        if address.isValid then
          let action := preMatchFlow metadata.network address
          if action = .flow then
            { action := .flow
              outbound
              destination := some (address, metadata.destination.port)
              udpTimeout := flowTimeout metadata }
          else { action, outbound }
        else rejectResult

def preMatchFlow (metadata : Context) (packetDestination : Socksaddr) (tag : String) :
    PreMatchResult :=
  match if tag = "" then some router.defaultOutbound else router.outbound tag with
  | none => continueResult
  | some outbound =>
    -- groups are followed from depth 0 to depth 8
    match router.selectPreMatchOutbound metadata 9 outbound with
    | some (.leaf tag networks (.flow preMatchFlow resolver), .flow) =>
      let outbound : Outbound := .leaf tag networks (.flow preMatchFlow resolver)
      if router.lib.isDomain metadata.destination then
        router.domainFlow metadata packetDestination outbound preMatchFlow resolver
      else if metadata.destination ≠ packetDestination then
        { action := .flow
          outbound
          destination := some (metadata.destination.addr, metadata.destination.port)
          udpTimeout := flowTimeout metadata }
      else { action := .flow, outbound, udpTimeout := flowTimeout metadata }
    | some (outbound, action) => { action, outbound }
    | none => continueResult

/-! ## Rules -/

end Router

inductive PreStep
  | next (metadata : Context)
  | decide (result : PreMatchResult)

namespace Router

variable (router : Router)

def preSniff (firstPacket : Bytes) (action : SniffAction) (metadata : Context) : PreStep :=
  if metadata.network = "icmp" then .next metadata
  else if metadata.network ≠ "udp" ∨ firstPacket = [] then .decide continueResult
  else if skip metadata || metadata.protocol != "" then .next metadata
  else if action.packetSniffers.isEmpty && !action.streamSniffers.isEmpty then .next metadata
  else if metadata.snifferNames = action.snifferNames && metadata.sniffError.isSome then
    .next metadata
  else
    let next := peekWith (router.packetSniffers action) action metadata firstPacket
    if needsMore next.sniffError then .decide continueResult else .next next

def preAct (firstPacket : Bytes) (packetDestination : Socksaddr) (metadata : Context) :
    RuleAction → PreStep
  | .sniff action => router.preSniff firstPacket action metadata
  | .sniffOverrideDestination =>
    if metadata.sniffHost = "" then .next metadata
    else .next (router.sniffOverrideDestination true metadata)
  | .routeOptions options => .next (router.applyRouteOptionsOverride metadata options)
  | .route outbound options =>
    .decide (router.preMatchFlow (router.applyRouteOptionsOverride metadata options)
      packetDestination outbound)
  | .bypass outbound options =>
    let metadata := router.applyRouteOptionsOverride metadata options
    if outbound = "" then
      if router.lib.isDomain metadata.destination || metadata.destination ≠ packetDestination then
        .decide continueResult
      else .decide { action := .bypass }
    else .decide (router.preMatchFlow metadata packetDestination outbound)
  | .reject method flooded =>
    if method = .drop ∨ (method = .default ∧ flooded) then .decide { action := .drop }
    else .decide rejectResult
  | .hijackDNS =>
    if metadata.network ≠ "udp" then .decide continueResult else .decide { action := .hijackDNS }
  | .resolve action =>
    match router.actionResolve metadata action with
    | .error _ => .decide rejectResult
    | .ok metadata => .next metadata
  | .direct => .decide continueResult

end Router

/-- The result, and the rule it is the result of with its index. -/
structure Decision where
  result : PreMatchResult
  rule : Option (Nat × Rule)

namespace Router

variable (router : Router)

def preMatchRules (firstPacket : Bytes) (packetDestination : Socksaddr) :
    List Rule → Nat → Context → Decision
  | [], _, metadata => { result := router.preMatchFlow metadata packetDestination "", rule := none }
  | rule :: rules, index, metadata =>
    if rule.accepts metadata.toVisible then
      match router.preAct firstPacket packetDestination metadata rule.action with
      | .next metadata => preMatchRules firstPacket packetDestination rules (index + 1) metadata
      | .decide result => { result, rule := some (index, rule) }
    else preMatchRules firstPacket packetDestination rules (index + 1) metadata

def preMatch (metadata : Context) (firstPacket : Bytes) : Decision :=
  match router.prepareMatchMetadata metadata with
  | .error _ => { result := continueResult, rule := none }
  | .ok prepared => router.preMatchRules firstPacket metadata.destination router.rules 0 prepared

end Router

end SingBox.Routing
