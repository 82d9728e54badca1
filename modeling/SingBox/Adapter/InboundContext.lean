import SingBox.Dns.Message

/-! # Connection metadata

`adapter.InboundContext` is the record every rule item looks at. The fields
that describe the request are kept apart from the DNS response bound to the
current evaluation and from the rule cache, since most items read only the
request. `ResetRuleMatchCache` forgets the outcome of earlier matching but
keeps the rule-set flags; `ResetRuleCache` forgets those as well.
-/

namespace SingBox.Adapter

open Netip

structure Socksaddr where
  addr : Addr := .invalid
  port : BitVec 16 := 0
  fqdn : String := ""
  deriving DecidableEq

/-- The fields of `ConnectionOwner` that rule items read. -/
structure ConnectionOwner where
  processPath : String := ""
  androidPackageNames : List String := []
  deriving DecidableEq

/-- The request fields of `InboundContext` that rule items read. -/
structure Request where
  inbound : String := ""
  ipVersion : Nat := 0
  network : String := ""
  source : Socksaddr := {}
  destination : Socksaddr := {}
  user : String := ""
  outbound : String := ""
  protocol : String := ""
  sniffHost : String := ""
  client : String := ""
  processInfo : Option ConnectionOwner := none
  cacheIPs : List Addr := []
  domain : String := ""
  destinationAddresses : List Addr := []
  sourceHostname : String := ""
  queryType : BitVec 16 := 0
  queryClientSubnet : Prefix := .zero
  queryDNSSEC : Bool := false

structure InboundContext extends Request where
  dnsResponse : Option Dns.Msg := none
  namedDNSResponses : String → Option Dns.Msg := fun _ => none
  destinationAddressMatchFromResponse : Bool := false
  ipCIDRMatchSource : Bool := false
  ipCIDRAcceptEmpty : Bool := false
  deferredIPCIDRMatchGroups : BitVec 8 := 0
  ignoreDestinationIPCIDRMatch : Bool := false

namespace InboundContext

def resetRuleMatchCache (metadata : InboundContext) : InboundContext :=
  { metadata with deferredIPCIDRMatchGroups := 0 }

def resetRuleCache (metadata : InboundContext) : InboundContext :=
  { metadata with
    ipCIDRMatchSource := false
    ipCIDRAcceptEmpty := false
    deferredIPCIDRMatchGroups := 0 }

/-- The state every top-level evaluation starts from. -/
structure FreshRuleCache (metadata : InboundContext) : Prop where
  ipCIDRMatchSource : metadata.ipCIDRMatchSource = false
  ipCIDRAcceptEmpty : metadata.ipCIDRAcceptEmpty = false
  deferredIPCIDRMatchGroups : metadata.deferredIPCIDRMatchGroups = 0

theorem FreshRuleCache.resetRuleCache_eq {metadata : InboundContext}
    (fresh : metadata.FreshRuleCache) : metadata.resetRuleCache = metadata := by
  rcases fresh with ⟨matchSource, acceptEmpty, deferred⟩
  cases metadata
  cases matchSource
  cases acceptEmpty
  cases deferred
  rfl

end InboundContext

end SingBox.Adapter
