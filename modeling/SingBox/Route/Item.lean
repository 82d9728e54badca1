import SingBox.Route.Tree

/-! # Rule items

The items whose result can depend on the DNS response or on the rule-set flags
are modelled one by one. Every other item reads only the request; such an item
is a predicate on the request fields. IP sets, domain matchers and the small
helpers of the `sing` library are not part of the program and are parameters.
-/

namespace SingBox.Route

open Adapter Netip

/-- The helpers of the `sing` library that the items call. -/
structure SingLib where
  addrFromIP : Bytes → Addr
  isPublicAddr : Addr → Bool
  isIP : Socksaddr → Bool
  isIPv6 : Socksaddr → Bool
  isDomain : Socksaddr → Bool

def SingLib.sample : SingLib where
  addrFromIP := Addr.fromSlice
  isPublicAddr _ := true
  isIP address := address.addr.isValid
  isIPv6 address := address.addr.is6
  isDomain address := !address.addr.isValid && address.fqdn != ""

inductive RuleItem
  | ipCIDR (isSource : Bool) (ipSet : Addr → Bool)
  | ipIsPrivate (isSource : Bool)
  | ipAcceptAny
  | dnsResponseRCode (rcode : Int)
  | dnsResponseRecord (selector : Dns.Msg → List Dns.RR) (records : List (Dns.RR → Bool))
  | request (accepts : Request → Bool)

namespace RuleItem

variable (lib : SingLib)

/-! ## Addresses of a response -/

def hintAddresses : Dns.SVCBKeyValue → List Addr
  | .ipv4Hint hint => (hint.map fun ip => (lib.addrFromIP ip).unmap).filter Addr.isValid
  | .ipv6Hint hint => (hint.map lib.addrFromIP).filter Addr.isValid
  | .other _ _ => []

def recordAddresses (record : Dns.RR) : List Addr :=
  match record.data with
  | .a ip | .aaaa ip => [lib.addrFromIP ip].filter Addr.isValid
  | .https _ _ value => value.flatMap (hintAddresses lib)
  | _ => []

def dnsResponseAddresses : Option Dns.Msg → List Addr
  | none => []
  | some response =>
    if response.rcode != Dns.rcodeSuccess then []
    else response.answer.flatMap (recordAddresses lib)

/-! ## Matching -/

def matchIPCIDR (isSource : Bool) (ipSet : Addr → Bool) (metadata : InboundContext) : Bool :=
  if isSource || metadata.ipCIDRMatchSource then ipSet metadata.source.addr
  else if metadata.destinationAddressMatchFromResponse then
    let addresses := dnsResponseAddresses lib metadata.dnsResponse
    if addresses.isEmpty then metadata.ipCIDRAcceptEmpty else addresses.any ipSet
  else if lib.isIP metadata.destination then ipSet metadata.destination.addr
  else if !metadata.destinationAddresses.isEmpty then
    metadata.destinationAddresses.any ipSet
  else if !metadata.cacheIPs.isEmpty then metadata.cacheIPs.any ipSet
  else metadata.ipCIDRAcceptEmpty

def matchIPIsPrivate (isSource : Bool) (metadata : InboundContext) : Bool :=
  if isSource then !lib.isPublicAddr metadata.source.addr
  else if metadata.destinationAddressMatchFromResponse then
    (dnsResponseAddresses lib metadata.dnsResponse).any fun address =>
      !lib.isPublicAddr address
  else if metadata.destination.addr.isValid then
    !lib.isPublicAddr metadata.destination.addr
  else
    (metadata.destinationAddresses.any fun address => !lib.isPublicAddr address) ||
      metadata.cacheIPs.any fun address => !lib.isPublicAddr address

def matchIPAcceptAny (metadata : InboundContext) : Bool :=
  if metadata.destinationAddressMatchFromResponse then
    !(dnsResponseAddresses lib metadata.dnsResponse).isEmpty
  else !metadata.destinationAddresses.isEmpty

def «match» : RuleItem → InboundContext → Bool
  | .ipCIDR isSource ipSet, metadata => matchIPCIDR lib isSource ipSet metadata
  | .ipIsPrivate isSource, metadata => matchIPIsPrivate lib isSource metadata
  | .ipAcceptAny, metadata => matchIPAcceptAny lib metadata
  | .dnsResponseRCode rcode, metadata =>
    metadata.dnsResponse.any fun response => response.rcode == rcode
  | .dnsResponseRecord selector records, metadata =>
    metadata.dnsResponse.any fun response =>
      records.any fun expected => (selector response).any expected
  | .request accepts, metadata => accepts metadata.toRequest

/-! ## Request items -/

inductive DomainMatchStrategy
  | asIS
  | preferFQDN
  | fqdnOnly
  | sniffHostOnly
  deriving DecidableEq

def domainHost (strategy : DomainMatchStrategy) (request : Request) : String :=
  match strategy with
  | .asIS =>
    if request.sniffHost != "" then request.sniffHost
    else if lib.isDomain request.destination then request.destination.fqdn
    else request.domain
  | .preferFQDN =>
    if lib.isDomain request.destination then request.destination.fqdn
    else if request.sniffHost != "" then request.sniffHost
    else request.domain
  | .fqdnOnly => if lib.isDomain request.destination then request.destination.fqdn else ""
  | .sniffHostOnly => request.sniffHost

/-- `DomainItem`, where `matcher` stands for the matcher applied to the host in
lower case. -/
def domain (matcher : String → Bool) (strategy : DomainMatchStrategy) : RuleItem :=
  .request fun request =>
    let host := domainHost lib strategy request
    host != "" && matcher host

def network (networks : List String) : RuleItem :=
  .request fun request => networks.contains request.network

def ipVersion (isIPv6 : Bool) : RuleItem :=
  .request fun request =>
    request.ipVersion != 0 && (request.ipVersion == 6) == isIPv6 ||
      lib.isIP request.destination && lib.isIPv6 request.destination == isIPv6

def queryType (typeList : List (BitVec 16)) : RuleItem :=
  .request fun request => request.queryType != 0 && typeList.contains request.queryType

/-- Items that read the request only. -/
def IsQuery : RuleItem → Prop
  | .ipCIDR isSource _ | .ipIsPrivate isSource => isSource = true
  | .request _ => True
  | _ => False

end RuleItem

end SingBox.Route
