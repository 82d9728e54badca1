import SingBox.Dns.Message
import Mathlib.Data.List.Rotate

/-! # Responses in the DNS client

What the DNS client does to a response on its way to the caller: it removes
padding, filters the address hints of HTTPS records, rewrites the TTL of every
record, and fits the OPT record to the request. A cached response is rotated
and gets a new TTL each time it is read.
-/

namespace SingBox.Dns

open List

inductive DomainStrategy
  | asIS
  | preferIPv4
  | preferIPv6
  | ipv4Only
  | ipv6Only
  deriving DecidableEq

/-- `adapter.DNSQueryOptions` without the transport. -/
structure QueryOptions where
  strategy : DomainStrategy := .asIS
  lookupStrategy : DomainStrategy := .asIS
  disableCache : Bool := false
  disableOptimisticCache : Bool := false
  rewriteTTL : Option (BitVec 32) := none
  timeout : Int := 0
  clientSubnet : Netip.Prefix := .zero
  removeClientSubnet : Bool := false
  deriving DecidableEq

/-- The configuration of a `Client`. Times are in nanoseconds. -/
structure ClientOptions where
  disableCache : Bool := false
  disableExpire : Bool := false
  optimisticTimeout : Int := 0
  roundRobinCache : Bool := false
  minCacheTTL : BitVec 32 := 0
  maxCacheTTL : BitVec 32 := 0
  clientSubnet : Netip.Prefix := .zero
  rdrc : Bool := false
  deriving DecidableEq

/-- What the client uses of `miekg/dns`. `IsEdns0` finds an OPT record among
the additional records, `SetEdns0` appends one of version zero, and a message
without records survives packing. -/
structure DnsLib where
  isEdns0 : Msg → Option RR
  setEdns0 : Msg → BitVec 16 → Bool → Msg
  pack : Msg → Option Bytes
  unpack : Bytes → Option Msg
  isEdns0_some : ∀ {message record}, isEdns0 message = some record →
    record ∈ message.extra ∧ record.isOPT
  isEdns0_none : ∀ {message}, isEdns0 message = none →
    ∀ record ∈ message.extra, record.isOPT = false
  isEdns0_congr : ∀ {left right : Msg}, left.extra.filter RR.isOPT = right.extra.filter RR.isOPT →
    isEdns0 left = isEdns0 right
  setEdns0_extra : ∀ message udpSize secure, ∃ record : RR, record.isOPT ∧ record.version = 0 ∧
    setEdns0 message udpSize secure = { message with extra := message.extra ++ [record] }
  unpack_pack_empty : ∃ packed, pack {} = some packed ∧ unpack packed = some {}

def DnsLib.sample : DnsLib where
  isEdns0 message := (message.extra.filter RR.isOPT).head?
  setEdns0 message udpSize secure :=
    { message with
      extra := message.extra ++
        [⟨Bytes.ofString ".", udpSize, if secure then 0x8000 else 0, .opt []⟩] }
  pack _ := some []
  unpack _ := some {}
  isEdns0_some found := by
    have member := mem_of_mem_head? (Option.mem_def.mpr found)
    exact mem_filter.mp member
  isEdns0_none missing record member := by
    rw [head?_eq_none_iff, filter_eq_nil_iff] at missing
    exact eq_false_of_ne_true (missing record member)
  isEdns0_congr equal := by rw [equal]
  setEdns0_extra message udpSize secure := by
    refine ⟨_, rfl, ?_, rfl⟩
    change BitVec.extractLsb' 16 8 (if secure then 0x8000#32 else 0#32) = 0
    cases secure <;> decide
  unpack_pack_empty := ⟨[], rfl, rfl⟩

def FixedResponseStatus (message : Msg) (rcode : Int) : Msg where
  id := message.id
  response := true
  authoritative := true
  recursionDesired := true
  recursionAvailable := true
  rcode := rcode
  question := message.question

/-! ## Padding -/

def edns0Subnet : BitVec 16 := 8
def edns0Padding : BitVec 16 := 12

def EDNS0.option : EDNS0 → BitVec 16
  | .subnet _ _ _ _ => edns0Subnet
  | .other code _ => code

def RR.mapOption (change : List EDNS0 → List EDNS0) (record : RR) : RR :=
  match record.data with
  | .opt option => { record with data := .opt (change option) }
  | _ => record

def stripDNSPadding (response : Msg) : Msg :=
  { response with
    extra := response.extra.map
      (RR.mapOption (filter fun option => option.option != edns0Padding)) }

/-! ## Time to live -/

def extractNegativeTTL (response : Msg) : Option (BitVec 32) :=
  response.ns.findSome? fun record =>
    match record.data with
    | .soa minttl _ => some (if record.ttl < minttl then record.ttl else minttl)
    | _ => none

def computeTimeToLive (response : Msg) : BitVec 32 :=
  let records := response.answer ++ response.ns ++ response.extra
  let least := (records.filter fun record => !record.isOPT).foldl (fun timeToLive record =>
    if timeToLive = 0 ∨ 0 < record.ttl ∧ record.ttl < timeToLive then record.ttl
    else timeToLive) 0
  if response.answer = [] then (extractNegativeTTL response).getD least else least

def RR.setTTL (timeToLive : BitVec 32) (record : RR) : RR :=
  if record.isOPT then record else { record with ttl := timeToLive }

def normalizeTTL (timeToLive : BitVec 32) (response : Msg) : Msg :=
  { response with
    answer := response.answer.map (RR.setTTL timeToLive)
    ns := response.ns.map (RR.setTTL timeToLive)
    extra := response.extra.map (RR.setTTL timeToLive) }

def second : Int := 1000000000

variable (client : ClientOptions)

/-- A response that is read from a cache, its TTL and whether it is stale;
nothing if it has expired. The TTL is in whole seconds. -/
def agedResponse (response : Msg) (expireAt now : Int) : Option (Msg × Nat × Bool) :=
  if client.disableExpire then some (response, 0, false)
  else if expireAt < now then
    if 0 < client.optimisticTimeout ∧ now < expireAt + client.optimisticTimeout then
      some (normalizeTTL 1 response, 0, true)
    else none
  else
    let nowTTL := ((expireAt - now) / second).toNat
    some (normalizeTTL (BitVec.ofNat 32 nowTTL) response, nowTTL, false)

/-! ## Response options -/

def svcbIPv4Hint : BitVec 16 := 4
def svcbIPv6Hint : BitVec 16 := 6

def SVCBKeyValue.key : SVCBKeyValue → BitVec 16
  | .ipv4Hint _ => svcbIPv4Hint
  | .ipv6Hint _ => svcbIPv6Hint
  | .other key _ => key

/-- Whether a strategy keeps a parameter of an HTTPS record. -/
def DomainStrategy.keeps (strategy : DomainStrategy) (value : SVCBKeyValue) : Bool :=
  match strategy with
  | .ipv4Only => value.key != svcbIPv6Hint
  | .ipv6Only => value.key != svcbIPv4Hint
  | _ => true

def RR.filterHints (strategy : DomainStrategy) (record : RR) : RR :=
  match record.data with
  | .https priority target value =>
    { record with data := .https priority target (value.filter strategy.keeps) }
  | _ => record

def filterHints (qtype : BitVec 16) (strategy : DomainStrategy) (response : Msg) : Msg :=
  if qtype = typeHTTPS ∧ (strategy = .ipv4Only ∨ strategy = .ipv6Only) then
    { response with answer := response.answer.map (RR.filterHints strategy) }
  else response

/-- The TTL that `applyResponseOptions` gives to a response. -/
def timeToLive (options : QueryOptions) (response : Msg) : BitVec 32 :=
  let computed := computeTimeToLive response
  let raised := if computed < client.minCacheTTL then client.minCacheTTL else computed
  let bounded :=
    if 0 < client.maxCacheTTL ∧ client.maxCacheTTL < raised then client.maxCacheTTL else raised
  options.rewriteTTL.getD bounded

def applyResponseOptions (question : Question) (options : QueryOptions)
    (response : Msg) : Msg × BitVec 32 :=
  let filtered := filterHints question.qtype options.strategy response
  let ttl := timeToLive client options filtered
  (normalizeTTL ttl filtered, ttl)

def Msg.withoutOPT (message : Msg) : Msg :=
  { message with extra := message.extra.filter fun record => !record.isOPT }

/-- The part of `finishExchange` that fits the OPT record to the request. -/
def fitEdns0 (lib : DnsLib) (request response : Msg) : Msg :=
  match lib.isEdns0 response with
  | none => response
  | some responseOpt =>
    match lib.isEdns0 request with
    | none => response.withoutOPT
    | some requestOpt =>
      if requestOpt.version < responseOpt.version then
        lib.setEdns0 response.withoutOPT responseOpt.class_ responseOpt.do
      else response

/-- What `finishExchange` returns for an accepted response. -/
def finishResponse (lib : DnsLib) (client : ClientOptions) (question : Question)
    (options : QueryOptions) (request response : Msg) : Msg :=
  fitEdns0 lib request
    { (applyResponseOptions client question options response).1 with id := request.id }

end SingBox.Dns
