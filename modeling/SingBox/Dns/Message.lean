import SingBox.Foundation.Netip

/-! # DNS messages

The `miekg/dns` message types as far as the program looks into them. Records
that the program only carries around keep their type and their opaque data.
A record's header type always agrees with its Go type, as it does for every
record that is unpacked from the wire or built by `FixedResponse`.
-/

namespace SingBox.Dns

def typeA : BitVec 16 := 1
def typeCNAME : BitVec 16 := 5
def typeSOA : BitVec 16 := 6
def typeAAAA : BitVec 16 := 28
def typeOPT : BitVec 16 := 41
def typeHTTPS : BitVec 16 := 65

def rcodeSuccess : Int := 0
def rcodeNameError : Int := 3

inductive SVCBKeyValue
  | ipv4Hint (hint : List Bytes)
  | ipv6Hint (hint : List Bytes)
  | other (key : BitVec 16) (value : Bytes)
  deriving DecidableEq

inductive EDNS0
  | subnet (family : BitVec 16) (sourceNetmask sourceScope : BitVec 8) (address : Bytes)
  | other (code : BitVec 16) (value : Bytes)
  deriving DecidableEq

/-- A record type without a Go type of its own here. -/
structure OpaqueType where
  value : BitVec 16
  unknown : value ∉ [typeA, typeCNAME, typeSOA, typeAAAA, typeOPT, typeHTTPS]
  deriving DecidableEq

inductive RData
  | a (ip : Bytes)
  | aaaa (ip : Bytes)
  | cname (target : Bytes)
  | soa (minttl : BitVec 32) (rest : Bytes)
  | https (priority : BitVec 16) (target : Bytes) (value : List SVCBKeyValue)
  | opt (option : List EDNS0)
  | other (rrtype : OpaqueType) (rdata : Bytes)
  deriving DecidableEq

/-- `dns.RR`: the header fields other than the type, and the data. For an OPT
record `class` is the UDP size and `ttl` holds the extended flags. -/
structure RR where
  name : Bytes
  class_ : BitVec 16
  ttl : BitVec 32
  data : RData
  deriving DecidableEq

namespace RR

def rrtype (record : RR) : BitVec 16 :=
  match record.data with
  | .a _ => typeA
  | .aaaa _ => typeAAAA
  | .cname _ => typeCNAME
  | .soa _ _ => typeSOA
  | .https _ _ _ => typeHTTPS
  | .opt _ => typeOPT
  | .other rrtype _ => rrtype.value

def isOPT (record : RR) : Bool := record.rrtype == typeOPT

def version (record : RR) : BitVec 8 := record.ttl.extractLsb' 16 8

def «do» (record : RR) : Bool := record.ttl.getLsbD 15

end RR

structure Question where
  name : Bytes
  qtype : BitVec 16
  qclass : BitVec 16
  deriving DecidableEq

structure MsgHdr where
  id : BitVec 16 := 0
  response : Bool := false
  opcode : Int := 0
  authoritative : Bool := false
  truncated : Bool := false
  recursionDesired : Bool := false
  recursionAvailable : Bool := false
  zero : Bool := false
  authenticatedData : Bool := false
  checkingDisabled : Bool := false
  rcode : Int := 0
  deriving DecidableEq

structure Msg extends MsgHdr where
  question : List Question := []
  answer : List RR := []
  ns : List RR := []
  extra : List RR := []
  deriving DecidableEq

end SingBox.Dns
