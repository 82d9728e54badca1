import SingBox.Dns.Response
import SingBox.Foundation.NetipText

/-! # Cache keys of the DNS client

The client subnet that goes into a request and into its cache key, and the name
under which the persistent cache keeps the answers of a key. That name holds
the transport, the subnet and the environment; it can be taken apart again as
long as the transport tag has no control characters.
-/

namespace SingBox.Dns

open Netip List

/-! ## Client subnet -/

def EDNS0.isSubnet : EDNS0 → Bool
  | .subnet _ _ _ _ => true
  | .other _ _ => false

def RR.options (record : RR) : List EDNS0 :=
  match record.data with
  | .opt option => option
  | _ => []

/-- The subnet option that a request carries; the scope of an existing option
is kept. -/
def subnetOption (clientSubnet : Prefix) (scope : BitVec 8) : EDNS0 :=
  .subnet (if clientSubnet.addr.is4 then 1 else 2) (BitVec.ofNat 8 clientSubnet.bits) scope
    clientSubnet.addr.asSlice

def overwriteSubnet (clientSubnet : Prefix) : List EDNS0 → List EDNS0
  | [] => []
  | .subnet _ _ scope _ :: options => subnetOption clientSubnet scope :: options
  | option :: options => option :: overwriteSubnet clientSubnet options

/-- `SetClientSubnet` changes the first subnet option. Without one it adds the
option to the last additional record, or to a new one if that is no OPT
record. -/
def setClientSubnet (message : Msg) (clientSubnet : Prefix) : Msg :=
  match message.extra.findIdx? fun record => record.options.any EDNS0.isSubnet with
  | some index =>
    { message with
      extra := message.extra.modify index (RR.mapOption (overwriteSubnet clientSubnet)) }
  | none =>
    if message.extra.getLast?.any RR.isOPT then
      { message with
        extra := message.extra.modify (message.extra.length - 1)
          (RR.mapOption (· ++ [subnetOption clientSubnet 0])) }
    else
      { message with
        extra := message.extra ++
          [⟨Bytes.ofString ".", 0, 0, .opt [subnetOption clientSubnet 0]⟩] }

def removeClientSubnet (message : Msg) : Msg :=
  { message with
    extra := message.extra.map
      (RR.mapOption (filter fun option => option.option != edns0Subnet)) }

def clientSubnetFromMessage (message : Msg) : Prefix :=
  match (message.extra.flatMap RR.options).find? EDNS0.isSubnet with
  | some (.subnet _ sourceNetmask _ address) =>
    if (Addr.fromSlice address).isValid then
      Prefix.from (Addr.fromSlice address).unmap sourceNetmask.toNat
    else .zero
  | _ => .zero

variable (client : ClientOptions)

/-- The configured subnet of a request: its own, or the one of the client. -/
def configuredSubnet (options : QueryOptions) : Prefix :=
  if options.clientSubnet.isValid then options.clientSubnet else client.clientSubnet

def prepareExchangeMessage (message : Msg) (options : QueryOptions) : Msg :=
  if options.removeClientSubnet then removeClientSubnet message
  else if (configuredSubnet client options).isValid then
    setClientSubnet message (configuredSubnet client options)
  else message

/-! ## Keys -/

structure DNSCacheKey where
  question : Question
  transportTag : Bytes
  clientSubnet : Prefix
  environment : BitVec 64
  deriving DecidableEq

/-- `environment` is the environment hash of the transport at the time. -/
def newCacheKey (transportTag : Bytes) (environment : BitVec 64)
    (question : Question) (message : Msg) (options : QueryOptions) : DNSCacheKey where
  question := question
  transportTag := transportTag
  clientSubnet :=
    if options.removeClientSubnet then .zero
    else if (configuredSubnet client options).isValid then configuredSubnet client options
    else clientSubnetFromMessage message
  environment := environment

/-- The key under which an answer is stored, unless the environment has changed
since the request. -/
def finishCacheKey (environment : BitVec 64) (key : DNSCacheKey) : Option DNSCacheKey :=
  if environment = key.environment ∨ key.environment = 0 then
    some { key with environment := environment }
  else none

namespace DNSCacheKey

variable (key : DNSCacheKey)

/-- The part of the persistent name that stands for the client subnet. -/
def subnetName : Bytes :=
  if key.clientSubnet.isValid then 0 :: key.clientSubnet.string else []

def environmentName : Bytes :=
  if key.environment ≠ 0 then 1 :: Text.formatUint key.environment.toNat 36 else []

def persistentName : Bytes :=
  key.transportTag ++ key.subnetName ++ key.environmentName

/-- What the persistent cache knows of a key: the class of the question is not
kept, and all invalid subnets are one. -/
def persistent : DNSCacheKey where
  question := ⟨key.question.name, key.question.qtype, 0⟩
  transportTag := key.transportTag
  clientSubnet := if key.clientSubnet.isValid then key.clientSubnet else .zero
  environment := key.environment

end DNSCacheKey

/-- A transport tag without control characters. -/
def Printable (tag : Bytes) : Prop := ∀ byte ∈ tag, 32 ≤ byte.toNat ∧ byte.toNat ≠ 127

instance (tag : Bytes) : Decidable (Printable tag) :=
  inferInstanceAs (Decidable (∀ byte ∈ tag, 32 ≤ byte.toNat ∧ byte.toNat ≠ 127))

namespace DNSCacheKey

variable {byte : BitVec 8} {key left right : DNSCacheKey}

theorem subnetName_byte (member : byte ∈ key.subnetName) : byte ≠ 1#8 := by
  rw [subnetName] at member
  split at member
  · next valid =>
    rcases mem_cons.mp member with isZero | inText
    · rw [isZero]
      decide
    intro isOne
    have large := Prefix.string_byte valid inText
    rw [isOne] at large
    exact absurd large (by decide)
  · cases member

theorem environmentName_head (isHead : byte ∈ key.environmentName.head?) : byte = 1#8 := by
  rw [environmentName] at isHead
  split at isHead
  · exact (Option.some.inj isHead).symm
  · cases isHead

theorem subnetName_eq (equal : left.subnetName = right.subnetName) :
    left.persistent.clientSubnet = right.persistent.clientSubnet := by
  rw [subnetName, subnetName] at equal
  rw [persistent, persistent]
  split at equal <;> split at equal
  · next leftValid rightValid =>
    rw [if_pos leftValid, if_pos rightValid]
    exact Prefix.string_injective leftValid rightValid (cons.inj equal).2
  · cases equal
  · cases equal
  · next leftInvalid rightInvalid => rw [if_neg leftInvalid, if_neg rightInvalid]

theorem environmentName_eq (equal : left.environmentName = right.environmentName) :
    left.environment = right.environment := by
  rw [environmentName, environmentName] at equal
  split at equal <;> split at equal
  · apply BitVec.eq_of_toNat_eq
    exact Text.formatUint_injective (by decide) (by decide) (cons.inj equal).2
  · cases equal
  · cases equal
  · next leftZero rightZero => rw [not_not.mp leftZero, not_not.mp rightZero]

theorem persistentName_persistent (key : DNSCacheKey) :
    key.persistent.persistentName = key.persistentName := by
  have subnets : key.persistent.subnetName = key.subnetName := by
    have zero : Prefix.zero.isValid = false := rfl
    by_cases valid : key.clientSubnet.isValid
    · simp [subnetName, persistent, valid]
    · simp [subnetName, persistent, valid, zero]
  rw [persistentName, persistentName, subnets]
  rfl

/-- The persistent name determines the transport, the subnet and the
environment. -/
theorem persistentName_injective
    (leftPrintable : Printable left.transportTag) (rightPrintable : Printable right.transportTag)
    (equal : left.persistentName = right.persistentName) :
    left.transportTag = right.transportTag ∧
      left.persistent.clientSubnet = right.persistent.clientSubnet ∧
      left.environment = right.environment := by
  -- A tag ends at the first control character, the subnet at the byte one.
  have inTag : ∀ {key : DNSCacheKey}, Printable key.transportTag →
      ∀ byte ∈ key.transportTag, decide (32 ≤ byte.toNat) := by
    intro key printable byte member
    exact decide_eq_true (printable byte member).1
  have afterTag : ∀ {key : DNSCacheKey}, ∀ byte ∈ (key.subnetName ++ key.environmentName).head?,
      decide (32 ≤ byte.toNat) = false := by
    intro key byte isHead
    rw [head?_append, subnetName] at isHead
    split at isHead
    · cases isHead
      rfl
    rw [head?_nil, Option.none_or] at isHead
    rw [environmentName_head isHead]
    rfl
  rw [persistentName, persistentName, append_assoc, append_assoc] at equal
  have tags := Text.append_injective (inTag leftPrintable) (inTag rightPrintable) afterTag
    afterTag equal
  have inSubnet : ∀ {key : DNSCacheKey}, ∀ byte ∈ key.subnetName, decide (byte ≠ 1#8) :=
    fun byte member => decide_eq_true (subnetName_byte member)
  have afterSubnet : ∀ {key : DNSCacheKey}, ∀ byte ∈ key.environmentName.head?,
      decide (byte ≠ 1#8) = false := by
    intro _ _ isHead
    rw [environmentName_head isHead]
    rfl
  have names := Text.append_injective inSubnet inSubnet afterSubnet afterSubnet tags.2
  exact ⟨tags.1, subnetName_eq names.1, environmentName_eq names.2⟩

end DNSCacheKey

end SingBox.Dns
