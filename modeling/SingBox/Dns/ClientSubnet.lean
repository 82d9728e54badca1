import SingBox.Dns.Client

/-! # Client subnets in requests and in cache keys

A request that uses the cache has no options but client subnets. Its cache key
holds one prefix, made of the first subnet option that the request goes out
with: the unmapped address, and the netmask if it is not too large. Two
requests of one key go out with the same options if and only if they agree on
everything else.
-/

namespace SingBox.Dns

open Netip ClientState List

def Msg.options (message : Msg) : List EDNS0 := message.extra.flatMap RR.options

/-- The options of a request with a configured subnet: the first subnet of its
own is replaced, and if there is none the configured one comes last. -/
def replaceSubnet (clientSubnet : Prefix) : List EDNS0 → List EDNS0
  | [] => [subnetOption clientSubnet 0]
  | .subnet _ _ scope _ :: options => subnetOption clientSubnet scope :: options
  | .other code value :: options => .other code value :: replaceSubnet clientSubnet options

/-- The subnet options that a call is meant to go out with. -/
def Call.subnets (client : ClientOptions) (call : Call) : List EDNS0 :=
  if call.options.removeClientSubnet then []
  else if (configuredSubnet client call.options).isValid then
    replaceSubnet (configuredSubnet client call.options) call.message.options
  else call.message.options

/-- The address in the key of a request that goes out with these options. -/
def keyedAddress : List EDNS0 → Addr
  | [] => .invalid
  | .subnet _ _ _ address :: _ => (Addr.fromSlice address).unmap
  | .other _ _ :: options => keyedAddress options

/-- An address of four bytes, or of sixteen that is not IPv4-mapped, can be
read back from the key. -/
def unkeyedAddress (address : Bytes) : Bytes :=
  if (Addr.fromSlice address).unmap.asSlice = address then [] else address

/-- What a key leaves open of the options of a request. -/
def unkeyed : List EDNS0 → List EDNS0
  | [] => []
  | .subnet family netmask scope address :: options =>
    .subnet family netmask scope (unkeyedAddress address) :: options
  | .other code value :: options => .other code value :: unkeyed options

theorem address_of_unkeyed {left right : Bytes}
    (sameOpen : unkeyedAddress left = unkeyedAddress right)
    (sameKey : (Addr.fromSlice left).unmap = (Addr.fromSlice right).unmap) : left = right := by
  unfold unkeyedAddress at sameOpen
  split at sameOpen <;> split at sameOpen
  · next isLeft isRight => rw [← isLeft, sameKey, isRight]
  · next notRight => exact absurd (by rw [← sameOpen]; rfl) notRight
  · next notLeft _ => exact absurd (by rw [sameOpen]; rfl) notLeft
  · exact sameOpen

theorem eq_of_unkeyed {left right : List EDNS0} (sameOpen : unkeyed left = unkeyed right)
    (sameKey : keyedAddress left = keyedAddress right) : left = right := by
  induction left generalizing right with
  | nil =>
    rcases right with _ | ⟨_ | _, _⟩
    · rfl
    · cases sameOpen
    · cases sameOpen
  | cons option _ induction =>
    rcases option with ⟨_, _, _, _⟩ | ⟨_, _⟩
    · rcases right with _ | ⟨⟨_, _, _, _⟩ | _, _⟩
      · cases sameOpen
      · simp only [unkeyed, cons.injEq, EDNS0.subnet.injEq] at sameOpen
        obtain ⟨⟨rfl, rfl, rfl, sameAddress⟩, rfl⟩ := sameOpen
        rw [address_of_unkeyed sameAddress sameKey]
      · cases sameOpen
    · rcases right with _ | ⟨_ | _, _⟩
      · cases sameOpen
      · cases sameOpen
      · simp only [unkeyed, cons.injEq] at sameOpen
        rw [sameOpen.1, induction sameOpen.2 sameKey]

/-! ## Requests -/

theorem RR.eq_opt {record : RR} (isOPT : record.isOPT = true) :
    record = { record with data := .opt record.options } := by
  rcases record with ⟨_, _, _, data⟩
  cases data with
  | opt => rfl
  | other rrtype =>
    have isType : rrtype.value = typeOPT := eq_of_beq isOPT
    exact absurd (by simp [isType]) rrtype.unknown
  | _ => cases isOPT

variable {message : Msg} {client : ClientOptions} {key : DNSCacheKey}

theorem extra_of_isSimpleRequest (simple : isSimpleRequest message = true) :
    message.extra = [] ∨ ∃ record : RR, ∃ options,
      message.extra = [{ record with data := .opt options }] ∧
        ∀ option ∈ options, option.option = edns0Subnet := by
  unfold isSimpleRequest at simple
  split at simple
  · next isEmpty => exact .inl isEmpty
  · next record isOne =>
    simp only [Bool.and_eq_true, all_eq_true, beq_iff_eq] at simple
    refine .inr ⟨record, record.options, ?_, simple.2.2⟩
    rw [isOne, ← RR.eq_opt simple.2.1.1.1]
  · simp at simple

theorem replaceSubnet_eq (clientSubnet : Prefix) (options : List EDNS0) :
    replaceSubnet clientSubnet options =
      if options.any EDNS0.isSubnet then overwriteSubnet clientSubnet options
      else options ++ [subnetOption clientSubnet 0] := by
  induction options with
  | nil => rfl
  | cons option options induction =>
    cases option with
    | subnet => rfl
    | other =>
      rw [replaceSubnet, induction]
      by_cases found : options.any EDNS0.isSubnet = true
      · simp [found, overwriteSubnet]
      · simp [found, EDNS0.isSubnet]

theorem options_setClientSubnet (simple : isSimpleRequest message = true) (clientSubnet : Prefix) :
    (setClientSubnet message clientSubnet).options =
      replaceSubnet clientSubnet message.options := by
  rcases extra_of_isSimpleRequest simple with isEmpty | ⟨_, options, isOne, -⟩
  · simp [setClientSubnet, Msg.options, isEmpty, RR.options, replaceSubnet]
  rw [replaceSubnet_eq]
  by_cases found : options.any EDNS0.isSubnet = true
  · simp [setClientSubnet, Msg.options, isOne, RR.options, RR.mapOption, found]
  · simp [setClientSubnet, Msg.options, isOne, RR.options, RR.mapOption, found, RR.isOPT, RR.rrtype]

theorem options_removeClientSubnet (simple : isSimpleRequest message = true) :
    (removeClientSubnet message).options = [] := by
  rcases extra_of_isSimpleRequest simple with isEmpty | ⟨_, options, isOne, subnets⟩
  · simp [removeClientSubnet, Msg.options, isEmpty]
  · simpa [removeClientSubnet, Msg.options, isOne, RR.options, RR.mapOption] using subnets

theorem keyedAddress_replaceSubnet (clientSubnet : Prefix) (options : List EDNS0) :
    keyedAddress (replaceSubnet clientSubnet options) = clientSubnet.addr.unmap := by
  have own : (Addr.fromSlice clientSubnet.addr.asSlice).unmap = clientSubnet.addr.unmap := by
    rw [Addr.fromSlice_asSlice, clientSubnet.noZone]
  induction options with
  | nil => exact own
  | cons option _ induction =>
    cases option with
    | subnet => exact own
    | other => exact induction

theorem unmap_prefix (address : Bytes) (bits : Nat) :
    (Prefix.from (Addr.fromSlice address).unmap bits).addr.unmap =
      (Addr.fromSlice address).unmap := by
  unfold Addr.fromSlice
  split
  · rfl
  split
  · generalize BitVec.ofNat 128 address.ofBigEndian = value
    by_cases mapped : value.extractLsb' 32 96 = 0xffff#96
    · simp [Prefix.from, Addr.unmap, Addr.is4In6, mapped, Addr.withoutZone]
    · simp [Prefix.from, Addr.unmap, Addr.is4In6, mapped, Addr.withoutZone]
  · rfl

theorem unmap_clientSubnetFromMessage (message : Msg) :
    (clientSubnetFromMessage message).addr.unmap = keyedAddress message.options := by
  unfold clientSubnetFromMessage Msg.options
  induction message.extra.flatMap RR.options with
  | nil => rfl
  | cons option _ induction =>
    cases option with
    | subnet _ _ _ address =>
      simp only [find?_cons, EDNS0.isSubnet, keyedAddress]
      split
      · exact unmap_prefix address _
      next invalid =>
      cases isFrom : Addr.fromSlice address with
      | invalid => rfl
      | _ => simp [isFrom, Addr.isValid] at invalid
    | other => exact induction

theorem sent_of_cacheKey {call : Call} {question : Question} {environment : BitVec 64}
    {asks : call.message.question.head? = some question}
    (isKey : (operation client call question environment asks).cacheKey = some key) :
    (operation client call question environment asks).message.options = call.subnets client ∧
      keyedAddress (call.subnets client) = key.clientSubnet.addr.unmap := by
  simp only [operation, Option.ite_none_left_eq_some, Bool.or_eq_true, not_or,
    Bool.not_eq_true', Bool.not_eq_false] at isKey
  obtain ⟨⟨⟨simple, -⟩, -⟩, ⟨⟩⟩ := isKey
  simp only [operation, newCacheKey, prepareExchangeMessage, Call.subnets]
  split
  · exact ⟨options_removeClientSubnet simple, rfl⟩
  split
  · exact ⟨options_setClientSubnet simple _, keyedAddress_replaceSubnet _ _⟩
  · exact ⟨rfl, (unmap_clientSubnetFromMessage _).symm⟩

/-- Two requests of one key go out with the same subnet options if and only if
they agree on what the key leaves open. -/
theorem same_subnets_iff {client : ClientOptions} {left right : Call}
    {leftQuestion rightQuestion : Question} {leftEnvironment rightEnvironment : BitVec 64}
    {leftAsks : left.message.question.head? = some leftQuestion}
    {rightAsks : right.message.question.head? = some rightQuestion} {key : DNSCacheKey}
    (leftKey : (operation client left leftQuestion leftEnvironment leftAsks).cacheKey = some key)
    (rightKey :
      (operation client right rightQuestion rightEnvironment rightAsks).cacheKey = some key) :
    (operation client left leftQuestion leftEnvironment leftAsks).message.options =
        (operation client right rightQuestion rightEnvironment rightAsks).message.options ↔
      unkeyed (left.subnets client) = unkeyed (right.subnets client) := by
  obtain ⟨leftSent, leftAddress⟩ := sent_of_cacheKey leftKey
  obtain ⟨rightSent, rightAddress⟩ := sent_of_cacheKey rightKey
  rw [leftSent, rightSent]
  constructor
  · intro same
    rw [same]
  · intro same
    exact eq_of_unkeyed same (leftAddress.trans rightAddress.symm)

def subnetRequest (options : QueryOptions) (subnets : List EDNS0) : Operation :=
  operation {}
    { transportTag := []
      message := {
        question := [⟨[], typeA, 1⟩]
        extra := [⟨Bytes.ofString ".", 1232, 0, .opt subnets⟩] }
      options := options
      responseChecker := none
      contextTag := none }
    ⟨[], typeA, 1⟩ 0 rfl

theorem same_subnets_configured :
    (subnetRequest {} [.subnet 1 24 0 [1, 2, 3, 0]]).message.options =
      (subnetRequest { clientSubnet := .from (.v4 0x01020300) 24 }
        [.subnet 1 32 0 [9, 9, 9, 9]]).message.options :=
  (same_subnets_iff rfl rfl).mpr rfl

/-- The key does not see a second subnet option, which goes out like the first. -/
theorem second_subnet_shares_key :
    (subnetRequest {} [.subnet 1 24 0 [1, 2, 3, 0]]).cacheKey.isSome ∧
      (subnetRequest {} [.subnet 1 24 0 [1, 2, 3, 0]]).cacheKey =
        (subnetRequest {} [.subnet 1 24 0 [1, 2, 3, 0], .subnet 1 24 0 [9, 9, 9, 0]]).cacheKey ∧
      (subnetRequest {} [.subnet 1 24 0 [1, 2, 3, 0]]).message.options ≠
        (subnetRequest {} [.subnet 1 24 0 [1, 2, 3, 0],
          .subnet 1 24 0 [9, 9, 9, 0]]).message.options :=
  ⟨rfl, rfl, by decide⟩

end SingBox.Dns
