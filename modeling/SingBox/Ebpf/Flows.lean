import SingBox.Foundation.Netip
import SingBox.Foundation.References

/-! # Flows of the shared network backend

The maps of the kernel program are not part of the model: what a system call
returns is an argument of the function that makes the call. Each function here
holds `flowAccess` while it looks at the references.
-/

namespace SingBox.Ebpf

open Netip References

structure AddrPort where
  addr : Addr
  port : BitVec 16
  deriving DecidableEq

/-- The errors of a system call, with those that are looked at. -/
inductive SystemError
  | noEntry
  | exist
  | other (code : Nat)
  deriving DecidableEq

inductive FlowError
  | system (error : SystemError)
  | new (message : String)
  | newAbout (message : String) (destination : AddrPort)
  | cause (error : FlowError) (message : String)
  | errors (first second : FlowError)
  deriving DecidableEq

/-- `errors.Is(err, unix.ENOENT)`. -/
def FlowError.isNoEntry : FlowError → Bool
  | .system error => error = .noEntry
  | .new _ | .newAbout _ _ => false
  | .cause error _ => error.isNoEntry
  | .errors first second => first.isNoEntry || second.isNoEntry

def addressFamilyIPv4 : BitVec 8 := 2

def addressFamilyIPv6 : BitVec 8 := 10

def protocolUDP : BitVec 8 := 17

/-- `encodeAddress`: the family, and the sixteen bytes of `destination` after the
bytes of the address have been copied to their start. -/
def encodeAddress (destination : BitVec 128) (source : Addr) :
    Except FlowError (BitVec 8 × BitVec 128) :=
  match source.unmap with
  | .v4 bits => .ok (addressFamilyIPv4, bits ++ destination.extractLsb' 0 96)
  | .v6 bits _ => .ok (addressFamilyIPv6, bits)
  | .invalid => .error (.new "invalid IP address")

def sharedNetworkAddress (family : BitVec 8) (address : BitVec 128) : Except FlowError Addr :=
  if family = addressFamilyIPv4 then .ok (.v4 (address.extractLsb' 96 32))
  else if family = addressFamilyIPv6 then .ok (.v6 address "")
  else .error (.new ("invalid shared-network address family: " ++ toString family.toNat))

structure ListenerKey where
  family : BitVec 8
  protocol : BitVec 8
  listenerPort : BitVec 16
  tokenAddr : BitVec 128
  clientPort : BitVec 16
  clientAddr : BitVec 128
  deriving DecidableEq

structure OriginalKey where
  interfaceIndex : BitVec 32
  family : BitVec 8
  protocol : BitVec 8
  clientPort : BitVec 16
  originalPort : BitVec 16
  clientAddr : BitVec 128
  originalAddr : BitVec 128
  deriving DecidableEq

structure TokenValue where
  tokenAddr : BitVec 128
  generation : BitVec 64
  lastSeenNS : BitVec 64
  deriving DecidableEq

structure OriginalValue where
  family : BitVec 8
  protocol : BitVec 8
  port : BitVec 16
  addr : BitVec 128
  interfaceIndex : BitVec 32
  generation : BitVec 64
  sourceMAC : Bytes
  deriving DecidableEq

structure FlowHandle where
  originalKey : OriginalKey
  listenerKey : ListenerKey
  generation : BitVec 64
  deriving DecidableEq

structure OriginalDestination where
  destination : AddrPort
  connectedUDP : Bool := false
  sourceMAC : Bytes := []
  deriving DecidableEq

/-- `uint32` counts. Each reference that is counted is held by a caller, so that 2^32 of
them would have to be held at once for a count to wrap. -/
abbrev FlowReferences := FlowHandle → Nat

def makeListenerKey (protocol : BitVec 8) (client tokenDestination : AddrPort) :
    Except FlowError ListenerKey :=
  match encodeAddress 0 tokenDestination.addr with
  | .error error => .error (.cause error "invalid shared-network redirect address")
  | .ok (family, tokenAddr) =>
    match encodeAddress 0 client.addr with
    | .error error => .error (.cause error "invalid shared-network client address")
    | .ok (clientFamily, clientAddr) =>
      if clientFamily ≠ family then
        .error (.new "shared-network client and redirect address families do not match")
      else
        .ok
          { family := family
            protocol := protocol
            listenerPort := tokenDestination.port
            tokenAddr := tokenAddr
            clientPort := client.port
            clientAddr := clientAddr }

def makeFlowHandle (key : ListenerKey) (value : OriginalValue) : FlowHandle where
  originalKey :=
    { interfaceIndex := value.interfaceIndex
      family := key.family
      protocol := key.protocol
      clientPort := key.clientPort
      originalPort := value.port
      clientAddr := key.clientAddr
      originalAddr := value.addr }
  listenerKey := key
  generation := value.generation

def makeFlowHandleFromOriginal (key : OriginalKey) (token : BitVec 128)
    (listenerPort : BitVec 16) (generation : BitVec 64) : FlowHandle where
  originalKey := key
  listenerKey :=
    { family := key.family
      protocol := key.protocol
      listenerPort := listenerPort
      tokenAddr := token
      clientPort := key.clientPort
      clientAddr := key.clientAddr }
  generation := generation

/-- `validateFlowGenerationLocked`, where `current` is what the map holds under
the original key. -/
def validateFlowGeneration (flow : FlowHandle) (current : Except SystemError TokenValue) :
    Except FlowError Unit :=
  match current with
  | .error error => .error (.cause (.system error) "validate shared-network flow generation")
  | .ok current =>
    if current.generation ≠ flow.generation ∨
        current.tokenAddr ≠ flow.listenerKey.tokenAddr then
      .error (.cause (.system .noEntry) "shared-network flow generation changed")
    else .ok ()

variable (references : FlowReferences)

/-- `LookupFlow`, where `value` is what the map of tokens holds and `current` what
the map of original keys holds. -/
def lookupFlow (protocol : BitVec 8) (client tokenDestination : AddrPort)
    (value : Except SystemError OriginalValue) (current : Except SystemError TokenValue) :
    Except FlowError (OriginalDestination × FlowHandle) × FlowReferences :=
  match makeListenerKey protocol client tokenDestination with
  | .error error => (.error error, references)
  | .ok key =>
    match value with
    | .error error =>
      (.error (.cause (.system error) "lookup shared-network original destination"),
        references)
    | .ok value =>
      match sharedNetworkAddress value.family value.addr with
      | .error error => (.error error, references)
      | .ok address =>
        let flow := makeFlowHandle key value
        match validateFlowGeneration flow current with
        | .error error => (.error error, references)
        | .ok () =>
          (.ok ({ destination := { addr := address, port := value.port }
                  sourceMAC := value.sourceMAC }, flow),
            retain references flow)

structure ReplyLookup where
  value : Except SystemError TokenValue
  current : Except SystemError TokenValue

def lookupUDPReplyFlow (originalKey : OriginalKey) (listenerPort : BitVec 16)
    (lookup : ReplyLookup) : Except FlowError (Option (Addr × FlowHandle)) × FlowReferences :=
  match lookup.value with
  | .error error =>
    if error = .noEntry then (.ok none, references)
    else (.error (.cause (.system error) "lookup shared-network UDP reply flow"), references)
  | .ok value =>
    match sharedNetworkAddress originalKey.family value.tokenAddr with
    | .error error => (.error error, references)
    | .ok token =>
      let flow :=
        makeFlowHandleFromOriginal originalKey value.tokenAddr listenerPort value.generation
      match validateFlowGeneration flow lookup.current with
      | .error error =>
        if error.isNoEntry then (.ok none, references) else (.error error, references)
      | .ok () => (.ok (some (token, flow)), retain references flow)

/-- One round of the loop of `ReserveUDPReplyFlow` with a valid token: the token
and generation drawn, and what the system calls of the round return. -/
structure Attempt where
  token : Addr
  generation : BitVec 64
  insertToken : Except SystemError Unit
  insertOriginal : Except SystemError Unit
  deleteToken : Except SystemError Unit
  existing : ReplyLookup

/-- `E.Errors(err, cleanupErr)` of the library `sing`. -/
def FlowError.withCleanup (error : FlowError) (cleanup : Except SystemError Unit) : FlowError :=
  match cleanup with
  | .ok () => error
  | .error second => .errors error (.system second)

def reserveAttempts (originalKey : OriginalKey) (listenerPort : BitVec 16)
    (references : FlowReferences) :
    List Attempt → Except FlowError (Addr × FlowHandle) × FlowReferences
  | [] =>
    (.error (.new "reserve shared-network UDP reply flow: token attempts exhausted"), references)
  | attempt :: attempts =>
    match encodeAddress 0 attempt.token with
    | .error error => (.error error, references)
    | .ok (tokenFamily, tokenAddress) =>
      if tokenFamily ≠ originalKey.family then
        (.error (.new "shared-network UDP reply token family mismatch"), references)
      else
        let flow :=
          makeFlowHandleFromOriginal originalKey tokenAddress listenerPort attempt.generation
        match attempt.insertToken with
        | .error .exist => reserveAttempts originalKey listenerPort references attempts
        | .error error =>
          (.error (.cause (.system error) "reserve shared-network UDP reply token"),
            references)
        | .ok () =>
          match attempt.insertOriginal with
          | .ok () => (.ok (attempt.token, flow), retain references flow)
          | .error .exist =>
            -- the kernel program has added the flow in the meantime
            match lookupUDPReplyFlow references originalKey listenerPort
              attempt.existing with
            | (.error error, references) =>
              (.error (error.withCleanup attempt.deleteToken), references)
            | (.ok (some (token, existing)), references) =>
              match attempt.deleteToken with
              | .error error => (.error (.system error), (release references existing).2)
              | .ok () => (.ok (token, existing), references)
            | (.ok none, references) =>
              match attempt.deleteToken with
              | .error error => (.error (.system error), references)
              | .ok () => reserveAttempts originalKey listenerPort references attempts
          | .error error =>
            (.error (FlowError.withCleanup
                (.cause (.system error) "reserve shared-network UDP reply flow")
                attempt.deleteToken), references)

/-- The results of the system calls of `ReserveUDPReplyFlow`: the first lookup,
whether there is a token prefix and a time, and the rounds of the loop. -/
structure Reservation where
  existing : ReplyLookup
  prepared : Except FlowError Unit
  attempts : List Attempt

def reserveUDPReplyFlow (listenerPort : BitVec 16)
    (base : Option FlowHandle) (destination : AddrPort) (reservation : Reservation) :
    Except FlowError (Addr × FlowHandle) × FlowReferences :=
  match base with
  | none => (.error (.new "missing shared-network UDP base flow"), references)
  | some base =>
    if base.originalKey.protocol ≠ protocolUDP then
      (.error (.new "missing shared-network UDP base flow"), references)
    else if ¬destination.addr.isValid ∨ destination.port = 0 ∨
        destination.addr = .v4 0 ∨ destination.addr = .v6 0 "" then
      (.error (.newAbout "invalid shared-network UDP reply source: " destination), references)
    else
      match encodeAddress base.originalKey.originalAddr destination.addr with
      | .error error => (.error (.cause error "encode shared-network UDP reply source"), references)
      | .ok (destinationFamily, originalAddr) =>
        let originalKey :=
          { base.originalKey with
            originalPort := destination.port
            originalAddr := originalAddr }
        if destinationFamily ≠ originalKey.family then
          (.error (.newAbout "shared-network UDP reply source family changed: " destination),
            references)
        else
          match lookupUDPReplyFlow references originalKey listenerPort
            reservation.existing with
          | (.error error, references) => (.error error, references)
          | (.ok (some found), references) => (.ok found, references)
          | (.ok none, references) =>
            match reservation.prepared with
            | .error error => (.error error, references)
            | .ok () => reserveAttempts originalKey listenerPort references reservation.attempts

/-- What `removeOrphanedFlowCandidate` does with a flow that was idle. -/
inductive SweepOutcome
  | retained
  | gone
  | failed (error : SystemError)
  | changed
  | deleted (flow : FlowHandle)
  deriving DecidableEq

/-- `removeOrphanedFlowCandidate`, up to the deletion of the flow. -/
def removeOrphanedFlowCandidate (listenerPort : BitVec 16) (key : OriginalKey) (value : TokenValue)
    (current : Except SystemError TokenValue) : SweepOutcome :=
  let flow := makeFlowHandleFromOriginal key value.tokenAddr listenerPort value.generation
  if references flow > 0 then .retained
  else
    match current with
    | .error error => if error = .noEntry then .gone else .failed error
    | .ok current => if current ≠ value then .changed else .deleted flow

/-! A lookup or a reservation that returns a flow holds one more reference of it,
and one that fails leaves the references as they were. -/

section

variable {references after : FlowReferences} {protocol : BitVec 8}
  {client tokenDestination destination : AddrPort} {listenerPort : BitVec 16}

/-- The references after a call with this result. -/
def RetainsResult {Value : Type} (flowOf : Value → Option FlowHandle)
    (references : FlowReferences) (call : Except FlowError Value × FlowReferences) : Prop :=
  match call.1 with
  | .error _ => call.2 = references
  | .ok value => call.2 = (flowOf value).elim references (retain references)

theorem lookupFlow_retains (references : FlowReferences) (protocol : BitVec 8)
    (client tokenDestination : AddrPort) (value : Except SystemError OriginalValue)
    (current : Except SystemError TokenValue) :
    RetainsResult (fun found => some found.2) references
      (lookupFlow references protocol client tokenDestination value current) := by
  rw [lookupFlow]
  split
  · rfl
  split
  · rfl
  split
  · rfl
  · dsimp only
    split <;> rfl

theorem lookupFlow_connectedUDP {value : Except SystemError OriginalValue}
    {current : Except SystemError TokenValue} {original : OriginalDestination} {flow : FlowHandle}
    (isFound : lookupFlow references protocol client tokenDestination value current =
      (.ok (original, flow), after)) : original.connectedUDP = false := by
  rw [lookupFlow] at isFound
  split at isFound
  · cases isFound
  split at isFound
  · cases isFound
  split at isFound
  · cases isFound
  dsimp only at isFound
  split at isFound <;> cases isFound
  rfl

theorem lookupUDPReplyFlow_retains {originalKey : OriginalKey} {lookup : ReplyLookup}
    {call : Except FlowError (Option (Addr × FlowHandle)) × FlowReferences}
    (isLookup : lookupUDPReplyFlow references originalKey listenerPort lookup = call) :
    RetainsResult (Option.map Prod.snd) references call := by
  rw [← isLookup, lookupUDPReplyFlow]
  split
  · split <;> rfl
  split
  · rfl
  dsimp only
  split
  · split <;> rfl
  · rfl

theorem reserveAttempts_retains (originalKey : OriginalKey) (listenerPort : BitVec 16)
    (references : FlowReferences) (attempts : List Attempt) :
    RetainsResult (fun found => some found.2) references
      (reserveAttempts originalKey listenerPort references attempts) := by
  induction attempts with
  | nil => rfl
  | cons _ _ induction =>
    rw [reserveAttempts]
    split
    · rfl
    split
    · rfl
    split
    · exact induction
    · rfl
    split
    · rfl
    · split
      · next isLookup => exact lookupUDPReplyFlow_retains isLookup
      · next isLookup =>
        have looked := lookupUDPReplyFlow_retains isLookup
        cases looked
        split
        · exact release_retain ..
        · rfl
      · next isLookup =>
        have looked := lookupUDPReplyFlow_retains isLookup
        cases looked
        split
        · rfl
        · exact induction
    · rfl

theorem reserveUDPReplyFlow_retains (references : FlowReferences) (listenerPort : BitVec 16)
    (base : Option FlowHandle) (destination : AddrPort) (reservation : Reservation) :
    RetainsResult (fun found => some found.2) references
      (reserveUDPReplyFlow references listenerPort base destination reservation) := by
  unfold reserveUDPReplyFlow
  split
  · rfl
  split
  · rfl
  split
  · rfl
  split
  · rfl
  dsimp only
  split
  · rfl
  split
  · next isLookup => exact lookupUDPReplyFlow_retains isLookup
  · next isLookup => exact lookupUDPReplyFlow_retains isLookup
  next isLookup =>
  have looked := lookupUDPReplyFlow_retains isLookup
  cases looked
  split
  · rfl
  · exact reserveAttempts_retains ..

end

end SingBox.Ebpf
