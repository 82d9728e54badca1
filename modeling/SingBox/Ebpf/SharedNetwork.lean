import SingBox.Ebpf.ClientTable
import SingBox.Foundation.Run

/-! # The UDP side of the shared network

`NewPacket`, the packet writer and the handler that closes a session run in
goroutines of their own. A step of a goroutine is one call of the backend or of
the client table; what it does in between is the pending operation. A binding is
stored for a flow whose reference the goroutine holds, and the reference is given
back with the binding.
-/

namespace SingBox.Ebpf

open Netip References List Option

/-- What a goroutine does next, with what it has found so far. -/
inductive Pending
  | looking (client : AddrPort) (token : Addr)
  | installing (client : AddrPort) (token : Addr) (original : OriginalDestination)
      (flow : Option FlowHandle) (retained : Bool)
  | writing (client : AddrPort) (identity : Nat) (destination : AddrPort)
  | reserving (client : AddrPort) (identity : Nat) (destination : AddrPort)
      (base : Option FlowHandle) (sourceMAC : Bytes)
  | replying (client : AddrPort) (identity : Nat) (original : OriginalDestination)
      (address : Addr) (flow : FlowHandle)
  | releasing (flow : FlowHandle)
  deriving DecidableEq

structure Network where
  table : ClientTable := {}
  flowReferences : FlowReferences := fun _ => 0
  pending : List Pending := []

/-- One step. The results of system calls, the binding that a loop over a map
meets first and the order of such a loop are part of the action. -/
inductive NetworkAction
  | newPacket (client : AddrPort) (token : Addr)
  | lookupFlow (client : AddrPort) (token : Addr) (value : Except SystemError OriginalValue)
      (current : Except SystemError TokenValue)
  | setSharedBinding (client : AddrPort) (token : Addr) (original : OriginalDestination)
      (flow : Option FlowHandle) (retained : Bool)
  | preparePacketConnection (client : AddrPort)
  | writePacket (client : AddrPort) (identity : Nat) (destination : AddrPort)
  | replyTemplate (client : AddrPort) (identity : Nat) (destination : AddrPort)
      (template : Option RedirectBinding)
  | reserveUDPReplyFlow (client : AddrPort) (identity : Nat) (destination : AddrPort)
      (base : Option FlowHandle) (sourceMAC : Bytes) (reservation : Reservation)
  | setSharedReplyBinding (client : AddrPort) (identity : Nat) (original : OriginalDestination)
      (address : Addr) (flow : FlowHandle)
  | close (client : AddrPort) (identity : Nat) (order : List RedirectBinding)
  | releaseFlow (flow : FlowHandle)

namespace Network

variable (network : Network)

def finish (operation : Pending) : Option Network :=
  if operation ∈ network.pending then
    some { network with pending := network.pending.erase operation }
  else none

def start (operations : List Pending) : Network :=
  { network with pending := operations ++ network.pending }

def releaseFlows (flows : List FlowHandle) : Network :=
  network.start (flows.map Pending.releasing)

/-- The step of an action, where `listenerPort` is the port of the listeners. -/
def next (listenerPort : BitVec 16) (network : Network) : NetworkAction → Option Network
  | .newPacket client token =>
    match network.table.cachedPacketState client token with
    | none => some (network.start [.looking client token])
    | some (cached, ready) =>
      if ready then some network
      else
        some (network.start [.installing client token cached.original cached.sharedFlow false])
  | .lookupFlow client token value current =>
    (network.finish (.looking client token)).map fun network =>
      match lookupFlow network.flowReferences protocolUDP client ⟨token, listenerPort⟩ value
        current with
      | (.error _, references) => { network with flowReferences := references }
      | (.ok (original, flow), references) =>
        { network with flowReferences := references }.start
          [.installing client token original (some flow) true]
  | .setSharedBinding client token original flow retained =>
    (network.finish (.installing client token original flow retained)).map fun network =>
      let (table, released, installed) :=
        network.table.setSharedBinding client original token flow
      { network with table := table }.releaseFlows
        ((if retained && !installed then flow.toList else []) ++ releasedFlows released)
  | .preparePacketConnection client =>
    some { network with table := network.table.loadOrCreate client }
  | .writePacket client identity destination =>
    if network.table.current client identity &&
        ((network.table.state client).bindings.lookup destination).isSome then some network
    else some (network.start [.writing client identity destination])
  | .replyTemplate client identity destination template =>
    (network.finish (.writing client identity destination)).bind fun network =>
      -- the bindings of a deleted state were cleared
      let templates :=
        if network.table.current client identity then
          (network.table.state client).reserveTemplates destination
        else []
      match template with
      | none => if templates.isEmpty then some network else none
      | some template =>
        if template ∈ templates then
          some (network.start [.reserving client identity destination template.sharedFlow
            (network.table.state client).sourceMAC])
        else none
  | .reserveUDPReplyFlow client identity destination base sourceMAC reservation =>
    (network.finish (.reserving client identity destination base sourceMAC)).map fun network =>
      match reserveUDPReplyFlow network.flowReferences listenerPort base destination
        reservation with
      | (.error _, references) => { network with flowReferences := references }
      | (.ok (address, flow), references) =>
        { network with flowReferences := references }.start
          [.replying client identity { destination := destination, sourceMAC := sourceMAC }
            address flow]
  | .setSharedReplyBinding client identity original address flow =>
    (network.finish (.replying client identity original address flow)).map fun network =>
      let (table, released, installed) :=
        network.table.setSharedReplyBinding client identity original address flow
      { network with table := table }.releaseFlows
        (releasedFlows released ++ if installed then [] else [flow])
  | .close client identity order =>
    if order.isPerm ((network.table.state client).bindings.entries.map Sigma.snd) then
      let (table, released) := network.table.deleteClient client identity order
      some ({ network with table := table }.releaseFlows (releasedFlows released))
    else none
  | .releaseFlow flow =>
    (network.finish (.releasing flow)).map fun network =>
      { network with flowReferences := (release network.flowReferences flow).2 }

/-- Where a step stores a binding, the client has no other binding under its
redirect address. -/
def addressFree : NetworkAction → Bool
  | .setSharedBinding client token original _ _ =>
    network.table.addressFree client token original.destination false
  | .setSharedReplyBinding client _ original address _ =>
    network.table.addressFree client address original.destination true
  | _ => true

end Network

def Pending.holds (flow : FlowHandle) : Pending → Nat
  | .installing _ _ _ retainedFlow true => if retainedFlow = some flow then 1 else 0
  | .replying _ _ _ _ retainedFlow | .releasing retainedFlow => if retainedFlow = flow then 1 else 0
  | _ => 0

/-- A binding is stored only for a flow whose reference is held. -/
def Pending.Retained : Pending → Prop
  | .installing _ _ original _ retained => retained = true ∧ original.connectedUDP = false
  | .replying _ _ original _ _ => original.connectedUDP = false
  | _ => True

namespace Network

/-- Every reference of the backend is that of a binding or of a goroutine, apart
from those that are owed. -/
structure Owes (debt : FlowHandle → Nat) (network : Network) : Prop where
  sound : network.table.Sound
  retained : ∀ operation ∈ network.pending, operation.Retained
  balance : ∀ flow, network.flowReferences flow =
    network.table.holders flow + (network.pending.map (Pending.holds flow)).sum + debt flow

/-- Every reference is held by a binding or a goroutine. -/
abbrev Conserved (network : Network) : Prop := network.Owes fun _ => 0

variable {network after : Network} {debt : FlowHandle → Nat} {operation : Pending}
  {operations : List Pending} {listenerPort : BitVec 16} {action : NetworkAction}

theorem sum_holds_releasing (flow : FlowHandle) (flows : List FlowHandle) :
    ((flows.map Pending.releasing).map (Pending.holds flow)).sum = flows.count flow := by
  induction flows with
  | nil => rfl
  | cons first flows induction =>
    simp only [map_cons, sum_cons, count_cons, Pending.holds, beq_iff_eq]
    omega

theorem Conserved.finish (conserved : network.Conserved)
    (isFinished : network.finish operation = some after) :
    after.Owes (operation.holds ·) ∧ operation.Retained := by
  rw [Network.finish] at isFinished
  split at isFinished <;> cases isFinished
  next member =>
  refine ⟨⟨conserved.sound, ?_, ?_⟩, conserved.retained _ member⟩
  · intro other isOther
    exact conserved.retained other (mem_of_mem_erase isOther)
  · intro flow
    have erased := sum_map_erase (Pending.holds flow) member
    have balance := conserved.balance flow
    dsimp only at balance ⊢
    omega

theorem Owes.start (owes : network.Owes debt)
    (retained : ∀ operation ∈ operations, operation.Retained)
    (paid : ∀ flow, debt flow = (operations.map (Pending.holds flow)).sum) :
    (network.start operations).Conserved where
  sound := owes.sound
  retained operation member := by
    rcases mem_append.mp member with isNew | isOld
    · exact retained operation isNew
    · exact owes.retained operation isOld
  balance flow := by
    have balance := owes.balance flow
    rw [paid flow] at balance
    simp only [Network.start, map_append, sum_append]
    omega

theorem Owes.releaseFlows {flows : List FlowHandle} (owes : network.Owes debt)
    (paid : ∀ flow, debt flow = flows.count flow) : (network.releaseFlows flows).Conserved := by
  apply owes.start
  · intro _ member
    rcases mem_map.mp member with ⟨flow, -, rfl⟩
    trivial
  · intro _
    rw [sum_holds_releasing, paid]

theorem Owes.withTable (debtAfter : FlowHandle → Nat) {table : ClientTable}
    (owes : network.Owes debt) (sound : table.Sound)
    (paid : ∀ flow, table.holders flow + debtAfter flow = network.table.holders flow + debt flow) :
    Owes debtAfter { network with table := table } where
  sound := sound
  retained := owes.retained
  balance flow := by
    have balance := owes.balance flow
    have paid := paid flow
    dsimp only
    omega

theorem Conserved.withReferences {Value : Type} {flowOf : Value → Option FlowHandle}
    {result : Except FlowError Value} {references : FlowReferences} (conserved : network.Conserved)
    (isCall : RetainsResult flowOf network.flowReferences (result, references)) :
    Owes (fun flow => match result with
        | .error _ => 0
        | .ok value => if flowOf value = some flow then 1 else 0)
      { network with flowReferences := references } where
  __ := conserved
  balance flow := by
    have balance := conserved.balance flow
    cases result with
    | error error =>
      cases isCall
      exact balance
    | ok value =>
      rw [RetainsResult] at isCall
      dsimp only at isCall ⊢
      rw [isCall]
      cases flowOf value with
      | none => simpa using balance
      | some found =>
        rw [elim_some, retain_apply]
        by_cases same : flow = found
        · subst same
          simp only [if_true]
          omega
        · simp only [if_neg same, some.injEq, if_neg (Ne.symm same)]
          omega

variable {client : AddrPort} {token address : Addr}

theorem Owes.setBindingState (original : RedirectOriginal)
    (owes : network.Owes fun flow => if original.sharedFlow = some flow then 1 else 0)
    (unconnected : original.original.connectedUDP = false)
    (isFree : network.table.addressFree client address original.original.destination
      original.replyAlias = true) :
    let result := network.table.setBindingState client address ⟨client, address⟩ original
    Owes (fun flow => (releasedFlows result.2.1).count flow +
        if result.2.2 then 0 else if original.sharedFlow = some flow then 1 else 0)
      { network with table := result.1 } := by
  apply owes.withTable _ (owes.sound.setBindingState unconnected isFree)
  intro flow
  have held := ClientTable.holders_setBindingState owes.sound unconnected isFree flow
  omega

theorem count_toList (flow : FlowHandle) (held : Option FlowHandle) :
    held.toList.count flow = if held = some flow then 1 else 0 := by
  cases held with
  | none => rfl
  | some => simp [count_cons]

theorem Owes.start_one (owes : network.Owes debt) (paid : ∀ flow, debt flow = operation.holds flow)
    (isRetained : operation.Retained) : (network.start [operation]).Conserved := by
  apply owes.start
  · intro _ member
    rw [mem_singleton.mp member]
    exact isRetained
  · intro _
    simp [paid]

theorem Conserved.newPacket (conserved : network.Conserved)
    (isNext : network.next listenerPort (.newPacket client token) = some after) :
    after.Conserved := by
  rw [Network.next] at isNext
  split at isNext
  · cases isNext
    exact conserved.start_one (fun _ => rfl) trivial
  next isCached =>
  rw [conserved.sound.cached_ready isCached, if_pos rfl] at isNext
  cases isNext
  exact conserved

theorem Conserved.lookupFlow {value : Except SystemError OriginalValue}
    {current : Except SystemError TokenValue} (conserved : network.Conserved)
    (isNext : network.next listenerPort (.lookupFlow client token value current) = some after) :
    after.Conserved := by
  rcases map_eq_some_iff.mp isNext with ⟨middle, isFinished, rfl⟩
  have owes : middle.Conserved := (conserved.finish isFinished).1
  have isCall := lookupFlow_retains middle.flowReferences protocolUDP client ⟨token, listenerPort⟩
    value current
  split
  · next isLookup =>
    rw [isLookup] at isCall
    exact owes.withReferences isCall
  · next isLookup =>
    rw [isLookup] at isCall
    apply (owes.withReferences isCall).start_one
    · simp [Pending.holds]
    · exact ⟨rfl, lookupFlow_connectedUDP isLookup⟩

theorem table_of_finish (isFinished : network.finish operation = some after) :
    after.table = network.table := by
  rw [Network.finish] at isFinished
  split at isFinished <;> cases isFinished
  rfl

section

variable (conserved : network.Conserved)
include conserved

variable {original : OriginalDestination} {destination : AddrPort} {identity : Nat}
  {flow : FlowHandle}

theorem Conserved.setSharedBinding {flow : Option FlowHandle} {retained : Bool}
    (isNext : network.next listenerPort (.setSharedBinding client token original flow retained) =
      some after)
    (isFree : network.addressFree (.setSharedBinding client token original flow retained) = true) :
    after.Conserved := by
  rcases map_eq_some_iff.mp isNext with ⟨middle, isFinished, isAfter⟩
  rcases conserved.finish isFinished with ⟨owes, rfl, unconnected⟩
  rw [addressFree, ← table_of_finish isFinished] at isFree
  have stored := Owes.setBindingState ⟨original, flow, false⟩ owes unconnected isFree
  rw [← isAfter, ClientTable.setSharedBinding]
  generalize middle.table.setBindingState client token ⟨client, token⟩ ⟨original, flow, false⟩ =
    result at stored ⊢
  rcases result with ⟨table, released, installed⟩
  apply Owes.releaseFlows stored
  intro other
  rw [count_append]
  cases installed with
  | true => simp
  | false =>
    simp only [Bool.not_false, Bool.and_self, if_true, count_toList, Bool.false_eq_true, if_false]
    omega

theorem Conserved.reserveUDPReplyFlow
    {base : Option FlowHandle} {sourceMAC : Bytes} {reservation : Reservation}
    (isNext : network.next listenerPort (.reserveUDPReplyFlow client identity destination base
      sourceMAC reservation) = some after) :
    after.Conserved := by
  rcases map_eq_some_iff.mp isNext with ⟨middle, isFinished, rfl⟩
  have owes : middle.Conserved := (conserved.finish isFinished).1
  have isCall := reserveUDPReplyFlow_retains middle.flowReferences listenerPort base destination
    reservation
  split
  · next isReserved =>
    rw [isReserved] at isCall
    exact owes.withReferences isCall
  · next isReserved =>
    rw [isReserved] at isCall
    apply (owes.withReferences isCall).start_one
    · simp [Pending.holds]
    · rfl

theorem Conserved.setSharedReplyBinding
    (isNext : network.next listenerPort (.setSharedReplyBinding client identity original address
      flow) = some after)
    (isFree : network.addressFree (.setSharedReplyBinding client identity original address flow) =
      true) :
    after.Conserved := by
  rcases map_eq_some_iff.mp isNext with ⟨middle, isFinished, isAfter⟩
  rcases conserved.finish isFinished with ⟨owes, unconnected⟩
  rw [addressFree, ← table_of_finish isFinished] at isFree
  rw [← isAfter, ClientTable.setSharedReplyBinding, ClientTable.setExistingBindingState]
  have ownFlow : ∀ other, [flow].count other = if flow = other then 1 else 0 := by
    intro other
    simp [count_cons]
  by_cases isCurrent : middle.table.current client identity = true
  · rw [if_pos isCurrent]
    have owes : middle.Owes fun other => if some flow = some other then 1 else 0 := by
      simpa [Pending.holds] using owes
    have stored := Owes.setBindingState ⟨original, some flow, true⟩ owes unconnected isFree
    generalize middle.table.setBindingState client address ⟨client, address⟩
      ⟨original, some flow, true⟩ = result at stored ⊢
    rcases result with ⟨_, _, installed⟩
    apply Owes.releaseFlows stored
    intro other
    rw [count_append]
    cases installed with
    | true => simp
    | false => simp [ownFlow]
  · rw [if_neg isCurrent]
    apply Owes.releaseFlows owes
    intro other
    exact (ownFlow other).symm

theorem Conserved.close {order : List RedirectBinding}
    (isNext : network.next listenerPort (.close client identity order) = some after) :
    after.Conserved := by
  rw [Network.next] at isNext
  split at isNext <;> cases isNext
  next visits =>
  have visits := isPerm_iff.mp visits
  have removed := conserved.withTable
    (fun flow =>
      (releasedFlows (network.table.deleteClient client identity order).2).count flow)
    (conserved.sound.deleteClient visits)
    (ClientTable.holders_deleteClient conserved.sound visits)
  exact removed.releaseFlows fun _ => rfl

theorem Conserved.releaseFlow
    (isNext : network.next listenerPort (.releaseFlow flow) = some after) : after.Conserved := by
  rcases map_eq_some_iff.mp isNext with ⟨middle, isFinished, rfl⟩
  have owes := (conserved.finish isFinished).1
  refine ⟨owes.sound, owes.retained, ?_⟩
  intro other
  have balance := owes.balance other
  dsimp only
  rw [release_apply]
  simp only [Pending.holds, eq_comm] at balance ⊢
  omega

theorem Conserved.replyTemplate {template : Option RedirectBinding}
    (isNext : network.next listenerPort (.replyTemplate client identity destination template) =
      some after) :
    after.Conserved := by
  rcases bind_eq_some_iff.mp isNext with ⟨middle, isFinished, isAfter⟩
  have owes : middle.Conserved := (conserved.finish isFinished).1
  generalize (if middle.table.current client identity = true then
    (middle.table.state client).reserveTemplates destination else []) = templates at isAfter
  cases template with
  | none =>
    rcases ite_none_right_eq_some.mp isAfter with ⟨-, ⟨⟩⟩
    exact owes
  | some =>
    rcases ite_none_right_eq_some.mp isAfter with ⟨-, ⟨⟩⟩
    exact owes.start_one (fun _ => rfl) trivial

theorem Conserved.next (isNext : network.next listenerPort action = some after)
    (isFree : network.addressFree action = true) : after.Conserved := by
  cases action with
  | newPacket => exact conserved.newPacket isNext
  | lookupFlow => exact conserved.lookupFlow isNext
  | setSharedBinding => exact conserved.setSharedBinding isNext isFree
  | preparePacketConnection client =>
    cases isNext
    refine ⟨ClientTable.loadOrCreate_sound conserved.sound client, conserved.retained, ?_⟩
    intro flow
    rw [ClientTable.holders_loadOrCreate]
    exact conserved.balance flow
  | writePacket =>
    rw [Network.next] at isNext
    split at isNext
    · cases isNext
      exact conserved
    · cases isNext
      exact conserved.start_one (fun _ => rfl) trivial
  | replyTemplate => exact conserved.replyTemplate isNext
  | reserveUDPReplyFlow => exact conserved.reserveUDPReplyFlow isNext
  | setSharedReplyBinding => exact conserved.setSharedReplyBinding isNext isFree
  | close => exact conserved.close isNext
  | releaseFlow => exact conserved.releaseFlow isNext

end

theorem conserved_initial : Conserved {} where
  sound := ClientTable.sound_initial
  retained _ member := by cases member
  balance _ := rfl

/-- A step that stores no binding under an address that another binding has. -/
def nextFree (listenerPort : BitVec 16) (network : Network) (action : NetworkAction) :
    Option Network :=
  if network.addressFree action then network.next listenerPort action else none

/-- When no goroutine is at work, the references of the backend are those of the
bindings; without clients no flow is kept from the sweep. -/
theorem flowReferences_conserved {actions : List NetworkAction}
    (run : Run (fun before action after => before.nextFree listenerPort action = some after)
      {} actions network) (quiet : network.pending = []) :
    (∀ flow, network.flowReferences flow = network.table.holders flow) ∧
      (network.table.clients = ∅ → (∀ flow, network.flowReferences flow = 0) ∧
          ∀ key value current, removeOrphanedFlowCandidate network.flowReferences listenerPort key
            value current ≠ .retained) := by
  have conserved : network.Conserved := by
    apply run.preserves conserved_initial
    intro network _ _ conserved isStep
    rcases ite_none_right_eq_some.mp isStep with ⟨isFree, isNext⟩
    exact conserved.next isNext isFree
  have counts : ∀ flow, network.flowReferences flow = network.table.holders flow := by
    intro flow
    have balance := conserved.balance flow
    rw [quiet] at balance
    exact balance
  refine ⟨counts, fun isEmpty => ?_⟩
  have zero : ∀ flow, network.flowReferences flow = 0 := by
    intro _
    rw [counts, ClientTable.holders, isEmpty, FiniteMap.total_empty]
  refine ⟨zero, ?_⟩
  intro _ _ _
  unfold removeOrphanedFlowCandidate
  simp only [zero, Nat.lt_irrefl, if_false]
  split
  · split <;> intro isRetained <;> cases isRetained
  · split <;> intro isRetained <;> cases isRetained

end Network

/-! ## A client and two of its peers

The kernel program has given the tokens `10.0.0.1` and `10.0.0.2` to the flows of
one client to two peers.
-/

namespace Sample

def client : AddrPort := ⟨.v4 0xc0a80102, 1000⟩

def token : Addr := .v4 0x0a000001

def otherToken : Addr := .v4 0x0a000002

def peer : AddrPort := ⟨.v4 0x01010101, 53⟩

def otherPeer : AddrPort := ⟨.v4 0x08080808, 53⟩

def originalValue (peer : BitVec 32) (generation : BitVec 64) : OriginalValue where
  family := addressFamilyIPv4
  protocol := protocolUDP
  port := 53
  addr := peer ++ 0#96
  interfaceIndex := 3
  generation := generation
  sourceMAC := []

def tokenValue (token : BitVec 32) (generation : BitVec 64) : TokenValue where
  tokenAddr := token ++ 0#96
  generation := generation
  lastSeenNS := 5

def listenerKey (token : BitVec 32) : ListenerKey where
  family := addressFamilyIPv4
  protocol := protocolUDP
  listenerPort := 8000
  tokenAddr := token ++ 0#96
  clientPort := 1000
  clientAddr := 0xc0a80102#32 ++ 0#96

def flow : FlowHandle := makeFlowHandle (listenerKey 0x0a000001) (originalValue 0x01010101 1)

def otherFlow : FlowHandle := makeFlowHandle (listenerKey 0x0a000002) (originalValue 0x08080808 2)

def binding : RedirectBinding where
  address := token
  connected := false
  reference := ⟨client, token⟩
  sharedFlow := some flow
  replyAlias := false

def replyBinding : RedirectBinding where
  address := otherToken
  connected := false
  reference := ⟨client, otherToken⟩
  sharedFlow := some otherFlow
  replyAlias := true

def firstPacket : List NetworkAction :=
  [.newPacket client token,
    .lookupFlow client token (.ok (originalValue 0x01010101 1)) (.ok (tokenValue 0x0a000001 1)),
    .setSharedBinding client token { destination := peer } (some flow) true,
    .preparePacketConnection client]

/-- A reply from the other peer, up to the reservation, which finds the flow of
the kernel program. -/
def reply : List NetworkAction :=
  [.writePacket client 0 otherPeer, .replyTemplate client 0 otherPeer (some binding),
    .reserveUDPReplyFlow client 0 otherPeer (some flow) []
      { existing := ⟨.ok (tokenValue 0x0a000002 2), .ok (tokenValue 0x0a000002 2)⟩
        prepared := .ok ()
        attempts := [] }]

def replyStored : List NetworkAction :=
  [.setSharedReplyBinding client 0 { destination := otherPeer } otherToken otherFlow]

def closed : List NetworkAction :=
  [.close client 0 [binding, replyBinding], .releaseFlow flow, .releaseFlow otherFlow]

/-- A packet of the client to the other peer, whose flow is looked up while the
reply has not been stored. -/
def packetLooked : List NetworkAction :=
  [.newPacket client otherToken, .lookupFlow client otherToken (.ok (originalValue 0x08080808 2))
      (.ok (tokenValue 0x0a000002 2))]

def packetStored : List NetworkAction :=
  [.setSharedBinding client otherToken { destination := otherPeer } (some otherFlow) true]

def session : List NetworkAction := firstPacket ++ reply ++ replyStored ++ closed

/-- The packet and the reply look up the same flow before either stores its
binding. -/
def race : List NetworkAction :=
  firstPacket ++ reply ++ packetLooked ++ packetStored ++ replyStored ++ closed

end Sample

theorem session_conserved : ∃ network : Network,
    Run (fun before action after => before.nextFree 8000 action = some after) {} Sample.session
        network ∧
      network.pending = [] ∧ network.table.clients = ∅ ∧
      ∀ flow, network.flowReferences flow = 0 := by
  have executed : (Run.execute (Network.nextFree 8000) {} Sample.session).isSome = true := by
    decide +kernel
  have run := Run.of_execute (some_get executed).symm
  exact ⟨_, run, rfl, rfl, ((Network.flowReferences_conserved run rfl).2 rfl).1⟩

/-- Both hold a reference of the flow; the second binding takes the place of the
first under the same redirect address, and the table gives back no flow. -/
theorem race_pins_flow : ∃ network : Network,
    Run (fun before action after => before.next 8000 action = some after) {} Sample.race network ∧
      network.pending = [] ∧ network.table.clients = ∅ ∧
      network.flowReferences Sample.otherFlow = 1 ∧
      ∀ current, removeOrphanedFlowCandidate network.flowReferences 8000
        Sample.otherFlow.originalKey (Sample.tokenValue 0x0a000002 2) current = .retained := by
  have executed : (Run.execute (Network.next 8000) {} Sample.race).isSome = true := by
    decide +kernel
  have run := Run.of_execute (some_get executed).symm
  exact ⟨_, run, rfl, rfl, rfl, fun _ => rfl⟩

end SingBox.Ebpf
