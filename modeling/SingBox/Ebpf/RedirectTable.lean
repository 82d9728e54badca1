import SingBox.Ebpf.ClientTable
import SingBox.Foundation.Run

/-! # The UDP redirect table

The table of UDP clients for all kinds of bindings, with the state of connected
sockets. The redirect references are the bindings that are not connected, and
the reference that an operation takes to zero is the one it reports.
-/

namespace SingBox.Ebpf

open Netip References List FiniteMap Function

/-- The fields of `udpClientState` for a connected socket. -/
structure Socket where
  connected : Bool := false
  connectedDestination : AddrPort := ⟨.invalid, 0⟩
  connectedBinding : Option RedirectBinding := none

/-- `udpClientTable`, with the sockets of the clients it holds. -/
structure UdpTable where
  table : ClientTable := {}
  sockets : AddrPort → Socket := fun _ => {}

namespace UdpTable

variable (udp : UdpTable) (client : AddrPort)

/-- The end of `setBindingState` and `setExistingBindingState`. -/
def installed (address : Addr) (reference : RedirectReference) (original : RedirectOriginal)
    (result : ClientTable × List RedirectRelease × Bool) : UdpTable × List RedirectRelease :=
  let socket := udp.sockets client
  ({ table := result.1
     sockets := update udp.sockets client <|
      if result.2.2 && socket.connected &&
          socket.connectedDestination = original.original.destination then
        { socket with connectedBinding := some (original.binding address reference) }
      else socket },
    result.2.1)

def setBindingState (address : Addr) (reference : RedirectReference)
    (original : RedirectOriginal) : UdpTable × List RedirectRelease :=
  udp.installed client address reference original
    (udp.table.setBindingState client address reference original)

def setExistingBindingState (expected : Nat) (address : Addr) (reference : RedirectReference)
    (original : RedirectOriginal) : UdpTable × List RedirectRelease :=
  udp.installed client address reference original
    (udp.table.setExistingBindingState client expected address reference original)

/-- A deleted state has no bindings, so that it keeps no connected binding. -/
def setConnected (expected : Nat) (connected : Bool) (destination : AddrPort) : UdpTable :=
  if udp.table.current client expected then
    { udp with
      sockets := update udp.sockets client <|
        if connected then
          { connected := true
            connectedDestination := destination
            connectedBinding := (udp.table.state client).bindings.lookup destination }
        else {} }
  else udp

/-- `deleteClient`; a state that is made later has a socket of its own. -/
def deleteClient (expected : Nat) (order : List RedirectBinding) :
    UdpTable × List RedirectRelease :=
  let result := udp.table.deleteClient client expected order
  ({ table := result.1
     sockets :=
      if udp.table.current client expected then update udp.sockets client {} else udp.sockets },
    result.2)

end UdpTable

/-- The operations. Those for a cgroup use the redirect address alone as the
reference. -/
inductive UdpAction
  | setBinding (client destination : AddrPort) (address : Addr) (connected : Bool)
  | setSharedBinding (client : AddrPort) (original : OriginalDestination) (address : Addr)
    (flow : Option FlowHandle)
  | setReplyBinding (client : AddrPort) (expected : Nat) (destination : AddrPort) (address : Addr)
  | setSharedReplyBinding (client : AddrPort) (expected : Nat) (original : OriginalDestination)
    (address : Addr) (flow : Option FlowHandle)
  | setConnected (client : AddrPort) (expected : Nat) (connected : Bool) (destination : AddrPort)
  | delete (client : AddrPort) (expected : Nat) (order : List RedirectBinding)

def addressReference (address : Addr) : RedirectReference := ⟨⟨.invalid, 0⟩, address⟩

def UdpTable.act (udp : UdpTable) : UdpAction → UdpTable × List RedirectRelease
  | .setBinding client destination address connected =>
    udp.setBindingState client address (addressReference address)
      { original := { destination := destination, connectedUDP := connected }, sharedFlow := none }
  | .setSharedBinding client original address flow =>
    udp.setBindingState client address ⟨client, address⟩
      { original := original, sharedFlow := flow }
  | .setReplyBinding client expected destination address =>
    udp.setExistingBindingState client expected address (addressReference address)
      { original := { destination := destination }, sharedFlow := none, replyAlias := true }
  | .setSharedReplyBinding client expected original address flow =>
    udp.setExistingBindingState client expected address ⟨client, address⟩
      { original := original, sharedFlow := flow, replyAlias := true }
  | .setConnected client expected connected destination =>
    (udp.setConnected client expected connected destination, [])
  | .delete client expected order => udp.deleteClient client expected order

/-- The loop of `deleteClient` visits every binding once. -/
def UdpTable.Step (udp : UdpTable) (action : UdpAction) (after : UdpTable) : Prop :=
  (udp.act action).1 = after ∧
    match action with
    | .delete client _ order => order.Perm ((udp.table.state client).bindings.entries.map Sigma.snd)
    | _ => True

/-! ## The invariant -/

structure ClientState.Kept (state : ClientState) : Prop where
  aliases : state.replyAliasCount =
    total (fun _ binding => binding.replyAlias.toNat) state.bindings
  limited : state.replyAliasCount ≤ udpReplyAliasLimit
  originals : ∀ {destination binding}, state.bindings.lookup destination = some binding →
    (state.originals.lookup binding.address).isSome

structure Socket.Fits (bindings : FiniteMap AddrPort RedirectBinding) (socket : Socket) :
    Prop where
  closed : socket.connected = false → socket.connectedBinding = none
  binding : socket.connectedBinding = none ∨
    socket.connectedBinding = bindings.lookup socket.connectedDestination

structure ClientSound (sockets : AddrPort → Socket) (client : AddrPort) (state : ClientState) :
    Prop where
  kept : state.Kept
  fits : (sockets client).Fits state.bindings

/-- A client that is not in the table has the state it would get. -/
structure UdpTable.Sound (udp : UdpTable) : Prop where
  references : udp.table.Counted
  clients : ∀ client, ClientSound udp.sockets client (udp.table.state client)

/-- The references that are reported are those that were taken to zero, each once. -/
def Reports (before after : RedirectReferences) (released : List RedirectRelease) : Prop :=
  ∀ reference, (released.map RedirectRelease.reference).count reference =
    if 0 < before reference ∧ after reference = 0 then 1 else 0

section

variable {references : RedirectReferences} {state : ClientState} {address : Addr}
  {reference : RedirectReference} {original : RedirectOriginal}

theorem ClientState.Kept.new (identity : Nat) : Kept { identity := identity } where
  aliases := rfl
  limited := Nat.zero_le _
  originals isBinding := by cases isBinding

theorem ClientState.Kept.bind (kept : state.Kept)
    (room : original.replyAlias = true →
      (state.bindings.lookup original.original.destination).any RedirectBinding.replyAlias = false →
      state.replyAliasCount < udpReplyAliasLimit) :
    (state.bind address reference original).Kept := by
  have counted := total_insert (fun _ binding => binding.replyAlias.toNat) state.bindings
    original.original.destination (original.binding address reference)
  have isCount := kept.aliases
  have limited := kept.limited
  constructor
  case aliases =>
    simp only [ClientState.bind]
    cases isCurrent : state.bindings.lookup original.original.destination with
    | none => cases isAlias : original.replyAlias <;> simp_all [RedirectOriginal.binding]
    | some current =>
      cases isAlias : original.replyAlias <;> cases wasAlias : current.replyAlias <;>
        simp_all [RedirectOriginal.binding]
      omega
  case limited =>
    simp only [ClientState.bind]
    split
    case isTrue gains =>
      rw [Bool.and_eq_true, Bool.not_eq_true_eq_eq_false] at gains
      exact room gains.1 gains.2
    case isFalse => split <;> omega
  case originals =>
    intro _ binding isBinding
    have isThere : ((state.originals.insert address original).lookup binding.address).isSome := by
      rw [lookup_insert]
      split
      · rfl
      next different =>
      rcases lookup_insert_cases isBinding with ⟨-, isNew⟩ | ⟨-, wasBinding⟩
      · exact absurd (congrArg RedirectBinding.address isNew) different
      · exact kept.originals wasBinding
    simp only [ClientState.bind]
    split
    · exact isThere
    next =>
    split
    · rw [deleteUnusedOriginal]
      split
      · exact isThere
      next notUsed =>
      rw [lookup_erase, if_neg]
      · exact isThere
      · intro same
        apply notUsed
        rw [any_eq_true]
        exact ⟨_, mem_entries_iff.mpr isBinding, decide_eq_true same⟩
    · exact isThere

theorem reports_releaseEach {before retained : RedirectReferences}
    {leaving : List RedirectBinding} (kept : ∀ reference, before reference ≤ retained reference)
    (held : ∀ reference,
      (leaving.map RedirectBinding.reference).count reference ≤ before reference) :
    Reports before (releaseEach RedirectBinding.reference retained leaving).2
      ((releaseEach RedirectBinding.reference retained leaving).1.map RedirectBinding.release) := by
  intro reference
  have := kept reference
  have := held reference
  simp only [map_map, releaseEach_apply]
  exact (count_releaseEach RedirectBinding.reference ..).trans (if_congr (by omega) rfl rfl)

theorem reports_nothing {before after : RedirectReferences}
    (same : after = before) : Reports before after [] := by
  rw [same]
  intro reference
  rw [if_neg (by omega)]
  rfl

theorem Socket.Fits.insert {bindings : FiniteMap AddrPort RedirectBinding} {socket : Socket}
    (fits : socket.Fits bindings) (destination : AddrPort) (binding : RedirectBinding) :
    Socket.Fits (bindings.insert destination binding)
      (if socket.connected && socket.connectedDestination = destination then
        { socket with connectedBinding := some binding }
      else socket) := by
  split
  · next isHere =>
    rw [Bool.and_eq_true, decide_eq_true_eq] at isHere
    refine ⟨fun closed => ?_, .inr ?_⟩
    · rw [isHere.1] at closed
      cases closed
    · rw [isHere.2, lookup_insert, if_pos rfl]
  · next elsewhere =>
    refine ⟨fits.closed, ?_⟩
    cases isConnected : socket.connected with
    | false => exact .inl (fits.closed isConnected)
    | true =>
      rw [isConnected, Bool.true_and, decide_eq_true_eq] at elsewhere
      rw [lookup_insert, if_neg elsewhere]
      exact fits.binding

theorem ClientState.Kept.setClientBinding {socket : Socket} (kept : state.Kept)
    (fits : socket.Fits state.bindings) (held : ∀ other, state.uses other ≤ references other)
    (address : Addr) (reference : RedirectReference) (original : RedirectOriginal) :
    let result := setClientBinding references state address reference original
    result.state.Kept ∧
      Socket.Fits result.state.bindings
        (if result.installed && socket.connected &&
            socket.connectedDestination = original.original.destination then
          { socket with connectedBinding := some (original.binding address reference) }
        else socket) ∧
      Reports references result.redirectReferences result.released := by
  rcases setClientBinding_eq references state address reference original with
    isRejected | ⟨-, room, isInstalled⟩
  · rw [isRejected]
    exact ⟨kept, by simpa using fits, reports_nothing rfl⟩
  rw [isInstalled, installBinding_eq]
  refine ⟨kept.bind room, fits.insert _ _, reports_releaseEach ?_ fun other => ?_⟩
  · intro other
    rw [retained_apply _ address]
    exact Nat.le_add_right ..
  · exact ((Nat.le_add_left ..).trans (state.count_leaving ..).le).trans (held other)

end

section

variable {udp : UdpTable} {client : AddrPort} {address : Addr} {expected : Nat}
  {reference : RedirectReference} {original : RedirectOriginal}

namespace UdpTable

/-- An operation that keeps the invariant and reports what it should. -/
def Keeps (udp : UdpTable) (result : UdpTable × List RedirectRelease) : Prop :=
  result.1.Sound ∧ Reports udp.table.redirectReferences result.1.table.redirectReferences result.2

section

variable (sound : udp.Sound)
include sound

theorem Sound.others {socket : Socket} (other : AddrPort) (different : other ≠ client) :
    ClientSound (update udp.sockets client socket) other (udp.table.state other) := by
  refine ⟨(sound.clients other).kept, ?_⟩
  rw [update_of_ne different]
  exact (sound.clients other).fits

theorem Sound.setBindingState :
    udp.Keeps (udp.setBindingState client address reference original) := by
  have after := (sound.clients client).kept.setClientBinding (sound.clients client).fits
    (sound.references.uses_le client) address reference original
  refine ⟨⟨sound.references.setBindingState address reference original, ?_⟩, after.2.2⟩
  refine ClientTable.forall_state_store sound.others
    (fun _ held => ⟨{ held.kept with }, held.fits⟩)
    ⟨after.1, ?_⟩
  dsimp only [UdpTable.setBindingState, installed]
  rw [update_self]
  exact after.2.1

theorem Sound.setExistingBindingState :
    udp.Keeps (udp.setExistingBindingState client expected address reference original) := by
  rw [UdpTable.setExistingBindingState, ClientTable.setExistingBindingState]
  split
  · exact sound.setBindingState
  · rw [installed, Bool.false_and, Bool.false_and, if_neg Bool.false_ne_true, update_eq_self]
    exact ⟨sound, reports_nothing rfl⟩

theorem Sound.setConnected (connected : Bool) (destination : AddrPort) :
    (udp.setConnected client expected connected destination).Sound := by
  rw [UdpTable.setConnected]
  split
  · refine ⟨sound.references, fun other => ?_⟩
    by_cases same : other = client
    · subst same
      refine ⟨(sound.clients other).kept, ?_⟩
      dsimp only
      rw [update_self]
      cases connected with
      | true => exact ⟨nofun, .inr rfl⟩
      | false => exact ⟨fun _ => rfl, .inl rfl⟩
    · exact sound.others other same
  · exact sound

theorem Sound.deleteClient {order : List RedirectBinding}
    (visits : order.Perm ((udp.table.state client).bindings.entries.map Sigma.snd)) :
    udp.Keeps (udp.deleteClient client expected order) := by
  have counted := sound.references.deleteClient visits expected
  rw [ClientTable.deleteClient] at counted
  rw [UdpTable.deleteClient, ClientTable.deleteClient]
  cases isCurrent : udp.table.current client expected with
  | false => exact ⟨sound, reports_nothing rfl⟩
  | true =>
    rw [isCurrent] at counted
    simp only [if_true] at counted ⊢
    refine ⟨⟨counted, ClientTable.forall_state_erase sound.others ⟨.new _, ?_⟩⟩, ?_⟩
    · dsimp only
      rw [update_self]
      exact ⟨fun _ => rfl, .inl rfl⟩
    · refine reports_releaseEach (fun _ => Nat.le_refl _) fun reference => ?_
      rw [ClientTable.count_visited visits]
      exact sound.references.uses_le client reference

theorem Sound.act {action : UdpAction} {after : UdpTable} (isStep : udp.Step action after) :
    udp.Keeps (udp.act action) := by
  cases action with
  | setBinding | setSharedBinding => exact sound.setBindingState
  | setReplyBinding | setSharedReplyBinding => exact sound.setExistingBindingState
  | setConnected client expected connected destination =>
    refine ⟨sound.setConnected connected destination, reports_nothing ?_⟩
    rw [UdpTable.act, UdpTable.setConnected]
    split <;> rfl
  | delete => exact sound.deleteClient isStep.2

end

end UdpTable

end

/-- In every run the references, the aliases, the originals and the connected
bindings fit the bindings of the table, and each operation reports the references
it takes to zero. -/
theorem udpTable_sound {actions : List UdpAction} {udp : UdpTable}
    (run : Run UdpTable.Step {} actions udp) :
    udp.Sound ∧ ∀ action after, udp.Step action after →
      Reports udp.table.redirectReferences after.table.redirectReferences (udp.act action).2 := by
  have sound : udp.Sound := by
    refine run.preserves ⟨fun _ => rfl, fun client => ?_⟩
      fun sound isStep => isStep.1 ▸ (sound.act isStep).1
    exact ⟨.new _, fun _ => rfl, .inl rfl⟩
  refine ⟨sound, fun action after isStep => ?_⟩
  rw [← isStep.1]
  exact (sound.act isStep).2

def bindAction (client : Addr) : UdpAction :=
  .setBinding ⟨client, 1⟩ ⟨.v4 9, 53⟩ (.v4 3) false

/-- Two clients get the same redirect address, and the second one is deleted. -/
theorem udpTable_sound_deleted :
    ∃ binding udp, Run UdpTable.Step {} [bindAction (.v4 1), bindAction (.v4 2),
        .setConnected ⟨.v4 1, 1⟩ 0 true ⟨.v4 9, 53⟩, .delete ⟨.v4 2, 1⟩ 1 [binding]] udp ∧
      udp.table.redirectReferences (addressReference (.v4 3)) = 1 ∧ udp.Sound := by
  have bound : Run UdpTable.Step {} [bindAction (.v4 1)] _ := Run.start.extend ⟨rfl, trivial⟩
  have both : Run UdpTable.Step {} [_, bindAction (.v4 2)] _ := bound.extend ⟨rfl, trivial⟩
  have connected : Run UdpTable.Step {} [_, _, .setConnected ⟨.v4 1, 1⟩ 0 true ⟨.v4 9, 53⟩] _ :=
    both.extend ⟨rfl, trivial⟩
  have deleted : Run UdpTable.Step {} [_, _, _, .delete ⟨.v4 2, 1⟩ 1 [_]] _ :=
    connected.extend ⟨rfl, .refl _⟩
  exact ⟨_, _, deleted, rfl, (udpTable_sound deleted).1⟩

end SingBox.Ebpf
