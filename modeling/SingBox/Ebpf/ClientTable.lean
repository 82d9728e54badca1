import SingBox.Ebpf.Flows
import SingBox.Foundation.FiniteMap

/-! # The table of UDP clients

The table counts the bindings of each redirect address a second time, next to
the references of the backend. A client state is a heap object: a state that was
deleted and one that was made later for the same client differ in `identity`.
What a lock protects is one function here; the fields for connected sockets are
not used by the shared network.
-/

namespace SingBox.Ebpf

open Netip References List FiniteMap Bool Nat

/-- `udpRedirectReference`. -/
structure RedirectReference where
  client : AddrPort
  address : Addr
  deriving DecidableEq

/-- `udpRedirectBinding`, without the packet info, which is made from the address. -/
structure RedirectBinding where
  address : Addr
  connected : Bool
  reference : RedirectReference
  sharedFlow : Option FlowHandle
  replyAlias : Bool
  deriving DecidableEq

/-- `udpRedirectRelease`. -/
structure RedirectRelease where
  reference : RedirectReference
  sharedFlow : Option FlowHandle
  deriving DecidableEq

/-- `udpOriginalDestination`. -/
structure RedirectOriginal where
  original : OriginalDestination
  sharedFlow : Option FlowHandle
  replyAlias : Bool := false
  deriving DecidableEq

/-- `udpClientState`. -/
structure ClientState where
  identity : Nat
  sourceMAC : Bytes := []
  bindings : FiniteMap AddrPort RedirectBinding := ∅
  originals : FiniteMap Addr RedirectOriginal := ∅
  replyAliasCount : Nat := 0

/-- `uint32` counts, which are numbers of bindings (`ClientTable.Counted`): one would wrap
only with 2^32 bindings at once. -/
abbrev RedirectReferences := RedirectReference → Nat

/-- `udpClientTable`, and how many client states were made. -/
structure ClientTable where
  clients : FiniteMap AddrPort ClientState := ∅
  redirectReferences : RedirectReferences := fun _ => 0
  created : Nat := 0

def udpReplyAliasLimit : Nat := 64

/-- What a binding gives back when its last redirect reference is released. -/
def RedirectBinding.release (binding : RedirectBinding) : RedirectRelease where
  reference := binding.reference
  sharedFlow := binding.sharedFlow

/-- `deleteUnusedOriginalLocked`. -/
def deleteUnusedOriginal (bindings : FiniteMap AddrPort RedirectBinding) (address : Addr)
    (originals : FiniteMap Addr RedirectOriginal) : FiniteMap Addr RedirectOriginal :=
  if bindings.entries.any fun entry => entry.2.address = address then originals
  else originals.erase address

/-- The results of `setClientBinding`, with the changed state and references. -/
structure Installation where
  state : ClientState
  redirectReferences : RedirectReferences
  released : List RedirectRelease
  installed : Bool

/-- The binding that `setClientBinding` stores. -/
def RedirectOriginal.binding (original : RedirectOriginal) (redirectAddress : Addr)
    (reference : RedirectReference) : RedirectBinding where
  address := redirectAddress
  connected := original.original.connectedUDP
  reference := reference
  sharedFlow := original.sharedFlow
  replyAlias := original.replyAlias

def ClientState.bind (state : ClientState) (redirectAddress : Addr)
    (reference : RedirectReference) (original : RedirectOriginal) : ClientState :=
  let current := state.bindings.lookup original.original.destination
  let bindings := state.bindings.insert original.original.destination
    (original.binding redirectAddress reference)
  let originals := state.originals.insert redirectAddress original
  { identity := state.identity
    sourceMAC :=
      if original.original.sourceMAC.isEmpty then state.sourceMAC
      else original.original.sourceMAC
    bindings := bindings
    originals :=
      match current with
      | none => originals
      | some current =>
        if current.address ≠ redirectAddress then
          deleteUnusedOriginal bindings current.address originals
        else originals
    replyAliasCount :=
      if original.replyAlias && !current.any RedirectBinding.replyAlias then
        state.replyAliasCount + 1
      else if !original.replyAlias && current.any RedirectBinding.replyAlias then
        state.replyAliasCount - 1
      else state.replyAliasCount }

/-- The part of `setClientBinding` that stores the binding and passes the redirect
reference on. -/
def installBinding (references : RedirectReferences) (state : ClientState) (redirectAddress : Addr)
    (reference : RedirectReference) (original : RedirectOriginal) : Installation :=
  let after := state.bind redirectAddress reference original
  let references :=
    if original.original.connectedUDP then references else retain references reference
  match state.bindings.lookup original.original.destination with
  | none => { state := after, redirectReferences := references, released := [], installed := true }
  | some current =>
    if current.connected then
      { state := after, redirectReferences := references, released := [], installed := true }
    else
      let (isLast, references) := References.release references current.reference
      { state := after
        redirectReferences := references
        released := if isLast then [current.release] else []
        installed := true }

def setClientBinding (references : RedirectReferences) (state : ClientState)
    (redirectAddress : Addr) (reference : RedirectReference) (original : RedirectOriginal) :
    Installation :=
  let current := state.bindings.lookup original.original.destination
  let rejected : Installation :=
    { state := state, redirectReferences := references, released := [], installed := false }
  if current.any fun current =>
      current.address = redirectAddress && current.connected == original.original.connectedUDP &&
        current.replyAlias == original.replyAlias then rejected
  else if original.replyAlias && !current.any RedirectBinding.replyAlias &&
      udpReplyAliasLimit ≤ state.replyAliasCount then rejected
  else installBinding references state redirectAddress reference original

namespace ClientTable

variable (table : ClientTable) (client : AddrPort)

/-- The state that `loadOrCreateLocked` returns. -/
def state : ClientState :=
  (table.clients.lookup client).getD { identity := table.created }

/-- The table with a state for the client, as `loadOrCreateLocked` leaves it if
the state is the one it returned. -/
def store (state : ClientState) : ClientTable where
  clients := table.clients.insert client state
  redirectReferences := table.redirectReferences
  created := if (table.clients.lookup client).isSome then table.created else table.created + 1

def loadOrCreate : ClientTable :=
  if (table.clients.lookup client).isSome then table else table.store client (table.state client)

/-- `load` gave a state with this identity, and the client still has it. -/
def current (expected : Nat) : Bool :=
  (table.clients.lookup client).any fun state => state.identity = expected

/-- `cachedPacketState`: the original destination and whether its binding is ready. -/
def cachedPacketState (redirectAddress : Addr) : Option (RedirectOriginal × Bool) :=
  match table.clients.lookup client with
  | none => none
  | some state =>
    (state.originals.lookup redirectAddress).map fun original =>
      (original,
        (state.bindings.lookup original.original.destination).any fun binding =>
          binding.address = redirectAddress && binding.connected == original.original.connectedUDP)

def setBindingState (redirectAddress : Addr) (reference : RedirectReference)
    (original : RedirectOriginal) : ClientTable × List RedirectRelease × Bool :=
  let installation := setClientBinding table.redirectReferences (table.state client)
    redirectAddress reference original
  ({ table.store client installation.state with
      redirectReferences := installation.redirectReferences },
    installation.released, installation.installed)

def setSharedBinding (original : OriginalDestination) (redirectAddress : Addr)
    (flow : Option FlowHandle) : ClientTable × List RedirectRelease × Bool :=
  table.setBindingState client redirectAddress { client := client, address := redirectAddress }
    { original := original, sharedFlow := flow }

def setExistingBindingState (expected : Nat)
    (redirectAddress : Addr) (reference : RedirectReference) (original : RedirectOriginal) :
    ClientTable × List RedirectRelease × Bool :=
  if table.current client expected then
    table.setBindingState client redirectAddress reference original
  else (table, [], false)

def setSharedReplyBinding (expected : Nat) (original : OriginalDestination)
    (redirectAddress : Addr) (flow : FlowHandle) : ClientTable × List RedirectRelease × Bool :=
  table.setExistingBindingState client expected redirectAddress
    { client := client, address := redirectAddress }
    { original := original, sharedFlow := some flow, replyAlias := true }

/-- `deleteClient`, where `order` is the order in which the loop visits the
bindings. -/
def deleteClient (expected : Nat)
    (order : List RedirectBinding) : ClientTable × List RedirectRelease :=
  if table.current client expected then
    let (released, references) := releaseEach RedirectBinding.reference table.redirectReferences
      (order.filter fun binding => !binding.connected)
    ({ table with
        clients := table.clients.erase client
        redirectReferences := references },
      released.map RedirectBinding.release)
  else (table, [])

end ClientTable

/-- The bindings one of which `replyTemplate` returns: the first one that the
loop over the map meets. -/
def ClientState.replyTemplates (state : ClientState) (destination : AddrPort) (shared : Bool) :
    List RedirectBinding :=
  if udpReplyAliasLimit ≤ state.replyAliasCount then []
  else
    (state.bindings.entries.map Sigma.snd).filter fun binding =>
      binding.address.is4 == destination.addr.is4 && (!shared || binding.sharedFlow.isSome)

/-- The template of `reserveReplyBinding`: one with a shared flow is preferred. -/
def ClientState.reserveTemplates (state : ClientState) (destination : AddrPort) :
    List RedirectBinding :=
  if (state.replyTemplates destination true).isEmpty then state.replyTemplates destination false
  else state.replyTemplates destination true

/-! ## Redirect references

Each binding that is not connected holds one redirect reference. A binding that
is replaced gives it back as the bindings of a deleted client do.
-/

/-- Whether the binding is one of those that its reference counts. -/
def RedirectBinding.uses (reference : RedirectReference) (binding : RedirectBinding) : Nat :=
  if binding.connected = false ∧ binding.reference = reference then 1 else 0

def ClientState.uses (reference : RedirectReference) (state : ClientState) : Nat :=
  total (fun _ binding => binding.uses reference) state.bindings

theorem count_references (reference : RedirectReference) (bindings : List RedirectBinding) :
    ((bindings.filter fun binding => !binding.connected).map
      RedirectBinding.reference).count reference =
      (bindings.map (RedirectBinding.uses reference)).sum := by
  induction bindings with
  | nil => rfl
  | cons binding _ induction =>
    rw [map_cons, sum_cons, ← induction, RedirectBinding.uses, filter_cons]
    cases binding.connected with
    | true => simp
    | false => simp [count_cons, add_comm]

namespace ClientState

section

variable (references : RedirectReferences) (state : ClientState) (address : Addr)
  (reference : RedirectReference) (original : RedirectOriginal)

/-- The binding that is replaced, if it holds a reference. -/
def leaving (state : ClientState) (destination : AddrPort) : List RedirectBinding :=
  (state.bindings.lookup destination).toList.filter fun binding => !binding.connected

theorem count_leaving (destination : AddrPort) :
    total (fun _ binding => binding.uses reference) (state.bindings.erase destination) +
      ((state.leaving destination).map RedirectBinding.reference).count reference =
        state.uses reference := by
  rw [leaving, count_references, uses, ← total_erase _ state.bindings destination]
  cases state.bindings.lookup destination <;> simp

theorem installBinding_eq :
    installBinding references state address reference original =
      let released := releaseEach RedirectBinding.reference
        (if original.original.connectedUDP then references else retain references reference)
        (state.leaving original.original.destination)
      ⟨state.bind address reference original, released.2,
        released.1.map RedirectBinding.release, true⟩ := by
  rw [installBinding, leaving]
  cases state.bindings.lookup original.original.destination with
  | none => rfl
  | some current =>
    cases isConnected : current.connected with
    | true => simp [isConnected, releaseEach]
    | false =>
      simp only [isConnected, Option.toList_some, filter_cons, Bool.not_false, if_true, filter_nil,
        releaseEach, false_eq_true, if_false, apply_ite (map _), map_cons, map_nil]

theorem retained_apply (other : RedirectReference) :
    (if original.original.connectedUDP then references else retain references reference) other =
      references other + (original.binding address reference).uses other := by
  cases isConnected : original.original.connectedUDP <;>
    simp [RedirectBinding.uses, RedirectOriginal.binding, retain_apply, eq_comm, isConnected]

theorem installBinding_references {other : RedirectReference}
    (held : state.uses other ≤ references other) :
    (installBinding references state address reference original).redirectReferences other +
        state.uses other =
      references other + (state.bind address reference original).uses other := by
  have left := state.count_leaving other original.original.destination
  have stored := total_insert_eq (fun _ binding => RedirectBinding.uses other binding)
    state.bindings original.original.destination (original.binding address reference)
  change (state.bind address reference original).uses other = _ at stored
  simp only [installBinding_eq, releaseEach_apply, retained_apply references address]
  omega

theorem setClientBinding_eq :
    setClientBinding references state address reference original =
        ⟨state, references, [], false⟩ ∨
      ((state.bindings.lookup original.original.destination).any fun current =>
        current.address = address && current.connected == original.original.connectedUDP &&
          current.replyAlias == original.replyAlias) = false ∧
      (original.replyAlias = true →
        (state.bindings.lookup original.original.destination).any RedirectBinding.replyAlias =
          false → state.replyAliasCount < udpReplyAliasLimit) ∧
      setClientBinding references state address reference original =
        installBinding references state address reference original := by
  rw [setClientBinding]
  split
  · exact .inl rfl
  next notSame =>
  split
  · exact .inl rfl
  next room =>
  refine .inr ⟨eq_false_of_not_eq_true notSame, ?_, rfl⟩
  intro isAlias wasAlias
  simpa [isAlias, wasAlias] using room

end

end ClientState

namespace ClientTable

variable {table : ClientTable} {client : AddrPort} {state : ClientState}
  {references : RedirectReferences}

/-- A redirect reference counts the bindings of the live clients. -/
def Counted (table : ClientTable) : Prop :=
  ∀ reference, table.redirectReferences reference =
    total (fun _ state => state.uses reference) table.clients

theorem state_of_lookup (isFound : table.clients.lookup client = some state) :
    table.state client = state := by
  rw [ClientTable.state, isFound, Option.getD_some]

section

variable {holds : AddrPort → ClientState → Prop}
  (kept : ∀ other, other ≠ client → holds other (table.state other))
include kept

/-- What holds of the states of all clients, whatever their identity is. -/
theorem forall_state_store
    (renamed : ∀ {other state} identity, holds other state →
      holds other { state with identity := identity })
    (isHeld : holds client state) (other : AddrPort) :
    holds other
      (({ table.store client state with redirectReferences := references } : ClientTable).state
        other) := by
  have isKept := kept other
  rw [ClientTable.state] at isKept ⊢
  dsimp only [ClientTable.store]
  rw [lookup_insert]
  split
  · next same => exact same ▸ isHeld
  next different =>
  cases isFound : table.clients.lookup other with
  | none =>
    rw [isFound] at isKept
    exact renamed _ (isKept different)
  | some =>
    rw [isFound] at isKept
    exact isKept different

theorem forall_state_erase (isNew : holds client { identity := table.created })
    (other : AddrPort) :
    holds other
      (({ table with
          clients := table.clients.erase client
          redirectReferences := references } : ClientTable).state other) := by
  have isKept := kept other
  rw [ClientTable.state] at isKept ⊢
  rw [lookup_erase]
  split
  · next same => exact same ▸ isNew
  · next different => exact isKept different

end

theorem total_store {weight : ClientState → Nat}
    (isNew : ∀ identity, weight { identity := identity } = 0) (table : ClientTable)
    (client : AddrPort) (state : ClientState) :
    total (fun _ state => weight state) (table.clients.insert client state) +
        weight (table.state client) =
      total (fun _ state => weight state) table.clients + weight state := by
  have stored := total_insert (fun _ state => weight state) table.clients client state
  rw [ClientTable.state]
  cases isFound : table.clients.lookup client with
  | none =>
    rw [isFound] at stored
    rw [Option.getD_none, isNew]
    exact stored
  | some =>
    rw [isFound] at stored
    exact stored

section

variable (counted : table.Counted)
include counted

theorem Counted.erase (client : AddrPort) (reference : RedirectReference) :
    total (fun _ state => state.uses reference) (table.clients.erase client) +
      (table.state client).uses reference = table.redirectReferences reference := by
  have erased := total_erase (fun _ state => state.uses reference) table.clients client
  rw [counted, ← erased, ClientTable.state]
  cases table.clients.lookup client <;> rfl

theorem Counted.uses_le (client : AddrPort) (reference : RedirectReference) :
    (table.state client).uses reference ≤ table.redirectReferences reference := by
  rw [← counted.erase client]
  exact Nat.le_add_left ..

theorem Counted.store (moved : ∀ reference, references reference +
      (table.state client).uses reference =
        table.redirectReferences reference + state.uses reference) :
    Counted { table.store client state with redirectReferences := references } := by
  intro reference
  have stored := total_store (fun identity => (rfl : ClientState.uses reference
    { identity := identity } = 0)) table client state
  have := moved reference
  have := counted reference
  dsimp only [ClientTable.store]
  omega

theorem Counted.setBindingState (address : Addr) (reference : RedirectReference)
    (original : RedirectOriginal) :
    (table.setBindingState client address reference original).1.Counted := by
  rw [ClientTable.setBindingState]
  apply counted.store
  intro other
  rcases ClientState.setClientBinding_eq table.redirectReferences (table.state client) address
    reference original with isRejected | ⟨-, -, isInstalled⟩
  · rw [isRejected]
  · rw [isInstalled, ClientState.installBinding_references _ _ _ _ _ (counted.uses_le client other),
      ClientState.installBinding_eq]

section

variable {order : List RedirectBinding}
  (visits : order.Perm ((table.state client).bindings.entries.map Sigma.snd))
include visits

omit counted in
theorem count_visited (reference : RedirectReference) :
    ((order.filter fun binding => !binding.connected).map
      RedirectBinding.reference).count reference = (table.state client).uses reference := by
  rw [count_references, (visits.map _).sum_eq, map_map]
  rfl

theorem Counted.deleteClient (expected : Nat) :
    (table.deleteClient client expected order).1.Counted := by
  rw [ClientTable.deleteClient]
  split
  · intro reference
    have erased := counted.erase client reference
    dsimp only
    rw [releaseEach_apply, count_visited visits]
    omega
  · exact counted

end

end

end ClientTable

/-! ## One binding for each redirect address

As long as a client has at most one binding under a redirect address, the redirect
reference of that address is the reference of the binding: it is taken when the
binding is stored and given back when the binding goes.
-/

def RedirectBinding.holds (flow : FlowHandle) (binding : RedirectBinding) : Nat :=
  if binding.sharedFlow = some flow then 1 else 0

def ClientState.holders (flow : FlowHandle) (state : ClientState) : Nat :=
  total (fun _ binding => binding.holds flow) state.bindings

def releasedFlows (released : List RedirectRelease) : List FlowHandle :=
  released.filterMap RedirectRelease.sharedFlow

theorem count_releasedFlows (flow : FlowHandle) (bindings : List RedirectBinding) :
    (releasedFlows (bindings.map RedirectBinding.release)).count flow =
      (bindings.map (RedirectBinding.holds flow)).sum := by
  induction bindings with
  | nil => rfl
  | cons binding bindings induction =>
    rw [releasedFlows] at induction
    simp only [releasedFlows, map_cons, filterMap_cons, sum_cons]
    rw [RedirectBinding.release, RedirectBinding.holds]
    cases isShared : binding.sharedFlow with
    | none => simpa using induction
    | some shared =>
      simp only [count_cons, beq_iff_eq, Option.some.injEq]
      omega

namespace ClientState

def Unused (state : ClientState) (address : Addr) : Prop :=
  ∀ {destination binding}, state.bindings.lookup destination = some binding →
    binding.address ≠ address

structure Sound (client : AddrPort) (state : ClientState) : Prop where
  shared : ∀ {destination binding}, state.bindings.lookup destination = some binding →
    binding.connected = false ∧ binding.reference = ⟨client, binding.address⟩
  distinct : ∀ {destination other first second}, state.bindings.lookup destination = some first →
    state.bindings.lookup other = some second → first.address = second.address →
    destination = other
  original : ∀ {address original}, state.originals.lookup address = some original →
    original.original.connectedUDP = false ∧
      ∃ binding, state.bindings.lookup original.original.destination = some binding ∧
        binding.address = address

variable {client : AddrPort} {state : ClientState} {address : Addr} {original : RedirectOriginal}
  {destination : AddrPort} {binding : RedirectBinding}

theorem sound_new (identity : Nat) : Sound client { identity := identity } where
  shared isFound := by cases isFound
  distinct isFound := by cases isFound
  original isFound := by cases isFound

/-- A binding is the only one that its reference counts. -/
theorem Sound.uses (sound : Sound client state)
    (isBinding : state.bindings.lookup destination = some binding) :
    state.uses binding.reference = 1 := by
  rcases sound.shared isBinding with ⟨unconnected, isReference⟩
  rw [ClientState.uses, total_of_single destination, isBinding]
  · simp [RedirectBinding.uses, unconnected]
  · intro _ _ isOther different
    apply if_neg
    rw [(sound.shared isOther).2, isReference]
    rintro ⟨-, same⟩
    exact different (sound.distinct isOther isBinding (congrArg RedirectReference.address same))

theorem bind_bindings (state : ClientState) (address : Addr) (reference : RedirectReference)
    (original : RedirectOriginal) :
    (state.bind address reference original).bindings =
      state.bindings.insert original.original.destination (original.binding address reference) :=
  rfl

theorem bind_originals_cases (sound : Sound client state)
    (isUnused : state.Unused address) {found : RedirectOriginal} {other : Addr}
    (isFound : (state.bind address ⟨client, address⟩ original).originals.lookup other =
      some found) :
    other = address ∧ found = original ∨
      other ≠ address ∧ state.originals.lookup other = some found ∧
        found.original.destination ≠ original.original.destination := by
  have kept : (state.originals.insert address original).lookup other = some found ∧
      ∀ current, state.bindings.lookup original.original.destination = some current →
        other ≠ current.address := by
    rw [bind] at isFound
    dsimp only at isFound
    split at isFound
    · next isCurrent => exact ⟨isFound, fun _ isSome => by cases isCurrent.symm.trans isSome⟩
    next current isCurrent =>
    -- only the replaced binding had its address
    have isGone : ¬((state.bind address ⟨client, address⟩ original).bindings.entries.any
        fun entry => entry.2.address = current.address) = true := by
      rw [any_eq_true]
      rintro ⟨⟨_, binding⟩, member, sameAddress⟩
      have sameAddress := of_decide_eq_true sameAddress
      have isBinding := mem_entries_iff.mp member
      rw [bind_bindings] at isBinding
      rcases lookup_insert_cases isBinding with ⟨-, rfl⟩ | ⟨notNew, wasBinding⟩
      · exact isUnused isCurrent sameAddress.symm
      · exact notNew (sound.distinct wasBinding isCurrent sameAddress)
    rw [bind_bindings] at isGone
    rw [if_pos (isUnused isCurrent), deleteUnusedOriginal, if_neg isGone] at isFound
    rcases lookup_erase_cases isFound with ⟨notOld, isFound⟩
    exact ⟨isFound, fun _ isSome => by cases isCurrent.symm.trans isSome; exact notOld⟩
  rcases lookup_insert_cases kept.1 with isNew | ⟨notNew, wasFound⟩
  · exact .inl isNew
  · rcases sound.original wasFound with ⟨-, binding, isBinding, isAddress⟩
    exact .inr ⟨notNew, wasFound, fun same => kept.2 binding (same ▸ isBinding) isAddress.symm⟩

section

variable (sound : Sound client state)
  (unconnected : original.original.connectedUDP = false) (isUnused : state.Unused address)
include sound unconnected isUnused

theorem Sound.bind : Sound client (state.bind address ⟨client, address⟩ original) where
  shared isFound := by
    rw [bind_bindings] at isFound
    rcases lookup_insert_cases isFound with ⟨-, rfl⟩ | ⟨-, wasFound⟩
    · exact ⟨unconnected, rfl⟩
    · exact sound.shared wasFound
  distinct isFirst isSecond same := by
    rw [bind_bindings] at isFirst isSecond
    rcases lookup_insert_cases isFirst with ⟨rfl, rfl⟩ | ⟨-, wasFirst⟩
    · rcases lookup_insert_cases isSecond with ⟨rfl, -⟩ | ⟨-, wasSecond⟩
      · rfl
      · exact absurd same.symm (isUnused wasSecond)
    · rcases lookup_insert_cases isSecond with ⟨rfl, rfl⟩ | ⟨-, wasSecond⟩
      · exact absurd same (isUnused wasFirst)
      · exact sound.distinct wasFirst wasSecond same
  original {other found} isFound := by
    rcases bind_originals_cases sound isUnused isFound with ⟨rfl, rfl⟩ | ⟨-, wasFound, notHere⟩
    · refine ⟨unconnected, found.binding other ⟨client, other⟩, ?_, rfl⟩
      rw [bind_bindings, AList.lookup_insert]
    rcases sound.original wasFound with ⟨notConnected, binding, isBinding, isAddress⟩
    refine ⟨notConnected, binding, ?_, isAddress⟩
    rw [bind_bindings, AList.lookup_insert_ne notHere]
    exact isBinding

theorem Sound.holders_install {references : RedirectReferences}
    (single : ∀ {destination binding}, state.bindings.lookup destination = some binding →
      references binding.reference = 1) (flow : FlowHandle) :
    let result := installBinding references state address ⟨client, address⟩ original
    (state.bind address ⟨client, address⟩ original).holders flow +
        (releasedFlows result.released).count flow =
      state.holders flow + if original.sharedFlow = some flow then 1 else 0 := by
  have isReleased : (installBinding references state address ⟨client, address⟩ original).released =
      (state.bindings.lookup original.original.destination).toList.map RedirectBinding.release := by
    rw [installBinding]
    cases isCurrent : state.bindings.lookup original.original.destination with
    | none => rfl
    | some old =>
      have isLast : retain references ⟨client, address⟩ old.reference = 1 := by
        rw [retain_of_ne, single isCurrent]
        rw [(sound.shared isCurrent).2]
        intro same
        exact isUnused isCurrent (congrArg RedirectReference.address same)
      simp [(sound.shared isCurrent).1, unconnected, release_last isLast]
  have stored := total_insert (fun _ binding => binding.holds flow) state.bindings
    original.original.destination (original.binding address ⟨client, address⟩)
  intro _
  rw [isReleased, count_releasedFlows, holders, bind_bindings, holders]
  change _ = _ + (original.binding address ⟨client, address⟩).holds flow
  rw [← stored]
  cases state.bindings.lookup original.original.destination <;> simp

end

end ClientState

namespace ClientTable

/-- Every binding of the client under the redirect address is the binding of this
destination, with the same `replyAlias`. -/
def addressFree (table : ClientTable) (client : AddrPort) (redirectAddress : Addr)
    (destination : AddrPort) (replyAlias : Bool) : Bool :=
  (table.state client).bindings.entries.all fun entry =>
    entry.2.address ≠ redirectAddress ||
      (entry.1 = destination && entry.2.replyAlias == replyAlias)

def holders (flow : FlowHandle) (table : ClientTable) : Nat :=
  total (fun _ state => state.holders flow) table.clients

structure Sound (table : ClientTable) : Prop where
  counted : table.Counted
  clients : ∀ client, (table.state client).Sound client

variable {table : ClientTable} {client other : AddrPort} {address : Addr} {expected : Nat}
  {original : RedirectOriginal} {state : ClientState} {references : RedirectReferences}

theorem sound_initial : Sound {} := ⟨fun _ => rfl, fun _ => ClientState.sound_new _⟩

theorem Sound.single (sound : table.Sound) {destination : AddrPort} {binding : RedirectBinding}
    (isBinding : (table.state client).bindings.lookup destination = some binding) :
    table.redirectReferences binding.reference = 1 := by
  rw [← sound.counted.erase client, (sound.clients client).uses isBinding, add_eq_right]
  apply total_eq_zero
  intro other _ isErased
  rcases lookup_erase_cases isErased with ⟨different, isFound⟩
  have isSound := sound.clients other
  rw [state_of_lookup isFound] at isSound
  apply total_eq_zero
  intro _ _ isOther
  apply if_neg
  rw [(isSound.shared isOther).2, ((sound.clients client).shared isBinding).2]
  rintro ⟨-, same⟩
  exact different (congrArg RedirectReference.client same)

theorem Sound.store (sound : table.Sound) (isSound : state.Sound client)
    (counted : Counted { table.store client state with redirectReferences := references }) :
    Sound { table.store client state with redirectReferences := references } :=
  ⟨counted, forall_state_store (fun other _ => sound.clients other)
    (fun _ held => { held with }) isSound⟩

theorem holders_store (flow : FlowHandle) (table : ClientTable) (client : AddrPort)
    (state : ClientState) (references : RedirectReferences) :
    holders flow { table.store client state with redirectReferences := references } +
        (table.state client).holders flow =
      table.holders flow + state.holders flow :=
  total_store (fun _ => rfl) table client state

theorem loadOrCreate_sound (sound : table.Sound) (client : AddrPort) :
    (table.loadOrCreate client).Sound := by
  rw [loadOrCreate]
  split
  · exact sound
  · exact sound.store (sound.clients client) (sound.counted.store fun _ => rfl)

theorem holders_loadOrCreate (flow : FlowHandle) (table : ClientTable) (client : AddrPort) :
    (table.loadOrCreate client).holders flow = table.holders flow := by
  rw [loadOrCreate]
  split
  · rfl
  · have stored := holders_store flow table client (table.state client) table.redirectReferences
    exact add_right_cancel stored

theorem Sound.cached_ready (sound : table.Sound) {ready : Bool}
    (isCached : table.cachedPacketState client address = some (original, ready)) :
    ready = true := by
  rw [cachedPacketState] at isCached
  split at isCached
  · cases isCached
  next isFound =>
  rcases Option.map_eq_some_iff.mp isCached with ⟨_, isOriginal, ⟨⟩⟩
  have isSound := sound.clients client
  rw [state_of_lookup isFound] at isSound
  rcases isSound.original isOriginal with ⟨unconnected, _, isBinding, isAddress⟩
  rw [isBinding, Option.any_some, isAddress, (isSound.shared isBinding).1, unconnected]
  simp

section

variable (sound : table.Sound) (unconnected : original.original.connectedUDP = false)
  (isFree :
    table.addressFree client address original.original.destination original.replyAlias = true)
include sound unconnected isFree

theorem setClientBinding_cases (references : RedirectReferences)
    (reference : RedirectReference) :
    setClientBinding references (table.state client) address reference original =
        ⟨table.state client, references, [], false⟩ ∨
      (table.state client).Unused address ∧
        setClientBinding references (table.state client) address reference original =
          installBinding references (table.state client) address reference original := by
  refine (ClientState.setClientBinding_eq references (table.state client) address reference
    original).imp_right ?_
  rintro ⟨notSame, -, isInstalled⟩
  refine ⟨?_, isInstalled⟩
  intro _ _ isFound isAddress
  have isHere := all_eq_true.mp isFree _ (mem_entries_iff.mpr isFound)
  simp only [isAddress, ne_eq, not_true_eq_false, decide_false, Bool.false_or, and_eq_true,
    decide_eq_true_eq] at isHere
  rw [← isHere.1, isFound, Option.any_some, ((sound.clients client).shared isFound).1, unconnected,
    isHere.2, isAddress] at notSame
  simp at notSame

theorem Sound.setBindingState :
    (table.setBindingState client address ⟨client, address⟩ original).1.Sound := by
  apply sound.store _ (sound.counted.setBindingState address ⟨client, address⟩ original)
  rcases setClientBinding_cases sound unconnected isFree table.redirectReferences
    ⟨client, address⟩ with isRejected | ⟨isUnused, isInstalled⟩
  · rw [isRejected]
    exact sound.clients client
  · rw [isInstalled, ClientState.installBinding_eq]
    exact (sound.clients client).bind unconnected isUnused

/-- The flow of the new binding is held afterwards, or the binding was not
installed; what is released was held before. -/
theorem holders_setBindingState (flow : FlowHandle) :
    let result := table.setBindingState client address ⟨client, address⟩ original
    result.1.holders flow + (releasedFlows result.2.1).count flow +
        (if result.2.2 then 0 else if original.sharedFlow = some flow then 1 else 0) =
      table.holders flow + if original.sharedFlow = some flow then 1 else 0 := by
  rw [ClientTable.setBindingState]
  rcases setClientBinding_cases sound unconnected isFree table.redirectReferences
    ⟨client, address⟩ with isRejected | ⟨isUnused, isInstalled⟩
  · rw [isRejected]
    have stored := holders_store flow table client (table.state client) table.redirectReferences
    have same := add_right_cancel stored
    dsimp only at same ⊢
    rw [same]
    simp [releasedFlows]
  · rw [isInstalled]
    have held := (sound.clients client).holders_install unconnected isUnused
      (fun isBinding => sound.single isBinding) flow
    rw [ClientState.installBinding_eq] at held ⊢
    have stored := holders_store flow table client
      ((table.state client).bind address ⟨client, address⟩ original) table.redirectReferences
    dsimp only [holders] at stored held ⊢
    rw [if_pos rfl]
    omega

end

section

variable {order : List RedirectBinding} (sound : table.Sound)
  (visits : order.Perm ((table.state client).bindings.entries.map Sigma.snd))
include sound visits

theorem Sound.deleteClient : (table.deleteClient client expected order).1.Sound := by
  refine ⟨sound.counted.deleteClient visits expected, ?_⟩
  intro other
  rw [ClientTable.deleteClient]
  split
  · exact forall_state_erase (fun other _ => sound.clients other) (ClientState.sound_new _) other
  · exact sound.clients other

theorem releaseEach_visited :
    (releaseEach RedirectBinding.reference table.redirectReferences
      (order.filter fun binding => !binding.connected)).1 = order := by
  have isSound := sound.clients client
  have bound : ∀ binding ∈ order, ∃ destination,
      (table.state client).bindings.lookup destination = some binding := by
    intro binding member
    rcases mem_map.mp (visits.mem_iff.mp member) with ⟨⟨destination, _⟩, isEntry, rfl⟩
    exact ⟨destination, mem_entries_iff.mp isEntry⟩
  have unconnected : (order.filter fun binding => !binding.connected) = order := by
    apply filter_eq_self.mpr
    intro binding member
    rcases bound binding member with ⟨destination, isBinding⟩
    rw [(isSound.shared isBinding).1, Bool.not_false]
  have distinct : (order.map RedirectBinding.reference).Nodup := by
    rw [nodup_iff_count_le_one]
    intro reference
    by_cases member : reference ∈ order.map RedirectBinding.reference
    · rcases mem_map.mp member with ⟨binding, isVisited, rfl⟩
      rcases bound binding isVisited with ⟨destination, isBinding⟩
      rw [← unconnected, count_visited visits, isSound.uses isBinding]
    · rw [count_eq_zero_of_not_mem member]
      exact zero_le _
  have single : ∀ binding ∈ order, table.redirectReferences binding.reference = 1 := by
    intro binding member
    rcases bound binding member with ⟨_, isBinding⟩
    exact sound.single isBinding
  rw [unconnected, releaseEach_of_single _ distinct single]

theorem holders_deleteClient (flow : FlowHandle) :
    (table.deleteClient client expected order).1.holders flow +
        (releasedFlows (table.deleteClient client expected order).2).count flow =
      table.holders flow := by
  rw [ClientTable.deleteClient]
  split
  · next isCurrent =>
    rcases (Option.any_eq_true _ _).mp isCurrent with ⟨state, isFound, -⟩
    have erased := total_erase (fun _ state => state.holders flow) table.clients client
    have isSum := (visits.map (RedirectBinding.holds flow)).sum_eq
    dsimp only
    rw [releaseEach_visited sound visits, count_releasedFlows, isSum, map_map,
      state_of_lookup isFound]
    rw [isFound] at erased
    exact erased
  · rfl

end

end ClientTable

end SingBox.Ebpf
