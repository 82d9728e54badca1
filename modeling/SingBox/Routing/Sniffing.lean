import SingBox.Routing.Context

/-! # Sniff actions

A sniff action reads from the connection until a sniffer recognises the data or
none of them asks for more. What it reads is kept in buffers. For a packet
connection the packets that earlier actions have read are looked at first.
-/

namespace SingBox.Routing

open Adapter Sniff

/-! ## Connections -/

/-- What happens when a stream is read: the deadline cannot be set, or there are
data, an error, or both. -/
inductive StreamRead
  | noDeadline (err : Err)
  | read (data : Bytes) (err : Option Err)

inductive PacketRead
  | packet (destination : Socksaddr) (data : Bytes)
  | timeout
  | failed (err : Err)
  /-- The context is done before a packet arrives. -/
  | cancelled

/-- The connection to route, as what will be read from it. -/
inductive Input
  | stream (reads : List StreamRead)
  | packets (reads : List PacketRead)

structure PacketBuffer where
  data : Bytes
  destination : Socksaddr

/-! ## Streams -/

structure StreamPeek where
  err : Option SniffError
  sniffed : Sniffed
  buffer : Bytes
  reads : List StreamRead

/-- The error of a read: in the first round it is returned, later the last error
of the sniffers is. -/
def readFailure (previous : Option (Option SniffError)) (err : Err) : Option SniffError :=
  previous.getD (some (.plain (.cause "read payload" err)))

/-- The loop of `PeekStream`. The sniffers see `front`, the data of earlier
actions, before the buffer. Once nothing more arrives the deadline passes. -/
def peekStream (sniffers : List AnySniffer) (front : Bytes) (size : Nat) :
    Option (Option SniffError) → Sniffed → Bytes → List StreamRead → StreamPeek
  | previous, sniffed, buffer, [] =>
    { err := readFailure previous (.new "i/o timeout"), sniffed, buffer, reads := [] }
  | _, sniffed, buffer, .noDeadline err :: reads =>
    { err := some (.plain (.cause "set read deadline" err)), sniffed, buffer, reads }
  | previous, sniffed, buffer, .read data err :: reads =>
    if size ≤ buffer.length then
      { err := readFailure previous (.new "short buffer"), sniffed, buffer
        reads := .read data err :: reads }
    else if size - buffer.length < data.length then
      -- the buffer is full, so there is no other round
      let filled := buffer ++ data.take (size - buffer.length)
      let answer := peekPacket sniffers sniffed (front ++ filled)
      { err := answer.err, sniffed := answer.metadata, buffer := filled
        reads := .read (data.drop (size - buffer.length)) err :: reads }
    else
      match err with
      | some err => { err := readFailure previous err, sniffed, buffer := buffer ++ data, reads }
      | none =>
        let answer := peekPacket sniffers sniffed (front ++ (buffer ++ data))
        if needsMore answer.err then
          peekStream sniffers front size (some answer.err) answer.metadata (buffer ++ data)
            reads
        else
          { err := answer.err, sniffed := answer.metadata, buffer := buffer ++ data, reads }

/-! ## The state of the loop over the rules -/

structure Matching where
  metadata : Context
  input : Input
  buffers : List Bytes := []
  packetBuffers : List PacketBuffer := []

structure SniffResult where
  metadata : Context
  input : Input
  buffer : Option Bytes := none
  packetBuffers : List PacketBuffer := []
  fatalErr : Option Err := none

/-- Protocols where the server is first to send. -/
def skip (metadata : Context) : Bool :=
  [25, 465, 587, 143, 993, 110, 995].contains metadata.destination.port

namespace Router

variable (router : Router) (action : SniffAction)

def streamSniffers : List AnySniffer :=
  if action.streamSniffers.isEmpty then router.defaultStreamSniffers else action.streamSniffers

variable (metadata : Context)

def sniffStream (buffers : List Bytes) (reads : List StreamRead) : SniffResult :=
  let peek := peekStream (router.streamSniffers action) buffers.flatten router.packetSize none
    metadata.sniffed [] reads
  { metadata :=
      { metadata.withSniffed peek.sniffed with
        snifferNames := action.snifferNames, sniffError := peek.err }
    input := .stream peek.reads
    buffer := if peek.buffer = [] then none else some peek.buffer }

/-! ## Packets -/

/-- A fragmented ClientHello was found with the same sniffers. -/
def quicMoreData : Bool :=
  metadata.snifferNames = action.snifferNames && needsMore metadata.sniffError

def packetSniffers : List AnySniffer :=
  if action.packetSniffers.isEmpty then router.defaultPacketSniffers else action.packetSniffers

/-- A packet is looked at, and the outcome is kept. -/
def peekWith (sniffers : List AnySniffer) (action : SniffAction) (metadata : Context)
    (packet : Bytes) : Context :=
  let answer := peekPacket sniffers metadata.sniffed packet
  { metadata.withSniffed answer.metadata with
    snifferNames := action.snifferNames, sniffError := answer.err }

def peek (packet : Bytes) : Context :=
  if quicMoreData action metadata then
    peekWith [router.quicClientHello] action metadata packet
  else peekWith (router.packetSniffers action) action metadata packet

/-- The loop over the packets of earlier actions, and whether it left for
`finally`. -/
def peekBuffered (action : SniffAction) : Context → List PacketBuffer → Context × Bool
  | metadata, [] => (metadata, false)
  | metadata, packetBuffer :: packetBuffers =>
    let next := router.peek action metadata packetBuffer.data
    if needsMore next.sniffError then peekBuffered action next packetBuffers else (next, true)

/-- After the label `finally` without an error. -/
def restoreHost : Context :=
  if metadata.protocol = "quic" ∧ metadata.sniffHost = "" then
    { metadata with
      sniffHost :=
        (router.lookupQUICSniff metadata.source metadata.destination).getD metadata.sniffHost }
  else metadata

def finishSniff : Context :=
  if metadata.sniffError.isNone then router.restoreHost metadata else metadata

/-- The loop that reads packets, with those it returns. -/
def readPackets (action : SniffAction) :
    Context → List PacketBuffer → List PacketRead → SniffResult
  | metadata, packetBuffers, [] => { metadata, input := .packets [], packetBuffers }
  | metadata, packetBuffers, .timeout :: reads =>
    { metadata, input := .packets reads, packetBuffers }
  | metadata, packetBuffers, .failed err :: reads =>
    { metadata, input := .packets reads, packetBuffers, fatalErr := some err }
  | metadata, packetBuffers, .cancelled :: reads =>
    { metadata, input := .packets reads, packetBuffers
      fatalErr := some (.new "context canceled") }
  | metadata, packetBuffers, .packet destination data :: reads =>
    let next := router.peek action metadata data
    let packetBuffers := packetBuffers ++ [{ data, destination }]
    if needsMore next.sniffError then readPackets action next packetBuffers reads
    else { metadata := router.finishSniff next, input := .packets reads, packetBuffers }

def sniffPackets (packetBuffers : List PacketBuffer) (reads : List PacketRead) : SniffResult :=
  match router.peekBuffered action metadata packetBuffers with
  | (next, true) => { metadata := router.finishSniff next, input := .packets reads }
  | (next, false) => router.readPackets action next packetBuffers reads

/-! ## The action -/

def failedBefore : Bool :=
  metadata.snifferNames = action.snifferNames && metadata.sniffError.isSome &&
    !needsMore metadata.sniffError

/-- What a sniff action checks before it reads, with the sniffers for this kind
of connection and those for the other. -/
def sniffs (own other : List AnySniffer) : Bool :=
  !skip metadata && metadata.protocol == "" && !(own.isEmpty && !other.isEmpty) &&
    !failedBefore action metadata

def actionSniff (state : Matching) : SniffResult :=
  match state.input with
  | .stream reads =>
    if sniffs action state.metadata action.streamSniffers action.packetSniffers then
      router.sniffStream action state.metadata state.buffers reads
    else { metadata := state.metadata, input := .stream reads }
  | .packets reads =>
    if sniffs action state.metadata action.packetSniffers action.streamSniffers then
      router.sniffPackets action state.metadata state.packetBuffers reads
    else { metadata := state.metadata, input := .packets reads }

end Router

end SingBox.Routing
