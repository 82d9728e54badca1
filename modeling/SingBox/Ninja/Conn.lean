import SingBox.Ninja.RoundTrip

/-! # Connections of the Ninja client

`conn.Write` over a transport that does not fail: the first write sends the
handshake, later ones send frames. A peer that reads the handshake and then frame
after frame gets what was written, and its nonce is that of the client after
every message.
-/

namespace SingBox.Ninja

open Wire Decoder List

/-- `conn`, as far as it is written to. -/
structure Conn where
  credentials : Credentials
  destination : Destination
  network : BitVec 8
  writeSession : Option Session := none
  clientSalt : Bytes := []

/-- What a write draws: for the handshake, and for its frames by their index. -/
structure WriteDraw where
  handshake : HandshakeDraw
  frames : Nat → Draw

/-- What a write did: the calls of `Write` of the transport, and the messages. -/
structure Written where
  calls : List Bytes
  messages : List Message

/-- The pieces of at most `maxCorePayload` bytes that the loops over the payload
cut off, in at most `rounds` rounds. -/
def chunksIn : Nat → Bytes → List Bytes
  | 0, _ => []
  | _ + 1, [] => []
  | rounds + 1, byte :: payload =>
    (byte :: payload).take maxCorePayload ::
      chunksIn rounds ((byte :: payload).drop maxCorePayload)

def chunks (payload : Bytes) : List Bytes := chunksIn payload.length payload

section

variable (crypto : Crypto)

def writeFrames (draws : Nat → Draw) : Session → Nat → List Bytes → Except Err (List Message)
  | _, _, [] => .ok []
  | session, index, payload :: payloads =>
    match session.writeFrame crypto payload (draws index) with
    | .error err => .error err
    | .ok message =>
      match writeFrames draws message.after (index + 1) payloads with
      | .error err => .error err
      | .ok messages => .ok (message :: messages)

def sessionAfter (session : Session) (messages : List Message) : Session :=
  messages.foldl (fun _ message => message.after) session

/-- The calls for the buffered wire data and the frames that follow: the buffer is
written when the next frame would make it too long, and at the end. -/
def bufferedCalls (wire : Bytes) : List Message → List Bytes
  | [] => [wire]
  | message :: messages =>
    if wire.length + message.bytes.length > tcpWriteBufferSize then
      wire :: bufferedCalls message.bytes messages
    else bufferedCalls (wire ++ message.bytes) messages

namespace Conn

/-- `startTCPWriteLocked`. -/
def startTCPWrite (conn : Conn) (payload : Bytes) (draw : WriteDraw) :
    Except Err (Conn × Written) := do
  let encoded ← encodeTransportDestination conn.destination
  let plan := planFirstBlock encoded.length 0 draw.handshake.plan
  let initialLength := if plan.2 > payload.length then payload.length else plan.2
  let (handshake, salt) ← conn.credentials.writeClientHandshake crypto conn.network
    conn.destination (payload.take initialLength) plan.1 draw.handshake
  let frames ← writeFrames crypto draw.frames handshake.after 0
    (chunks (payload.drop initialLength))
  pure ({ conn with
            writeSession := some (sessionAfter handshake.after frames)
            clientSalt := salt },
    { calls := bufferedCalls handshake.bytes frames, messages := handshake :: frames })

/-- `startUDPWriteLocked`. -/
def startUDPWrite (conn : Conn) (payload : Bytes) (draw : WriteDraw) :
    Except Err (Conn × Written) := do
  let encoded ← encodeTransportDestination conn.destination
  let plan := planFirstBlock encoded.length payload.length draw.handshake.plan
  let (handshake, salt) ← conn.credentials.writeClientHandshake crypto conn.network
    conn.destination payload plan.1 draw.handshake
  pure ({ conn with writeSession := some handshake.after, clientSalt := salt },
    { calls := [handshake.bytes], messages := [handshake] })

def pieces (conn : Conn) (payload : Bytes) (destination : Destination) : Except Err (List Bytes) :=
  if conn.network = udpNetwork then
    if payload.length > maxCorePayload then
      .error (.new ("Ninja UDP datagram is too large: " ++ toString payload.length))
    else if destination ≠ conn.destination then
      .error (.new "Ninja UDP destination changed after connection setup")
    else .ok [payload]
  else .ok (chunks payload)

def writeTo (conn : Conn) (payload : Bytes) (destination : Destination) (draw : WriteDraw) :
    Except Err (Conn × Written) :=
  match conn.writeSession with
  | none =>
    if conn.network = udpNetwork then
      startUDPWrite crypto { conn with destination := destination } payload draw
    else startTCPWrite crypto conn payload draw
  | some session => do
    let payloads ← conn.pieces payload destination
    let frames ← writeFrames crypto draw.frames session 0 payloads
    pure ({ conn with writeSession := some (sessionAfter session frames) },
      { calls := frames.map Message.bytes, messages := frames })

def write (conn : Conn) (payload : Bytes) (draw : WriteDraw) : Except Err (Conn × Written) :=
  conn.writeTo crypto payload conn.destination draw

def send (conn : Conn) : List (Bytes × WriteDraw) → Except Err (Conn × List Written)
  | [] => .ok (conn, [])
  | (payload, draw) :: writes =>
    match conn.write crypto payload draw with
    | .error err => .error err
    | .ok (conn, written) =>
      match conn.send writes with
      | .error err => .error err
      | .ok (conn, later) => .ok (conn, written :: later)

end Conn

end

def Session.readFrames (crypto : Crypto) : Nat → Session → Reader (List (Bytes × Session))
  | 0, _ => pure []
  | count + 1, session => do
    let frame ← session.readFrame crypto
    let frames ← readFrames crypto count frame.2
    pure (frame :: frames)

/-! ## Frames in a row -/

/-- The messages are frames of the payloads, the first one written with the
session. -/
inductive Frames (crypto : Crypto) : Session → List Message → List Bytes → Prop
  | nil {session} : Frames crypto session [] []
  | cons {session message messages payload payloads draw} :
    session.writeFrame crypto payload draw = .ok message →
    Frames crypto message.after messages payloads →
    Frames crypto session (message :: messages) (payload :: payloads)

variable {crypto : Crypto} {session : Session} {messages later : List Message}
  {payloads others : List Bytes} {draws : Nat → Draw} {index : Nat}

theorem Frames.append (first : Frames crypto session messages payloads)
    (second : Frames crypto (sessionAfter session messages) later others) :
    Frames crypto session (messages ++ later) (payloads ++ others) := by
  induction first with
  | nil => exact second
  | cons isWritten _ induction => exact .cons isWritten (induction second)

section

variable (frames : Frames crypto session messages payloads)
include frames

theorem Frames.decodes :
    (Session.readFrames crypto messages.length session).Decodes (messages.map Message.bytes).flatten
      (payloads.zip (messages.map Message.after)) := by
  induction frames with
  | nil => exact Decodes.pure _
  | cons isWritten _ induction =>
    rw [map_cons, flatten_cons]
    apply (decodes_readFrame isWritten).bind
    exact induction.bind_pure _

theorem Frames.length_eq :
    messages.length = payloads.length := by
  induction frames with
  | nil => rfl
  | cons _ _ induction => rw [length_cons, length_cons, induction]

end

theorem frames_of_writeFrames
    (isWritten : writeFrames crypto draws session index payloads = .ok messages) :
    Frames crypto session messages payloads := by
  induction payloads generalizing session index messages with
  | nil =>
    cases isWritten
    exact .nil
  | cons _ _ induction =>
    rw [writeFrames] at isWritten
    split at isWritten
    · cases isWritten
    next isFrame =>
    split at isWritten <;> cases isWritten
    next isRest =>
    exact .cons isFrame (induction isRest)

theorem exists_writeFrames (fits : ∀ payload ∈ payloads, payload.length ≤ 0xffff)
    (draws : Nat → Draw) (session : Session) (index : Nat) :
    ∃ messages, writeFrames crypto draws session index payloads = .ok messages := by
  induction payloads generalizing session index with
  | nil => exact ⟨[], rfl⟩
  | cons payload _ induction =>
    rcases exists_writeFrame (fits payload (mem_cons_self ..)) (draws index) with
      ⟨message, isFrame⟩
    rcases induction (forall_mem_cons.mp fits).2
      message.after (index + 1) with ⟨messages, isRest⟩
    exact ⟨message :: messages, by rw [writeFrames, isFrame]; dsimp only; rw [isRest]⟩

variable {payload : Bytes} {rounds : Nat}

theorem flatten_chunksIn (enough : payload.length ≤ rounds) :
    (chunksIn rounds payload).flatten = payload := by
  induction rounds generalizing payload with
  | zero => rw [length_eq_zero_iff.mp (Nat.le_zero.mp enough), chunksIn, flatten_nil]
  | succ rounds induction =>
    cases payload with
    | nil => rfl
    | cons byte payload =>
      rw [chunksIn, flatten_cons, induction, take_append_drop]
      rw [length_drop, maxCorePayload]
      rw [length_cons] at enough ⊢
      omega

theorem flatten_chunks (payload : Bytes) : (chunks payload).flatten = payload :=
  flatten_chunksIn (Nat.le_refl _)

theorem length_of_mem_chunksIn {chunk : Bytes}
    (member : chunk ∈ chunksIn rounds payload) : chunk.length ≤ maxCorePayload := by
  induction rounds generalizing payload with
  | zero => cases member
  | succ _ induction =>
    cases payload with
    | nil => cases member
    | cons =>
      rcases mem_cons.mp member with rfl | later
      · exact length_take_le ..
      · exact induction later

theorem exists_writeFrames_chunks (crypto : Crypto) (payload : Bytes) (draws : Nat → Draw)
    (session : Session) :
    ∃ messages, writeFrames crypto draws session 0 (chunks payload) = .ok messages := by
  apply exists_writeFrames
  intro chunk member
  have isShort := length_of_mem_chunksIn member
  rw [maxCorePayload] at isShort
  omega

theorem flatten_bufferedCalls (wire : Bytes) (messages : List Message) :
    (bufferedCalls wire messages).flatten = wire ++ (messages.map Message.bytes).flatten := by
  induction messages generalizing wire with
  | nil => simp [bufferedCalls]
  | cons _ _ induction =>
    rw [bufferedCalls]
    split <;> simp [induction]

/-! ## Writes -/

namespace Conn

variable {conn after : Conn} {payload : Bytes} {draw : WriteDraw} {written : Written}
  {writes : List (Bytes × WriteDraw)} {sent : List Written}

structure Continues (crypto : Crypto) (conn : Conn) (session : Session) (payload : Bytes)
    (calls : Bytes) (messages : List Message) (after : Conn) : Prop where
  frames : ∃ payloads, Frames crypto session messages payloads ∧ payloads.flatten = payload
  stream : calls = (messages.map Message.bytes).flatten
  session : after.writeSession = some (sessionAfter session messages)
  salt : after.clientSalt = conn.clientSalt

theorem flatten_pieces {destination : Destination}
    (isPieces : conn.pieces payload destination = .ok payloads) : payloads.flatten = payload := by
  rw [pieces] at isPieces
  split at isPieces
  · split_ifs at isPieces
    cases isPieces
    simp
  · cases isPieces
    exact flatten_chunks payload

section

variable (isSession : conn.writeSession = some session)
include isSession

theorem continues_write (isWritten : conn.write crypto payload draw = .ok (after, written)) :
    Continues crypto conn session payload written.calls.flatten written.messages after := by
  rw [write, writeTo, isSession] at isWritten
  rcases bind_eq_ok isWritten with ⟨payloads, isPieces, isOk⟩
  rcases bind_eq_ok isOk with ⟨_, isFrames, ⟨⟩⟩
  exact ⟨⟨payloads, frames_of_writeFrames isFrames, flatten_pieces isPieces⟩, rfl, rfl, rfl⟩

theorem continues_send (isSent : conn.send crypto writes = .ok (after, sent)) :
    Continues crypto conn session (writes.map Prod.fst).flatten
      (sent.flatMap Written.calls).flatten (sent.flatMap Written.messages) after := by
  induction writes generalizing conn session sent with
  | nil =>
    cases isSent
    exact ⟨⟨[], .nil, rfl⟩, rfl, isSession, rfl⟩
  | cons _ _ induction =>
    rw [send] at isSent
    split at isSent
    · cases isSent
    next isWritten =>
    split at isSent <;> cases isSent
    next isLater =>
    have now := continues_write isSession isWritten
    have rest := induction now.session isLater
    rcases now.frames with ⟨payloads, isFrames, isPayload⟩
    rcases rest.frames with ⟨others, areFrames, arePayloads⟩
    constructor
    case frames =>
      refine ⟨payloads ++ others, isFrames.append areFrames, ?_⟩
      rw [flatten_append, isPayload, arePayloads, map_cons, flatten_cons]
    case stream =>
      rw [flatMap_cons, flatten_append, now.stream, rest.stream,
        flatMap_cons, map_append, flatten_append]
    case session =>
      rw [rest.session, sessionAfter, sessionAfter, sessionAfter, flatMap_cons, foldl_append]
    case salt => rw [rest.salt, now.salt]

end

/-- The first write: the handshake takes the first part of the payload. -/
structure Opens (crypto : Crypto) (conn : Conn) (payload calls : Bytes)
    (messages : List Message) (after : Conn) : Prop where
  parts : ∃ handshake frames payloads initial paddingLength handshakeDraw,
    messages = handshake :: frames ∧
      conn.credentials.writeClientHandshake crypto conn.network conn.destination initial
        paddingLength handshakeDraw = .ok (handshake, after.clientSalt) ∧
      Frames crypto handshake.after frames payloads ∧
      initial ++ payloads.flatten = payload ∧
      after.writeSession = some (sessionAfter handshake.after frames)
  stream : calls = (messages.map Message.bytes).flatten

theorem opens_write (isNew : conn.writeSession = none)
    (isWritten : conn.write crypto payload draw = .ok (after, written)) :
    Opens crypto conn payload written.calls.flatten written.messages after := by
  rw [write, writeTo, isNew] at isWritten
  dsimp only at isWritten
  split at isWritten
  · rcases bind_eq_ok isWritten with ⟨_, _, isOk⟩
    rcases bind_eq_ok isOk with ⟨result, isHandshake, ⟨⟩⟩
    refine ⟨⟨result.1, [], [], payload, _, _, rfl, isHandshake, .nil, ?_, rfl⟩, rfl⟩
    simp
  · rcases bind_eq_ok isWritten with ⟨_, _, isOk⟩
    rcases bind_eq_ok isOk with ⟨result, isHandshake, isOk⟩
    rcases bind_eq_ok isOk with ⟨frames, isFrames, ⟨⟩⟩
    refine ⟨⟨result.1, frames, _, _, _, _, rfl, isHandshake,
      frames_of_writeFrames isFrames, ?_, rfl⟩, flatten_bufferedCalls ..⟩
    rw [flatten_chunks, take_append_drop]

theorem opens_send {first : Bytes × WriteDraw} (isNew : conn.writeSession = none)
    (isSent : conn.send crypto (first :: writes) = .ok (after, sent)) :
    Opens crypto conn ((first :: writes).map Prod.fst).flatten (sent.flatMap Written.calls).flatten
      (sent.flatMap Written.messages) after := by
  rw [send] at isSent
  split at isSent
  · cases isSent
  next isWritten =>
  split at isSent <;> cases isSent
  next later isLater =>
  have now := opens_write isNew isWritten
  rcases now.parts with
    ⟨handshake, frames, payloads, initial, paddingLength, handshakeDraw, areMessages,
      isHandshake, isFrames, isPayload, isSession⟩
  have rest := continues_send isSession isLater
  rcases rest.frames with ⟨others, areFrames, arePayloads⟩
  constructor
  case parts =>
    refine ⟨handshake, frames ++ later.flatMap Written.messages, payloads ++ others,
      initial, paddingLength, handshakeDraw, ?_, ?_, isFrames.append areFrames, ?_, ?_⟩
    · rw [flatMap_cons, areMessages, cons_append]
    · rw [rest.salt]
      exact isHandshake
    · rw [flatten_append, ← append_assoc, isPayload, arePayloads, map_cons, flatten_cons]
    · rw [rest.session, sessionAfter, sessionAfter, sessionAfter, foldl_append]
  case stream =>
    rw [flatMap_cons, flatten_append, now.stream, rest.stream, flatMap_cons,
      map_append, flatten_append]

theorem planFirstBlock_fits {length : Nat} (isShort : length ≤ 259) (draw : Draw) :
    length + 2 + (planFirstBlock length 0 draw).1 + (planFirstBlock length 0 draw).2 ≤ 0xffff := by
  have isAvailable : (firstBlockTarget : Int) - length - (0 : Nat) > 0 := by
    rw [firstBlockTarget]
    omega
  have isSmall : ¬(firstBlockTarget : Int) - length - (0 : Nat) > (firstBlockMaxPad : Nat) := by
    rw [firstBlockTarget, firstBlockMaxPad]
    omega
  have positive : 0 < ((firstBlockTarget : Int) - length - (0 : Nat)).toNat := by omega
  have below := draw.int_lt positive
  simp only [planFirstBlock, if_neg isSmall, if_neg (Int.not_le.mpr isAvailable)]
  rw [firstBlockTarget] at below ⊢
  split <;> omega

variable {keyLength : Nat}

section

variable (valid : conn.credentials.Valid keyLength) (sendable : conn.destination.Sendable)
  (notUDP : conn.network ≠ udpNetwork)
include valid sendable notUDP

theorem exists_write (payload : Bytes) (draw : WriteDraw) :
    ∃ session salt written, conn.write crypto payload draw =
      .ok ({ conn with writeSession := some session, clientSalt := salt }, written) := by
  rw [write, writeTo]
  cases isSession : conn.writeSession with
  | some session =>
    rcases exists_writeFrames_chunks crypto payload draw.frames session with ⟨frames, isFrames⟩
    simp only [bind, Except.bind, pieces, if_neg notUDP, isFrames]
    exact ⟨_, _, _, rfl⟩
  | none =>
    rcases exists_encoded sendable with ⟨encoded, isEncoded, isShort⟩
    rcases valid.newSession crypto (draw.handshake.salt.read keyLength) with
      ⟨session, authenticator, isSession, -⟩
    have fits := planFirstBlock_fits isShort draw.handshake.plan
    simp only [if_neg notUDP, startTCPWrite, isEncoded, bind, Except.bind]
    rw [writeClientHandshake_eq valid isEncoded _ isSession]
    · rcases exists_writeFrames_chunks crypto _ draw.frames _ with ⟨frames, isFrames⟩
      dsimp only
      rw [isFrames]
      exact ⟨_, _, _, rfl⟩
    · rw [length_take]
      split <;> omega

theorem exists_send
    (writes : List (Bytes × WriteDraw)) : ∃ result, conn.send crypto writes = .ok result := by
  induction writes generalizing conn with
  | nil => exact ⟨_, rfl⟩
  | cons first _ induction =>
    rcases first with ⟨payload, draw⟩
    rcases exists_write valid sendable notUDP payload draw with
      ⟨session, salt, written, isWritten⟩
    rcases @induction { conn with writeSession := some session, clientSalt := salt } valid
      sendable notUDP with ⟨⟨final, later⟩, isLater⟩
    rw [send, isWritten]
    dsimp only
    rw [isLater]
    exact ⟨_, rfl⟩

end

end Conn

def Credentials.readStream (crypto : Crypto) (credentials : Credentials) (count : Nat) :
    Reader (Session × Header × Destination × Bytes × List (Bytes × Session)) := do
  let (session, header, destination, payload) ← credentials.readClientHandshake crypto
  let frames ← session.readFrames crypto count
  pure (session, header, destination, payload, frames)

def Credentials.readResponses (crypto : Crypto) (credentials : Credentials) (clientSalt : Bytes)
    (count : Nat) : Reader (Session × Bytes × List (Bytes × Session)) := do
  let (session, payload) ← credentials.readServerResponse crypto clientSalt
  let frames ← session.readFrames crypto count
  pure (session, payload, frames)

/-- Both directions of a stream: what is written is read, and the sessions are
equal after every message. -/
theorem stream_transparent (crypto : Crypto) {credentials : Credentials} {keyLength : Nat}
    {destination : Destination} (valid : credentials.Valid keyLength)
    (sendable : destination.Sendable) (network : BitVec 8) {writes : List (Bytes × WriteDraw)}
    (someWrite : writes ≠ []) :
    (network ≠ udpNetwork → ∃ result,
      Conn.send crypto { credentials := credentials, destination := destination,
                         network := network } writes = .ok result) ∧
      (∀ after sent,
        Conn.send crypto { credentials := credentials, destination := destination,
                           network := network } writes = .ok (after, sent) →
        ∃ session header payload frames,
          (credentials.readStream crypto frames.length).Decodes
              (sent.flatMap Written.calls).flatten
              (session, header, destination, payload, frames) ∧
            header.network = network ∧ header.clientSalt = after.clientSalt ∧
            payload ++ (frames.map Prod.fst).flatten = (writes.map Prod.fst).flatten ∧
            session :: frames.map Prod.snd =
              (sent.flatMap Written.messages).map Message.after) ∧
      ∀ response saltDraw paddingDraw draws payloads,
        (response.Fits credentials → (∀ payload ∈ payloads, payload.length ≤ 0xffff) →
          ∃ message messages,
            credentials.writeServerResponse crypto response saltDraw paddingDraw = .ok message ∧
              writeFrames crypto draws message.after 0 payloads = .ok messages) ∧
          ∀ message messages,
            credentials.writeServerResponse crypto response saltDraw paddingDraw = .ok message →
            writeFrames crypto draws message.after 0 payloads = .ok messages →
            (credentials.readResponses crypto response.clientSalt payloads.length).Decodes
              (message.bytes ++ (messages.map Message.bytes).flatten)
              (message.after, response.payload,
                payloads.zip (messages.map Message.after)) := by
  refine ⟨?_, ?_, ?_⟩
  · intro notUDP
    exact Conn.exists_send valid sendable notUDP writes
  · intro after _ isSent
    cases writes with
    | nil => exact absurd rfl someWrite
    | cons =>
      have opens := Conn.opens_send rfl isSent
      rcases opens.parts with
        ⟨handshake, messages, payloads, initial, paddingLength, handshakeDraw, areMessages,
          isHandshake, isFrames, isPayload, -⟩
      rcases decodes_readClientHandshake valid sendable.canonical isHandshake with
        ⟨header, isNetwork, isSalt, decodes⟩
      have isLength : (payloads.zip (messages.map Message.after)).length = messages.length := by
        rw [length_zip, length_map, isFrames.length_eq, Nat.min_self]
      refine ⟨handshake.after, header, initial, payloads.zip (messages.map Message.after), ?_,
        isNetwork, isSalt, ?_, ?_⟩
      · rw [isLength, opens.stream, areMessages, map_cons, flatten_cons]
        apply decodes.bind
        exact isFrames.decodes.bind_pure _
      · rw [map_fst_zip, isPayload]
        rw [length_map, isFrames.length_eq]
      · rw [map_snd_zip, areMessages, map_cons]
        rw [length_map, isFrames.length_eq]
  · intro response saltDraw _ draws _
    constructor
    · intro isFit areShort
      rcases exists_responseSession isFit.keyLen isFit.password crypto
        (saltDraw.read response.clientSalt.length) with ⟨_, isSession⟩
      rcases exists_writeFrames areShort draws _ 0 with ⟨messages, isWritten⟩
      exact ⟨_, messages, writeServerResponse_eq isFit isSession, isWritten⟩
    · intro _ _ isResponse isWritten
      have isFrames := frames_of_writeFrames isWritten
      apply (decodes_readServerResponse isResponse).bind
      rw [← isFrames.length_eq]
      exact isFrames.decodes.bind_pure _

/-! ## A stream without encryption -/

namespace Sample

/-- The tag of a block is its nonce. -/
def tag (nonce : Bytes) : Bytes := (nonce ++ replicate overhead 0).take overhead

theorem length_tag (nonce : Bytes) : (tag nonce).length = overhead := by
  simp [tag]

def plain : Crypto where
  deriveKey length _ _ := replicate length 0
  length_deriveKey _ _ _ := length_replicate
  sum512 _ := replicate 64 0
  encryptBlock _ _ := replicate authenticatorSize 0
  length_encryptBlock _ _ := length_replicate
  sealBlock _ _ nonce plaintext := plaintext ++ tag nonce
  length_sealBlock _ _ nonce plaintext := by rw [length_append, length_tag]
  openBlock _ _ nonce ciphertext :=
    if ciphertext.drop (ciphertext.length - overhead) = tag nonce then
      some (ciphertext.take (ciphertext.length - overhead))
    else none
  openBlock_eq_some_iff _ _ nonce ciphertext plaintext := by
    constructor
    · intro isOpened
      rcases Option.ite_none_right_eq_some.mp isOpened with ⟨isTag, isPlain⟩
      rw [← Option.some.inj isPlain, ← isTag, take_append_drop]
    · rintro rfl
      rw [length_append, length_tag, Nat.add_sub_cancel, drop_left, take_left, if_pos rfl]

def credentials : Credentials where
  method := .aes128GCM
  password := [1]
  nodePassword := [2]

def destination : Destination where
  host := Bytes.ofString "example.com"
  port := 443

def draw : WriteDraw where
  handshake :=
    { plan := ⟨5, fun _ => 0⟩, padding := ⟨0, fun _ => 7⟩, salt := ⟨0, fun _ => 9⟩, timestamp := 1 }
  frames _ := ⟨3, fun _ => 8⟩

def writes : List (Bytes × WriteDraw) := [([], draw), ([1, 2, 3], draw)]

end Sample

theorem sample_transparent : ∃ after sent session header payload frames,
    Conn.send Sample.plain { credentials := Sample.credentials, destination := Sample.destination,
                             network := tcpNetwork } Sample.writes = .ok (after, sent) ∧
      (Sample.credentials.readStream Sample.plain frames.length).Decodes
        (sent.flatMap Written.calls).flatten
        (session, header, Sample.destination, payload, frames) ∧
      header.network = tcpNetwork ∧ payload ++ (frames.map Prod.fst).flatten = [1, 2, 3] := by
  have valid : Sample.credentials.Valid 16 := ⟨rfl, by decide, by decide⟩
  have isName : parseIP Sample.destination.host = none := by decide +kernel
  have sendable : Sample.destination.Sendable := by
    refine ⟨by decide, by decide, by decide, ?_⟩
    intro _ isAddress
    cases isName.symm.trans isAddress
  have someWrite : Sample.writes ≠ [] := by simp [Sample.writes]
  have transparent := stream_transparent Sample.plain valid sendable tcpNetwork someWrite
  rcases transparent.1 (by decide) with ⟨⟨after, sent⟩, isSent⟩
  rcases transparent.2.1 after sent isSent with
    ⟨session, header, payload, frames, decodes, isNetwork, -, isPayload, -⟩
  exact ⟨after, sent, session, header, payload, frames, isSent, decodes, isNetwork, isPayload⟩

end SingBox.Ninja
