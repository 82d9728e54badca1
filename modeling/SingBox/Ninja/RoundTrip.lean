import SingBox.Ninja.Stream

/-! # What one end writes, the other end reads

For the handshake, the response and a frame: the reader takes exactly the bytes
that were written, whatever follows, and its session is then the session of the
writer.
-/

namespace SingBox.Ninja

open Netip Wire Decoder List Bytes Credentials Nat

variable {crypto : Crypto} {session : Session} {Value Result : Type}
  {later plaintext payload : Bytes} {length : Nat} {value : Value} {result : Result}
  {next : Bytes × Session → Reader Result} {destination : Destination} {encoded : Bytes}

theorem decodes_given_bind {computed : Except Err Value}
    {next : Value → Reader Result} (isOk : computed = .ok value)
    (isNext : (next value).Decodes later result) :
    (given computed >>= next).Decodes later result := by
  subst isOk
  exact isNext

theorem decodes_sealed (context : String) (isLength : plaintext.length = length)
    (isNext : (next (plaintext, session.next)).Decodes later result) :
    (readFull (length + overhead) >>= fun ciphertext =>
      given ((session.openBlock crypto ciphertext).mapError (.cause context)) >>= next).Decodes
      ((session.sealBlock crypto plaintext).1 ++ later) result := by
  apply Decodes.bind
  · apply decodes_readFull
    rw [Session.sealBlock, crypto.length_sealBlock, isLength]
  · have isOpened : (session.openBlock crypto (session.sealBlock crypto plaintext).1).mapError
        (Err.cause context) = .ok (plaintext, session.next) := by
      rw [Session.openBlock, Session.sealBlock, (crypto.openBlock_eq_some_iff _ _ _ _ _).mpr rfl]
      rfl
    exact decodes_given_bind isOpened isNext

theorem decodes_last_sealed (context : String) (isLength : plaintext.length = length)
    (isNext : (next (plaintext, session.next)).Decodes [] result) :
    (readFull (length + overhead) >>= fun ciphertext =>
      given ((session.openBlock crypto ciphertext).mapError (.cause context)) >>= next).Decodes
      (session.sealBlock crypto plaintext).1 result := by
  rw [← append_nil (session.sealBlock crypto plaintext).1]
  exact decodes_sealed context isLength isNext

theorem uint16_bigEndian {value : Nat} (fits : value < 65536) (rest : Bytes) :
    uint16 (bigEndian 2 value ++ rest) = value := by
  rw [uint16, take_left' (by simp), ofBigEndian_of_lt 2 fits]

/-! ## Frames -/

theorem randomPaddingLength_le {payloadLength : Nat} (fits : payloadLength ≤ 0xffff)
    (draw : Draw) : payloadLength + randomPaddingLength payloadLength draw < 65536 := by
  rw [randomPaddingLength]
  split
  · omega
  have positive : 0 < min 900 (0xffff - payloadLength) := by omega
  have below := draw.int_lt positive
  omega

theorem exists_writeFrame (fits : payload.length ≤ 0xffff) (draw : Draw) :
    ∃ message, session.writeFrame crypto payload draw = .ok message := by
  rw [Session.writeFrame, if_neg (not_lt.mpr fits)]
  exact ⟨_, rfl⟩

theorem decodes_readFrame {draw : Draw} {message : Message}
    (isWritten : session.writeFrame crypto payload draw = .ok message) :
    (session.readFrame crypto).Decodes message.bytes (payload, message.after) := by
  rw [Session.writeFrame] at isWritten
  split_ifs at isWritten with fits
  have below := randomPaddingLength_le (not_lt.mp fits) draw
  have isTotal := uint16_bigEndian below (bigEndian 2 (randomPaddingLength payload.length draw))
  have isPadding : uint16 ((bigEndian 2
      (payload.length + randomPaddingLength payload.length draw) ++
        bigEndian 2 (randomPaddingLength payload.length draw)).drop 2) =
      randomPaddingLength payload.length draw := by
    have fits : randomPaddingLength payload.length draw < 65536 := by omega
    rw [drop_left' (bigEndian_length ..)]
    simpa using uint16_bigEndian fits []
  cases isWritten
  apply decodes_sealed
  · simp
  · dsimp only
    rw [if_neg (by simp), isTotal, isPadding, if_neg (by omega)]
    apply decodes_last_sealed
    · simp
    · have isPayload : (payload ++ draw.read (randomPaddingLength payload.length draw)).take
          (payload.length + randomPaddingLength payload.length draw -
            randomPaddingLength payload.length draw) = payload := by
        rw [Nat.add_sub_cancel, take_left]
      rw [isPayload]
      exact Decodes.pure _

/-! ## Destinations -/

/-- A host that is a name, or an address in the form in which `IP.String` writes it. -/
def Destination.Canonical (destination : Destination) : Prop :=
  ∀ address, parseIP destination.host = some address → ipString address = destination.host

/-- A destination that can be sent: a host of 1 to 255 bytes and a port. -/
structure Destination.Sendable (destination : Destination) : Prop where
  host : destination.host ≠ []
  short : destination.host.length ≤ 255
  port : destination.port ≠ 0
  canonical : destination.Canonical

theorem ofNat_uint16 (port : BitVec 16) (rest : Bytes) :
    BitVec.ofNat 16 (uint16 (bigEndian 2 port.toNat ++ rest)) = port := by
  rw [uint16_bigEndian port.isLt, ofNat_word]

theorem bytesString_of4 (bits : BitVec 32) :
    bytesString (bigEndian 4 bits.toNat) = Addr.string (.v4 bits) := by
  rw [bytesString, if_pos (bigEndian_length ..), ofBigEndian_of_lt 4 bits.isLt, ofNat_word]

theorem bytesString_of16 (bits : BitVec 128) :
    bytesString (bigEndian 16 bits.toNat) = ipString bits := by
  rw [bytesString, if_neg (by simp), ofBigEndian_of_lt 16 bits.isLt, ofNat_word]

section

variable (front rest : Bytes) (port : BitVec 16)

theorem decode_four (isLength : front.length = 4) :
    decodeTransportDestination (1 :: (front ++ (bigEndian 2 port.toNat ++ rest))) =
      .ok ({ host := bytesString front, port := port }, 7) := by
  unfold decodeTransportDestination
  dsimp only
  rw [if_pos rfl, if_neg (by simp; omega), take_left' isLength,
    drop_left' isLength, ofNat_uint16]

theorem decode_sixteen (isLength : front.length = 16) :
    decodeTransportDestination (4 :: (front ++ (bigEndian 2 port.toNat ++ rest))) =
      .ok ({ host := bytesString front, port := port }, 19) := by
  unfold decodeTransportDestination
  dsimp only
  rw [if_neg (by decide), if_neg (by decide), if_pos rfl, if_neg (by simp [isLength]; omega),
    take_left' isLength, drop_left' isLength, ofNat_uint16]

theorem decode_name (isLength : front.length ≤ 255) :
    decodeTransportDestination (3 :: BitVec.ofNat 8 front.length ::
        (front ++ (bigEndian 2 port.toNat ++ rest))) =
      .ok ({ host := front, port := port }, 2 + front.length + 2) := by
  have isBack : (BitVec.ofNat 8 front.length).toNat = front.length := toNat_of_lt (by omega)
  unfold decodeTransportDestination
  dsimp only
  rw [if_neg (by decide), if_pos rfl, isBack, if_neg (by simp; omega), take_left,
    drop_left, ofNat_uint16]

end

theorem decodeTransportDestination_encoded (canonical : destination.Canonical)
    (isEncoded : encodeTransportDestination destination = .ok encoded) (rest : Bytes) :
    decodeTransportDestination (encoded ++ rest) = .ok (destination, encoded.length) := by
  rw [encodeTransportDestination] at isEncoded
  split at isEncoded
  · cases isEncoded
  split at isEncoded
  · next address isAddress =>
    have isHost := canonical address isAddress
    split at isEncoded
    · next bits isFour =>
      cases isEncoded
      rw [ipString, isFour] at isHost
      rw [appendTransportPort, append_assoc, cons_append,
        decode_four _ _ _ (bigEndian_length ..), bytesString_of4]
      simp [isHost]
    · cases isEncoded
      rw [appendTransportPort, append_assoc, cons_append,
        decode_sixteen _ _ _ (bigEndian_length ..), bytesString_of16]
      simp [isHost]
  · split_ifs at isEncoded with isShort
    cases isEncoded
    rw [appendTransportPort, append_assoc, cons_append, cons_append,
      decode_name _ _ _ (not_lt.mp isShort)]
    simp
    omega

theorem exists_encoded (sendable : destination.Sendable) :
    ∃ encoded, encodeTransportDestination destination = .ok encoded ∧ encoded.length ≤ 259 := by
  rw [encodeTransportDestination, if_neg (not_or.mpr ⟨sendable.host, sendable.port⟩)]
  split
  · split <;> exact ⟨_, rfl, by simp [appendTransportPort]⟩
  have isShort := sendable.short
  rw [if_neg (not_lt.mpr isShort)]
  refine ⟨_, rfl, ?_⟩
  simp only [appendTransportPort, length_append, length_cons, bigEndian_length]
  omega

theorem decodeInitialData_written {padding : Bytes} (canonical : destination.Canonical)
    (isEncoded : encodeTransportDestination destination = .ok encoded)
    (fits : padding.length < 65536) (payload : Bytes) :
    decodeInitialData (encoded ++ bigEndian 2 padding.length ++ padding ++ payload) =
      .ok (destination, payload) := by
  have isData : encoded ++ bigEndian 2 padding.length ++ padding ++ payload =
      encoded ++ (bigEndian 2 padding.length ++ (padding ++ payload)) := by
    simp
  rw [isData, decodeInitialData, decodeTransportDestination_encoded canonical isEncoded]
  dsimp only
  rw [drop_left, uint16_bigEndian fits, if_neg (by simp; omega), if_neg (by simp; omega)]
  have isRest : (encoded ++ (bigEndian 2 padding.length ++ (padding ++ payload))).drop
      (encoded.length + 2 + padding.length) = payload := by
    rw [add_assoc, ← drop_drop, drop_left, ← append_assoc]
    apply drop_left'
    simp
  rw [isRest]

/-! ## The handshake -/

theorem parseHeader_makeHeader {size : Nat} (network : BitVec 8) (timestamp : BitVec 64)
    (fits : size < 65536) :
    parseHeader (makeHeader network timestamp size) =
      .ok { network := network, timestamp := timestamp, clientSalt := [], firstDataSize := size }
    := by
  have isSize : uint16 (bigEndian 2 size) = size := by
    simpa using uint16_bigEndian fits []
  rw [parseHeader, if_neg (by simp [makeHeader])]
  have isMiddle : ((makeHeader network timestamp size).drop 2).take 8 =
      bigEndian 8 timestamp.toNat := by
    rw [makeHeader, append_assoc]
    exact take_left' (bigEndian_length ..)
  have isEnd : (makeHeader network timestamp size).drop 10 = bigEndian 2 size := by
    rw [makeHeader]
    apply drop_left'
    simp
  rw [isMiddle, isEnd, ofBigEndian_of_lt 8 timestamp.isLt, isSize, ofNat_word]
  rfl

structure Credentials.Valid (credentials : Credentials) (keyLength : Nat) : Prop where
  keyLen : credentials.method.keyLen = .ok keyLength
  password : credentials.password ≠ []
  nodePassword : credentials.nodePassword ≠ []

variable {credentials : Credentials} {keyLength : Nat}

theorem Credentials.Valid.validate (valid : credentials.Valid keyLength) :
    credentials.validate = .ok () := by
  rw [Credentials.validate, valid.keyLen]
  rw [if_neg (by simp [valid.password, valid.nodePassword])]

theorem newSession_derived {method : Method} (isLength : method.keyLen = .ok keyLength)
    (crypto : Crypto) (context : String) (material : Bytes) :
    method.newSession (crypto.deriveKey keyLength context material) =
      .ok { method := method
            key := crypto.deriveKey keyLength context material
            nonce := replicate nonceSize 0 } := by
  rw [Method.newSession, isLength]
  dsimp only
  rw [if_neg (by simp [crypto.length_deriveKey])]

theorem Credentials.Valid.newSession (valid : credentials.Valid keyLength) (crypto : Crypto)
    (salt : Bytes) : ∃ session authenticator,
      credentials.newSession crypto salt = .ok (session, authenticator) ∧
        authenticator.length = authenticatorSize := by
  simp only [Credentials.newSession, Method.psk, Method.derive, valid.keyLen, valid.password,
    valid.nodePassword, Except.bind, bind, newSession_derived valid.keyLen]
  exact ⟨_, _, rfl, crypto.length_encryptBlock ..⟩

theorem exists_responseSession (isLength : credentials.method.keyLen = .ok keyLength)
    (isPassword : credentials.password ≠ []) (crypto : Crypto) (salt : Bytes) :
    ∃ session, credentials.responseSession crypto salt = .ok session := by
  simp only [responseSession, Method.psk, Method.derive, isLength, isPassword, Except.bind, bind,
    newSession_derived isLength]
  exact ⟨_, rfl⟩

variable {network : BitVec 8} {destination : Destination} {payload encoded : Bytes}
  {paddingLength : Nat} {draw : HandshakeDraw}

def firstBlock (encoded payload : Bytes) (paddingLength : Nat) (draw : HandshakeDraw) : Bytes :=
  encoded ++ bigEndian 2 paddingLength ++ draw.padding.read paddingLength ++ payload

@[simp] theorem length_firstBlock : (firstBlock encoded payload paddingLength draw).length =
    encoded.length + 2 + paddingLength + payload.length := by
  simp [firstBlock, add_assoc]

theorem writeClientHandshake_eq {authenticator : Bytes}
    (valid : credentials.Valid keyLength)
    (isEncoded : encodeTransportDestination destination = .ok encoded)
    (fits : encoded.length + 2 + paddingLength + payload.length ≤ 0xffff)
    (isSession : credentials.newSession crypto (draw.salt.read keyLength) =
      .ok (session, authenticator)) :
    credentials.writeClientHandshake crypto network destination payload paddingLength draw =
      .ok ({ bytes := draw.salt.read keyLength ++ authenticator ++
              (session.sealBlock crypto (makeHeader network draw.timestamp
                (encoded.length + 2 + paddingLength + payload.length))).1 ++
              (session.next.sealBlock crypto (firstBlock encoded payload paddingLength draw)).1
             after := session.next.next }, draw.salt.read keyLength) := by
  simp only [writeClientHandshake, valid.validate, isEncoded, valid.keyLen, isSession, bind,
    Except.bind, if_neg (not_lt.mpr fits)]
  rw [← firstBlock, length_firstBlock]
  rfl

variable {message : Message}

theorem decodes_readClientHandshake {salt : Bytes}
    (valid : credentials.Valid keyLength) (canonical : destination.Canonical)
    (isWritten : credentials.writeClientHandshake crypto network destination payload paddingLength
      draw = .ok (message, salt)) :
    ∃ header : Header, header.network = network ∧ header.clientSalt = salt ∧
      (credentials.readClientHandshake crypto).Decodes message.bytes
        (message.after, header, destination, payload) := by
  rcases valid.newSession crypto (draw.salt.read keyLength) with
    ⟨session, authenticator, isSession, isLength⟩
  rcases bind_eq_ok isWritten with ⟨_, _, isOk⟩
  rcases bind_eq_ok isOk with ⟨encoded, isEncoded, isOk⟩
  by_cases fits : encoded.length + 2 + paddingLength + payload.length ≤ 0xffff
  · rw [writeClientHandshake_eq valid isEncoded fits isSession] at isWritten
    cases isWritten
    refine ⟨{ network := network
              timestamp := draw.timestamp
              clientSalt := draw.salt.read keyLength
              firstDataSize := encoded.length + 2 + paddingLength + payload.length },
      rfl, rfl, ?_⟩
    have isFirst : (draw.padding.read paddingLength).length < 65536 := by
      rw [Draw.length_read]
      omega
    have isData := decodeInitialData_written canonical isEncoded isFirst payload
    rw [Draw.length_read] at isData
    simp only [append_assoc]
    apply decodes_given_bind valid.validate
    apply decodes_given_bind valid.keyLen
    apply Decodes.bind (decodes_readFull (Draw.length_read ..))
    apply Decodes.bind (decodes_readFull isLength)
    apply decodes_given_bind isSession
    dsimp only
    rw [if_neg (not_not.mpr rfl)]
    apply decodes_sealed _ (by simp [makeHeader])
    apply decodes_given_bind (parseHeader_makeHeader network draw.timestamp (by omega))
    apply decodes_last_sealed _ length_firstBlock
    apply decodes_given_bind isData
    exact Decodes.pure _
  · rw [if_pos (not_le.mp fits)] at isOk
    cases isOk

/-! ## The response -/

def responseHeader (response : ServerResponse) : Bytes :=
  1 :: bigEndian 8 response.timestamp.toNat ++ response.clientSalt ++
    bigEndian 2 (response.payload.length + response.padding) ++
    bigEndian 2 response.padding

variable {response : ServerResponse} {saltDraw paddingDraw : Draw}

@[simp] theorem length_responseHeader :
    (responseHeader response).length = response.clientSalt.length + 13 := by
  simp only [responseHeader, length_append, length_cons, bigEndian_length]
  omega

theorem responseHeader_salt :
    ((responseHeader response).drop 9).take response.clientSalt.length = response.clientSalt := by
  have isFront : (1 :: bigEndian 8 response.timestamp.toNat).length = 9 := by simp
  rw [responseHeader, append_assoc, append_assoc, drop_left' isFront, take_left]

section

variable (fits : response.payload.length + response.padding < 65536)
include fits

theorem responseHeader_total :
    uint16 ((responseHeader response).drop (9 + response.clientSalt.length)) =
      response.payload.length + response.padding := by
  have isFront : (1 :: bigEndian 8 response.timestamp.toNat ++
      response.clientSalt).length = 9 + response.clientSalt.length := by
    simp only [length_append, length_cons, bigEndian_length]
  rw [responseHeader, append_assoc, drop_left' isFront]
  exact uint16_bigEndian fits _

theorem responseHeader_padding :
    uint16 ((responseHeader response).drop (11 + response.clientSalt.length)) =
      response.padding := by
  have isFront : (1 :: bigEndian 8 response.timestamp.toNat ++ response.clientSalt ++
      bigEndian 2 (response.payload.length + response.padding)).length =
        11 + response.clientSalt.length := by
    simp only [length_append, length_cons, bigEndian_length]
    omega
  have isSmall : response.padding < 65536 := by omega
  rw [responseHeader, drop_left' isFront]
  simpa using uint16_bigEndian isSmall []

end

/-- What `WriteServerResponse` demands. -/
structure ServerResponse.Fits (response : ServerResponse) (credentials : Credentials) : Prop where
  password : credentials.password ≠ []
  keyLen : credentials.method.keyLen = .ok response.clientSalt.length
  length : response.payload.length + response.padding ≤ 0xffff

def responseMessage (crypto : Crypto) (session : Session) (response : ServerResponse)
    (salt padding : Bytes) : Message :=
  if response.payload.length + response.padding = 0 then
    { bytes := salt ++ (session.sealBlock crypto (responseHeader response)).1
      after := session.next }
  else
    { bytes := salt ++ (session.sealBlock crypto (responseHeader response)).1 ++
        (session.next.sealBlock crypto (response.payload ++ padding)).1
      after := session.next.next }

theorem writeServerResponse_eq (isFit : response.Fits credentials)
    (isSession : credentials.responseSession crypto (saltDraw.read response.clientSalt.length) =
      .ok session) :
    credentials.writeServerResponse crypto response saltDraw paddingDraw =
      .ok (responseMessage crypto session response (saltDraw.read response.clientSalt.length)
        (paddingDraw.read response.padding)) := by
  simp only [writeServerResponse, isFit.keyLen, bind, Except.bind, isFit.password, if_false,
    ne_eq, not_true_eq_false, if_neg (not_lt.mpr isFit.length), isSession]
  rw [responseMessage]
  split <;> rfl

section

variable
  (isWritten : credentials.writeServerResponse crypto response saltDraw paddingDraw = .ok message)
include isWritten

theorem fits_of_writeServerResponse : response.Fits credentials := by
  rcases bind_eq_ok isWritten with ⟨_, isLength, isOk⟩
  split_ifs at isOk with isPassword isSalt
  dsimp only at isOk
  split at isOk
  · cases isOk
  · next isShort => exact ⟨isPassword, (not_not.mp isSalt) ▸ isLength, not_lt.mp isShort⟩

theorem decodes_readServerResponse :
    (credentials.readServerResponse crypto response.clientSalt).Decodes message.bytes
      (message.after, response.payload) := by
  have isFit := fits_of_writeServerResponse isWritten
  rcases exists_responseSession isFit.keyLen isFit.password crypto
    (saltDraw.read response.clientSalt.length) with ⟨session, isSession⟩
  rw [writeServerResponse_eq isFit isSession] at isWritten
  cases isWritten
  have fits : response.payload.length + response.padding < 65536 := by
    have isShort := isFit.length
    omega
  rw [readServerResponse, responseMessage]
  apply decodes_given_bind isFit.keyLen
  rw [if_neg isFit.password, if_neg (not_not.mpr rfl)]
  have isHeader : ¬((responseHeader response).length ≠ response.clientSalt.length + 13 ∨
      (responseHeader response).head? ≠ some 1) := by
    rw [not_or, not_not, not_not]
    exact ⟨length_responseHeader, rfl⟩
  by_cases isEmpty : response.payload.length + response.padding = 0
  · rw [if_pos isEmpty]
    apply Decodes.bind (decodes_readFull (Draw.length_read ..))
    apply decodes_given_bind isSession
    apply decodes_last_sealed _ length_responseHeader
    dsimp only
    have isPayload : response.payload = [] := by
      rw [← length_eq_zero_iff]
      omega
    rw [if_neg isHeader, responseHeader_salt, if_neg (not_not.mpr rfl),
      responseHeader_total fits, responseHeader_padding fits, if_neg (by omega), if_pos isEmpty,
      isPayload]
    exact Decodes.pure _
  · rw [if_neg isEmpty]
    rw [append_assoc]
    apply Decodes.bind (decodes_readFull (Draw.length_read ..))
    apply decodes_given_bind isSession
    apply decodes_sealed _ length_responseHeader
    dsimp only
    rw [if_neg isHeader, responseHeader_salt, if_neg (not_not.mpr rfl),
      responseHeader_total fits, responseHeader_padding fits, if_neg (by omega), if_neg isEmpty]
    apply decodes_last_sealed _ (by simp)
    rw [Nat.add_sub_cancel, take_left]
    exact Decodes.pure _

end

end SingBox.Ninja
