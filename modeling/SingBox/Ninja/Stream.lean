import SingBox.Foundation.NetipParse
import SingBox.Foundation.Wire

/-! # Streams of the Ninja protocol

The two ends of a stream: the handshake of the client, the response of the
server, and frames. The ciphers and hash functions are a parameter, and what
`crypto/rand` draws is an argument. A function that changes the nonce of its
session returns the changed session.
-/

namespace SingBox.Ninja

open Netip Wire Bytes

inductive Method
  | aes128GCM
  | aes192GCM
  | aes256GCM
  | chaCha20Poly1305
  | other (value : String)
  deriving DecidableEq

def Method.name : Method → String
  | .aes128GCM => "aes-128-gcm"
  | .aes192GCM => "aes-192-gcm"
  | .aes256GCM => "aes-256-gcm"
  | .chaCha20Poly1305 => "chacha20-ietf-poly1305"
  | .other value => value

def Method.keyLen : Method → Except Err Nat
  | .aes128GCM => .ok 16
  | .aes192GCM => .ok 24
  | .aes256GCM => .ok 32
  | .chaCha20Poly1305 => .ok 32
  | .other value => .error (.new ("unsupported Ninja method " ++ value.quote))

/-- `aead.Overhead()` of all methods. -/
def overhead : Nat := 16

/-- `aead.NonceSize()` of all methods. -/
def nonceSize : Nat := 12

/-- `aes.BlockSize`. -/
def authenticatorSize : Nat := 16

/-- The functions of `blake3`, `crypto/aes` and `crypto/cipher`. A ciphertext is
opened if it was sealed with the same key and nonce, and otherwise there is an
error. -/
structure Crypto where
  deriveKey : (length : Nat) → (context : String) → (material : Bytes) → Bytes
  length_deriveKey : ∀ length context material, (deriveKey length context material).length = length
  sum512 : Bytes → Bytes
  encryptBlock : (key block : Bytes) → Bytes
  length_encryptBlock : ∀ key block, (encryptBlock key block).length = authenticatorSize
  sealBlock : Method → (key nonce plaintext : Bytes) → Bytes
  length_sealBlock : ∀ method key nonce plaintext,
    (sealBlock method key nonce plaintext).length = plaintext.length + overhead
  openBlock : Method → (key nonce ciphertext : Bytes) → Option Bytes
  openBlock_eq_some_iff : ∀ method key nonce ciphertext plaintext,
    openBlock method key nonce ciphertext = some plaintext ↔
      ciphertext = sealBlock method key nonce plaintext

/-- What one use of `crypto/rand` draws: a number and bytes. -/
structure Draw where
  number : Nat
  bytes : Nat → BitVec 8

namespace Draw

/-- `rand.Int`: a number below the maximum. -/
def int (draw : Draw) (maximum : Nat) : Nat := draw.number % maximum

/-- `rand.Read` into a buffer of the length. -/
def read (draw : Draw) (length : Nat) : Bytes := (List.range length).map draw.bytes

@[simp] theorem length_read (draw : Draw) (length : Nat) : (draw.read length).length = length := by
  simp [read]

theorem int_lt (draw : Draw) {maximum : Nat} (positive : 0 < maximum) :
    draw.int maximum < maximum :=
  Nat.mod_lt _ positive

end Draw

def pskContext : String := "de6dbaddc4e0dbaaeb65778b44e6fdac"

def subKeyContext : String := "52386811679ea908c4a2b02f367c472c"

def headerContext : String := "e14d197ae519bdd2d9a75ae94df7e208"

structure Credentials where
  method : Method
  password : Bytes
  nodePassword : Bytes

structure Destination where
  host : Bytes
  port : BitVec 16
  deriving DecidableEq

/-- The time stamp is in milliseconds. -/
structure Header where
  network : BitVec 8
  timestamp : BitVec 64
  clientSalt : Bytes
  firstDataSize : Nat
  deriving DecidableEq

/-- A session: the AEAD of a key, and the nonce of the next block. -/
structure Session where
  method : Method
  key : Bytes
  nonce : Bytes
  deriving DecidableEq

def maxCorePayload : Nat := 0x3fff

def tcpNetwork : BitVec 8 := 1

def udpNetwork : BitVec 8 := 2

def firstBlockTarget : Nat := 877

def firstBlockMaxPad : Nat := 900

def tcpWriteBufferSize : Nat := 0x8000

/-- `planFirstBlock`: the lengths of the padding and of the payload. -/
def planFirstBlock (length existingPayloadLength : Nat) (draw : Draw) : Nat × Nat :=
  let available : Int := firstBlockTarget - length - existingPayloadLength
  let available := if available > firstBlockMaxPad then (firstBlockMaxPad : Int) else available
  if available ≤ 0 then (1, existingPayloadLength)
  else
    let paddingLength := draw.int available.toNat + 1
    let payloadLength : Int := firstBlockTarget - length - paddingLength + 1
    (paddingLength,
      if payloadLength < existingPayloadLength then existingPayloadLength else payloadLength.toNat)

def Credentials.validate (credentials : Credentials) : Except Err Unit :=
  match credentials.method.keyLen with
  | .error err => .error err
  | .ok _ =>
    if credentials.password = [] ∨ credentials.nodePassword = [] then
      .error (.new "Ninja password and node password are required")
    else .ok ()

/-- The carry goes to the next byte when a byte has become zero. -/
def incrementNonce : Bytes → Bytes
  | [] => []
  | byte :: rest => if byte + 1 ≠ 0 then (byte + 1) :: rest else 0 :: incrementNonce rest

/-! ## Addresses -/

/-- `net.ParseIP`: the sixteen bytes of an address without a zone. -/
def parseIP (text : Bytes) : Option (BitVec 128) :=
  match Addr.parse text with
  | some (.v6 bits zone) => if zone = "" then some bits else none
  | some address => some address.as16
  | none => none

/-- `IP.To4` of sixteen bytes. -/
def to4 (address : BitVec 128) : Option (BitVec 32) :=
  if (Addr.v6 address "").is4In6 then some (address.extractLsb' 0 32) else none

/-- `IP.String` of sixteen bytes. -/
def ipString (address : BitVec 128) : Bytes :=
  match to4 address with
  | some bits => Addr.string (.v4 bits)
  | none => Addr.string (.v6 address "")

def appendTransportPort (data : Bytes) (port : BitVec 16) : Bytes :=
  data ++ bigEndian 2 port.toNat

def encodeTransportDestination (destination : Destination) : Except Err Bytes :=
  if destination.host = [] ∨ destination.port = 0 then
    .error (.new "Ninja destination host and port are required")
  else
    match parseIP destination.host with
    | some address =>
      match to4 address with
      | some bits => .ok (appendTransportPort (1 :: bigEndian 4 bits.toNat) destination.port)
      | none => .ok (appendTransportPort (4 :: bigEndian 16 address.toNat) destination.port)
    | none =>
      if destination.host.length > 255 then .error (.new "Ninja hostname is too long")
      else
        .ok (appendTransportPort
          (3 :: BitVec.ofNat 8 destination.host.length :: destination.host) destination.port)

/-- `net.IP(bytes).String()` of four or sixteen bytes. -/
def bytesString (bytes : Bytes) : Bytes :=
  if bytes.length = 4 then Addr.string (.v4 (BitVec.ofNat 32 (ofBigEndian bytes)))
  else ipString (BitVec.ofNat 128 (ofBigEndian bytes))

/-- `binary.BigEndian.Uint16`. -/
def uint16 (data : Bytes) : Nat := ofBigEndian (data.take 2)

/-- The destination and how many bytes it takes. -/
def decodeTransportDestination (data : Bytes) : Except Err (Destination × Nat) :=
  match data with
  | [] => .error .unexpectedEOF
  | kind :: rest =>
    if kind = 1 then
      if data.length < 7 then .error .unexpectedEOF
      else
        .ok ({ host := bytesString (rest.take 4)
               port := BitVec.ofNat 16 (uint16 (rest.drop 4)) }, 7)
    else if kind = 3 then
      match rest with
      | [] => .error .unexpectedEOF
      | hostLength :: rest =>
        if data.length < 2 + hostLength.toNat + 2 then .error .unexpectedEOF
        else
          .ok ({ host := rest.take hostLength.toNat
                 port := BitVec.ofNat 16 (uint16 (rest.drop hostLength.toNat)) },
            2 + hostLength.toNat + 2)
    else if kind = 4 then
      if data.length < 19 then .error .unexpectedEOF
      else
        .ok ({ host := bytesString (rest.take 16)
               port := BitVec.ofNat 16 (uint16 (rest.drop 16)) }, 19)
    else .error (.new ("unsupported Ninja address type " ++ toString kind.toNat))

def decodeInitialData (data : Bytes) : Except Err (Destination × Bytes) :=
  match decodeTransportDestination data with
  | .error err => .error err
  | .ok (destination, consumed) =>
    if data.length < consumed + 2 then .error .unexpectedEOF
    else
      let paddingLength := uint16 (data.drop consumed)
      let consumed := consumed + 2
      if data.length < consumed + paddingLength then .error .unexpectedEOF
      else .ok (destination, data.drop (consumed + paddingLength))

/-! ## Sessions -/

section

variable (crypto : Crypto)

def Method.psk (method : Method) (password : Bytes) : Except Err Bytes :=
  if password = [] then .error (.new "empty password")
  else
    match method.keyLen with
    | .error err => .error err
    | .ok keyLength => .ok (crypto.deriveKey keyLength pskContext password)

def Method.derive (method : Method) (context : String) (key material : Bytes) : Except Err Bytes :=
  match method.keyLen with
  | .error err => .error err
  | .ok keyLength => .ok (crypto.deriveKey keyLength context (key ++ material))

def Method.newSession (method : Method) (key : Bytes) : Except Err Session :=
  match method.keyLen with
  | .error err => .error err
  | .ok keyLength =>
    if key.length ≠ keyLength then
      .error (.new ("invalid " ++ method.name ++ " key length " ++ toString key.length))
    else .ok { method := method, key := key, nonce := List.replicate nonceSize 0 }

/-- `newSession`: the session and the authenticator. The length of a derived key
is one that AES takes. -/
def Credentials.newSession (credentials : Credentials) (salt : Bytes) :
    Except Err (Session × Bytes) := do
  let nodePSK ← credentials.method.psk crypto credentials.nodePassword
  let passwordPSK ← credentials.method.psk crypto credentials.password
  let headerKey ← credentials.method.derive crypto headerContext nodePSK salt
  let authenticator := crypto.encryptBlock headerKey
    ((crypto.sum512 passwordPSK).take authenticatorSize)
  let dataKey ← credentials.method.derive crypto subKeyContext passwordPSK salt
  let session ← credentials.method.newSession dataKey
  pure (session, authenticator)

/-- The session of a response has no header key. -/
def Credentials.responseSession (credentials : Credentials) (salt : Bytes) :
    Except Err Session := do
  let passwordPSK ← credentials.method.psk crypto credentials.password
  let dataKey ← credentials.method.derive crypto subKeyContext passwordPSK salt
  credentials.method.newSession dataKey

namespace Session

def next (session : Session) : Session :=
  { session with nonce := incrementNonce session.nonce }

def sealBlock (session : Session) (plaintext : Bytes) : Bytes × Session :=
  (crypto.sealBlock session.method session.key session.nonce plaintext, session.next)

/-- `open`, whose error is the one of the AEAD. -/
def openBlock (session : Session) (ciphertext : Bytes) : Except Err (Bytes × Session) :=
  match crypto.openBlock session.method session.key session.nonce ciphertext with
  | none => .error (.new "cipher: message authentication failed")
  | some plaintext => .ok (plaintext, session.next)

end Session

def makeHeader (network : BitVec 8) (timestamp : BitVec 64) (firstDataSize : Nat) : Bytes :=
  [0, network] ++ bigEndian 8 timestamp.toNat ++ bigEndian 2 firstDataSize

def parseHeader (header : Bytes) : Except Err Header :=
  if header.length ≠ 12 then
    .error (.new ("invalid Ninja header length " ++ toString header.length))
  else
    .ok
      { network := header.getD 1 0
        timestamp := BitVec.ofNat 64 (ofBigEndian ((header.drop 2).take 8))
        clientSalt := []
        firstDataSize := uint16 (header.drop 10) }

/-! ## The writing end -/

/-- A message that was written: its bytes, and the session after it. -/
structure Message where
  bytes : Bytes
  after : Session
  deriving DecidableEq

/-- What the handshake of a client draws, and the time of it. -/
structure HandshakeDraw where
  plan : Draw
  padding : Draw
  salt : Draw
  timestamp : BitVec 64

variable (credentials : Credentials)

/-- `WriteClientHandshakeNetwork`, with the salt that was written first. -/
def Credentials.writeClientHandshake (network : BitVec 8)
    (destination : Destination) (payload : Bytes) (paddingLength : Nat) (draw : HandshakeDraw) :
    Except Err (Message × Bytes) := do
  credentials.validate
  let encodedDestination ← encodeTransportDestination destination
  let firstDataSize := encodedDestination.length + 2 + paddingLength + payload.length
  if firstDataSize > 0xffff then
    throw (.new ("initial Ninja data is too large: " ++ toString firstDataSize))
  else
    let firstData := encodedDestination ++ bigEndian 2 paddingLength ++
      draw.padding.read paddingLength ++ payload
    let keyLength ← credentials.method.keyLen
    let salt := draw.salt.read keyLength
    let (session, authenticator) ← credentials.newSession crypto salt
    let (headerCiphertext, session) :=
      session.sealBlock crypto (makeHeader network draw.timestamp firstData.length)
    let (firstDataCiphertext, session) := session.sealBlock crypto firstData
    pure ({ bytes := salt ++ authenticator ++ headerCiphertext ++ firstDataCiphertext
            after := session }, salt)

structure ServerResponse where
  clientSalt : Bytes
  timestamp : BitVec 64
  payload : Bytes
  padding : Nat

def Credentials.writeServerResponse (response : ServerResponse)
    (saltDraw paddingDraw : Draw) : Except Err Message := do
  let keyLength ← credentials.method.keyLen
  if credentials.password = [] then throw (.new "Ninja password is required")
  else if response.clientSalt.length ≠ keyLength then
    throw (.new ("invalid Ninja client salt length " ++ toString response.clientSalt.length))
  else
    let totalLength := response.payload.length + response.padding
    if totalLength > 0xffff then
      throw (.new ("Ninja response is too large: " ++ toString totalLength))
    else
      let salt := saltDraw.read keyLength
      let session ← credentials.responseSession crypto salt
      let header := 1 :: bigEndian 8 response.timestamp.toNat ++ response.clientSalt ++
        bigEndian 2 totalLength ++ bigEndian 2 response.padding
      let (headerCiphertext, session) := session.sealBlock crypto header
      if totalLength = 0 then pure { bytes := salt ++ headerCiphertext, after := session }
      else
        let (bodyCiphertext, session) :=
          session.sealBlock crypto (response.payload ++ paddingDraw.read response.padding)
        pure { bytes := salt ++ headerCiphertext ++ bodyCiphertext, after := session }

def randomPaddingLength (payloadLength : Nat) (draw : Draw) : Nat :=
  if 0xffff ≤ payloadLength then 0 else draw.int (min 900 (0xffff - payloadLength))

def Session.writeFrame (session : Session) (payload : Bytes) (draw : Draw) : Except Err Message :=
  if payload.length > 0xffff then
    .error (.new ("Ninja frame is too large: " ++ toString payload.length))
  else
    let paddingLength := randomPaddingLength payload.length draw
    let length := bigEndian 2 (payload.length + paddingLength) ++
      bigEndian 2 paddingLength
    let (lengthCiphertext, session) := session.sealBlock crypto length
    let (payloadCiphertext, session) :=
      session.sealBlock crypto (payload ++ draw.read paddingLength)
    .ok { bytes := lengthCiphertext ++ payloadCiphertext, after := session }

/-! ## The reading end -/

/-- A result that was computed without reading. -/
def given {Value : Type} (result : Except Err Value) : Reader Value := fun input =>
  result.map fun value => (value, input)

def Credentials.readClientHandshake :
    Reader (Session × Header × Destination × Bytes) := do
  given credentials.validate
  let keyLength ← given credentials.method.keyLen
  let salt ← readFull keyLength
  let authenticator ← readFull authenticatorSize
  let (session, expectedAuthenticator) ← given (credentials.newSession crypto salt)
  if authenticator ≠ expectedAuthenticator then throw (.new "invalid Ninja authenticator")
  else
    let headerCiphertext ← readFull (12 + overhead)
    let (headerPlaintext, session) ←
      given ((session.openBlock crypto headerCiphertext).mapError (.cause "decrypt Ninja header"))
    let header ← given (parseHeader headerPlaintext)
    let firstDataCiphertext ← readFull (header.firstDataSize + overhead)
    let (firstData, session) ← given ((session.openBlock crypto firstDataCiphertext).mapError
      (.cause "decrypt initial Ninja data"))
    let (destination, payload) ← given (decodeInitialData firstData)
    pure (session, { header with clientSalt := salt }, destination, payload)

def Credentials.readServerResponse (clientSalt : Bytes) :
    Reader (Session × Bytes) := do
  let keyLength ← given credentials.method.keyLen
  if credentials.password = [] then throw (.new "Ninja password is required")
  else if clientSalt.length ≠ keyLength then
    throw (.new ("invalid Ninja client salt length " ++ toString clientSalt.length))
  else
    let responseSalt ← readFull keyLength
    let session ← given (credentials.responseSession crypto responseSalt)
    let headerCiphertext ← readFull (keyLength + 13 + overhead)
    let (header, session) ← given ((session.openBlock crypto headerCiphertext).mapError
      (.cause "decrypt Ninja response header"))
    if header.length ≠ keyLength + 13 ∨ header.head? ≠ some 1 then
      throw (.new "invalid Ninja response header")
    else if (header.drop 9).take keyLength ≠ clientSalt then
      throw (.new "invalid Ninja response client salt")
    else
      let totalLength := uint16 (header.drop (9 + keyLength))
      let paddingLength := uint16 (header.drop (11 + keyLength))
      if paddingLength > totalLength then
        throw (.new ("Ninja response padding exceeds body length: " ++ toString paddingLength ++
          " > " ++ toString totalLength))
      else if totalLength = 0 then pure (session, [])
      else
        let bodyCiphertext ← readFull (totalLength + overhead)
        let (body, session) ← given ((session.openBlock crypto bodyCiphertext).mapError
          (.cause "decrypt Ninja response body"))
        pure (session, body.take (totalLength - paddingLength))

def Session.readFrame (session : Session) : Reader (Bytes × Session) := do
  let lengthCiphertext ← readFull (4 + overhead)
  let (lengthPlaintext, session) ← given ((session.openBlock crypto lengthCiphertext).mapError
    (.cause "decrypt Ninja frame length"))
  if lengthPlaintext.length ≠ 4 then
    throw (.new ("invalid Ninja frame length block " ++ toString lengthPlaintext.length))
  else
    let totalLength := uint16 lengthPlaintext
    let paddingLength := uint16 (lengthPlaintext.drop 2)
    if paddingLength > totalLength then
      throw (.new ("Ninja padding exceeds frame length: " ++ toString paddingLength ++ " > " ++
        toString totalLength))
    else
      let payloadCiphertext ← readFull (totalLength + overhead)
      let (payload, session) ← given ((session.openBlock crypto payloadCiphertext).mapError
        (.cause "decrypt Ninja frame payload"))
      pure (payload.take (totalLength - paddingLength), session)

end

end SingBox.Ninja
