import SingBox.Foundation.Wire
import SingBox.Sniff.ClientHello

/-! # QUIC Initial packets

The first part of `QUICClientHello`: the long header of a packet is read, its
protection is taken off, and the payload is decrypted. The keys follow from the
connection ID in the packet, so a sender can put any payload into a packet.
-/

namespace SingBox.Sniff

open Wire Decoder

/-! ## Integers of variable length -/

/-- The number of bytes after the first one, whose two high bits say how many. -/
def uvarintLen (firstByte : BitVec 8) : Nat := 1 <<< ((firstByte &&& 0xc0) >>> 6).toNat - 1

/-- `qtls.ReadUvarint`. The value has 62 bits. -/
def readUvarint : Reader (BitVec 62) := do
  let firstByte ← readByte
  let rest ← collect (fun _ => readByte) 0 (uvarintLen firstByte)
  pure (BitVec.ofNat 62 (Bytes.ofBigEndian ((firstByte &&& 0x3f) :: rest)))

structure Varint where
  first : BitVec 8
  rest : Bytes
  rest_length : rest.length = uvarintLen first

namespace Varint

def bytes (varint : Varint) : Bytes := varint.first :: varint.rest

def value (varint : Varint) : BitVec 62 :=
  BitVec.ofNat 62 (Bytes.ofBigEndian ((varint.first &&& 0x3f) :: varint.rest))

end Varint

theorem reads_collect_readByte (index count : Nat) :
    (collect (fun _ => readByte) index count).Reads
      fun written bytes => written = bytes ∧ bytes.length = count where
  decodes := by
    rintro written bytes ⟨rfl, rfl⟩
    have decodes := Decodes.collect_map
      (fun byte (_ : byte ∈ written) (_ : Nat) => decodes_readByte byte) index
    simpa using decodes
  described := by
    intro input bytes _ isOk
    induction count generalizing index input bytes with
    | zero =>
      cases isOk
      exact ⟨[], rfl, rfl, rfl⟩
    | succ _ induction =>
      rw [collect] at isOk
      rcases run_bind_eq_ok isOk with ⟨byte, _, isByte, isRest⟩
      rcases run_bind_eq_ok isRest with ⟨others, _, areOthers, ⟨⟩⟩
      rcases induction (index + 1) areOthers with ⟨others, rfl, rfl, isLength⟩
      cases input with
      | nil => cases isByte
      | cons =>
        cases isByte
        exact ⟨byte :: others, rfl, rfl, by rw [List.length_cons, isLength]⟩

theorem reads_readUvarint :
    readUvarint.Reads fun written value =>
      ∃ varint : Varint, written = varint.bytes ∧ value = varint.value where
  decodes := by
    rintro _ value ⟨varint, rfl, rfl⟩
    apply (decodes_readByte varint.first).bind_cons
    apply Decodes.bind_pure
    exact (reads_collect_readByte _ _).decodes ⟨rfl, varint.rest_length⟩
  described := by
    intro input _ _ isOk
    rcases run_bind_eq_ok isOk with ⟨first, _, isFirst, isRest⟩
    rcases run_bind_eq_ok isRest with ⟨others, _, areOthers, isLast⟩
    rcases (reads_collect_readByte _ _).described areOthers with ⟨others, rfl, rfl, isLength⟩
    cases isLast
    cases input with
    | nil => cases isFirst
    | cons =>
      cases isFirst
      exact ⟨first :: others, rfl, ⟨first, others, isLength⟩, rfl, rfl⟩

/-! ## The packet -/

/-- The keys that everyone can derive from a connection ID, by HKDF, and what AES
does with them. -/
structure InitialKeys where
  /-- The bytes of the mask that protects the header, from a sample. -/
  mask : (version : Nat) → (destConnID sample : Bytes) → Nat → BitVec 8
  /-- `cipher.Open` with a packet number, a ciphertext and additional data. -/
  decrypt : (version : Nat) → (destConnID : Bytes) → (packetNumber : Nat) →
    (data additional : Bytes) → Option Bytes
  decrypt_length : ∀ {version destConnID packetNumber data additional decrypted},
    decrypt version destConnID packetNumber data additional = some decrypted →
      decrypted.length ≤ data.length

def versionDraft29 : Nat := 0xff00001d

def version1 : Nat := 0x1

def version2 : Nat := 0x6b3343cf

structure LongHeader where
  version : Nat
  destConnID : Bytes
  packetLen : Nat
  /-- Where the packet number begins. -/
  hdrLen : Nat
  sample : Bytes

def require (condition : Prop) [Decidable condition] (err : Err) : Reader Unit :=
  if condition then pure () else throw err

/-- `io.CopyN` into nowhere -/
def discard (count : Nat) : Reader Unit := do
  let left ← get
  require (count ≤ left.length) .eof
  set (left.drop count)

def readLongHeader (packet : Bytes) : Reader LongHeader := do
  let typeByte ← readByte
  require (typeByte &&& 0x40 ≠ 0) (.new "bad type byte")
  let version ← readUint 4
  require (version = versionDraft29 ∨ version = version1 ∨ version = version2) (.new "bad version")
  let packetType := ((typeByte &&& 0x30) >>> 4).toNat
  require (¬(packetType = 0 ∧ version = version2 ∨ packetType = 2 ∧ version ≠ version2 ∨
    2 < packetType)) (.new "bad packet type")
  let destConnIDLen ← readByte
  require (destConnIDLen ≠ 0 ∧ destConnIDLen.toNat ≤ 20)
    (.new "bad destination connection id length")
  let destConnID ← readFull destConnIDLen.toNat
  let srcConnIDLen ← readByte
  discard srcConnIDLen.toNat
  let tokenLen ← readUvarint
  discard tokenLen.toNat
  let packetLen ← readUvarint
  let left ← get
  let hdrLen := packet.length - left.length
  require (hdrLen + packetLen.toNat ≤ packet.length) .invalid
  discard 4
  let sample ← readFull 16
  pure { version, destConnID, packetLen := packetLen.toNat, hdrLen, sample }

/-- The decrypted payload. It is written into the packet in the place of its
ciphertext, so a slice of it can grow into the rest of the packet. -/
structure Opened where
  decrypted : Bytes
  spare : Bytes
  deriving DecidableEq

def openInitial (keys : InitialKeys) (packet : Bytes) : Except Err Opened := do
  let (header, _) ← (readLongHeader packet).run packet
  let mask := keys.mask header.version header.destConnID header.sample
  let unmasked := packet.mapIdx fun place byte =>
    if place = 0 then byte ^^^ (mask 0 &&& 0xf)
    else if header.hdrLen ≤ place ∧ place < header.hdrLen + 4 then
      byte ^^^ mask (place - header.hdrLen + 1)
    else byte
  let packetNumberLength := (unmasked.headD 0 &&& 0x3).toNat + 1
  if header.packetLen < packetNumberLength then throw .invalid
  let packetNumber := Bytes.numberAt unmasked header.hdrLen packetNumberLength
  let extHdrLen := header.hdrLen + packetNumberLength
  -- the bytes after the packet number were unmasked too much
  let newPacket := unmasked.take extHdrLen ++ packet.drop extHdrLen
  let data := (newPacket.drop extHdrLen).take (header.packetLen - packetNumberLength)
  match keys.decrypt header.version header.destConnID packetNumber data
      (newPacket.take extHdrLen) with
  | none => throw (.new "cipher: message authentication failed")
  | some decrypted => pure { decrypted, spare := newPacket.drop (extHdrLen + decrypted.length) }

end SingBox.Sniff
