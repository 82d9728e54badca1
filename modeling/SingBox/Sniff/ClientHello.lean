import SingBox.Foundation.Checked

/-! # The ClientHello parser

`ja3.Compute` takes the fields of a TLS ClientHello out of a record. Every
access to the input is written as the slice operation of the source, which
panics outside of the slice, and the loop over the extensions is given a number
of rounds.
-/

namespace SingBox.Ja3

open Checked

inductive ParseError
  | length (check : Nat)
  | contentType
  | version (check : Nat)
  | handshakeType
  | sniType
  deriving DecidableEq

abbrev Parsing := Checked ParseError

/-- What the extensions say. -/
structure Found where
  sni : Bytes := []
  extensions : List (BitVec 16) := []
  ellipticCurves : List (BitVec 16) := []
  ellipticCurvePF : Bytes := []
  versions : List (BitVec 16) := []
  signatureAlgorithms : List (BitVec 16) := []
  deriving DecidableEq

structure ClientHello where
  version : BitVec 16
  cipherSuites : List (BitVec 16)
  extensions : List (BitVec 16)
  ellipticCurves : List (BitVec 16)
  ellipticCurvePF : Bytes
  versions : List (BitVec 16)
  signatureAlgorithms : List (BitVec 16)
  serverName : Bytes
  deriving DecidableEq

/-- SSL 3.0 to TLS 1.2 by a bitmask, and TLS 1.3. -/
def SupportedVersion (version : BitVec 16) : Prop :=
  version &&& 0xFFFC = 0x0300 ∨ version = 0x0304

instance (version : BitVec 16) : Decidable (SupportedVersion version) :=
  inferInstanceAs (Decidable (_ ∨ _))

/-- The extensions that the parser looks into. -/
inductive ExtensionKind
  | serverName
  | supportedGroups
  | pointFormats
  | supportedVersions
  | signatureAlgorithms
  | other
  deriving DecidableEq

def extensionKind (exType : BitVec 16) : ExtensionKind :=
  if exType = 0 then .serverName
  else if exType = 10 then .supportedGroups
  else if exType = 11 then .pointFormats
  else if exType = 43 then .supportedVersions
  else if exType = 13 then .signatureAlgorithms
  else .other

/-! The cases of the `switch` over the extension type -/

variable (found : Found) (sex : Bytes)

def parseServerName : Parsing Found := do
  demand (5 ≤ sex.length) (.length 13)
  let sniType ← index sex 2
  let sniLen ← uint16At sex 3
  let name ← sliceFrom sex 5
  demand (name.length = sniLen.toNat) (.length 14)
  demand (sniType = 0) .sniType
  .ok { found with sni := name }

def parseSupportedGroups : Parsing Found := do
  demand (2 ≤ sex.length) (.length 15)
  let ecsLen ← uint16At sex 0
  let curves ← sliceFrom sex 2
  demand (curves.length = ecsLen.toNat) (.length 16)
  let ellipticCurves ← uint16sAt curves 0 (ecsLen.toNat / 2)
  .ok { found with ellipticCurves }

def parsePointFormats : Parsing Found := do
  demand (1 ≤ sex.length) (.length 17)
  let ecpfsLen ← index sex 0
  let formats ← sliceFrom sex 1
  demand (formats.length = ecpfsLen.toNat) (.length 18)
  let ellipticCurvePF ← (List.range ecpfsLen.toNat).mapM (index formats)
  .ok { found with ellipticCurvePF }

/-- `for i := 0; i < length; i += 2` over `sex[start:][i:]`. The length of the
list is not compared with the block that holds it. -/
def parseNumbers (start length : Nat) : Parsing (List (BitVec 16)) :=
  (List.range ((length + 1) / 2)).mapM fun place => do
    uint16From (← sliceFrom sex start) (2 * place)

def parseSupportedVersions : Parsing Found := do
  demand (1 ≤ sex.length) (.length 19)
  let versionsLen ← index sex 0
  let versions ← parseNumbers sex 1 versionsLen.toNat
  .ok { found with versions := found.versions ++ versions }

def parseSignatureAlgorithms : Parsing Found := do
  demand (2 ≤ sex.length) (.length 20)
  let ssaLen ← uint16At sex 0
  let algorithms ← parseNumbers sex 2 ssaLen.toNat
  .ok { found with signatureAlgorithms := found.signatureAlgorithms ++ algorithms }

def parseExtension (exType : BitVec 16) (sex : Bytes) : Parsing Found :=
  match extensionKind exType with
  | .serverName => parseServerName found sex
  | .supportedGroups => parseSupportedGroups found sex
  | .pointFormats => parsePointFormats found sex
  | .supportedVersions => parseSupportedVersions found sex
  | .signatureAlgorithms => parseSignatureAlgorithms found sex
  | .other => .ok found

/-- The loop of `parseExtensions`. The last slice is taken at a sum of 16 bits. -/
def extensionLoop : Nat → Found → Bytes → Parsing Found
  | 0, _, _ => .error .unfinished
  | rounds + 1, found, exs =>
    if exs.length = 0 then .ok found
    else do
      demand (4 ≤ exs.length) (.length 11)
      let exType ← uint16At exs 0
      let exLen ← uint16At exs 2
      demand (4 + exLen.toNat ≤ exs.length) (.length 12)
      let sex ← slice exs 4 (4 + exLen.toNat)
      let found ← parseExtension
        { found with extensions := found.extensions ++ [exType] } exType sex
      let rest ← sliceFrom exs (4 + exLen).toNat
      extensionLoop rounds found rest

def parseExtensions (rounds : Nat) (exs : Bytes) : Parsing Found :=
  if exs.length = 0 then .ok {}
  else do
    demand (2 ≤ exs.length) (.length 9)
    let exsLen ← uint16At exs 0
    let blocks ← sliceFrom exs 2
    demand (exsLen.toNat ≤ blocks.length) (.length 10)
    extensionLoop rounds {} blocks

/-- The part of `parseHandshake` before the extensions. -/
structure Front where
  version : BitVec 16
  cipherSuites : List (BitVec 16)
  exs : Bytes

def parseFront (hs : Bytes) : Parsing Front := do
  demand (39 ≤ hs.length) (.length 3)
  let handshType ← index hs 0
  demand (handshType = 1) .handshakeType
  let high ← index hs 1
  let middle ← index hs 2
  let low ← index hs 3
  let body ← sliceFrom hs 4
  demand (body.length = Bytes.ofBigEndian [high, middle, low]) (.length 4)
  let version ← uint16At hs 4
  demand (SupportedVersion version) (.version 2)
  let sessionIDLen ← index hs 38
  demand (39 + sessionIDLen.toNat ≤ hs.length) (.length 5)
  let cs ← sliceFrom hs (39 + sessionIDLen.toNat)
  demand (2 ≤ cs.length) (.length 6)
  let csLen ← uint16At cs 0
  demand (2 + csLen.toNat + 1 ≤ cs.length) (.length 7)
  let cipherSuites ← uint16sAt cs 2 (csLen.toNat / 2)
  let compressMethodLen ← index cs (2 + csLen.toNat)
  demand (2 + csLen.toNat + 1 + compressMethodLen.toNat ≤ cs.length) (.length 8)
  let exs ← sliceFrom cs (2 + csLen.toNat + 1 + compressMethodLen.toNat)
  .ok { version, cipherSuites, exs }

/-- What is assigned to the fields of `ClientHello`. -/
def clientHello (front : Front) (found : Found) : ClientHello :=
  { version := front.version
    cipherSuites := front.cipherSuites
    extensions := found.extensions
    ellipticCurves := found.ellipticCurves
    ellipticCurvePF := found.ellipticCurvePF
    versions := found.versions
    signatureAlgorithms := found.signatureAlgorithms
    serverName := found.sni }

def parseHandshake (rounds : Nat) (hs : Bytes) : Parsing ClientHello := do
  let front ← parseFront hs
  let found ← parseExtensions rounds front.exs
  .ok (clientHello front found)

/-- The handshake message of a record. Any following records are ignored. -/
def parseRecord (segment : Bytes) : Parsing Bytes := do
  demand (5 ≤ segment.length) (.length 1)
  let contType ← index segment 0
  demand (contType = 22) .contentType
  let tlsRecordVersion ← uint16At segment 1
  demand (SupportedVersion tlsRecordVersion) (.version 1)
  let segmentLen ← uint16At segment 3
  let body ← sliceFrom segment 5
  demand (segmentLen.toNat ≤ body.length) (.length 2)
  slice segment 5 (5 + segmentLen.toNat)

def parseSegment (rounds : Nat) (segment : Bytes) : Parsing ClientHello := do
  let hs ← parseRecord segment
  parseHandshake rounds hs

def compute (rounds : Nat) (payload : Bytes) : Parsing ClientHello := parseSegment rounds payload

end SingBox.Ja3
