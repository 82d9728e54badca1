import SingBox.Foundation.NetipParse
import SingBox.Srs.Options

/-! # Addresses in rule-set files

`ip_set.go` and `ip_cidr.go`. An address is written with its length, a prefix
with its bits behind the address, and an IP set as the list of its ranges. The
zero address has no bytes, and what is written for it is refused.
-/

namespace SingBox.Srs

open Decoder Netip Wire List

variable (lib : Library)

/-! ## Addresses -/

def writeAddr (address : Addr) : Bytes :=
  lib.writeUvarint address.asSlice.length ++ address.asSlice

def readIPSetAddr : Reader Addr := do
  let addrLen ← readUvarint
  if addrLen ≠ 4 ∧ addrLen ≠ 16 then throw .invalid
  else lib.sing.addrFromIP <$> readFull addrLen

variable {address : Addr} {texts : List Bytes}

theorem decodes_readIPSetAddr (isValid : address.isValid = true)
    (noZone : address.withoutZone = address) :
    (readIPSetAddr lib).Decodes (writeAddr lib address) address := by
  have isLength : address.asSlice.length = 4 ∨ address.asSlice.length = 16 := by
    cases address with
    | invalid => cases isValid
    | v4 bits => exact .inl (Bytes.bigEndian_length _ _)
    | v6 bits zone => exact .inr (Bytes.bigEndian_length _ _)
  have decodes := (decodes_readFull (rfl : address.asSlice.length = _)).map lib.sing.addrFromIP
  rw [lib.addrFromIP_eq, Addr.fromSlice_asSlice, noZone] at decodes
  rw [writeAddr, lib.writeUvarint_eq]
  apply (decodes_readUvarint (by omega)).bind
  rw [if_neg (by omega)]
  exact decodes

theorem accepts_readIPSetAddr (noZone : address.withoutZone = address) :
    (readIPSetAddr lib).Accepts (writeAddr lib address) address (address.isValid = true) where
  decodes isValid := decodes_readIPSetAddr lib isValid noZone
  demands rest result isOk := by
    cases address with
    | v4 bits | v6 bits zone => rfl
    | invalid =>
      -- a length of zero is read and refused
      rw [writeAddr, lib.writeUvarint_eq, readIPSetAddr, append_assoc, StateT.run_bind,
        decodes_readUvarint (by decide)] at isOk
      cases isOk

theorem shrinks_readIPSetAddr : (readIPSetAddr lib).Shrinks := by
  refine shrinks_readUvarint.bind fun addrLen => ?_
  split
  · exact .throw _
  · exact (shrinks_readFull addrLen).map _

/-! ## Prefixes -/

/-- `uint8(prefix.Bits())`, where an invalid prefix has -1 bits. -/
def prefixBits (subnet : Prefix) : BitVec 8 := BitVec.ofNat 8 subnet.bitsPlusOne - 1#8

def writePrefix (subnet : Prefix) : Bytes := writeAddr lib subnet.addr ++ [prefixBits subnet]

def readPrefix : Reader Prefix := do
  let address ← readIPSetAddr lib
  let bits ← readByte
  pure (.from address bits.toNat)

theorem from_prefixBits {subnet : Prefix} (isValid : subnet.addr.isValid = true) :
    Prefix.from subnet.addr (prefixBits subnet).toNat = subnet := by
  rcases subnet with ⟨address, bitsPlusOne, noZone, fits⟩
  have isLength : address.bitLen = 32 ∨ address.bitLen = 128 := by
    cases address with
    | invalid => cases isValid
    | v4 bits => exact .inl rfl
    | v6 bits zone => exact .inr rfl
  have isBits : (BitVec.ofNat 8 bitsPlusOne - 1#8).toNat = (bitsPlusOne + 255) % 256 := by
    rw [BitVec.toNat_sub, BitVec.toNat_ofNat, BitVec.toNat_ofNat]
    omega
  have sameBits : (if address.isValid = true ∧
      (BitVec.ofNat 8 bitsPlusOne - 1#8).toNat ≤ address.bitLen then
        (BitVec.ofNat 8 bitsPlusOne - 1#8).toNat + 1 else 0) = bitsPlusOne := by
    rw [isBits]
    cases bitsPlusOne with
    | zero => rw [if_neg (by omega)]
    | succ bits =>
      have isFit := (fits (Nat.succ_pos bits)).2
      rw [if_pos ⟨isValid, by omega⟩]
      omega
  rw [Prefix.from, prefixBits, Prefix.mk.injEq]
  exact ⟨noZone, sameBits⟩

theorem accepts_readPrefix (subnet : Prefix) :
    (readPrefix lib).Accepts (writePrefix lib subnet) subnet (subnet.addr.isValid = true) := by
  have accepts := accepts_readIPSetAddr lib subnet.noZone
  by_cases isValid : subnet.addr.isValid = true
  · have decodes := (decodes_readByte (prefixBits subnet)).bind_pure
      fun bits => Prefix.from subnet.addr bits.toNat
    rw [from_prefixBits isValid] at decodes
    apply accepts.bind_decodes
    exact decodes
  · constructor
    · intro holds
      exact absurd holds isValid
    · intro _ _ isOk
      rcases run_bind_eq_ok isOk with ⟨_, _, isRead, _⟩
      rw [writePrefix, append_assoc] at isRead
      exact accepts.demands _ _ isRead

theorem shrinks_readPrefix : (readPrefix lib).Shrinks :=
  (shrinks_readIPSetAddr lib).bind fun _ => takes_readByte.shrinks.bind fun _ => .pure _

/-! ## Lists of prefixes -/

/-- `rawPrefix.Build(netip.Prefix{})`: a nil pointer is the zero prefix. -/
def buildPrefix (pointer : Option Prefix) : Prefix := pointer.getD .zero

/-- A prefix that has an address. -/
def isAddressed (pointer : Option Prefix) : Bool := (buildPrefix pointer).addr.isValid

def writePrefixes (prefixes : Listable (Option Prefix)) : Bytes :=
  lib.writeUvarint prefixes.list.length ++
    prefixes.list.flatMap fun pointer => writePrefix lib (buildPrefix pointer)

def readPrefixes : Reader (Listable (Option Prefix)) := do
  let prefixCount ← readUvarint
  let value ← collect (fun _ => some <$> readPrefix lib) 0 prefixCount
  pure (.ofList value)

theorem accepts_readPrefixes {prefixes : Listable (Option Prefix)} (fits : prefixes.fits = true) :
    (readPrefixes lib).Accepts (writePrefixes lib prefixes) (.ofList prefixes.list)
      (prefixes.list.all isAddressed = true) := by
  have isLength := of_decide_eq_true fits
  have each : ∀ pointer ∈ prefixes.list, ∀ _ : Nat, (some <$> readPrefix lib).Accepts
      (writePrefix lib (buildPrefix pointer)) pointer (isAddressed pointer = true) := by
    intro pointer _ _
    have accepts := (accepts_readPrefix lib (buildPrefix pointer)).map some
    constructor
    · intro isThere
      cases pointer with
      | none => cases isThere
      | some subnet => exact accepts.decodes isThere
    · exact accepts.demands
  have collected := Accepts.collect_map each 0
  rw [map_id', ← all_eq_true] at collected
  rw [writePrefixes, lib.writeUvarint_eq]
  apply (decodes_readUvarint (by omega)).bind_accepts
  exact collected.bind_pure _

theorem shrinks_readPrefixes : (readPrefixes lib).Shrinks :=
  shrinks_readUvarint.bind fun prefixCount =>
    (Shrinks.collect (fun _ => (shrinks_readPrefix lib).map _) 0 prefixCount).bind
      fun _ => .pure _

/-! ## IP sets -/

/-- The loop over the texts of an `ip_cidr` list: a prefix or an address. -/
def parseIPEntries : Nat → List Bytes → Except Err (List IPEntry)
  | _, [] => .ok []
  | index, text :: texts => do
    let entry ←
      match Prefix.parse text, Addr.parse text with
      | some network, _ => .ok (.subnet network)
      | none, some address => .ok (.addr address)
      | none, none => .error (.cause s!"parse [{index}]" (.about "netip.ParsePrefix" text))
    let entries ← parseIPEntries (index + 1) texts
    .ok (entry :: entries)

/-- The IP set of a list of texts, built in the same way by the writer and by
`NewIPCIDRItem`. -/
def buildIPSet (texts : List Bytes) : Except Err (List IPRange) := do
  let entries ← parseIPEntries 0 texts
  lib.ipSet entries

def writeRange (range : IPRange) : Bytes := writeAddr lib range.first ++ writeAddr lib range.last

def writeIPSet (ranges : List IPRange) : Bytes :=
  1 :: (Bytes.bigEndian 8 ranges.length ++ ranges.flatMap (writeRange lib))

def readRange : Reader IPRange := do
  let first ← readIPSetAddr lib
  let last ← readIPSetAddr lib
  pure ⟨first, last⟩

def readIPSet : Reader (List IPRange) := do
  let version ← readByte
  if version ≠ 1 then throw .invalid
  else do
    let length ← readUint 8
    collect (fun _ => readRange lib) 0 length

theorem isValid_of_parseIPEntries {index : Nat} {entries : List IPEntry}
    (parsed : parseIPEntries index texts = .ok entries) :
    ∀ entry ∈ entries, entry.isValid = true := by
  induction texts generalizing index entries with
  | nil =>
    cases parsed
    nofun
  | cons _ _ induction =>
    rw [parseIPEntries] at parsed
    split at parsed
    · next isNetwork =>
      rcases bind_eq_ok parsed with ⟨_, ⟨⟩, parsed⟩
      rcases bind_eq_ok parsed with ⟨rest, isRest, ⟨⟩⟩
      exact forall_mem_cons.mpr ⟨Prefix.isValid_of_parse isNetwork, induction isRest⟩
    · next isAddress =>
      rcases bind_eq_ok parsed with ⟨_, ⟨⟩, parsed⟩
      rcases bind_eq_ok parsed with ⟨_, isRest, ⟨⟩⟩
      exact forall_mem_cons.mpr ⟨Addr.isValid_of_parse isAddress, induction isRest⟩
    · cases parsed

theorem decodes_readIPSet {ranges : List IPRange} (built : buildIPSet lib texts = .ok ranges) :
    (readIPSet lib).Decodes (writeIPSet lib ranges) ranges := by
  rcases bind_eq_ok built with ⟨entries, isParsed, built⟩
  rcases lib.ipSet_ranges (isValid_of_parseIPEntries isParsed) built with ⟨isLength, arePlain⟩
  have each : ∀ range ∈ ranges, ∀ _ : Nat,
      (readRange lib).Decodes (writeRange lib range) range := by
    intro range member _
    have first := arePlain range member range.first mem_cons_self
    have last := arePlain range member range.last (mem_cons_of_mem _ mem_cons_self)
    apply (decodes_readIPSetAddr lib first.1 first.2).bind
    exact (decodes_readIPSetAddr lib last.1 last.2).bind_pure (IPRange.mk range.first)
  have collected := Decodes.collect_map each 0
  rw [map_id'] at collected
  apply (decodes_readByte 1).bind_cons
  rw [if_neg (by decide)]
  exact (decodes_readUint (by omega)).bind collected

theorem shrinks_readIPSet : (readIPSet lib).Shrinks := by
  refine takes_readByte.shrinks.bind fun version => ?_
  split
  · exact .throw _
  refine (shrinks_readUint 8).bind fun length => .collect (fun _ => ?_) 0 length
  exact (shrinks_readIPSetAddr lib).bind fun _ =>
    (shrinks_readIPSetAddr lib).bind fun _ => .pure _

end SingBox.Srs
