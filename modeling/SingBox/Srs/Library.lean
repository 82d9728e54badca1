import SingBox.Foundation.Wire
import SingBox.Route.Item

/-! # Libraries of rule-set files

What the code of rule-set files calls that is not part of the program: the
domain matchers and the `varbin` package of the `sing` library, the IP sets of
`netipx`, and compression. A slice is nil or holds a list; only a comparison
with the zero value can tell nil from an empty slice.
-/

namespace SingBox.Srs

open Netip Route

abbrev Listable (Value : Type) := Option (List Value)

namespace Listable

variable {Value : Type}

def list (slice : Listable Value) : List Value := slice.getD []

/-- The slice that values are appended to one by one, from nil. -/
def ofList (values : List Value) : Listable Value :=
  if values.isEmpty then none else some values

/-- `len(slice) > 0`. -/
def isSet (slice : Listable Value) : Bool := !slice.list.isEmpty

/-- The length of a slice is an `int`. -/
def fits (slice : Listable Value) : Bool := decide (slice.list.length < 2 ^ 63)

@[simp] theorem list_ofList (values : List Value) : (ofList values).list = values := by
  cases values with
  | nil | cons value values => rfl

variable {slice : Listable Value} {values : List Value}

theorem eq_some_of_list
    (isList : slice.list = values) (notEmpty : values ≠ []) : slice = some values := by
  cases slice with
  | none => exact absurd isList.symm notEmpty
  | some =>
    cases isList
    rfl

theorem ofList_of_ne_nil (notEmpty : values ≠ []) : ofList values = some values := by
  cases values with
  | nil => exact absurd rfl notEmpty
  | cons => rfl

theorem ofList_of_not_isSet (notSet : slice.isSet = false) : ofList slice.list = none := by
  have isEmpty : slice.list.isEmpty = true := by simpa [isSet] using notSet
  rw [ofList, if_pos isEmpty]

theorem ne_nil_of_isSet (isSet : slice.isSet = true) : slice.list ≠ [] := by
  intro isNil
  rw [Listable.isSet, isNil] at isSet
  cases isSet

end Listable

/-- A range of the set of `netipx`: its `from` and its `to`, both included. -/
structure IPRange where
  first : Addr
  last : Addr
  deriving DecidableEq

/-- What is added to an `IPSetBuilder`. -/
inductive IPEntry
  | subnet (network : Prefix)
  | addr (address : Addr)

def IPEntry.isValid : IPEntry → Bool
  | .subnet network => network.isValid
  | .addr address => address.isValid

/-- The length and the elements of a slice of `width` byte numbers. -/
def putSlice (width : Nat) (values : List (BitVec (8 * width))) : Bytes :=
  Wire.putUvarint values.length ++ values.flatMap fun value => Bytes.bigEndian width value.toNat

structure Library where
  sing : SingLib
  /-- `M.AddrFromIP` is `netip.AddrFromSlice`. -/
  addrFromIP_eq : ∀ slice, sing.addrFromIP slice = Addr.fromSlice slice
  Matcher : Type
  newMatcher : (domains domainSuffix : List Bytes) → (generateLegacy : Bool) → Matcher
  writeMatcher : Matcher → Bytes
  readMatcher : Reader Matcher
  dumpMatcher : Matcher → Listable Bytes × Listable Bytes
  /-- `ReadMatcher` inverts `Matcher.Write`. -/
  decodes_matcher : ∀ domains domainSuffix generateLegacy,
    readMatcher.Decodes (writeMatcher (newMatcher domains domainSuffix generateLegacy))
      (newMatcher domains domainSuffix generateLegacy)
  shrinks_matcher : readMatcher.Shrinks
  AdGuardMatcher : Type
  newAdGuardMatcher : List Bytes → AdGuardMatcher
  writeAdGuardMatcher : AdGuardMatcher → Bytes
  readAdGuardMatcher : Reader AdGuardMatcher
  dumpAdGuardMatcher : AdGuardMatcher → Listable Bytes
  /-- `ReadAdGuardMatcher` inverts `AdGuardMatcher.Write`. -/
  decodes_adGuardMatcher : ∀ rules,
    readAdGuardMatcher.Decodes (writeAdGuardMatcher (newAdGuardMatcher rules))
      (newAdGuardMatcher rules)
  shrinks_adGuardMatcher : readAdGuardMatcher.Shrinks
  writeUvarint : Nat → Bytes
  /-- `varbin.WriteUvarint` writes what `binary.PutUvarint` puts. -/
  writeUvarint_eq : ∀ value, writeUvarint value = Wire.putUvarint value
  readSlice : (width : Nat) → Reader (Listable (BitVec (8 * width)))
  /-- `varbin.ReadSlice` reads a length and as many numbers. -/
  decodes_slice : ∀ width values, values.length < 2 ^ 63 →
    ∃ slice : Listable (BitVec (8 * width)), slice.list = values ∧
      (readSlice width).Decodes (putSlice width values) slice
  shrinks_slice : ∀ width, (readSlice width).Shrinks
  /-- `IPSetBuilder.IPSet` of what was added. -/
  ipSet : List IPEntry → Except Err (List IPRange)
  /-- The ranges are a slice of valid addresses, and IP sets do not track zones. -/
  ipSet_ranges : ∀ {entries ranges}, (∀ entry ∈ entries, entry.isValid = true) →
    ipSet entries = .ok ranges → ranges.length < 2 ^ 63 ∧
      ∀ range ∈ ranges, ∀ address ∈ [range.first, range.last],
        address.isValid = true ∧ address.withoutZone = address
  /-- `IPSet.Prefixes`, as text. -/
  prefixes : List IPRange → Listable Bytes
  compress : Bytes → Bytes
  decompress : Bytes → Except Err Bytes
  decompress_compress : ∀ bytes, decompress (compress bytes) = .ok bytes

namespace Library

open Decoder Wire

def sampleReadSlice (width : Nat) : Reader (Listable (BitVec (8 * width))) := do
  let length ← readUvarint
  let values ← collect (fun _ => BitVec.ofNat (8 * width) <$> readUint width) 0 length
  pure (some values)

theorem decodes_sampleReadSlice (width : Nat) {values : List (BitVec (8 * width))}
    (fits : values.length < 2 ^ 63) :
    (sampleReadSlice width).Decodes (putSlice width values) (some values) := by
  have each : ∀ value ∈ values, ∀ _ : Nat,
      (BitVec.ofNat (8 * width) <$> readUint width).Decodes (Bytes.bigEndian width value.toNat)
        value := by
    intro value _ _
    have isSmall : value.toNat < 256 ^ width := by
      have isSize : (256 : Nat) ^ width = 2 ^ (8 * width) := by rw [Nat.pow_mul]
      rw [isSize]
      exact value.isLt
    have decodes := (decodes_readUint isSmall).map (BitVec.ofNat (8 * width))
    rw [Bytes.ofNat_word] at decodes
    exact decodes
  have collected := Decodes.collect_map each 0
  rw [List.map_id'] at collected
  apply (decodes_readUvarint (by omega)).bind
  exact collected.bind_pure some

/-- The library for concrete runs. It compresses nothing, its matchers hold
nothing and it makes no IP sets, so the samples have no list for those. -/
def sample : Library where
  sing := SingLib.sample
  addrFromIP_eq _ := rfl
  Matcher := Unit
  newMatcher _ _ _ := ()
  writeMatcher _ := []
  readMatcher := pure ()
  dumpMatcher _ := (none, none)
  decodes_matcher _ _ _ := .pure ()
  shrinks_matcher := .pure ()
  AdGuardMatcher := Unit
  newAdGuardMatcher _ := ()
  writeAdGuardMatcher _ := []
  readAdGuardMatcher := pure ()
  dumpAdGuardMatcher _ := none
  decodes_adGuardMatcher _ := .pure ()
  shrinks_adGuardMatcher := .pure ()
  writeUvarint := putUvarint
  writeUvarint_eq _ := rfl
  readSlice := sampleReadSlice
  decodes_slice width values fits := ⟨some values, rfl, decodes_sampleReadSlice width fits⟩
  shrinks_slice width :=
    shrinks_readUvarint.bind fun length =>
      (Shrinks.collect (fun _ => (shrinks_readUint width).map _) 0 length).bind fun _ => .pure _
  ipSet _ := .error (.new "no IP sets")
  ipSet_ranges _ isOk := by cases isOk
  prefixes _ := none
  compress := id
  decompress := .ok
  decompress_compress _ := rfl

end Library

end SingBox.Srs
