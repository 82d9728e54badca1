import SingBox.Foundation.Bytes

/-! # IP addresses and prefixes

The part of the standard library package `net/netip` that the program uses.
An address is the zero value, an IPv4 address, or an IPv6 address with an
optional zone; an IPv4-mapped IPv6 address stays an IPv6 address.
-/

namespace SingBox.Netip

open Bytes

inductive Addr
  | invalid
  | v4 (bits : BitVec 32)
  | v6 (bits : BitVec 128) (zone : String)
  deriving DecidableEq

namespace Addr

def isValid : Addr → Bool
  | .invalid => false
  | _ => true

def is4 : Addr → Bool
  | .v4 _ => true
  | _ => false

def is6 : Addr → Bool
  | .v6 _ _ => true
  | _ => false

def is4In6 : Addr → Bool
  | .v6 bits _ => bits.extractLsb' 32 96 == 0xffff#96
  | _ => false

def unmap (address : Addr) : Addr :=
  match address with
  | .v6 bits _ => if address.is4In6 then .v4 (bits.extractLsb' 0 32) else address
  | _ => address

def withoutZone : Addr → Addr
  | .v6 bits _ => .v6 bits ""
  | address => address

def bitLen : Addr → Nat
  | .invalid => 0
  | .v4 _ => 32
  | .v6 _ _ => 128

/-- `Addr.AsSlice`: four or sixteen bytes, most significant first. The zone is
not part of the slice. -/
def asSlice : Addr → Bytes
  | .invalid => []
  | .v4 bits => bigEndian 4 bits.toNat
  | .v6 bits _ => bigEndian 16 bits.toNat

/-- `netip.AddrFromSlice`, with the zero value for a slice of another length. -/
def fromSlice (slice : Bytes) : Addr :=
  if slice.length = 4 then .v4 (BitVec.ofNat 32 (ofBigEndian slice))
  else if slice.length = 16 then .v6 (BitVec.ofNat 128 (ofBigEndian slice)) ""
  else .invalid

theorem fromSlice_asSlice (address : Addr) : fromSlice address.asSlice = address.withoutZone := by
  cases address with
  | invalid => rfl
  | v4 bits =>
    have value := ofBigEndian_of_lt 4 bits.isLt
    simp [fromSlice, asSlice, withoutZone, value]
  | v6 bits =>
    have value := ofBigEndian_of_lt 16 bits.isLt
    simp [fromSlice, asSlice, withoutZone, value]

/-- `Addr.Next`. The zero value has no successor here: the program asks for the
successor of valid addresses only. -/
def next : Addr → Addr
  | .invalid => .invalid
  | .v4 bits => if bits + 1 = 0 then .invalid else .v4 (bits + 1)
  | .v6 bits zone => if bits + 1 = 0 then .invalid else .v6 (bits + 1) zone

theorem is4_next {address : Addr} (valid : address.next.isValid = true) :
    address.next.is4 = address.is4 := by
  cases address with
  | invalid => cases valid
  | _ =>
    rw [next] at valid ⊢
    split at valid
    · cases valid
    next inRange =>
    rw [if_neg inRange]
    rfl

theorem isValid_of_next {address : Addr} (valid : address.next.isValid = true) :
    address.isValid = true := by
  cases address with
  | invalid => cases valid
  | v4 bits | v6 bits zone => rfl

/-- `Addr.As16`, as a number: an IPv4 address is mapped. -/
def as16 : Addr → BitVec 128
  | .invalid => 0
  | .v4 bits => 0xffff#96 ++ bits
  | .v6 bits _ => bits

end Addr

/-- `netip.Prefix`. The length is stored plus one, so that zero marks an
invalid prefix; the address of an invalid prefix may still be set. No function
of the package makes a prefix with a zone or with a length that is too large. -/
structure Prefix where
  addr : Addr
  bitsPlusOne : Nat
  noZone : addr.withoutZone = addr
  fits : 0 < bitsPlusOne → addr.isValid ∧ bitsPlusOne ≤ addr.bitLen + 1
  deriving DecidableEq

namespace Prefix

def zero : Prefix where
  addr := .invalid
  bitsPlusOne := 0
  noZone := rfl
  fits positive := absurd positive (by decide)

variable (subnet : Prefix)

def isValid : Bool := decide (0 < subnet.bitsPlusOne)

def bits : Nat := subnet.bitsPlusOne - 1

def contains (address : Addr) : Bool :=
  subnet.isValid &&
    match subnet.addr, address with
    | .v4 own, .v4 bits => (bits ^^^ own) >>> (32 - subnet.bits) == 0
    | .v6 own _, .v6 bits zone =>
      zone == "" && (bits ^^^ own) &&& (BitVec.allOnes 128 <<< (128 - subnet.bits)) == 0
    | _, _ => false

theorem is4_of_contains {subnet : Prefix} {address : Addr}
    (contained : subnet.contains address = true) : address.is4 = subnet.addr.is4 := by
  unfold contains at contained
  cases isOwn : subnet.addr with
  | invalid => simp [isOwn] at contained
  | v4 own =>
    cases address with
    | v4 bits => rfl
    | _ => simp [isOwn] at contained
  | v6 =>
    cases address with
    | invalid | v4 bits => simp [isOwn] at contained
    | v6 => rfl

/-- The shorter of the two lengths decides. -/
def overlaps (other : Prefix) : Bool :=
  let minBits := min subnet.bits other.bits
  subnet.isValid && other.isValid &&
    match subnet.addr, other.addr with
    | .v4 own, .v4 bits => (own ^^^ bits) >>> (32 - minBits) == 0
    | .v6 own _, .v6 bits _ => (own ^^^ bits) >>> (128 - minBits) == 0
    | _, _ => false

/-- `netip.PrefixFrom` drops the zone and marks a length that does not fit the
address as invalid. -/
def «from» (address : Addr) (bits : Nat) : Prefix where
  addr := address.withoutZone
  bitsPlusOne := if address.isValid ∧ bits ≤ address.bitLen then bits + 1 else 0
  noZone := by cases address <;> rfl
  fits positive := by
    split at positive
    · next fit =>
      rw [if_pos fit]
      have sameLength : address.withoutZone.bitLen = address.bitLen := by cases address <;> rfl
      have sameValid : address.withoutZone.isValid = address.isValid := by cases address <;> rfl
      rw [sameLength, sameValid]
      exact ⟨fit.1, Nat.succ_le_succ fit.2⟩
    · cases positive

end Prefix

end SingBox.Netip
