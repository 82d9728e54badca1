import Mathlib.Data.BitVec

/-! # Byte strings

Go strings and byte slices are sequences of bytes. The fixed-width big-endian
fields that the program writes into database keys and values are modelled
here, together with the facts that make such fields recoverable.
-/

namespace SingBox

open List Nat

abbrev Bytes := List (BitVec 8)

namespace Bytes

def ofString (text : String) : Bytes :=
  text.toList.map fun character => BitVec.ofNat 8 character.toNat

/-- The `width` low bytes of a number, most significant first. -/
def bigEndian : Nat → Nat → Bytes
  | 0, _ => []
  | width + 1, value => bigEndian width (value / 256) ++ [BitVec.ofNat 8 value]

variable (bytes : Bytes) {width value : Nat}

def ofBigEndian : Nat :=
  bytes.foldl (fun value byte => 256 * value + byte.toNat) 0

@[simp] theorem bigEndian_length (width value : Nat) : (bigEndian width value).length = width := by
  induction width generalizing value with
  | zero => rfl
  | succ _ induction => simp [bigEndian, induction]

theorem ofBigEndian_bigEndian (width value : Nat) :
    ofBigEndian (bigEndian width value) = value % 256 ^ width := by
  induction width generalizing value with
  | zero => simp [bigEndian, ofBigEndian, mod_one]
  | succ width induction =>
    have last : ofBigEndian (bigEndian (width + 1) value) =
        256 * ofBigEndian (bigEndian width (value / 256)) + value % 256 := by
      simp [ofBigEndian, bigEndian]
    rw [last, induction, pow_succ', mod_mul]
    omega

theorem ofBigEndian_of_lt (width : Nat) (fits : value < 256 ^ width) :
    ofBigEndian (bigEndian width value) = value := by
  rw [ofBigEndian_bigEndian, mod_eq_of_lt fits]

theorem toNat_of_lt (fits : value < 2 ^ width) :
    (BitVec.ofNat width value).toNat = value := by
  rw [BitVec.toNat_ofNat, mod_eq_of_lt fits]

theorem ofNat_word (word : BitVec width) : BitVec.ofNat width word.toNat = word := by
  rw [BitVec.ofNat_toNat, BitVec.setWidth_eq]

theorem bigEndian_injective {left right : Nat} (leftFits : left < 256 ^ width)
    (rightFits : right < 256 ^ width) (equal : bigEndian width left = bigEndian width right) :
    left = right := by
  have values := congrArg ofBigEndian equal
  rw [ofBigEndian_of_lt _ leftFits, ofBigEndian_of_lt _ rightFits] at values
  exact values

theorem ofBigEndian_concat (last : BitVec 8) :
    ofBigEndian (bytes ++ [last]) = 256 * ofBigEndian bytes + last.toNat := by
  simp [ofBigEndian]

theorem bigEndian_ofBigEndian : bigEndian bytes.length (ofBigEndian bytes) = bytes := by
  induction bytes using reverseRecOn with
  | nil => rfl
  | append_singleton bytes last induction =>
    have lastBelow := last.isLt
    have isHigh : (256 * ofBigEndian bytes + last.toNat) / 256 = ofBigEndian bytes := by omega
    have isLow : BitVec.ofNat 8 (256 * ofBigEndian bytes + last.toNat) = last := by
      apply BitVec.eq_of_toNat_eq
      rw [BitVec.toNat_ofNat]
      omega
    rw [length_append, length_singleton, ofBigEndian_concat, bigEndian, isHigh, isLow,
      induction]

theorem bigEndian_mod (width value : Nat) :
    bigEndian width (value % 256 ^ width) = bigEndian width value := by
  have isBack := bigEndian_ofBigEndian (bigEndian width value)
  rw [bigEndian_length, ofBigEndian_bigEndian] at isBack
  exact isBack

theorem bigEndian_two (value : Nat) :
    bigEndian 2 value = [BitVec.ofNat 8 (value / 256), BitVec.ofNat 8 value] := rfl

def numberAt (place width : Nat) : Nat :=
  ofBigEndian ((bytes.drop place).take width)

theorem numberAt_lt (place width : Nat) : numberAt bytes place width < 256 ^ width := by
  have isValue := ofBigEndian_bigEndian ((bytes.drop place).take width).length
    (numberAt bytes place width)
  rw [numberAt, bigEndian_ofBigEndian] at isValue
  rw [numberAt, isValue]
  apply (Nat.mod_lt _ (Nat.pow_pos (by decide))).trans_le
  exact Nat.pow_le_pow_right (by decide) (length_take_le ..)

def putUint16 (value : BitVec 16) : Bytes := bigEndian 2 value.toNat

def putUint64 (value : BitVec 64) : Bytes := bigEndian 8 value.toNat

/-- `binary.BigEndian.Uint64` of the first eight bytes. A shorter slice makes
the Go function panic; every caller checks the length first. -/
def uint64 : BitVec 64 := BitVec.ofNat 64 (ofBigEndian (bytes.take 8))

@[simp] theorem putUint16_length (value : BitVec 16) : (putUint16 value).length = 2 :=
  bigEndian_length 2 value.toNat

@[simp] theorem putUint64_length (value : BitVec 64) : (putUint64 value).length = 8 :=
  bigEndian_length 8 value.toNat

theorem putUint16_injective : Function.Injective putUint16 := by
  intro left right equal
  apply BitVec.eq_of_toNat_eq
  exact bigEndian_injective left.isLt right.isLt equal

@[simp] theorem uint64_putUint64_append (value : BitVec 64) (rest : Bytes) :
    uint64 (putUint64 value ++ rest) = value := by
  have field : (putUint64 value ++ rest).take 8 = putUint64 value :=
    take_left' (putUint64_length value)
  rw [uint64, field, putUint64, ofBigEndian_of_lt 8 value.isLt, ofNat_word]

end Bytes

end SingBox
