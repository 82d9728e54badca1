import Mathlib.Tactic.Ring
import SingBox.Foundation.Bytes
import SingBox.Foundation.Codec

/-! # Bytes on the wire

The parts of `io` and `encoding/binary` that the program reads and writes files
with. A reader fails with `io.EOF` when nothing is left and with
`io.ErrUnexpectedEOF` in the middle of a field.
-/

namespace SingBox

/-- Error values. An error of the standard library that quotes its input is
given by the function and the input. -/
inductive Err
  | eof
  | unexpectedEOF
  | overflow
  | invalid
  | about (function : String) (text : Bytes)
  | new (message : String)
  | cause (context : String) (err : Err)
  deriving DecidableEq

abbrev Reader := Decoder (BitVec 8) Err

namespace Wire

open Decoder List Nat BitVec

/-! ## Fields of a fixed size -/

def readByte : Reader (BitVec 8)
  | [] => .error .eof
  | byte :: rest => .ok (byte, rest)

/-- `io.ReadFull` into a buffer of `count` bytes. -/
def readFull (count : Nat) : Reader Bytes := fun input =>
  if count ≤ input.length then .ok (input.take count, input.drop count)
  else if input = [] then .error .eof
  else .error .unexpectedEOF

/-- `binary.Read` of an unsigned number, most significant byte first. -/
def readUint (width : Nat) : Reader Nat := Bytes.ofBigEndian <$> readFull width

/-- `binary.Read` of a bool: any byte but zero is true. -/
def readBool : Reader Bool := (fun byte => byte != 0#8) <$> readByte

def putBool (value : Bool) : Bytes := [if value then 1 else 0]

theorem takes_readByte : readByte.Takes := by
  intro input _ _ isOk
  cases input with
  | nil => cases isOk
  | cons =>
    cases isOk
    exact lt_succ_self _

theorem shrinks_readFull (count : Nat) : (readFull count).Shrinks := by
  intro input value rest isOk
  change (if count ≤ input.length then _ else _) = _ at isOk
  split at isOk
  · cases isOk
    rw [length_drop]
    omega
  · split at isOk <;> cases isOk

theorem shrinks_readUint (width : Nat) : (readUint width).Shrinks :=
  (shrinks_readFull width).map _

theorem takes_readBool : readBool.Takes := by
  have takes : (readByte >>= fun byte => pure (byte != 0#8)).Takes :=
    takes_readByte.bind fun byte => .pure _
  rw [readBool, map_eq_pure_bind]
  exact takes

theorem decodes_readByte (byte : BitVec 8) : readByte.Decodes [byte] byte := fun _ => rfl

theorem decodes_readFull {count : Nat} {bytes : Bytes} (isLength : bytes.length = count) :
    (readFull count).Decodes bytes bytes := by
  intro rest
  change (if count ≤ (bytes ++ rest).length then _ else _) = _
  rw [if_pos (by rw [length_append]; omega), take_left' isLength,
    drop_left' isLength]

theorem decodes_readUint {width value : Nat} (fits : value < 256 ^ width) :
    (readUint width).Decodes (Bytes.bigEndian width value) value := by
  have decodes := (decodes_readFull (Bytes.bigEndian_length width value)).map Bytes.ofBigEndian
  rw [Bytes.ofBigEndian_of_lt _ fits] at decodes
  exact decodes

theorem decodes_readBool (value : Bool) : readBool.Decodes (putBool value) value := by
  cases value with
  | false => exact (decodes_readByte 0).map _
  | true => exact (decodes_readByte 1).map _

/-! ## Numbers of variable length -/

/-- The loop of `binary.PutUvarint`, which has room for `room` bytes. -/
def putUvarintIn : Nat → Nat → Bytes
  | 0, _ => []
  | room + 1, value =>
    if value < 128 then [BitVec.ofNat 8 value]
    else BitVec.ofNat 8 (value % 128 + 128) :: putUvarintIn room (value / 128)

def maxVarintLen64 : Nat := 10

def putUvarint (value : Nat) : Bytes := putUvarintIn maxVarintLen64 value

/-- The byte at the front of a number, where `started` says that it is not the
first one. -/
def readUvarintByte (started : Bool) : Reader (BitVec 8)
  | [] => .error (if started then .unexpectedEOF else .eof)
  | byte :: rest => .ok (byte, rest)

/-- The loop of `binary.ReadUvarint` with `left` bytes to go, from the value of
the bytes read so far. -/
def readUvarintFrom (left value scale : Nat) : Reader Nat :=
  match left with
  | 0 => throw .overflow
  | left + 1 => do
    let byte ← readUvarintByte (decide (left + 1 < maxVarintLen64))
    if byte.toNat < 128 then
      if left = 0 ∧ 1 < byte.toNat then throw .overflow
      else pure (value + byte.toNat * scale)
    else readUvarintFrom left (value + byte.toNat % 128 * scale) (128 * scale)

def readUvarint : Reader Nat := readUvarintFrom maxVarintLen64 0 1

theorem decodes_readUvarintByte (started : Bool) (byte : BitVec 8) :
    (readUvarintByte started).Decodes [byte] byte :=
  fun _ => rfl

theorem decodes_readUvarintFrom {left number : Nat} (fits : number < 2 * 128 ^ left)
    (value scale : Nat) :
    (readUvarintFrom (left + 1) value scale).Decodes (putUvarintIn (left + 1) number)
      (value + number * scale) := by
  induction left generalizing number value scale with
  | zero =>
    have isSmall : number < 128 := by omega
    have isByte : (BitVec.ofNat 8 number).toNat = number := by
      rw [toNat_ofNat]
      omega
    rw [putUvarintIn, if_pos isSmall, readUvarintFrom]
    refine (decodes_readUvarintByte _ _).bind_cons ?_
    rw [isByte, if_pos isSmall, if_neg (by omega)]
    exact .pure _
  | succ left induction =>
    rw [putUvarintIn, readUvarintFrom]
    split
    · next isSmall =>
      have isByte : (BitVec.ofNat 8 number).toNat = number := by
        rw [toNat_ofNat]
        omega
      refine (decodes_readUvarintByte _ _).bind_cons ?_
      rw [isByte, if_pos isSmall, if_neg (by omega)]
      exact .pure _
    · next isLarge =>
      have isByte : (BitVec.ofNat 8 (number % 128 + 128)).toNat = number % 128 + 128 := by
        rw [toNat_ofNat]
        omega
      have isRest : number / 128 < 2 * 128 ^ left := by
        rw [div_lt_iff_lt_mul (by omega)]
        rw [pow_succ] at fits
        omega
      have isDigit : (number % 128 + 128) % 128 = number % 128 := by omega
      have isValue : value + number % 128 * scale + number / 128 * (128 * scale) =
          value + number * scale := by
        have isNumber := div_add_mod number 128
        generalize number / 128 = high at isNumber ⊢
        generalize number % 128 = low at isNumber ⊢
        subst isNumber
        ring
      have decodes := induction isRest (value + number % 128 * scale) (128 * scale)
      rw [isValue] at decodes
      refine (decodes_readUvarintByte _ _).bind_cons ?_
      rw [isByte, if_neg (by omega), isDigit]
      exact decodes

theorem decodes_readUvarint {number : Nat} (fits : number < 2 ^ 64) :
    readUvarint.Decodes (putUvarint number) number := by
  have fits : number < 2 * 128 ^ 9 := fits
  have decodes := decodes_readUvarintFrom fits 0 1
  rw [zero_add, mul_one] at decodes
  exact decodes

theorem shrinks_readUvarintFrom (left value scale : Nat) :
    (readUvarintFrom left value scale).Shrinks := by
  induction left generalizing value scale with
  | zero => exact .throw _
  | succ _ induction =>
    rw [readUvarintFrom]
    refine Shrinks.bind ?_ fun byte => ?_
    · intro input _ _ isOk
      cases input with
      | nil => cases isOk
      | cons =>
        cases isOk
        exact le_succ _
    · split
      · split
        · exact .throw _
        · exact .pure _
      · exact induction _ _

theorem shrinks_readUvarint : readUvarint.Shrinks := shrinks_readUvarintFrom _ _ _

end Wire

end SingBox
