import Mathlib.Data.List.TakeWhile
import SingBox.Foundation.Netip
import SingBox.Foundation.Text

/-! # The text of addresses and prefixes

`Addr.String` and `Prefix.String` of `net/netip`. An IPv6 address is written in
eight hexadecimal groups, of which the longest run of zeros is left out. The
text of a valid prefix determines the prefix.
-/

namespace SingBox.Netip

open Text List Bytes

def dot : BitVec 8 := 46
def slash : BitVec 8 := 47
def colon : BitVec 8 := 58

namespace Addr

variable {width : Nat}

def fields (base : Nat) (values : List (BitVec width)) : List Bytes :=
  values.map fun value => formatUint value.toNat base

/-- The dotted form of an IPv4 address. -/
def string4 (bits : BitVec 32) : Bytes := [dot].intercalate (fields 10 (bigEndian 4 bits.toNat))

/-- The groups `v6u16 0` to `v6u16 7`. -/
def groups (bits : BitVec 128) : List (BitVec 16) :=
  (range 8).map fun index => bits.extractLsb' (16 * (7 - index)) 16

def leadingZeros (values : List (BitVec 16)) : Nat := (values.takeWhile (· == 0#16)).length

/-- The run of zeros at a position, if it is longer than the best so far. -/
def longerRun (values : List (BitVec 16)) (best : Option (Nat × Nat)) (start : Nat) :
    Option (Nat × Nat) :=
  if 2 ≤ leadingZeros (values.drop start) ∧
      best.elim 0 Prod.snd < leadingZeros (values.drop start) then
    some (start, leadingZeros (values.drop start))
  else best

/-- The start and length of the first longest run of at least two zeros. -/
def zeroRun (values : List (BitVec 16)) : Option (Nat × Nat) :=
  (range values.length).foldl (longerRun values) none

def string6 (values : List (BitVec 16)) : Bytes :=
  match zeroRun values with
  | none => [colon].intercalate (fields 16 values)
  | some (start, length) =>
    [colon].intercalate (fields 16 (values.take start)) ++ [colon, colon] ++
      [colon].intercalate (fields 16 (values.drop (start + length)))

def string : Addr → Bytes
  | .invalid => ofString "invalid IP"
  | .v4 bits => string4 bits
  | .v6 bits zone =>
    (if (Addr.v6 bits zone).is4In6 then
      ofString "::ffff:" ++ string4 (bits.extractLsb' 0 32)
    else string6 (groups bits)) ++
    if zone = "" then [] else ofString "%" ++ ofString zone

variable {bits : BitVec 32} {byte : BitVec 8}

section

variable {base : Nat} {numbers : List (BitVec width)} {field : Bytes} {separator : BitVec 8}
  (large : 1 < base) (small : base ≤ 36)
include large small

theorem isDigit_of_mem_fields (isField : field ∈ fields base numbers) (inField : byte ∈ field) :
    IsDigit byte := by
  rcases mem_map.mp isField with ⟨_, _, rfl⟩
  exact isDigit_of_mem_formatUint large small inField

theorem notMem_of_mem_fields (notDigit : ¬IsDigit separator)
    (isField : field ∈ fields base numbers) : separator ∉ field :=
  fun inField => notDigit (isDigit_of_mem_fields large small isField inField)

theorem intercalate_fields_byte (member : byte ∈ [separator].intercalate (fields base numbers)) :
    byte = separator ∨ IsDigit byte := by
  rcases mem_of_mem_intercalate member with isSeparator | ⟨_, isField, inField⟩
  · exact .inl isSeparator
  · exact .inr (isDigit_of_mem_fields large small isField inField)

theorem fields_injective : Function.Injective (fields base : List (BitVec width) → _) := by
  apply map_injective_iff.mpr
  intro _ _ equal
  exact BitVec.eq_of_toNat_eq (formatUint_injective large small equal)

end

theorem nil_notMem_fields (base : Nat) (numbers : List (BitVec width)) :
    [] ∉ fields base numbers := by
  intro isField
  rcases mem_map.mp isField with ⟨_, _, isValue⟩
  exact formatUint_ne_nil _ _ isValue

/-! ## IPv4 -/

theorem string4_byte (member : byte ∈ string4 bits) : byte = dot ∨ IsDigit byte :=
  intercalate_fields_byte (by decide) (by decide) member

theorem string4_injective : Function.Injective string4 := by
  intro left right equal
  have clean (bits : BitVec 32) : ∀ field ∈ fields 10 (bigEndian 4 bits.toNat), dot ∉ field :=
    fun _ => notMem_of_mem_fields (by decide) (by decide) (by decide)
  have notEmpty (bits : BitVec 32) : fields 10 (bigEndian 4 bits.toNat) ≠ [] := by
    simp [fields, bigEndian]
  have bytes := fields_injective (by decide) (by decide)
    (intercalate_injective (clean left) (clean right) (notEmpty left) (notEmpty right) equal)
  exact BitVec.eq_of_toNat_eq (bigEndian_injective left.isLt right.isLt bytes)

/-! ## IPv6 -/

theorem groups_length (bits : BitVec 128) : (groups bits).length = 8 := by
  simp [groups]

theorem groups_injective : Function.Injective groups := by
  intro left right equal
  have same := congrArg (map BitVec.toNat) equal
  simp [groups, range_succ, Nat.shiftRight_eq_div_pow] at same
  apply BitVec.eq_of_toNat_eq
  omega

variable {values : List (BitVec 16)}

theorem length_of_zeroRun {run : Nat × Nat} (isRun : zeroRun values = some run) :
    run.2 = leadingZeros (values.drop run.1) := by
  have sound : ∀ (positions : List Nat) (best : Option (Nat × Nat)),
      (∀ run, best = some run → run.2 = leadingZeros (values.drop run.1)) →
      ∀ run, positions.foldl (longerRun values) best = some run →
        run.2 = leadingZeros (values.drop run.1) := by
    intro positions
    induction positions with
    | nil => exact fun best isBest => isBest
    | cons _ _ induction =>
      intro _ isBest
      refine induction _ ?_
      intro run isLonger
      rw [longerRun] at isLonger
      split at isLonger
      · cases isLonger
        rfl
      · exact isBest run isLonger
  exact sound _ none nofun run isRun

theorem eq_of_zeroRun {start length : Nat} (isRun : zeroRun values = some (start, length)) :
    values = values.take start ++ replicate length 0#16 ++
      values.drop (start + length) := by
  have isLength : ((values.drop start).takeWhile (· == 0#16)).length = length :=
    (length_of_zeroRun isRun).symm
  have parts : (values.drop start).takeWhile (· == 0#16) ++
      (values.drop start).dropWhile (· == 0#16) = values.drop start :=
    takeWhile_append_dropWhile
  have zeros : (values.drop start).takeWhile (· == 0#16) = replicate length 0#16 := by
    rw [← isLength]
    apply eq_replicate_of_mem
    intro _ member
    simpa using mem_takeWhile_imp member
  have rest : (values.drop start).dropWhile (· == 0#16) = values.drop (start + length) := by
    have dropped := congrArg (drop length) parts
    rw [drop_left' isLength, drop_drop] at dropped
    exact dropped
  rw [append_assoc, ← zeros, ← rest, parts, take_append_drop]

/-- The fields between the colons: a side of the gap without groups leaves an
empty field there. -/
def padded (fields : List Bytes) : List Bytes := if fields = [] then [[]] else fields

def gapFields (values : List (BitVec 16)) : List Bytes :=
  match zeroRun values with
  | none => fields 16 values
  | some (start, length) =>
    padded (fields 16 (values.take start)) ++ [] ::
      padded (fields 16 (values.drop (start + length)))

theorem intercalate_padded (fields : List Bytes) :
    [colon].intercalate (padded fields) = [colon].intercalate fields := by
  rw [padded]
  split
  · next isEmpty => simp [isEmpty]
  · rfl

theorem padded_ne_nil (fields : List Bytes) : padded fields ≠ [] := by
  rw [padded]
  split
  · exact cons_ne_nil _ _
  · assumption

theorem intercalate_nil_cons {fields : List Bytes} (notEmpty : fields ≠ []) :
    [colon].intercalate ([] :: fields) = colon :: [colon].intercalate fields := by
  rcases exists_cons_of_ne_nil notEmpty with ⟨_, _, isFields⟩
  rw [isFields, intercalate_cons_cons]
  rfl

theorem string6_eq (values : List (BitVec 16)) :
    string6 values = [colon].intercalate (gapFields values) := by
  rw [string6, gapFields]
  split
  · rfl
  next =>
  rw [intercalate_append (padded_ne_nil _) (cons_ne_nil _ _),
    intercalate_nil_cons (padded_ne_nil _), intercalate_padded, intercalate_padded]
  simp

theorem reverse_padded (fields : List Bytes) : (padded fields).reverse = padded fields.reverse := by
  rw [padded, padded]
  split <;> simp_all

theorem takeWhile_padded {fields rest : List Bytes} (full : [] ∉ fields) :
    (padded fields ++ [] :: rest).takeWhile (· ≠ []) = fields := by
  rw [padded]
  split
  · next isEmpty => simp [isEmpty]
  · rw [takeWhile_append_of_pos, takeWhile_cons_of_neg (by simp), append_nil]
    intro field member
    rw [decide_eq_true_eq]
    rintro rfl
    exact full member

/-- Both sides of the gap can be read off from the fields. -/
theorem gap_injective {left right leftRest rightRest : List Bytes} (leftFull : [] ∉ left)
    (rightFull : [] ∉ right) (leftRestFull : [] ∉ leftRest) (rightRestFull : [] ∉ rightRest)
    (equal : padded left ++ [] :: padded leftRest = padded right ++ [] :: padded rightRest) :
    left = right ∧ leftRest = rightRest := by
  constructor
  · rw [← takeWhile_padded leftFull, equal, takeWhile_padded rightFull]
  · have reversed := congrArg reverse equal
    simp only [reverse_append, reverse_cons, reverse_padded, append_assoc, singleton_append]
      at reversed
    rw [← mem_reverse] at leftRestFull rightRestFull
    apply reverse_injective
    rw [← takeWhile_padded leftRestFull, reversed, takeWhile_padded rightRestFull]

theorem gapFields_injective {left right : List (BitVec 16)} (lengths : left.length = right.length)
    (equal : gapFields left = gapFields right) : left = right := by
  rw [gapFields, gapFields] at equal
  split at equal <;> split at equal
  · exact fields_injective (by decide) (by decide) equal
  · refine absurd ?_ (nil_notMem_fields 16 left)
    rw [equal]
    simp
  · refine absurd ?_ (nil_notMem_fields 16 right)
    rw [← equal]
    simp
  · next leftStart leftLength leftRun _ rightStart rightLength rightRun =>
    have sides := gap_injective (nil_notMem_fields 16 _) (nil_notMem_fields 16 _)
      (nil_notMem_fields 16 _) (nil_notMem_fields 16 _) equal
    have before := fields_injective (by decide) (by decide) sides.1
    have after := fields_injective (by decide) (by decide) sides.2
    have leftParts := eq_of_zeroRun leftRun
    have rightParts := eq_of_zeroRun rightRun
    have gap : leftLength = rightLength := by
      have leftTotal := congrArg length leftParts
      have rightTotal := congrArg length rightParts
      rw [length_append, length_append, length_replicate] at leftTotal rightTotal
      rw [before, after] at leftTotal
      omega
    rw [leftParts, rightParts, before, after, gap]

theorem string6_byte (member : byte ∈ string6 values) : byte = colon ∨ IsDigit byte := by
  have inFields {values : List (BitVec 16)} :
      byte ∈ [colon].intercalate (fields 16 values) → byte = colon ∨ IsDigit byte :=
    intercalate_fields_byte (by decide) (by decide)
  rw [string6] at member
  split at member
  · exact inFields member
  rw [mem_append, mem_append] at member
  rcases member with (before | inGap) | after
  · exact inFields before
  · left
    simpa using inGap
  · exact inFields after

theorem gapFields_clean : ∀ field ∈ gapFields values, colon ∉ field := by
  have clean {values : List (BitVec 16)} : ∀ field ∈ fields 16 values, colon ∉ field :=
    fun _ => notMem_of_mem_fields (by decide) (by decide) (by decide)
  have paddedClean {values : List (BitVec 16)} :
      ∀ field ∈ padded (fields 16 values), colon ∉ field := by
    rw [padded]
    split
    · simp
    · exact clean
  rw [gapFields]
  split
  · exact clean
  · simp only [forall_mem_append, forall_mem_cons]
    exact ⟨paddedClean, not_mem_nil, paddedClean⟩

theorem gapFields_ne_nil (notEmpty : values ≠ []) : gapFields values ≠ [] := by
  rw [gapFields]
  split
  · simpa [fields] using notEmpty
  · simp

theorem string6_injective {left right : List (BitVec 16)} (leftSome : left ≠ [])
    (lengths : left.length = right.length) (equal : string6 left = string6 right) :
    left = right := by
  have rightSome : right ≠ [] := by
    intro isEmpty
    rw [isEmpty] at lengths
    exact leftSome (length_eq_zero_iff.mp lengths)
  rw [string6_eq, string6_eq] at equal
  exact gapFields_injective lengths (intercalate_injective gapFields_clean gapFields_clean
    (gapFields_ne_nil leftSome) (gapFields_ne_nil rightSome) equal)

theorem colon_mem_string6 (many : 2 ≤ values.length) : colon ∈ string6 values := by
  rw [string6]
  split
  · match values, many with
    | first :: second :: rest, _ =>
      rw [fields, map_cons, map_cons, intercalate_cons_cons]
      simp
  · simp

/-! ## Addresses and prefixes -/

/-- The bytes that the text of an address without a zone is made of. -/
def IsAddressByte (byte : BitVec 8) : Prop := byte = dot ∨ byte = colon ∨ IsDigit byte

instance (byte : BitVec 8) : Decidable (IsAddressByte byte) :=
  inferInstanceAs (Decidable (_ ∨ _))

theorem string_byte {address : Addr} (valid : address.isValid)
    (noZone : address.withoutZone = address) (member : byte ∈ address.string) :
    IsAddressByte byte := by
  have dotted : ∀ bits, byte ∈ string4 bits → IsAddressByte byte := by
    intro bits inDotted
    rcases string4_byte inDotted with isDot | isDigit
    · exact .inl isDot
    · exact .inr (.inr isDigit)
  cases address with
  | invalid => cases valid
  | v4 bits => exact dotted bits member
  | v6 _ zone =>
    obtain rfl : zone = "" := by
      rw [withoutZone, v6.injEq] at noZone
      exact noZone.2.symm
    rw [string, if_pos rfl, append_nil] at member
    split at member
    · rcases mem_append.mp member with inMark | inDotted
      · have mark : ∀ byte ∈ ofString "::ffff:", byte = colon ∨ byte = 102#8 := by
          decide
        rcases mark byte inMark with isColon | isLetter
        · exact .inr (.inl isColon)
        · rw [isLetter]
          exact .inr (.inr (.inr (by decide)))
      · exact dotted _ inDotted
    · exact .inr (string6_byte member)

theorem string4_ne_string6 {other : BitVec 128} : string4 bits ≠ (Addr.v6 other "").string := by
  intro equal
  have inText : colon ∈ string4 bits := by
    rw [equal, string, if_pos rfl, append_nil]
    split
    · exact mem_append_left _ (by decide)
    · exact colon_mem_string6 (by rw [groups_length]; decide)
  rcases string4_byte inText with isDot | isDigit
  · exact absurd isDot (by decide)
  · exact absurd isDigit (by decide)

theorem dot_mem_string4 (bits : BitVec 32) : dot ∈ string4 bits := by
  simp [string4, fields, bigEndian]

private theorem eq_of_halves {left right : BitVec 128}
    (low : left.extractLsb' 0 32 = right.extractLsb' 0 32)
    (high : left.extractLsb' 32 96 = right.extractLsb' 32 96) : left = right := by
  have low := congrArg BitVec.toNat low
  have high := congrArg BitVec.toNat high
  simp only [BitVec.extractLsb'_toNat, Nat.shiftRight_eq_div_pow] at low high
  apply BitVec.eq_of_toNat_eq
  omega

theorem string_v6_injective {left right : BitVec 128}
    (equal : (Addr.v6 left "").string = (Addr.v6 right "").string) : left = right := by
  have different : ∀ bits : BitVec 32, ∀ values : List (BitVec 16),
      ofString "::ffff:" ++ string4 bits ≠ string6 values := by
    intro bits values same
    have inText : dot ∈ string6 values := by
      rw [← same]
      exact mem_append_right _ (dot_mem_string4 bits)
    rcases string6_byte inText with isColon | isDigit
    · exact absurd isColon (by decide)
    · exact absurd isDigit (by decide)
  rw [string, string, if_pos rfl, append_nil, append_nil] at equal
  split at equal <;> split at equal
  · next leftMapped rightMapped =>
    have low := string4_injective (append_cancel_left equal)
    rw [is4In6, beq_iff_eq] at leftMapped rightMapped
    exact eq_of_halves low (leftMapped.trans rightMapped.symm)
  · exact absurd equal (different _ _)
  · exact absurd equal.symm (different _ _)
  · apply groups_injective
    refine string6_injective ?_ (by rw [groups_length, groups_length]) equal
    intro isEmpty
    have length := groups_length left
    rw [isEmpty] at length
    cases length

theorem string_injective {left right : Addr} (leftValid : left.isValid) (rightValid : right.isValid)
    (leftNoZone : left.withoutZone = left) (rightNoZone : right.withoutZone = right)
    (equal : left.string = right.string) : left = right := by
  cases left with
  | invalid => cases leftValid
  | v4 leftBits =>
    cases right with
    | invalid => cases rightValid
    | v4 rightBits => rw [string4_injective equal]
    | v6 rightBits zone =>
      cases rightNoZone
      exact absurd equal string4_ne_string6
  | v6 _ zone =>
    cases leftNoZone
    cases right with
    | invalid => cases rightValid
    | v4 rightBits => exact absurd equal.symm string4_ne_string6
    | v6 =>
      cases rightNoZone
      rw [string_v6_injective equal]

end Addr

namespace Prefix

def string (subnet : Prefix) : Bytes :=
  if subnet.isValid then subnet.addr.string ++ slash :: formatUint subnet.bits 10
  else ofString "invalid Prefix"

variable {subnet : Prefix}

theorem addr_isValid (valid : subnet.isValid) : subnet.addr.isValid := by
  rw [isValid, decide_eq_true_eq] at valid
  exact (subnet.fits valid).1

theorem string_byte (valid : subnet.isValid) {byte : BitVec 8} (member : byte ∈ subnet.string) :
    32 ≤ byte.toNat := by
  have isDigit : IsDigit byte → 32 ≤ byte.toNat := by
    unfold IsDigit
    omega
  rw [string, if_pos valid, mem_append, mem_cons] at member
  rcases member with inAddress | isSlash | inBits
  · rcases Addr.string_byte (addr_isValid valid) subnet.noZone inAddress with
      isDot | isColon | digit
    · rw [isDot]
      decide
    · rw [isColon]
      decide
    · exact isDigit digit
  · rw [isSlash]
    decide
  · exact isDigit (isDigit_of_mem_formatUint (by decide) (by decide) inBits)

theorem string_injective {left right : Prefix} (leftValid : left.isValid)
    (rightValid : right.isValid) (equal : left.string = right.string) : left = right := by
  have noSlash : ∀ subnet : Prefix, subnet.isValid → ∀ byte ∈ subnet.addr.string,
      decide (byte ≠ slash) := by
    intro subnet valid byte member
    rw [decide_eq_true_eq]
    intro isSlash
    rw [isSlash] at member
    exact absurd (Addr.string_byte (addr_isValid valid) subnet.noZone member)
      (by decide)
  rw [string, string, if_pos leftValid, if_pos rightValid] at equal
  have parts := append_injective (noSlash left leftValid) (noSlash right rightValid)
    (by simp) (by simp) equal
  have addresses := Addr.string_injective (addr_isValid leftValid) (addr_isValid rightValid)
    left.noZone right.noZone parts.1
  have lengths := formatUint_injective (by decide) (by decide) (cons.inj parts.2).2
  rw [isValid, decide_eq_true_eq] at leftValid rightValid
  cases left
  cases right
  rw [mk.injEq]
  refine ⟨addresses, ?_⟩
  simp only [bits] at lengths leftValid rightValid
  omega

end Prefix

end SingBox.Netip
