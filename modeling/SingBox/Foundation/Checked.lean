import SingBox.Foundation.Bytes
import SingBox.Foundation.Codec

/-! # Computations that can go wrong

A Go function returns a value or an error, panics when it leaves the bounds of a
slice, or never comes to an end. A loop that need not end is given a number of
rounds, and using them up is a fault of its own. `Returns` excludes the last
two.
-/

namespace SingBox

open List Bytes

inductive Fault (Error : Type)
  | returned (err : Error)
  | panicked
  /-- The rounds given to a loop are used up. -/
  | unfinished
  deriving DecidableEq

abbrev Checked (Error : Type) := Except (Fault Error)

namespace Checked

variable {Error Value Result Item : Type}

def Returns (computation : Checked Error Value) : Prop :=
  ∀ fault, computation = .error fault → ∃ err, fault = .returned err

theorem returns_ok (value : Value) : Returns (.ok value : Checked Error Value) :=
  nofun

theorem returns_returned (err : Error) :
    Returns (.error (.returned err) : Checked Error Value) := by
  rintro _ ⟨⟩
  exact ⟨err, rfl⟩

theorem not_returns_panicked : ¬Returns (.error .panicked : Checked Error Value) := by
  intro returns
  rcases returns .panicked rfl with ⟨_, ⟨⟩⟩

theorem not_returns_unfinished : ¬Returns (.error .unfinished : Checked Error Value) := by
  intro returns
  rcases returns .unfinished rfl with ⟨_, ⟨⟩⟩

variable {first : Checked Error Value} {next : Value → Checked Error Result}

theorem Returns.bind (isFirst : first.Returns)
    (isNext : ∀ value, first = .ok value → (next value).Returns) : (first >>= next).Returns := by
  cases first with
  | error fault =>
    rintro _ ⟨⟩
    exact isFirst fault rfl
  | ok value => exact isNext value rfl

variable {result : Result} {condition : Prop} {err : Error} {done : Unit}
  {front rest middle : List Item} {item : Item} {low count start : Nat} {bytes : Bytes}
  {step : Item → Checked Error Value}

theorem returns_bind_ok_iff {change : Value → Result} :
    (first >>= fun value => .ok (change value)).Returns ↔ first.Returns := by
  constructor
  · intro returns
    cases first with
    | error fault =>
      rintro _ ⟨⟩
      exact returns fault rfl
    | ok value => exact returns_ok value
  · intro returns
    exact returns.bind fun value _ => returns_ok (change value)

theorem ok_bind (value : Value) (next : Value → Checked Error Result) :
    (.ok value : Checked Error Value) >>= next = next value := rfl

/-- The computation does not panic. It may go on for ever. -/
def Safe (computation : Checked Error Value) : Prop := computation ≠ .error .panicked

theorem safe_ok (value : Value) : Safe (.ok value : Checked Error Value) := by
  nofun

theorem safe_returned (err : Error) : Safe (.error (.returned err) : Checked Error Value) := by
  nofun

theorem Safe.bind (isFirst : first.Safe) (isNext : ∀ value, first = .ok value → (next value).Safe) :
    (first >>= next).Safe := by
  cases first with
  | error =>
    rintro ⟨⟩
    exact isFirst rfl
  | ok value => exact isNext value rfl

/-- The checks of a parser: an error unless the condition holds. -/
def demand (condition : Prop) [Decidable condition] (err : Error) : Checked Error Unit :=
  if condition then .ok () else .error (.returned err)

theorem demand_bind_of [Decidable condition] {next : Unit → Checked Error Result}
    (holds : condition := by omega) : demand condition err >>= next = next () := by
  rw [demand, if_pos holds]
  rfl

theorem demand_bind_of_not [Decidable condition] {next : Unit → Checked Error Result}
    (fails : ¬condition) : demand condition err >>= next = .error (.returned err) := by
  rw [demand, if_neg fails]
  rfl

theorem Returns.demand [Decidable condition] {next : Unit → Checked Error Result}
    (isNext : condition → (next ()).Returns) : (Checked.demand condition err >>= next).Returns := by
  by_cases holds : condition
  · rw [demand_bind_of holds]
    exact isNext holds
  · rw [demand_bind_of_not holds]
    exact returns_returned err

theorem returns_demand (condition : Prop) [Decidable condition] (err : Error) :
    (demand condition err).Returns := by
  rw [demand]
  split
  · exact returns_ok ()
  · exact returns_returned err

theorem demand_eq_ok_iff [Decidable condition] : demand condition err = .ok done ↔ condition := by
  by_cases holds : condition <;> simp [demand]

theorem of_demand [Decidable condition] (isOk : demand condition err = .ok done) : condition :=
  demand_eq_ok_iff.mp isOk

/-- The error that a computation returns, as a value. -/
def attempt {Other : Type} (computation : Checked Error Value) :
    Checked Other (Except Error Value) :=
  match computation with
  | .ok value => .ok (.ok value)
  | .error (.returned err) => .ok (.error err)
  | .error .panicked => .error .panicked
  | .error .unfinished => .error .unfinished

/-! ## Slices -/

/-- `items[place]` -/
def index (items : List Item) (place : Nat) : Checked Error Item :=
  match items[place]? with
  | some item => .ok item
  | none => .error .panicked

/-- `items[low:]` -/
def sliceFrom (items : List Item) (low : Nat) : Checked Error (List Item) :=
  if low ≤ items.length then .ok (items.drop low) else .error .panicked

/-- `items[low:high]` within the length of `items`. -/
def slice (items : List Item) (low high : Nat) : Checked Error (List Item) :=
  if low ≤ high ∧ high ≤ items.length then .ok ((items.take high).drop low)
  else .error .panicked

variable {place : Nat}

theorem index_append (isPlace : front.length = place) :
    (index (front ++ item :: rest) place : Checked Error Item) = .ok item := by
  subst isPlace
  rw [index, getElem?_append_right (Nat.le_refl _), Nat.sub_self]
  rfl

variable {items : List Item} {next : List Item → Checked Error Result} {high : Nat}

theorem index_of_le (outside : items.length ≤ place) :
    (index items place : Checked Error Item) = .error .panicked := by
  rw [index, getElem?_eq_none outside]

theorem exists_index (inside : place < items.length) :
    ∃ item, (index items place : Checked Error Item) = .ok item := by
  rw [index, getElem?_eq_getElem inside]
  exact ⟨_, rfl⟩

theorem index_bind {next : Item → Checked Error Result} (fallback : Item)
    (inside : place < items.length := by omega) :
    index items place >>= next = next (items.getD place fallback) := by
  rw [index, getD_eq_getElem?_getD, getElem?_eq_getElem inside]
  rfl

theorem of_index (isOk : (index items place : Checked Error Item) = .ok item) :
    ∃ front rest, items = front ++ item :: rest ∧ front.length = place := by
  rw [index] at isOk
  cases isFound : items[place]? with
  | none =>
    rw [isFound] at isOk
    cases isOk
  | some found =>
    rw [isFound] at isOk
    cases isOk
    rcases List.getElem?_eq_some_iff.mp isFound with ⟨inside, isItem⟩
    refine ⟨items.take place, items.drop (place + 1), ?_, ?_⟩
    · rw [← isItem, cons_getElem_drop_succ, take_append_drop]
    · rw [length_take]
      omega

theorem sliceFrom_bind (inside : low ≤ items.length := by omega) :
    sliceFrom items low >>= next = next (items.drop low) := by
  rw [sliceFrom, if_pos inside]
  rfl

theorem slice_bind (isOrdered : low ≤ high := by omega) (inside : high ≤ items.length := by omega) :
    slice items low high >>= next = next ((items.take high).drop low) := by
  rw [slice, if_pos ⟨isOrdered, inside⟩]
  rfl

theorem of_sliceFrom (isOk : (sliceFrom items low : Checked Error (List Item)) = .ok rest) :
    ∃ front, items = front ++ rest ∧ front.length = low := by
  rw [sliceFrom] at isOk
  split at isOk <;> cases isOk
  exact ⟨items.take low, (take_append_drop low items).symm, by
    rw [length_take]
    omega⟩

theorem sliceFrom_append (isLow : front.length = low) :
    (sliceFrom (front ++ rest) low : Checked Error (List Item)) = .ok rest := by
  rw [sliceFrom, if_pos (by rw [length_append]; omega), drop_left' isLow]

theorem sliceFrom_append_cons (isLow : front.length + 1 + middle.length = low) :
    (sliceFrom (front ++ item :: (middle ++ rest)) low : Checked Error (List Item)) =
      .ok rest := by
  have isSplit : front ++ item :: (middle ++ rest) = (front ++ item :: middle) ++ rest := by simp
  rw [isSplit]
  apply sliceFrom_append
  rw [length_append, length_cons]
  omega

theorem slice_append (isLow : front.length = low) (isHigh : low + middle.length = high) :
    (slice (front ++ middle ++ rest) low high : Checked Error (List Item)) = .ok middle := by
  have isFront : (front ++ middle).length = high := by
    rw [length_append]
    omega
  rw [slice, if_pos (by rw [length_append, isFront]; omega), take_left' isFront, drop_left' isLow]

/-! ## Numbers of two bytes -/

def uint16 (high low : BitVec 8) : BitVec 16 := BitVec.ofNat 16 (ofBigEndian [high, low])

/-- `uint16(bytes[place])<<8 | uint16(bytes[place+1])` -/
def uint16At (bytes : Bytes) (place : Nat) : Checked Error (BitVec 16) := do
  let high ← index bytes place
  let low ← index bytes (place + 1)
  .ok (uint16 high low)

/-- `binary.BigEndian.Uint16(bytes[place:])` -/
def uint16From (bytes : Bytes) (place : Nat) : Checked Error (BitVec 16) := do
  let rest ← sliceFrom bytes place
  uint16At rest 0

theorem uint16_bigEndian (value : Nat) :
    uint16 (BitVec.ofNat 8 (value / 256)) (BitVec.ofNat 8 value) = BitVec.ofNat 16 value := by
  rw [uint16, ← bigEndian_two, ofBigEndian_bigEndian]
  apply BitVec.eq_of_toNat_eq
  rw [BitVec.toNat_ofNat, BitVec.toNat_ofNat]
  exact Nat.mod_mod value (256 ^ 2)

theorem toNat_uint16 (high low : BitVec 8) : (uint16 high low).toNat = ofBigEndian [high, low] := by
  have highBelow := high.isLt
  have lowBelow := low.isLt
  have isValue : ofBigEndian [high, low] = 256 * high.toNat + low.toNat := by
    simp [ofBigEndian]
  rw [uint16, BitVec.toNat_ofNat, isValue]
  omega

theorem bigEndian_uint16 (high low : BitVec 8) :
    bigEndian 2 (uint16 high low).toNat = [high, low] := by
  rw [toNat_uint16]
  exact bigEndian_ofBigEndian [high, low]

theorem uint16At_append {front rest : Bytes} {high low : BitVec 8}
    (isPlace : front.length = place) :
    (uint16At (front ++ high :: low :: rest) place : Checked Error (BitVec 16)) =
      .ok (uint16 high low) := by
  have isSplit : front ++ high :: low :: rest = (front ++ [high]) ++ low :: rest := by simp
  have isNext : (front ++ [high]).length = place + 1 := by simp [isPlace]
  have isLow : (index (front ++ high :: low :: rest) (place + 1) : Checked Error (BitVec 8)) =
      .ok low := by
    rw [isSplit]
    exact index_append isNext
  rw [uint16At, index_append isPlace, isLow]
  rfl

theorem uint16At_bigEndian {front rest : Bytes} {value place : Nat}
    (isPlace : front.length = place) :
    (uint16At (front ++ (bigEndian 2 value ++ rest)) place : Checked Error (BitVec 16)) =
      .ok (BitVec.ofNat 16 value) := by
  rw [bigEndian_two, ← uint16_bigEndian]
  exact uint16At_append isPlace

theorem uint16At_zero (value : Nat) (rest : Bytes) :
    (uint16At (bigEndian 2 value ++ rest) 0 : Checked Error (BitVec 16)) =
      .ok (BitVec.ofNat 16 value) := by
  rw [← nil_append (_ ++ rest)]
  exact uint16At_bigEndian rfl

theorem uint16At_word {front rest : Bytes} {word : BitVec 16} (isPlace : front.length = place) :
    (uint16At (front ++ (bigEndian 2 word.toNat ++ rest)) place : Checked Error (BitVec 16)) =
      .ok word := by
  rw [uint16At_bigEndian isPlace, ofNat_word]

theorem exists_uint16At (inside : place + 2 ≤ bytes.length) :
    ∃ value, (uint16At bytes place : Checked Error (BitVec 16)) = .ok value := by
  rw [uint16At, index_bind 0, index_bind 0]
  exact ⟨_, rfl⟩

theorem uint16At_bind {next : BitVec 16 → Checked Error Result}
    (inside : place + 2 ≤ bytes.length := by omega) :
    uint16At bytes place >>= next = next (BitVec.ofNat 16 (numberAt bytes place 2)) := by
  have isNumber : numberAt bytes place 2 =
      ofBigEndian [bytes.getD place 0, bytes.getD (place + 1) 0] := by
    rw [numberAt, ← cons_getElem_drop_succ (h := by omega),
      ← cons_getElem_drop_succ (h := by omega), getD_eq_getElem?_getD, getD_eq_getElem?_getD,
      getElem?_eq_getElem (by omega), getElem?_eq_getElem (by omega)]
    rfl
  rw [uint16At, index_bind 0, index_bind 0, ok_bind, isNumber]
  rfl

theorem toNat_numberAt (bytes : Bytes) (place : Nat) :
    (BitVec.ofNat 16 (numberAt bytes place 2)).toNat = numberAt bytes place 2 :=
  toNat_of_lt (numberAt_lt ..)

theorem uint16At_of_lt (outside : bytes.length < place + 2) :
    (uint16At bytes place : Checked Error (BitVec 16)) = .error .panicked := by
  by_cases hasHigh : place < bytes.length
  · rw [uint16At, index_bind 0 hasHigh, index_of_le (by omega)]
    rfl
  · rw [uint16At, index_of_le (by omega)]
    rfl

theorem uint16From_eq (bytes : Bytes) (place : Nat) :
    (uint16From bytes place : Checked Error (BitVec 16)) = uint16At bytes place := by
  by_cases inside : place ≤ bytes.length
  · have isSlice : (sliceFrom bytes place : Checked Error Bytes) = .ok (bytes.drop place) :=
      if_pos inside
    have isIndex : ∀ offset, (index (bytes.drop place) offset : Checked Error (BitVec 8)) =
        index bytes (place + offset) := by
      intro offset
      rw [index, getElem?_drop, index]
    rw [uint16From, isSlice]
    change uint16At (bytes.drop place) 0 = _
    rw [uint16At, isIndex, isIndex]
    rfl
  · have isSlice : (sliceFrom bytes place : Checked Error Bytes) = .error .panicked :=
      if_neg inside
    rw [uint16From, isSlice, uint16At_of_lt (by omega)]
    rfl

/-! ## Loops over a list -/

theorem exists_mapM (each : ∀ item ∈ items, ∃ value, step item = .ok value) :
    ∃ values, items.mapM step = .ok values := by
  induction items with
  | nil => exact ⟨[], rfl⟩
  | cons first _ induction =>
    rcases each first mem_cons_self with ⟨value, isValue⟩
    rcases induction (forall_mem_cons.mp each).2 with
      ⟨values, areValues⟩
    exact ⟨value :: values, by rw [mapM_cons, isValue, areValues]; rfl⟩

/-- A loop whose rounds can only panic does so in the first round that does. -/
theorem mapM_panicked
    (each : ∀ item ∈ items, step item = .error .panicked ∨ ∃ value, step item = .ok value)
    {place : Item} (member : place ∈ items) (panics : step place = .error .panicked) :
    items.mapM step = .error .panicked := by
  induction items with
  | nil => cases member
  | cons first items induction =>
    rw [mapM_cons]
    rcases each first mem_cons_self with isPanic | ⟨_, isValue⟩
    · rw [isPanic]
      rfl
    have isLater : place ∈ items := by
      rcases mem_cons.mp member with rfl | isLater
      · cases isValue.symm.trans panics
      · exact isLater
    rw [isValue]
    rw [induction (forall_mem_cons.mp each).2 isLater]
    rfl

def uint16sAt (bytes : Bytes) (start count : Nat) : Checked Error (List (BitVec 16)) :=
  (range count).mapM fun place => uint16At bytes (start + 2 * place)

theorem exists_uint16sAt (inside : start + 2 * count ≤ bytes.length) :
    ∃ values, (uint16sAt bytes start count : Checked Error (List (BitVec 16))) = .ok values := by
  apply exists_mapM
  intro place member
  have isBelow := mem_range.mp member
  exact exists_uint16At (by omega)

theorem uint16sAt_of_lt (isSome : count ≠ 0) (outside : bytes.length < start + 2 * count) :
    (uint16sAt bytes start count : Checked Error (List (BitVec 16))) = .error .panicked := by
  have isLast : count - 1 ∈ range count := mem_range.mpr (by omega)
  apply mapM_panicked _ isLast
  · exact uint16At_of_lt (by omega)
  · intro place member
    by_cases inside : start + 2 * place + 2 ≤ bytes.length
    · exact .inr (exists_uint16At inside)
    · exact .inl (uint16At_of_lt (by omega))

end Checked

end SingBox
