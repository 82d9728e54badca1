import SingBox.Foundation.Bytes

/-! # Padding of naive connections

The first eight buffers of a connection are sent with a header and with padding.
-/

namespace SingBox.Naive

open List Bytes Option Nat

def paddingCount : Nat := 8

structure PaddingConn where
  readPadding : Nat := 0
  writePadding : Nat := 0
  readRemaining : Nat := 0
  paddingRemaining : Nat := 0

namespace PaddingConn

variable (conn : PaddingConn)

def readerReplaceable : Bool := conn.readPadding = paddingCount

def writerReplaceable : Bool := conn.writePadding = paddingCount

/-! ## The writing end -/

def frame (data : Bytes) (paddingSize : BitVec 8) : Bytes :=
  bigEndian 2 data.length ++ paddingSize :: (data ++ replicate paddingSize.toNat 0)

variable (random : Nat → BitVec 8)

/-- The size of the padding is the random number for the frame. -/
def writeWithPadding (data : Bytes) : PaddingConn × Bytes :=
  if conn.writePadding < paddingCount then
    ({ conn with writePadding := conn.writePadding + 1 }, frame data (random conn.writePadding))
  else (conn, data)

/-- Also `Write`. -/
def writeChunked (conn : PaddingConn) (data : Bytes) : PaddingConn × Bytes :=
  if data = [] then (conn, [])
  else
    let (next, written) := conn.writeWithPadding random (data.take 65535)
    let (last, later) := writeChunked next (data.drop 65535)
    (last, written ++ later)
termination_by data.length
decreasing_by
  have := length_pos_of_ne_nil ‹_›
  rw [length_drop]
  omega

def writeBufferWithPadding (data : Bytes) : PaddingConn × Bytes :=
  if conn.writePadding < paddingCount ∧ 65535 < data.length then writeChunked random conn data
  else conn.writeWithPadding random data

/-- A list of writes; the flag says that a buffer is written. -/
def writeAll : PaddingConn → List (Bool × Bytes) → PaddingConn × Bytes
  | conn, [] => (conn, [])
  | conn, (isBuffer, data) :: writes =>
    let (next, written) :=
      if isBuffer then conn.writeBufferWithPadding random data else writeChunked random conn data
    let (last, later) := writeAll next writes
    (last, written ++ later)

/-! ## The reading end -/

/-- `reader.Read`, when this many bytes are delivered. -/
def deliver (input : Bytes) (size count : Nat) : Option (Bytes × Bytes) :=
  if count ≤ size ∧ count ≤ input.length ∧ (0 < size → 0 < count) then
    some (input.take count, input.drop count)
  else none

/-- None if the call has to wait for more input. -/
def readWithPadding (input : Bytes) (size count : Nat) : Option (PaddingConn × Bytes × Bytes) :=
  if 0 < conn.readRemaining then
    (deliver input (min size conn.readRemaining) count).map fun delivered =>
      ({ conn with readRemaining := conn.readRemaining - count }, delivered)
  else if input.length < conn.paddingRemaining then none
  else
    let input := input.drop conn.paddingRemaining
    if conn.readPadding < paddingCount then
      match input with
      | high :: low :: paddingSize :: input =>
        let originalDataSize := ofBigEndian [high, low]
        (deliver input (min size originalDataSize) count).map fun delivered =>
          ({ conn with
            readPadding := conn.readPadding + 1
            readRemaining := originalDataSize - count
            paddingRemaining := paddingSize.toNat }, delivered)
      | _ => none
    else
      (deliver input size count).map fun delivered =>
        ({ conn with paddingRemaining := 0 }, delivered)

/-- Calls with buffers of these sizes, and what is delivered. -/
def readAll : PaddingConn → Bytes → List (Nat × Nat) → Option (PaddingConn × Bytes × Bytes)
  | conn, input, [] => some (conn, [], input)
  | conn, input, (size, read) :: calls =>
    (conn.readWithPadding input size read).bind fun (next, data, input) =>
      (readAll next input calls).map fun (last, more, input) => (last, data ++ more, input)

/-! ## Both ends -/

/-- From one number of frames to another, the bytes stand for the data. -/
inductive Encodes : Nat → Nat → Bytes → Bytes → Prop
  | stop {count data} : count = paddingCount ∨ data = [] → Encodes count count data data
  | frame {count last input data part paddingSize} :
    count < paddingCount → part.length < 256 ^ 2 → Encodes (count + 1) last input data →
    Encodes count last (frame part paddingSize ++ input) (part ++ data)

/-- What is written is read as the data. -/
def Sends (written : PaddingConn × Bytes) (data : Bytes) : Prop :=
  conn.writePadding ≤ paddingCount → written.1.writePadding ≤ paddingCount ∧
    Encodes conn.writePadding written.1.writePadding written.2 data

/-- The input holds the rest of a frame and what follows, and stands for the data. -/
def Stands (last : Nat) (input data : Bytes) : Prop :=
  ∃ part later more, part.length = conn.readRemaining ∧
    input = part ++ (replicate conn.paddingRemaining 0 ++ later) ∧ data = part ++ more ∧
    Encodes conn.readPadding last later more

/-- The rest of the data can be read, and an end that is replaceable adds nothing to
what it reads or writes. -/
structure Transparent (reader writer : PaddingConn) (input rest : Bytes) : Prop where
  progress : rest ≠ [] → ∀ size, ∃ count, (reader.readWithPadding input size count).isSome = true
  takes : ∀ {size count next out later}, 0 < size →
    reader.readWithPadding input size count = some (next, out, later) → later.length < input.length
  reader : reader.readerReplaceable = true → input = rest
  writer : writer.writerReplaceable = true → ∀ writes,
    (writeAll random writer writes).2 = (writes.map Prod.snd).flatten

variable {conn random} {next : PaddingConn} {first middle last size count : Nat}
  {input later data more out : Bytes} {writes : List (Bool × Bytes)} {calls : List (Nat × Nat)}

theorem Encodes.append (encodes : Encodes first middle input data)
    (continues : Encodes middle last later more) :
    Encodes first last (input ++ later) (data ++ more) := by
  induction encodes with
  | stop isEnd =>
    rcases isEnd with rfl | rfl
    · cases continues with
      | stop => exact .stop (.inl rfl)
      | frame isBelow => exact absurd isBelow (lt_irrefl _)
    · exact continues
  | frame isBelow fits _ induction =>
    rw [append_assoc, append_assoc]
    exact .frame isBelow fits (induction continues)

theorem sends_writeWithPadding (fits : conn.writePadding < paddingCount → data.length < 256 ^ 2) :
    Sends conn (conn.writeWithPadding random data) data := by
  intro isBound
  rw [writeWithPadding]
  split_ifs with isBelow
  · have encodes : Encodes _ _ (frame data (random conn.writePadding) ++ []) (data ++ []) :=
      .frame isBelow (fits isBelow) (.stop (.inr rfl))
    rw [append_nil, append_nil] at encodes
    exact ⟨isBelow, encodes⟩
  · exact ⟨isBound, .stop (.inl (by omega))⟩

theorem Sends.append {written continued : PaddingConn × Bytes} (sends : Sends conn written data)
    (continues : Sends written.1 continued more) :
    Sends conn (continued.1, written.2 ++ continued.2) (data ++ more) := by
  intro isBound
  rcases sends isBound with ⟨isBound, encodes⟩
  rcases continues isBound with ⟨isBound, continues⟩
  exact ⟨isBound, encodes.append continues⟩

theorem sends_writeChunked : Sends conn (writeChunked random conn data) data := by
  fun_induction writeChunked random conn data with
  | case1 conn => exact fun isBound => ⟨isBound, .stop (.inr rfl)⟩
  | case2 conn data _ next written isNext last later isLast induction =>
    have fits : (data.take 65535).length < 256 ^ 2 := by grind
    have sends : Sends conn (conn.writeWithPadding random (data.take 65535)) _ :=
      sends_writeWithPadding fun _ => fits
    rw [isLast] at induction
    rw [isNext] at sends
    have sends := sends.append induction
    rw [take_append_drop] at sends
    exact sends

theorem sends_writeAll :
    Sends conn (writeAll random conn writes) (writes.map Prod.snd).flatten := by
  induction writes generalizing conn with
  | nil => exact fun isBound => ⟨isBound, .stop (.inr rfl)⟩
  | cons write writes induction =>
    rcases write with ⟨isBuffer, data⟩
    rw [writeAll, map_cons, flatten_cons]
    refine Sends.append ?_ (induction)
    cases isBuffer
    · exact sends_writeChunked
    · rw [writeBufferWithPadding]
      split_ifs
      · exact sends_writeChunked
      · exact sends_writeWithPadding (by rw [paddingCount] at *; omega)

theorem Encodes.eq_data (encodes : Encodes paddingCount last input data) : input = data := by
  cases encodes with
  | stop => rfl
  | frame isBelow => exact absurd isBelow (lt_irrefl _)

theorem stands_deliver {part : Bytes} (encodes : Encodes conn.readPadding last later more)
    (isRead : ((deliver (part ++ (replicate conn.paddingRemaining 0 ++ later))
      (min size part.length) count).map fun delivered =>
        ({ conn with readRemaining := part.length - count }, delivered)) =
          some (next, out, input)) :
    ∃ rest, part ++ more = out ++ rest ∧ next.Stands last input rest := by
  rw [deliver] at isRead
  split_ifs at isRead with isCount
  · cases isRead
    have fits : count ≤ part.length := by omega
    rw [take_append_of_le_length fits, drop_append_of_le_length fits]
    refine ⟨part.drop count ++ more, ?_, _, _, _, length_drop, rfl, rfl, encodes⟩
    rw [← append_assoc, take_append_drop]
  · cases isRead

theorem frame_append (part : Bytes) (paddingSize : BitVec 8) :
    frame part paddingSize ++ later = BitVec.ofNat 8 (part.length / 256) ::
      BitVec.ofNat 8 part.length :: paddingSize ::
        (part ++ (replicate paddingSize.toNat 0 ++ later)) := by
  simp [frame, bigEndian_two]

theorem ofBigEndian_length (fits : data.length < 256 ^ 2) :
    ofBigEndian [BitVec.ofNat 8 (data.length / 256), BitVec.ofNat 8 data.length] = data.length := by
  rw [← bigEndian_two, ofBigEndian_bigEndian, mod_eq_of_lt fits]

theorem Stands.read (stands : conn.Stands last input data)
    (isRead : conn.readWithPadding input size count = some (next, out, later)) :
    ∃ rest, data = out ++ rest ∧ next.Stands last later rest := by
  rcases stands with ⟨part, tail, more, isPart, rfl, rfl, encodes⟩
  rw [readWithPadding, ← isPart] at isRead
  by_cases hasPart : 0 < part.length
  · rw [if_pos hasPart] at isRead
    exact stands_deliver encodes isRead
  obtain rfl := length_eq_zero_iff.mp (Nat.eq_zero_of_not_pos hasPart)
  simp only [nil_append, drop_left' length_replicate] at isRead ⊢
  split_ifs at isRead with waits isBelow
  · cases encodes with
    | stop isEnd =>
      rcases isEnd with isFull | rfl
      · omega
      · cases isRead
    | @frame _ _ tail more part paddingSize _ fits encodes =>
      simp only [frame_append, ofBigEndian_length fits] at isRead
      let after : PaddingConn := ⟨conn.readPadding + 1, conn.writePadding, 0, paddingSize.toNat⟩
      have encodes : Encodes after.readPadding last tail more := encodes
      exact stands_deliver encodes isRead
  · cases encodes with
    | frame => contradiction
    | stop isEnd =>
      rw [deliver] at isRead
      split_ifs at isRead
      · cases isRead
        refine ⟨tail.drop count, by simp, [], _, _, rfl, rfl, rfl, .stop ?_⟩
        exact isEnd.imp_right fun isNil => by rw [isNil, drop_nil]
      · cases isRead

theorem isSome_deliver (isLeft : 0 < size → 0 < input.length) :
    ∃ count, (deliver input size count).isSome = true := by
  refine ⟨min size 1, ?_⟩
  rw [deliver, if_pos (by omega)]
  rfl

theorem Stands.progress (stands : conn.Stands last input data) (isLeft : data ≠ [])
    (size : Nat) : ∃ count, (conn.readWithPadding input size count).isSome = true := by
  rcases stands with ⟨part, tail, more, isPart, rfl, rfl, encodes⟩
  simp only [readWithPadding, ← isPart]
  by_cases hasPart : 0 < part.length
  · simp only [if_pos hasPart, isSome_map]
    exact isSome_deliver fun _ => by grind
  obtain rfl := length_eq_zero_iff.mp (Nat.eq_zero_of_not_pos hasPart)
  have isEnough := (le_add_right conn.paddingRemaining tail.length).not_gt
  simp only [if_neg hasPart, nil_append, drop_left' length_replicate, length_append,
    length_replicate, if_neg isEnough]
  cases encodes with
  | stop isEnd =>
    simp only [isEnd.resolve_right isLeft, lt_irrefl, if_false, isSome_map]
    exact isSome_deliver fun _ => length_pos_of_ne_nil isLeft
  | frame isBelow fits =>
    simp only [isBelow, if_true, frame_append, ofBigEndian_length fits, isSome_map]
    exact isSome_deliver fun _ => by grind

theorem length_read (isRead : conn.readWithPadding input size count = some (next, out, later))
    (isSize : 0 < size) : later.length < input.length := by
  have isDropped := length_drop (i := conn.paddingRemaining) (l := input)
  simp only [readWithPadding, deliver] at isRead
  grind

theorem Stands.readAll (stands : conn.Stands last input data)
    (isRead : readAll conn input calls = some (next, out, later)) :
    ∃ rest, data = out ++ rest ∧ next.Stands last later rest := by
  induction calls generalizing conn input data out with
  | nil =>
    cases isRead
    exact ⟨data, rfl, stands⟩
  | cons _ _ induction =>
    simp only [PaddingConn.readAll, bind_eq_some_iff, map_eq_some_iff] at isRead
    rcases isRead with ⟨_, isFirst, _, isLater, ⟨⟩⟩
    rcases stands.read isFirst with ⟨_, isData, stands⟩
    rcases induction stands isLater with ⟨rest, isRest, stands⟩
    exact ⟨rest, by rw [isData, isRest, append_assoc], stands⟩

theorem Stands.eq_iff (stands : conn.Stands last input data)
    (isFull : conn.readPadding = paddingCount) : input = data ↔ conn.paddingRemaining = 0 := by
  rcases stands with ⟨_, _, _, _, rfl, rfl, encodes⟩
  rw [isFull] at encodes
  simp [encodes.eq_data]

theorem transparent_iff
    (isRead : readAll {} (writeAll random {} writes).2 calls = some (conn, out, input)) :
    (∃ rest, (writes.map Prod.snd).flatten = out ++ rest ∧
      Transparent random conn (writeAll random {} writes).1 input rest) ↔
      (conn.readPadding = paddingCount → conn.paddingRemaining = 0) := by
  have ⟨isBound, encodes⟩ := @sends_writeAll {} random writes (zero_le _)
  have ⟨rest, isData, stands⟩ := Stands.readAll ⟨[], _, _, rfl, rfl, rfl, encodes⟩ isRead
  constructor
  · rintro ⟨_, isOther, transparent⟩ isFull
    obtain rfl := append_cancel_left (isData.symm.trans isOther)
    exact (stands.eq_iff isFull).mp (transparent.reader (decide_eq_true isFull))
  · intro isSkipped
    refine ⟨rest, isData, stands.progress, fun isSize isRead => length_read isRead isSize, ?_, ?_⟩
    · intro isFull
      have isFull := of_decide_eq_true isFull
      exact (stands.eq_iff isFull).mpr (isSkipped isFull)
    · intro isFull later
      have sends := (@sends_writeAll _ random later isBound).2
      rw [of_decide_eq_true isFull] at sends
      exact sends.eq_data

theorem transparent_part :
    ∃ rest, [1, 2] = [1] ++ rest ∧ Transparent 1 ⟨1, 0, 1, 1⟩ ⟨0, 1, 0, 0⟩ [2, 0] rest := by
  have isRead : readAll {} (writeAll 1 {} [(true, [1, 2])]).2 [(1, 1)] =
    some (⟨1, 0, 1, 1⟩, [1], [2, 0]) := rfl
  exact (transparent_iff isRead).mpr (by decide)

/-- The padding of the eighth frame is left to the raw connection. -/
theorem padding_leaks :
    ∃ conn, readAll {} (writeAll 1 {} (replicate 8 (true, [1]))).2 (replicate 8 (1, 1)) =
        some (conn, replicate 8 1, [0]) ∧
      conn.readerReplaceable = true :=
  ⟨_, rfl, rfl⟩

end PaddingConn

end SingBox.Naive
