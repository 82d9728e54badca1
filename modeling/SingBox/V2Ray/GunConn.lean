import SingBox.Foundation.Wire

/-! # The stream of a gRPC-lite connection

A frame is six bytes that the reader skips, the length of the data in variable
length, and the data. The reader makes a signed number of the length before it
slices the buffer of its caller with it.
-/

namespace SingBox.V2RayGRPCLite

open Wire List

/-- `GunConn`, with the bytes that are still to come from the peer. -/
structure GunConn where
  input : Bytes
  readRemaining : Int := 0

/-- A call of `Read`: the length of the buffer, and how many bytes the buffered
reader has at hand. -/
structure Call where
  size : Nat
  chunk : Nat

/-- `Discard(6)` and `binary.ReadUvarint`: the length, unless there is an error,
and the bytes after it. A number that is too long is given up after its tenth byte. -/
def readLength (input : Bytes) : Option (BitVec 64) × Bytes :=
  if input.length < 6 then (none, [])
  else
    match readUvarint.run (input.drop 6) with
    | .ok (dataLen, rest) => (some (BitVec.ofNat 64 dataLen), rest)
    | .error _ => (none, input.drop (6 + maxVarintLen64))

namespace GunConn

variable (conn : GunConn)

/-- `b[:readRemaining]` if the buffer is longer than that: the length of the buffer
afterwards, or a panic. -/
def cut (size : Nat) : Option Nat :=
  if conn.readRemaining < size then
    if conn.readRemaining < 0 then none else conn.readRemaining.toNat
  else size

/-- The end of `read`: the buffer is cut and filled. -/
def receive (call : Call) : Option (Bytes × GunConn) :=
  (conn.cut call.size).map fun length =>
    let data := conn.input.take (min length call.chunk)
    (data, ⟨conn.input.drop (min length call.chunk), conn.readRemaining - data.length⟩)

/-- `read`: the data and the connection afterwards, or a panic. -/
def read (call : Call) : Option (Bytes × GunConn) :=
  if 0 < conn.readRemaining then conn.receive call
  else
    match readLength conn.input with
    | (none, rest) => some ([], { conn with input := rest })
    | (some dataLen, rest) => receive ⟨rest, dataLen.toInt⟩ call

def reads : GunConn → List Call → Option (Bytes × GunConn)
  | conn, [] => some ([], conn)
  | conn, call :: calls =>
    (conn.read call).bind fun (data, conn) =>
      (conn.reads calls).map fun (more, conn) => (data ++ more, conn)

def writeHeader (dataLen : Nat) : Bytes :=
  0x00#8 :: (Bytes.bigEndian 4 (1 + (putUvarint dataLen).length + dataLen) ++
    0x0A#8 :: putUvarint dataLen)

/-- What `Write` and `WriteBuffer` send. -/
def write (data : Bytes) : Bytes := writeHeader data.length ++ data

/-- No call panics, and `readRemaining` is not negative after any of them. -/
def Safe : Prop :=
  ∀ calls, ∃ data after, conn.reads calls = some (data, after) ∧ 0 ≤ after.readRemaining

end GunConn

inductive Announces : Bytes → BitVec 64 → Prop
  | here {input rest dataLen} :
    readLength input = (some dataLen, rest) → Announces input dataLen
  | later {input rest dataLen other} :
    readLength input = (some dataLen, rest) → Announces (rest.drop dataLen.toNat) other →
    Announces input other
  | failed {input rest other} :
    readLength input = (none, rest) → Announces rest other → Announces input other

variable {dataLen : BitVec 64}

theorem Announces.ne_nil {input : Bytes} (announces : Announces input dataLen) : input ≠ [] := by
  induction announces with
  | here isLength =>
    rintro rfl
    cases isLength
  | later isLength =>
    rintro rfl
    cases isLength
  | failed isLength _ induction =>
    rintro rfl
    cases isLength
    exact induction rfl

theorem toInt_eq_toNat (isSmall : dataLen.toNat < 2 ^ 63) : dataLen.toInt = dataLen.toNat := by
  rw [BitVec.toInt_eq_toNat_cond, if_pos (by omega)]

namespace GunConn

variable {conn next : GunConn} {call : Call} {data : Bytes}

theorem exists_receive (notNegative : 0 ≤ conn.readRemaining) (call : Call) :
    ∃ count ≤ conn.readRemaining.toNat,
      (0 < call.size → 0 < call.chunk → 0 < conn.readRemaining → 0 < count) ∧
      conn.receive call = some (conn.input.take count,
        ⟨conn.input.drop count, conn.readRemaining - (conn.input.take count).length⟩) := by
  have isCut : conn.cut call.size = some (min call.size conn.readRemaining.toNat) := by
    rw [cut]
    split
    · rw [if_neg (by omega), min_eq_right (by omega)]
    · rw [min_eq_left (by omega)]
  refine ⟨min (min call.size conn.readRemaining.toNat) call.chunk, by omega, by omega, ?_⟩
  rw [receive, isCut]
  rfl

/-! ## Any peer -/

/-- The frames after the current one have no negative length. -/
structure Regular (conn : GunConn) : Prop where
  notNegative : 0 ≤ conn.readRemaining
  areSmall : ∀ {dataLen}, Announces (conn.input.drop conn.readRemaining.toNat) dataLen →
    dataLen.toNat < 2 ^ 63

section

variable (regular : conn.Regular)
include regular

theorem Regular.receive (call : Call) :
    ∃ data next, conn.receive call = some (data, next) ∧ next.Regular := by
  have notNegative := regular.notNegative
  rcases exists_receive notNegative call with ⟨count, isBound, -, isReceived⟩
  refine ⟨_, _, isReceived, ?_, fun announces => regular.areSmall ?_⟩
  · dsimp only
    rw [length_take]
    omega
  · rw [length_take, drop_drop] at announces
    rcases Nat.le_total count conn.input.length with isInside | isOutside
    · rwa [show count + (conn.readRemaining - (min count conn.input.length : Nat)).toNat =
        conn.readRemaining.toNat by omega] at announces
    · rw [drop_eq_nil_of_le (by omega)] at announces
      exact absurd rfl announces.ne_nil

theorem Regular.read (call : Call) :
    ∃ data next, conn.read call = some (data, next) ∧ next.Regular := by
  rw [GunConn.read]
  split
  · exact regular.receive call
  next isOver =>
  have isZero : conn.readRemaining.toNat = 0 := by omega
  have areSmall := @regular.areSmall
  rw [isZero, drop_zero] at areSmall
  split
  · next rest isLength =>
    refine ⟨_, _, rfl, regular.notNegative, fun announces => ?_⟩
    rw [isZero, drop_zero] at announces
    exact areSmall (.failed isLength announces)
  · next isLength =>
    have isInt := toInt_eq_toNat (areSmall (.here isLength))
    rw [isInt]
    apply Regular.receive
    exact ⟨Int.natCast_nonneg _, fun announces => areSmall (.later isLength announces)⟩

theorem Regular.safe : conn.Safe := by
  intro calls
  induction calls generalizing conn with
  | nil => exact ⟨[], conn, rfl, regular.notNegative⟩
  | cons call _ induction =>
    rcases regular.read call with ⟨data, _, isRead, regular⟩
    rcases induction regular with ⟨more, after, areRead, notNegative⟩
    exact ⟨data ++ more, after, by simp [reads, isRead, areRead], notNegative⟩

end

theorem Safe.after (safe : conn.Safe) (isRead : conn.read call = some (data, next)) :
    next.Safe := by
  intro calls
  rcases safe (call :: calls) with ⟨_, _, areRead, notNegative⟩
  simp only [reads, isRead, Option.bind_some, Option.map_eq_some_iff, Prod.exists] at areRead
  rcases areRead with ⟨more, _, areRead, ⟨⟩⟩
  exact ⟨more, _, areRead, notNegative⟩

variable {dataLen : BitVec 64} {input : Bytes}

theorem Safe.isSmall {rest : Bytes} (safe : Safe { input := input })
    (isLength : readLength input = (some dataLen, rest)) : dataLen.toNat < 2 ^ 63 := by
  rcases safe [⟨0, 0⟩] with ⟨_, _, areRead, -⟩
  by_contra isLarge
  have isNegative : dataLen.toInt < 0 := by
    rw [BitVec.toInt_eq_toNat_cond, if_neg (by omega)]
    have := dataLen.isLt
    omega
  simp [reads, read, isLength, receive, cut, isNegative] at areRead

theorem Safe.areSmall (safe : Safe { input := input })
    (announces : Announces input dataLen) : dataLen.toNat < 2 ^ 63 := by
  induction announces with
  | here isLength => exact safe.isSmall isLength
  | @later input rest dataLen _ isLength announces induction =>
    have isInt := toInt_eq_toNat (safe.isSmall isLength)
    have isInside : dataLen.toNat < rest.length := by
      simpa using announces.ne_nil
    apply induction
    have isRead : read { input := input } ⟨dataLen.toNat, dataLen.toNat⟩ =
        some (rest.take dataLen.toNat, { input := rest.drop dataLen.toNat }) := by
      simp [read, isLength, receive, cut, isInt]
      omega
    exact safe.after isRead
  | @failed input rest _ isLength _ induction =>
    have isRead : read { input := input } ⟨0, 0⟩ = some ([], { input := rest }) := by
      simp [read, isLength]
    exact induction (safe.after isRead)

/-! ## Written streams -/

/-- A byte slice of Go: its length is an `int`. -/
abbrev Payload := { data : Bytes // data.length < 2 ^ 63 }

def sent (payloads : List Payload) : Bytes := payloads.flatMap fun payload => write payload.1

def contents (payloads : List Payload) : Bytes := payloads.flatMap Subtype.val

/-- However the stream is read, what is returned is the front of the data, and it
is all of it after enough calls that can read something. -/
def Transfers (conn : GunConn) (data : Bytes) : Prop :=
  ∀ calls, ∃ got after rest, conn.reads calls = some (got, after) ∧ 0 ≤ after.readRemaining ∧
    data = got ++ rest ∧
    ((∀ call ∈ calls, 0 < call.size ∧ 0 < call.chunk) → conn.input.length ≤ calls.length →
      rest = [])

def Carries (conn : GunConn) (data : Bytes) : Prop :=
  ∃ current payloads, conn = ⟨current ++ sent payloads, current.length⟩ ∧
    data = current ++ contents payloads

theorem readLength_write (payload : Payload) (rest : Bytes) :
    readLength (write payload.1 ++ rest) =
      (some (BitVec.ofNat 64 payload.1.length), payload.1 ++ rest) := by
  have isRead := decodes_readUvarint (Nat.lt_trans payload.2 (by decide)) (payload.1 ++ rest)
  have isRest : (write payload.1 ++ rest).drop 6 =
      putUvarint payload.1.length ++ (payload.1 ++ rest) := by
    simp [write, writeHeader, drop_append]
  rw [readLength, isRest, isRead, if_neg]
  simp [write, writeHeader]
  omega

theorem Carries.receive {current : Bytes} (payloads : List Payload) (call : Call) :
    ∃ data next rest, receive ⟨current ++ sent payloads, current.length⟩ call = some (data, next) ∧
      next.Carries rest ∧ current ++ contents payloads = data ++ rest ∧
      next.input.length ≤ (current ++ sent payloads).length ∧
      (0 < call.size → 0 < call.chunk → 0 < current.length →
        next.input.length < (current ++ sent payloads).length) := by
  let conn : GunConn := ⟨current ++ sent payloads, current.length⟩
  have notNegative : 0 ≤ conn.readRemaining := Int.natCast_nonneg _
  rcases exists_receive notNegative call with ⟨count, isBound, progresses, isReceived⟩
  have isBound : count ≤ current.length := isBound
  dsimp only [conn] at isReceived progresses
  rw [take_append_of_le_length isBound, drop_append_of_le_length isBound, length_take, min_eq_left
    isBound, ← Int.ofNat_sub isBound, ← length_drop] at isReceived
  refine ⟨_, _, _, isReceived, ⟨current.drop count, payloads, rfl, rfl⟩, ?_, ?_, ?_⟩
  · rw [← append_assoc, take_append_drop]
  · simp
  · simp
    omega

theorem Carries.read (carries : conn.Carries data) (call : Call) :
    ∃ got next rest, conn.read call = some (got, next) ∧ next.Carries rest ∧ data = got ++ rest ∧
      (0 < call.size → 0 < call.chunk → next.input.length < conn.input.length ∨ data = []) := by
  rcases carries with ⟨current, payloads, rfl, rfl⟩
  rw [GunConn.read]
  split
  · next hasMore =>
    rcases Carries.receive payloads call with ⟨got, next, rest, isRead, carries, isData, -, isLess⟩
    exact ⟨got, next, rest, isRead, carries, isData, fun size chunk =>
      .inl (isLess size chunk (by simpa using hasMore))⟩
  · next isOver =>
    have isNil : current = [] := by simpa using isOver
    subst isNil
    cases payloads with
    | nil => exact ⟨[], _, [], rfl, ⟨[], [], rfl, rfl⟩, rfl, fun _ _ => .inr rfl⟩
    | cons payload payloads =>
      have isLength := readLength_write payload (sent payloads)
      have isSmall : (BitVec.ofNat 64 payload.1.length).toNat = payload.1.length :=
        Bytes.toNat_of_lt (Nat.lt_trans payload.2 (by decide))
      have isInt := toInt_eq_toNat (isSmall ▸ payload.2)
      rcases @Carries.receive payload.1 payloads call with
        ⟨got, next, rest, isRead, carries, isData, isLess, -⟩
      simp only [nil_append, sent, flatMap_cons] at isLength isRead isLess ⊢
      rw [isLength]
      dsimp only
      rw [isInt, isSmall]
      refine ⟨got, next, rest, isRead, carries, isData, fun _ _ => .inl ?_⟩
      simp [write, writeHeader] at isLess ⊢
      omega

theorem Carries.transfers (carries : conn.Carries data) : conn.Transfers data := by
  intro calls
  induction calls generalizing conn data with
  | nil =>
    rcases carries with ⟨current, payloads, rfl, rfl⟩
    refine ⟨[], _, _, rfl, Int.natCast_nonneg _, rfl, fun _ enough => ?_⟩
    cases payloads with
    | nil => simpa [contents, sent] using enough
    | cons => simp [sent, write, writeHeader] at enough
  | cons call calls induction =>
    rcases carries.read call with ⟨got, next, rest, isRead, isNext, rfl, progresses⟩
    rcases induction isNext with ⟨more, after, left, areRead, notNegative, rfl, reaches⟩
    refine ⟨got ++ more, after, left, ?_, notNegative, ?_, fun arePositive enough => ?_⟩
    · simp [reads, isRead, areRead]
    · simp
    · rcases forall_mem_cons.mp arePositive with ⟨isPositive, arePositive⟩
      rcases progresses isPositive.1 isPositive.2 with isLess | isNil
      · exact reaches arePositive (by rw [length_cons] at enough; omega)
      · simp_all

/-- A stream can be read safely if and only if it announces no length that is
negative as a signed number, and a stream that was written returns what was written. -/
theorem read_safe_iff (input : Bytes) (payloads : List Payload) :
    (Safe { input := input } ↔ ∀ dataLen, Announces input dataLen → dataLen.toNat < 2 ^ 63) ∧
      Transfers { input := sent payloads } (contents payloads) := by
  refine ⟨⟨fun safe _ => safe.areSmall, fun areSmall => ?_⟩, Carries.transfers ?_⟩
  · exact Regular.safe ⟨Int.le_refl 0, fun announces => areSmall _ announces⟩
  · exact ⟨[], payloads, rfl, rfl⟩

/-- A frame of 2^63 bytes. -/
theorem read_panics : ¬Safe { input := [0, 0, 0, 0, 0, 10] ++ putUvarint (2 ^ 63) } := by
  intro safe
  rcases safe [⟨1, 1⟩] with ⟨_, _, areRead, -⟩
  cases areRead

end GunConn

end SingBox.V2RayGRPCLite
