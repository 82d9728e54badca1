import SingBox.TlsFragment.Write

/-! # What is written of the first packet

The pieces of a packet are written one by one or gathered in the buffer, each as it
is or as a record of its own. Together they are the packet again.
-/

namespace SingBox.TlsFragment

open Checked List Bytes

/-- The packet from `low` on, cut at the indexes. -/
def pieces (b : Bytes) : Nat → List Nat → List Bytes
  | low, [] => [b.drop low]
  | low, next :: indexes => (b.take next).drop low :: pieces b next indexes

def record (b payload : Bytes) : Bytes := b.take 3 ++ bigEndian 2 payload.length ++ payload

def Conn.piece (conn : Conn) (b payload : Bytes) : Bytes :=
  if conn.splitRecord then record b payload else payload

variable {publicSuffix : Bytes → Bytes} {draws : Nat → Nat} {conn : Conn} {b spare : Bytes}
  {indexes : List Nat} {serverName : ServerName}

theorem writePayload_silent (conn : Conn) (b payload : Bytes) (i : Nat) (buffer : Bytes)
    (sent : List Bytes) :
    ∃ after, writePayload conn .silent b i payload (buffer, sent) =
        .ok (after, if conn.splitPacket then sent ++ [conn.piece b payload] else sent) ∧
      (conn.splitPacket = false → conn.splitRecord = true →
        after = buffer ++ conn.piece b payload) := by
  rcases conn with ⟨splitPacket, splitRecord, -, -⟩
  cases splitPacket <;> cases splitRecord <;> refine ⟨_, rfl, ?_⟩ <;>
    simp [Conn.piece, record]

section

variable {low : Nat} (ascending : (low :: indexes).Pairwise (· < ·))
  (below : ∀ index ∈ low :: indexes, index < b.length)
include ascending below

theorem flatten_pieces :
    (pieces b low indexes).flatten = b.drop low ∧ ∀ piece ∈ pieces b low indexes, piece ≠ [] := by
  induction indexes generalizing low with
  | nil =>
    refine ⟨flatten_singleton, ?_⟩
    rw [pieces, forall_mem_singleton, ne_eq, drop_eq_nil_iff, Nat.not_le]
    exact below low mem_cons_self
  | cons next indexes induction =>
    rcases pairwise_cons.mp ascending with ⟨above, ascending⟩
    rw [forall_mem_cons] at below
    have isNext := above next mem_cons_self
    have isInside := below.2 next mem_cons_self
    rcases induction ascending below.2 with ⟨isRest, notEmpty⟩
    rw [pieces, flatten_cons, isRest, forall_mem_cons, ne_eq, drop_eq_nil_iff, length_take]
    refine ⟨?_, by omega, notEmpty⟩
    conv_rhs => rw [← take_append_drop next b]
    rw [drop_append_of_le_length]
    rw [length_take]
    omega

/-- All pieces are written, or all of them are in the buffer. -/
theorem writePieces_silent (conn : Conn) (spare : Bytes) (i : Nat) (buffer : Bytes)
    (sent : List Bytes) :
    ∃ last, writePieces conn .silent b spare i (some low) indexes (buffer, sent) =
        .ok (last, if conn.splitPacket then sent ++ (pieces b low indexes).map (conn.piece b)
          else sent) ∧
      (conn.splitPacket = false → conn.splitRecord = true →
        last = buffer ++ (pieces b low indexes).flatMap (conn.piece b)) := by
  induction indexes generalizing low i buffer sent with
  | nil =>
    have isInside := below low mem_cons_self
    rw [writePieces, payloadBetween, sliceFrom_bind isInside.le, pieces, map_singleton,
      flatMap_singleton]
    exact writePayload_silent ..
  | cons next indexes induction =>
    rcases pairwise_cons.mp ascending with ⟨above, ascending⟩
    rw [forall_mem_cons] at below
    have isNext := above next mem_cons_self
    have isInside := below.2 next mem_cons_self
    have isSlice : (slice (b ++ spare) low next : Checked Err Bytes) =
        .ok ((b.take next).drop low) := by
      rw [slice, if_pos, take_append_of_le_length isInside.le]
      rw [length_append]
      omega
    rcases writePayload_silent conn b ((b.take next).drop low) i buffer sent with
      ⟨after, isWritten, isAfter⟩
    rcases induction ascending below.2 (i + 1) after
      (if conn.splitPacket then sent ++ [conn.piece b ((b.take next).drop low)] else sent) with
      ⟨last, areWritten, isLast⟩
    refine ⟨last, ?_, ?_⟩
    · rw [writePieces, payloadBetween, isSlice, ok_bind, isWritten, ok_bind, areWritten, pieces]
      split <;> simp
    · intro notPacket isRecord
      rw [isLast notPacket isRecord, isAfter notPacket isRecord, pieces, flatMap_cons, append_assoc]

end

theorem joinedLength_split (text : Bytes) : joinedLength (split text) = text.length := by
  induction text with
  | nil => rfl
  | cons byte rest induction =>
    rw [split]
    split
    · rw [joinedLength_cons (split_ne_nil rest), induction, length_nil, length_cons]
      omega
    cases isSplit : split rest with
    | nil => exact absurd isSplit (split_ne_nil rest)
    | cons label labels =>
      rw [isSplit] at induction
      simp only [joinedLength, map_cons, sum_cons, length_cons] at induction ⊢
      omega

theorem joinedLength_usedLabels (publicSuffix : Bytes → Bytes) (name : Bytes) :
    joinedLength (usedLabels publicSuffix name) ≤ name.length := by
  rw [← joinedLength_split name, usedLabels]
  split
  · cases split name with
    | nil => exact Nat.le_refl _
    | cons first labels =>
      simp only [joinedLength, take_succ_cons, take_zero, map_cons, map_nil, sum_cons, sum_nil,
        length_cons, length_nil]
      omega
  · exact Nat.le_refl _

/-- Calls of `Write` one after another. The first one sets `firstPacketWritten`. -/
def writeAll (publicSuffix : Bytes → Bytes) (conn : Conn) (transport : Transport)
    (draws : Nat → Nat) : List (Bytes × Bytes) → List (Checked Err (Nat × List Bytes))
  | [] => []
  | (b, spare) :: later =>
    write publicSuffix conn transport draws b spare ::
      writeAll publicSuffix { conn with firstPacketWritten := true } transport draws later

theorem writeAll_later (isLater : conn.firstPacketWritten = true) (packets : List (Bytes × Bytes)) :
    writeAll publicSuffix conn .silent draws packets =
      packets.map fun packet => .ok (packet.1.length, [packet.1]) := by
  induction packets generalizing conn with
  | nil => rfl
  | cons _ _ induction =>
    rw [writeAll, write, isLater, if_pos rfl, induction rfl]
    rfl

/-- A hello whose list of server names has the host name `a.b` and a second entry
of another type, with the bytes `..`. -/
def twoNamesHello : Bytes :=
  [22, 3, 1, 0, 64, 1, 0, 0, 60, 3, 3] ++ replicate 32 0 ++
    [0, 0, 2, 0x13, 1, 1, 0, 0, 17, 0, 0, 0, 13, 0, 11, 0, 0, 3, 97, 46, 98, 1, 0, 2, 46, 46]

end SingBox.TlsFragment
