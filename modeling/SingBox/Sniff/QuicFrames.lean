import SingBox.Sniff.QuicInitial

/-! # The frames of an Initial packet

The loop of `QUICClientHello` over the decrypted payload. It skips the frames it
knows, collects the fragments of CRYPTO frames and ends with the payload. The
length of a fragment is taken from the frame and not compared with what is left
of the payload.
-/

namespace SingBox.Sniff

open Wire Decoder List Varint

inductive SniffError
  | plain (err : Err)
  | needMoreData (cause : Ja3.ParseError)
  | errors (errors : List SniffError)

/-- `qCryptoFragment` -/
structure CryptoFragment where
  offset : BitVec 62
  length : BitVec 62
  payload : Bytes
  deriving DecidableEq

abbrev FrameReader := Decoder (BitVec 8) (Fault SniffError)

/-- A reader that fails is an error of the sniffer. -/
def reading {Value : Type} (reader : Reader Value) : FrameReader Value :=
  fun input => (reader.run input).mapError fun err => .returned (.plain err)

inductive FrameKind
  | padding
  | ping
  | ack
  | ack2
  | crypto
  | connectionClose
  | unknown
  deriving DecidableEq

def frameKind (frameType : BitVec 8) : FrameKind :=
  if frameType = 0x00 then .padding
  else if frameType = 0x01 then .ping
  else if frameType = 0x02 then .ack
  else if frameType = 0x03 then .ack2
  else if frameType = 0x06 then .crypto
  else if frameType = 0x1c then .connectionClose
  else .unknown

def skipUvarints : Nat → Reader Unit
  | 0 => pure ()
  | count + 1 => do
    let _ ← readUvarint
    skipUvarints count

def readAck (ecn : Bool) : Reader Unit := do
  -- Largest Acknowledged, ACK Delay
  skipUvarints 2
  let ackRangeCount ← readUvarint
  -- First ACK Range
  skipUvarints 1
  -- Gap and ACK Range Length of each range
  skipUvarints (2 * ackRangeCount.toNat)
  -- ECT0, ECT1 and ECN-CE Count
  skipUvarints (if ecn then 3 else 0)

/-- `Seek` from the current position, which may be set past the end. -/
def seek (count : Nat) : Reader Unit := fun left => .ok ((), left.drop count)

def readConnectionClose : Reader Unit := do
  -- Error Code, Frame Type
  skipUvarints 2
  let length ← readUvarint
  seek length.toNat

/-- `decrypted[index : index+length]` and the `Seek` after it. A slice may go up
to the capacity, which has `spare` behind the payload. -/
def takePayload (spare : Bytes) (length : Nat) : FrameReader Bytes := fun left =>
  if length ≤ left.length + spare.length then .ok ((left ++ spare).take length, left.drop length)
  else .error .panicked

def readCrypto (spare : Bytes) : FrameReader CryptoFragment := do
  let offset ← reading readUvarint
  let length ← reading readUvarint
  let payload ← takePayload spare length.toNat
  pure { offset, length, payload }

structure Collected where
  frameTypeList : List (BitVec 8) := []
  fragments : List CryptoFragment := []
  deriving DecidableEq

namespace Collected

def addType (collected : Collected) (frameType : BitVec 8) : Collected :=
  { collected with frameTypeList := collected.frameTypeList ++ [frameType] }

def addFragment (collected : Collected) (fragment : CryptoFragment) : Collected :=
  { collected with fragments := collected.fragments ++ [fragment] }

end Collected

/-- A frame after its type. -/
def readFrame (spare : Bytes) (collected : Collected) (frameType : BitVec 8) :
    FrameReader Collected :=
  match frameKind frameType with
  | .padding | .ping => pure (collected.addType frameType)
  | .ack => do
    reading (readAck false)
    pure (collected.addType frameType)
  | .ack2 => do
    reading (readAck true)
    pure (collected.addType frameType)
  | .crypto => do
    let fragment ← readCrypto spare
    pure ((collected.addType frameType).addFragment fragment)
  | .connectionClose => do
    reading readConnectionClose
    pure (collected.addType frameType)
  | .unknown => throw (.returned (.plain .invalid))

def frameRound (spare : Bytes) (collected : Collected) : FrameReader (Collected ⊕ Collected)
  | [] => .ok (.inr collected, [])
  | frameType :: rest => (Sum.inl <$> readFrame spare collected frameType).run rest

def collectFrames (spare decrypted : Bytes) : Checked SniffError Collected := do
  let (collected, _) ← (loop .unfinished (frameRound spare) {}).run decrypted
  .ok collected

/-! ## Frames as they are sent -/

inductive Frame
  | padding
  | ping
  | ack (ecn : Bool) (largest delay count first : Varint) (others : List Varint)
      (isCount : others.length = 2 * count.value.toNat + if ecn then 3 else 0)
  | crypto (offset length : Varint) (payload : Bytes)
      (isLength : payload.length = length.value.toNat)
  | connectionClose (code type length : Varint) (reason : Bytes)
      (isLength : reason.length = length.value.toNat)

namespace Frame

def frameType : Frame → BitVec 8
  | .padding => 0x00
  | .ping => 0x01
  | .ack false _ _ _ _ _ _ => 0x02
  | .ack true _ _ _ _ _ _ => 0x03
  | .crypto _ _ _ _ => 0x06
  | .connectionClose _ _ _ _ _ => 0x1c

def body : Frame → Bytes
  | .padding => []
  | .ping => []
  | .ack _ largest delay count first others _ =>
    [largest, delay].flatMap bytes ++ (count.bytes ++
      ([first].flatMap bytes ++ others.flatMap bytes))
  | .crypto offset length payload _ => offset.bytes ++ (length.bytes ++ payload)
  | .connectionClose code type length reason _ =>
    [code, type].flatMap bytes ++ (length.bytes ++ reason)

def bytes (frame : Frame) : Bytes := frame.frameType :: frame.body

def fragments : Frame → List CryptoFragment
  | .crypto offset length payload _ => [{ offset := offset.value, length := length.value, payload }]
  | _ => []

end Frame

def Collected.add (collected : Collected) (frame : Frame) : Collected :=
  { frameTypeList := collected.frameTypeList ++ [frame.frameType]
    fragments := collected.fragments ++ frame.fragments }

/-! ## One frame -/

variable {Value : Type} {count : Nat} {input rest spare : Bytes} {collected : Collected}
  {fault : Fault SniffError} {reader : Reader Value} {value : Value} {frameType : BitVec 8}

theorem of_reading (isOk : (reading reader).run input = .ok (value, rest)) :
    reader.run input = .ok (value, rest) := by
  have isOk : (reader.run input).mapError _ = .ok (value, rest) := isOk
  cases isRun : reader.run input with
  | error =>
    rw [isRun] at isOk
    cases isOk
  | ok =>
    rw [isRun] at isOk
    cases isOk
    rfl

theorem Decodes.reading {written : Bytes}
    (decodes : reader.Decodes written value) : (reading reader).Decodes written value := by
  intro rest
  change (reader.run (written ++ rest)).mapError _ = _
  rw [decodes]
  rfl

theorem Reads.reading {Written : Bytes → Value → Prop} (reads : reader.Reads Written) :
    (reading reader).Reads Written where
  decodes isWritten := Decodes.reading (reads.decodes isWritten)
  described isOk := reads.described (of_reading isOk)

theorem decodes_readUvarint (varint : Varint) : readUvarint.Decodes varint.bytes varint.value :=
  reads_readUvarint.decodes ⟨varint, rfl, rfl⟩

theorem reads_skipUvarints (count : Nat) :
    (skipUvarints count).Reads fun written _ =>
      ∃ varints : List Varint, varints.length = count ∧ written = varints.flatMap bytes where
  decodes := by
    rintro _ value ⟨varints, rfl, rfl⟩
    induction varints with
    | nil => exact .pure ()
    | cons varint varints induction =>
      rw [flatMap_cons]
      exact (decodes_readUvarint varint).bind induction
  described := by
    intro input _ _ isOk
    induction count generalizing input with
    | zero =>
      cases isOk
      exact ⟨[], rfl, [], rfl, rfl⟩
    | succ _ induction =>
      rcases reads_readUvarint.of_bind isOk with ⟨_, _, _, rfl, ⟨varint, rfl, _⟩, areOthers⟩
      rcases induction areOthers with ⟨_, rfl, varints, rfl, rfl⟩
      exact ⟨(varint :: varints).flatMap bytes, by simp, varint :: varints, rfl, rfl⟩

theorem decodes_skipUvarints {varints : List Varint} (isCount : varints.length = count) :
    (skipUvarints count).Decodes (varints.flatMap bytes) () :=
  (reads_skipUvarints count).decodes ⟨varints, isCount, rfl⟩

theorem decodes_seek {bytes : Bytes} (isCount : bytes.length = count) :
    (seek count).Decodes bytes () := by
  intro rest
  change Except.ok ((), (bytes ++ rest).drop count) = _
  rw [drop_left' isCount]

theorem decodes_takePayload (spare : Bytes) {payload : Bytes} {length : Nat}
    (isLength : payload.length = length) : (takePayload spare length).Decodes payload payload := by
  intro rest
  have inside : length ≤ (payload ++ rest).length + spare.length := by
    rw [length_append]
    omega
  change (if length ≤ (payload ++ rest).length + spare.length then _ else _) = _
  rw [if_pos inside, append_assoc, take_left' isLength, drop_left' isLength]

theorem reads_readAck (ecn : Bool) :
    (readAck ecn).Reads fun written _ => ∃ (largest delay count first : Varint)
      (others : List Varint), others.length = 2 * count.value.toNat + (if ecn then 3 else 0) ∧
        written = [largest, delay].flatMap bytes ++ (count.bytes ++
          ([first].flatMap bytes ++ others.flatMap bytes)) where
  decodes := by
    rintro written value ⟨largest, delay, count, first, others, isCount, rfl⟩
    have isSplit := take_append_drop (2 * count.value.toNat) others
    have areRanges : (others.take (2 * count.value.toNat)).length = 2 * count.value.toNat := by
      rw [length_take]
      omega
    have areCounts : (others.drop (2 * count.value.toNat)).length = if ecn then 3 else 0 := by
      rw [length_drop]
      omega
    have areTwo : [largest, delay].length = 2 := rfl
    have isOne : [first].length = 1 := rfl
    rw [← isSplit, flatMap_append]
    apply (decodes_skipUvarints areTwo).bind
    apply (decodes_readUvarint count).bind
    apply (decodes_skipUvarints isOne).bind
    apply (decodes_skipUvarints areRanges).bind
    exact decodes_skipUvarints areCounts
  described := by
    intro _ _ _ isOk
    rcases (reads_skipUvarints _).of_bind isOk with ⟨_, _, _, rfl, ⟨_, isTwo, rfl⟩, isRest⟩
    rcases reads_readUvarint.of_bind isRest with ⟨_, _, _, rfl, ⟨count, rfl, rfl⟩, afterCount⟩
    rcases (reads_skipUvarints _).of_bind afterCount with
      ⟨_, _, _, rfl, ⟨one, isOne, rfl⟩, afterFirst⟩
    rcases (reads_skipUvarints _).of_bind afterFirst with
      ⟨_, _, _, rfl, ⟨ranges, isRanges, rfl⟩, afterRanges⟩
    rcases (reads_skipUvarints _).described afterRanges with ⟨_, rfl, counts, isCounts, rfl⟩
    rcases length_eq_two.mp isTwo with ⟨largest, delay, rfl⟩
    rcases length_eq_one_iff.mp isOne with ⟨first, rfl⟩
    refine ⟨[largest, delay].flatMap bytes ++ (count.bytes ++
      ([first].flatMap bytes ++ (ranges ++ counts).flatMap bytes)), ?_,
        largest, delay, count, first, ranges ++ counts, ?_, rfl⟩
    · simp
    · rw [length_append, isRanges, isCounts]

theorem described_readConnectionClose {value : Unit}
    (isOk : readConnectionClose.run input = .ok (value, rest)) :
    rest = [] ∨ ∃ (code type length : Varint) (reason : Bytes),
      reason.length = length.value.toNat ∧
        input = ([code, type].flatMap bytes ++ (length.bytes ++ reason)) ++ rest := by
  rcases (reads_skipUvarints _).of_bind isOk with ⟨_, _, _, rfl, ⟨two, isTwo, rfl⟩, isRest⟩
  rcases reads_readUvarint.of_bind isRest with ⟨_, _, left, rfl, ⟨length, rfl, rfl⟩, isSeek⟩
  rcases length_eq_two.mp isTwo with ⟨code, type, rfl⟩
  cases isSeek
  by_cases inside : length.value.toNat ≤ left.length
  · refine .inr ⟨code, type, length, left.take length.value.toNat, ?_, ?_⟩
    · rw [length_take]
      omega
    · simp
  · exact .inl (drop_eq_nil_of_le (by omega))

theorem decodes_readFrame (spare : Bytes) (collected : Collected) (frame : Frame) :
    (readFrame spare collected frame.frameType).Decodes frame.body (collected.add frame) := by
  have isType : ∀ frame : Frame, frame.fragments = [] →
      collected.add frame = collected.addType frame.frameType := by
    intro frame isNone
    rw [Collected.add, isNone, append_nil]
    rfl
  cases frame with
  | ack ecn largest delay count first others isCount =>
    have isAck : (reading (readAck ecn)).Decodes
        (Frame.ack ecn largest delay count first others isCount).body () :=
      Decodes.reading ((reads_readAck ecn).decodes
        ⟨largest, delay, count, first, others, isCount, rfl⟩)
    rw [isType _ rfl]
    cases ecn with
    | false | true => exact isAck.bind_pure _
  | crypto offset length payload isLength =>
    have isFragment : (readCrypto spare).Decodes (offset.bytes ++ (length.bytes ++ payload))
        { offset := offset.value, length := length.value, payload } := by
      apply (Decodes.reading (decodes_readUvarint offset)).bind
      apply (Decodes.reading (decodes_readUvarint length)).bind
      exact (decodes_takePayload spare isLength).bind_pure _
    exact isFragment.bind_pure _
  | connectionClose code type length reason isLength =>
    have isClose : (reading readConnectionClose).Decodes
        ([code, type].flatMap bytes ++ (length.bytes ++ reason)) () := by
      have areTwo : [code, type].length = 2 := rfl
      apply Decodes.reading
      apply (decodes_skipUvarints areTwo).bind
      apply (decodes_readUvarint length).bind
      exact decodes_seek isLength
    rw [isType _ rfl]
    exact isClose.bind_pure _
  | _ =>
    rw [isType _ rfl]
    exact .pure _

theorem described_readFrame {next : Collected}
    (isOk : (readFrame spare collected frameType).run input = .ok (next, rest)) :
    rest = [] ∨ ∃ frame : Frame, frameType :: input = frame.bytes ++ rest := by
  rw [readFrame, frameKind] at isOk
  split_ifs at isOk with isPadding isPing isAck isAck2 isCrypto isClose
  · subst isPadding
    cases isOk
    exact .inr ⟨.padding, rfl⟩
  · subst isPing
    cases isOk
    exact .inr ⟨.ping, rfl⟩
  · subst isAck
    rcases (Reads.reading (reads_readAck false)).of_bind isOk with
      ⟨_, _, _, rfl, ⟨largest, delay, count, first, others, isCount, rfl⟩, ⟨⟩⟩
    exact .inr ⟨.ack false largest delay count first others isCount, rfl⟩
  · subst isAck2
    rcases (Reads.reading (reads_readAck true)).of_bind isOk with
      ⟨_, _, _, rfl, ⟨largest, delay, count, first, others, isCount, rfl⟩, ⟨⟩⟩
    exact .inr ⟨.ack true largest delay count first others isCount, rfl⟩
  · subst isCrypto
    rcases run_bind_eq_ok isOk with ⟨_, _, isRead, ⟨⟩⟩
    rcases (Reads.reading reads_readUvarint).of_bind isRead with
      ⟨_, _, _, rfl, ⟨offset, rfl, rfl⟩, isRead⟩
    rcases (Reads.reading reads_readUvarint).of_bind isRead with
      ⟨_, _, left, rfl, ⟨length, rfl, rfl⟩, isRead⟩
    rcases run_bind_eq_ok isRead with ⟨payload, _, isPayload, ⟨⟩⟩
    rw [StateT.run, takePayload] at isPayload
    split_ifs at isPayload
    cases isPayload
    by_cases inside : length.value.toNat ≤ left.length
    · have isTaken : (left.take length.value.toNat).length = length.value.toNat := by
        rw [length_take]
        omega
      refine .inr ⟨.crypto offset length (left.take length.value.toNat) isTaken, ?_⟩
      simp [Frame.bytes, Frame.frameType, Frame.body]
    · exact .inl (drop_eq_nil_of_le (by omega))
  · subst isClose
    rcases run_bind_eq_ok isOk with ⟨_, _, isRead, ⟨⟩⟩
    rcases described_readConnectionClose (of_reading isRead) with isEnd |
      ⟨code, type, length, reason, isLength, rfl⟩
    · exact .inl isEnd
    · exact .inr ⟨.connectionClose code type length reason isLength, rfl⟩
  · cases isOk

theorem reading_returns (isError : (reading reader).run input = .error fault) :
    ∃ err, fault = .returned err := by
  have isError : (reader.run input).mapError _ = .error fault := isError
  cases isRun : reader.run input with
  | error err =>
    rw [isRun] at isError
    cases isError
    exact ⟨.plain err, rfl⟩
  | ok =>
    rw [isRun] at isError
    cases isError

/-- Only a CRYPTO frame that is longer than the memory behind it panics. -/
theorem readFrame_faults
    (isError : (readFrame spare collected frameType).run input = .error fault) :
    (∃ err, fault = .returned err) ∨
      frameType = 0x06 ∧ ∃ (offset length : Varint) (left : Bytes),
        input = offset.bytes ++ (length.bytes ++ left) ∧
          left.length + spare.length < length.value.toNat := by
  have ofReading : ∀ {reader : Reader Unit} {next : Unit → FrameReader Collected},
      (∀ middle, ∃ result, (next ()).run middle = .ok result) →
      (reading reader >>= next).run input = .error fault → ∃ err, fault = .returned err := by
    intro reader next isPure isError
    rcases run_bind_eq_error isError with isError | ⟨_, middle, _, isError⟩
    · exact reading_returns isError
    rcases isPure middle with ⟨result, isResult⟩
    cases isResult.symm.trans isError
  rw [readFrame] at isError
  cases isKind : frameKind frameType with
  | padding | ping =>
    rw [isKind] at isError
    cases isError
  | crypto =>
    rw [isKind] at isError
    rcases run_bind_eq_error isError with isError | ⟨_, _, _, isError⟩
    · rcases run_bind_eq_error isError with isError | ⟨_, _, isOffset, isError⟩
      · exact .inl (reading_returns isError)
      rcases run_bind_eq_error isError with isError | ⟨_, left, isLength, isError⟩
      · exact .inl (reading_returns isError)
      rcases run_bind_eq_error isError with isSliceError | ⟨_, _, _, isEnd⟩
      · rcases reads_readUvarint.described (of_reading isOffset) with ⟨_, rfl, offset, rfl, rfl⟩
        rcases reads_readUvarint.described (of_reading isLength) with ⟨_, rfl, length, rfl, rfl⟩
        rw [StateT.run, takePayload] at isSliceError
        split_ifs at isSliceError with inside
        have isType : frameType = 0x06 := by
          rw [frameKind] at isKind
          split_ifs at isKind with _ _ _ _ isType
          exact isType
        exact .inr ⟨isType, offset, length, left, rfl, by omega⟩
      · cases isEnd
    · cases isError
  | unknown =>
    rw [isKind] at isError
    cases isError
    exact .inl ⟨_, rfl⟩
  | _ =>
    rw [isKind] at isError
    exact .inl (ofReading (fun _ => ⟨_, rfl⟩) isError)

theorem readFrame_panics (spare : Bytes) (collected : Collected) {offset length : Varint}
    {left : Bytes} (tooLong : left.length + spare.length < length.value.toNat) :
    (readFrame spare collected 0x06).run (offset.bytes ++ (length.bytes ++ left)) =
      .error .panicked := by
  have isSlice : (takePayload spare length.value.toNat).run left = .error .panicked :=
    if_neg (by omega)
  have isCrypto : (readCrypto spare).run (offset.bytes ++ (length.bytes ++ left)) =
      .error .panicked := by
    rw [readCrypto, (Decodes.reading (decodes_readUvarint offset)).run_bind,
      (Decodes.reading (decodes_readUvarint length)).run_bind, StateT.run_bind, isSlice]
    rfl
  change (StateT.run (readCrypto spare >>= fun fragment => _) _) = _
  rw [StateT.run_bind, isCrypto]
  rfl

/-! ## The loop -/

theorem progresses_frameRound (spare : Bytes) : Progresses (frameRound spare) := by
  intro collected input next rest isOk
  cases input with
  | nil => cases isOk
  | cons frameType input =>
    have isOk : (Sum.inl <$> readFrame spare collected frameType).run input =
        .ok (.inl next, rest) := isOk
    rw [map_eq_pure_bind] at isOk
    rcases run_bind_eq_ok isOk with ⟨_, _, isRead, ⟨⟩⟩
    rcases described_readFrame isRead with rfl | ⟨frame, isFrame⟩
    · exact Nat.succ_pos _
    · rw [isFrame, Frame.bytes, length_append, length_cons]
      omega

/-- The rest of the loop. -/
def frameLoop (spare : Bytes) (collected : Collected) (input : Bytes) :
    Checked SniffError (Collected × Bytes) :=
  (loop .unfinished (frameRound spare) collected).run input

theorem frameLoop_nil (spare : Bytes) (collected : Collected) :
    frameLoop spare collected [] = .ok (collected, []) := rfl

theorem frameLoop_cons (spare : Bytes) (collected : Collected) (frameType : BitVec 8)
    (input : Bytes) :
    frameLoop spare collected (frameType :: input) =
      (readFrame spare collected frameType).run input >>= fun read =>
        frameLoop spare read.1 read.2 := by
  have isRound : (frameRound spare collected).run (frameType :: input) =
      (Sum.inl <$> readFrame spare collected frameType).run input := rfl
  rw [frameLoop, run_loop (progresses_frameRound spare), isRound, StateT.run_map]
  cases (readFrame spare collected frameType).run input with
  | error fault | ok read => rfl

theorem frameLoop_frames (spare : Bytes) (collected : Collected) (frames : List Frame)
    (rest : Bytes) :
    frameLoop spare collected (frames.flatMap Frame.bytes ++ rest) =
      frameLoop spare (frames.foldl Collected.add collected) rest := by
  induction frames generalizing collected with
  | nil => rfl
  | cons _ _ induction =>
    rw [flatMap_cons, append_assoc, foldl_cons, ← induction, Frame.bytes, cons_append,
      frameLoop_cons, decodes_readFrame]
    rfl

theorem collectFrames_eq (spare decrypted : Bytes) :
    collectFrames spare decrypted =
      frameLoop spare {} decrypted >>= fun read => .ok read.1 := rfl

/-- Every CRYPTO frame that follows on whole frames leaves room for its data in
the rest of the payload and the given number of bytes. -/
def CryptoFits (room : Nat) (decrypted : Bytes) : Prop :=
  ∀ (frames : List Frame) (offset length : Varint) (rest : Bytes),
    decrypted = frames.flatMap Frame.bytes ++ (0x06 :: (offset.bytes ++ (length.bytes ++ rest))) →
      length.value.toNat ≤ rest.length + room

theorem frameLoop_returns_iff (spare : Bytes) (collected : Collected) (input : Bytes) :
    (frameLoop spare collected input).Returns ↔ CryptoFits spare.length input := by
  constructor
  · rintro returns frames offset length rest rfl
    by_contra tooLong
    rw [frameLoop_frames, frameLoop_cons, readFrame_panics _ _ (by omega)] at returns
    exact Checked.not_returns_panicked returns
  · intro fits
    -- by the length of what is left to read
    induction isLength : input.length using Nat.strong_induction_on
      generalizing collected input with
    | _ length induction =>
      cases input with
      | nil =>
        rw [frameLoop_nil]
        exact Checked.returns_ok _
      | cons frameType input =>
        rw [frameLoop_cons]
        cases isRead : (readFrame spare collected frameType).run input with
        | error fault =>
          rcases readFrame_faults isRead with ⟨err, rfl⟩ | ⟨rfl, offset, length, left, rfl, tooLong⟩
          · exact Checked.returns_returned err
          · have isInside := fits [] offset length left rfl
            omega
        | ok read =>
          rcases read with ⟨next, rest⟩
          rcases described_readFrame isRead with rfl | ⟨frame, isFrame⟩
          · exact Checked.returns_ok _
          apply induction rest.length _ next rest _ rfl
          · rw [← isLength, isFrame, Frame.bytes, length_append, length_cons]
            omega
          · intro frames offset length later isRest
            apply fits (frame :: frames) offset length later
            rw [isFrame, isRest, flatMap_cons, append_assoc]

theorem collectFrames_returns_iff (spare decrypted : Bytes) :
    (collectFrames spare decrypted).Returns ↔ CryptoFits spare.length decrypted := by
  rw [collectFrames_eq, Checked.returns_bind_ok_iff, frameLoop_returns_iff]

theorem collectFrames_frames (spare : Bytes) (frames : List Frame) :
    collectFrames spare (frames.flatMap Frame.bytes) =
      .ok { frameTypeList := frames.map Frame.frameType
            fragments := frames.flatMap Frame.fragments } := by
  have areAdded : ∀ collected : Collected, frames.foldl Collected.add collected =
      { frameTypeList := collected.frameTypeList ++ frames.map Frame.frameType
        fragments := collected.fragments ++ frames.flatMap Frame.fragments } := by
    induction frames with
    | nil => simp
    | cons _ frames induction =>
      intro _
      rw [foldl_cons, induction]
      simp [Collected.add]
  have isLoop := frameLoop_frames spare {} frames []
  rw [append_nil, frameLoop_nil, areAdded] at isLoop
  rw [collectFrames_eq, isLoop]
  rfl

end SingBox.Sniff
