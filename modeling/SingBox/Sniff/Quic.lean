import SingBox.Sniff.QuicFrames

/-! # The QUIC sniffer

`QUICClientHello` after the frames of a packet are collected: the fragments are
joined with those of earlier packets, a TLS record is put together from them, and
the ClientHello in it is parsed. If that fails the fragments are kept for the
next packet.
-/

namespace SingBox.Sniff

open Checked List

/-- The fields of `InboundContext` that a packet sniffer reads and writes. -/
structure Metadata where
  protocol : String := ""
  sniffHost : Bytes := []
  client : String := ""
  sniffContext : Option (List CryptoFragment) := none
  deriving DecidableEq

/-- The error that a sniffer returns and the metadata it leaves behind. -/
structure Answer (Context : Type) where
  err : Option SniffError
  metadata : Context

abbrev Sniffing := Checked Empty

/-! ## Reassembly -/

/-- The sum is one of lengths of slices in memory. -/
def frameLen (fragments : List CryptoFragment) : Nat :=
  (fragments.map fun fragment => fragment.length.toNat).sum

/-- The `find` loop, with the buffer that it writes to. What does not fit into
the buffer is dropped. -/
def find (fragments : List CryptoFragment) (capacity : Nat) : Nat → Nat → Bytes → Sniffing Bytes
  | 0, _, _ => .error .unfinished
  | rounds + 1, index, buffer =>
    match fragments.find? fun fragment => fragment.offset.toNat == index with
    | none => .ok buffer
    | some fragment =>
      find fragments capacity rounds (fragment.offset.toNat + fragment.length.toNat)
        ((buffer ++ fragment.payload).take capacity)

def recordHeader (fragments : List CryptoFragment) : Bytes :=
  0x16 :: (Bytes.bigEndian 2 0x0303 ++ Bytes.bigEndian 2 (frameLen fragments))

def reassemble (rounds : Nat) (fragments : List CryptoFragment) : Sniffing Bytes :=
  find fragments (5 + frameLen fragments) rounds 0 (recordHeader fragments)

/-! ## The client -/

def isZero (types : List (BitVec 8)) : Bool := types.all (· == 0)

def isGrease (value : BitVec 16) : Bool := value &&& 0x0F0F == 0x0A0A

def isQUICGo (fingerprint : Ja3.ClientHello) : Bool :=
  fingerprint.ellipticCurves.contains 0x11EC || fingerprint.extensions.contains 0xFF01

/-- The two fingerprints of Safari. -/
def isSafari (fingerprint : Ja3.ClientHello) : Bool :=
  (fingerprint.versions.length == 2 && isGrease (fingerprint.versions.headD 0) &&
    fingerprint.ellipticCurves.length == 5 && isGrease (fingerprint.ellipticCurves.headD 0)) ||
  (fingerprint.cipherSuites == [0x1302] && fingerprint.ellipticCurves == [29] &&
    fingerprint.signatureAlgorithms == [0x0403])

def detectClient (types : List (BitVec 8)) (fingerprint : Ja3.ClientHello) : Sniffing String :=
  if types.length = 1 then .ok "firefox"
  else do
    let first ← index types 0
    let afterFirst ← sliceFrom types 1
    if first = 0x06 ∧ isZero afterFirst ∧ isSafari fingerprint then .ok "safari"
    else do
      let last ← index types (types.length - 1)
      if last = 0x06 ∧ isZero types.dropLast then .ok "quic-go"
      else if 1 < types.count 0x06 ∨ 0 < types.count 0x01 then
        .ok (if isQUICGo fingerprint then "quic-go" else "chromium")
      else .ok "unknown"

/-! ## The call -/

/-- After the frames of the packet are collected. -/
def sniffHello (rounds : Nat) (metadata : Metadata) (collected : Collected) :
    Sniffing (Answer Metadata) := do
  let fragments := collected.fragments ++ metadata.sniffContext.getD []
  let buffer ← reassemble rounds fragments
  match ← attempt (Ja3.compute rounds buffer) with
  | .error err =>
    .ok
      { err := some (.needMoreData err)
        metadata := { metadata with protocol := "quic", sniffContext := some fragments } }
  | .ok fingerprint => do
    let client ←
      if metadata.client = "" then detectClient collected.frameTypeList fingerprint
      else .ok metadata.client
    .ok
      { err := none
        metadata :=
          { protocol := "quic"
            sniffHost := fingerprint.serverName
            client
            sniffContext := none } }

def quicClientHello (keys : InitialKeys) (rounds : Nat) (metadata : Metadata) (packet : Bytes) :
    Sniffing (Answer Metadata) :=
  match openInitial keys packet with
  | .error err => .ok { err := some (.plain err), metadata }
  | .ok opened => do
    match ← attempt (collectFrames opened.spare opened.decrypted) with
    | .error err => .ok { err := some err, metadata }
    | .ok collected => sniffHello rounds metadata collected

/-! ## Memory safety of the frame loop -/

theorem collectFrames_panics {spare decrypted : Bytes}
    (tooLong : ¬CryptoFits spare.length decrypted) :
    collectFrames spare decrypted = .error .panicked := by
  simp only [CryptoFits, not_forall, Nat.not_le] at tooLong
  rcases tooLong with ⟨_, _, _, _, rfl, tooLong⟩
  rw [collectFrames_eq, frameLoop_frames, frameLoop_cons, readFrame_panics _ _ tooLong]
  rfl

theorem quicClientHello_panics {keys : InitialKeys} {packet : Bytes} {opened : Opened}
    (isOpened : openInitial keys packet = .ok opened)
    (tooLong : ¬CryptoFits opened.spare.length opened.decrypted) (rounds : Nat)
    (metadata : Metadata) : quicClientHello keys rounds metadata packet = .error .panicked := by
  rw [quicClientHello, isOpened]
  change (attempt (collectFrames opened.spare opened.decrypted) >>= fun _ => _) = _
  rw [collectFrames_panics tooLong]
  rfl

/-- The frame loop stays within the payload, which is what it does in a buffer
with no capacity behind it, exactly if no CRYPTO frame announces more than the
rest of the payload. A frame that announces more than the rest of the packet
crashes the call, whatever was sniffed before. -/
theorem frames_inside_iff {keys : InitialKeys} {packet : Bytes} {opened : Opened}
    (isOpened : openInitial keys packet = .ok opened) :
    ((collectFrames [] opened.decrypted).Returns ∧
        (collectFrames opened.spare opened.decrypted).Returns ↔
      CryptoFits 0 opened.decrypted) ∧
    (¬CryptoFits opened.spare.length opened.decrypted → ∀ rounds metadata,
      quicClientHello keys rounds metadata packet = .error .panicked) := by
  refine ⟨?_, quicClientHello_panics isOpened⟩
  rw [collectFrames_returns_iff, collectFrames_returns_iff]
  constructor
  · intro fits
    exact fits.1
  · intro fits
    refine ⟨fits, fun frames offset length rest isSplit => ?_⟩
    have isInside := fits frames offset length rest isSplit
    omega

def sampleKeys : InitialKeys where
  mask _ _ _ _ := 0
  decrypt _ _ _ data _ := some (data.map (· ^^^ 0x5a))
  decrypt_length isOpened := by
    cases isOpened
    exact Nat.le_of_eq (length_map _)

def samplePacket (payload : Bytes) : Bytes :=
  [0xc0, 0, 0, 0, 1, 1, 7, 0, 0, BitVec.ofNat 8 (1 + payload.length), 0] ++
    payload.map (· ^^^ 0x5a)

/-- A CRYPTO frame of one byte, a PING and padding. -/
def shortPayload : Bytes := [0x06, 0, 1, 5, 0x01] ++ replicate 15 0

theorem frames_inside_short :
    openInitial sampleKeys (samplePacket shortPayload) =
        .ok { decrypted := shortPayload, spare := [] } ∧
      (((collectFrames [] shortPayload).Returns ∧ (collectFrames [] shortPayload).Returns ↔
        CryptoFits 0 shortPayload) ∧
      (¬CryptoFits 0 shortPayload → ∀ rounds metadata,
        quicClientHello sampleKeys rounds metadata (samplePacket shortPayload) =
          .error .panicked)) := by
  have isOpened : openInitial sampleKeys (samplePacket shortPayload) =
      .ok { decrypted := shortPayload, spare := [] } := by decide +kernel
  exact ⟨isOpened, frames_inside_iff isOpened⟩

/-- A CRYPTO frame of 2^62-1 bytes. -/
def overlongPayload : Bytes := [0x06, 0] ++ replicate 8 0xff ++ replicate 9 0

theorem overlong_crashes :
    openInitial sampleKeys (samplePacket overlongPayload) =
        .ok { decrypted := overlongPayload, spare := [] } ∧
      ∀ rounds metadata,
        quicClientHello sampleKeys rounds metadata (samplePacket overlongPayload) =
          .error .panicked := by
  have isOpened : openInitial sampleKeys (samplePacket overlongPayload) =
      .ok { decrypted := overlongPayload, spare := [] } := by decide +kernel
  refine ⟨isOpened, quicClientHello_panics isOpened ?_⟩
  intro fits
  have isInside := fits [] ⟨0, [], rfl⟩ ⟨0xff, replicate 7 0xff, rfl⟩ (replicate 9 0) rfl
  revert isInside
  decide

/-! ## The reassembly loop -/

/-- Where the loop gets to. -/
inductive Reached (fragments : List CryptoFragment) : Nat → Prop
  | start : Reached fragments 0
  | next {index : Nat} {fragment : CryptoFragment} :
    Reached fragments index →
    fragments.find? (fun fragment => fragment.offset.toNat == index) = some fragment →
    Reached fragments (fragment.offset.toNat + fragment.length.toNat)

section

variable {fragments : List CryptoFragment} {capacity : Nat}

theorem find_of_none {index : Nat}
    (isNone : fragments.find? (fun fragment => fragment.offset.toNat == index) = none)
    (rounds : Nat) (buffer : Bytes) :
    find fragments capacity (rounds + 1) index buffer = .ok buffer := by
  rw [find, isNone]

section

variable {index : Nat} {fragment : CryptoFragment}
  (isSome : fragments.find? (fun fragment => fragment.offset.toNat == index) = some fragment)
include isSome

theorem find_of_some (rounds : Nat) (buffer : Bytes) :
    find fragments capacity (rounds + 1) index buffer =
      find fragments capacity rounds (fragment.offset.toNat + fragment.length.toNat)
        ((buffer ++ fragment.payload).take capacity) := by
  rw [find, isSome]

theorem offset_of_find : fragment.offset.toNat = index ∧ fragment ∈ fragments := by
  have isFound := find?_some isSome
  exact ⟨by simpa using isFound, mem_of_find?_eq_some isSome⟩

/-- At an empty fragment the loop goes round for ever. -/
theorem find_unfinished (isEmpty : fragment.length = 0) (rounds : Nat) (buffer : Bytes) :
    find fragments capacity rounds index buffer = .error .unfinished := by
  have isIndex : fragment.offset.toNat + fragment.length.toNat = index := by
    rw [(offset_of_find isSome).1, isEmpty]
    rfl
  induction rounds generalizing buffer with
  | zero => rfl
  | succ _ induction => rw [find_of_some isSome, isIndex, induction]

end

variable {index rounds : Nat}

theorem finished_of_reached (reached : Reached fragments index) {buffer : Bytes}
    (isFinished : find fragments capacity rounds 0 buffer ≠ .error .unfinished) :
    ∃ rounds buffer, find fragments capacity rounds index buffer ≠ .error .unfinished := by
  induction reached with
  | start => exact ⟨rounds, buffer, isFinished⟩
  | next _ isSome induction =>
    rcases induction with ⟨rounds, _, isFinished⟩
    cases rounds with
    | zero => exact absurd rfl isFinished
    | succ rounds =>
      rw [find_of_some isSome] at isFinished
      exact ⟨rounds, _, isFinished⟩

/-- Without empty fragments on its way the index grows, and every round uses up
a fragment that is not passed again. -/
theorem find_finished
    (noneEmpty : ∀ index fragment, Reached fragments index →
      fragments.find? (fun fragment => fragment.offset.toNat == index) = some fragment →
        fragment.length ≠ 0) (reached : Reached fragments index)
    (enough : (fragments.filter fun fragment => index ≤ fragment.offset.toNat).length < rounds)
    (buffer : Bytes) : ∃ result, find fragments capacity rounds index buffer = .ok result := by
  induction rounds generalizing index buffer with
  | zero => omega
  | succ rounds induction =>
    cases isFound : fragments.find? fun fragment => fragment.offset.toNat == index with
    | none => exact ⟨buffer, find_of_none isFound rounds buffer⟩
    | some fragment =>
      rw [find_of_some isFound]
      apply induction (reached.next isFound)
      have notEmpty := noneEmpty index fragment reached isFound
      have isPositive : 0 < fragment.length.toNat := by
        rw [Nat.pos_iff_ne_zero]
        intro isZero
        exact notEmpty (BitVec.eq_of_toNat_eq isZero)
      rcases offset_of_find isFound with ⟨isOffset, isMember⟩
      -- the fragment at the index is left behind
      have isNested : fragments.filter (fun other =>
          fragment.offset.toNat + fragment.length.toNat ≤ other.offset.toNat) =
            (fragments.filter fun other => index ≤ other.offset.toNat).filter fun other =>
              fragment.offset.toNat + fragment.length.toNat ≤ other.offset.toNat := by
        rw [filter_filter]
        congr 1
        funext other
        rw [← Bool.decide_and, decide_eq_decide]
        omega
      have isShorter : (fragments.filter fun other =>
          fragment.offset.toNat + fragment.length.toNat ≤ other.offset.toNat).length <
            (fragments.filter fun other => index ≤ other.offset.toNat).length := by
        rw [isNested, length_filter_lt_length_iff_exists]
        refine ⟨fragment, mem_filter.mpr ⟨isMember, ?_⟩, ?_⟩
        · simp [isOffset]
        · simp only [decide_eq_true_eq]
          omega
      omega

end

/-- The reassembly comes to an end exactly if the first fragment at every offset
that the loop gets to has data. -/
theorem reassemble_finished_iff (fragments : List CryptoFragment) :
    (∃ rounds, reassemble rounds fragments ≠ .error .unfinished) ↔
      ∀ index fragment, Reached fragments index →
        fragments.find? (fun fragment => fragment.offset.toNat == index) = some fragment →
          fragment.length ≠ 0 := by
  constructor
  · rintro ⟨_, isFinished⟩ _ fragment reached isFound isEmpty
    rcases finished_of_reached reached isFinished with ⟨others, buffer, isFinished⟩
    exact isFinished (find_unfinished isFound isEmpty others buffer)
  · intro noneEmpty
    refine ⟨fragments.length + 1, ?_⟩
    have isEnough := Nat.lt_succ_of_le (length_filter_le
      (fun fragment : CryptoFragment => 0 ≤ fragment.offset.toNat) fragments)
    rcases find_finished noneEmpty .start isEnough (recordHeader fragments) with
      ⟨result, isResult⟩
    rw [reassemble, isResult]
    simp

def emptyFrame : Bytes := [0x06, 0, 0] ++ replicate 16 0

theorem emptyFrame_never_returns :
    (∀ rounds, reassemble rounds [{ offset := 0, length := 0, payload := [] }] =
      .error .unfinished) ∧
    ∀ rounds, quicClientHello sampleKeys rounds {} (samplePacket emptyFrame) =
      .error .unfinished := by
  have isEndless : ∀ rounds, reassemble rounds [{ offset := 0, length := 0, payload := [] }] =
      .error .unfinished := by
    intro rounds
    exact find_unfinished rfl rfl rounds _
  have isOpened : openInitial sampleKeys (samplePacket emptyFrame) =
      .ok { decrypted := emptyFrame, spare := [] } := by decide +kernel
  have isCollected : collectFrames [] emptyFrame =
      .ok { frameTypeList := 0x06 :: replicate 16 0
            fragments := [{ offset := 0, length := 0, payload := [] }] } := rfl
  refine ⟨isEndless, fun rounds => ?_⟩
  rw [quicClientHello, isOpened]
  change (attempt (collectFrames [] emptyFrame) >>= fun _ => _) = _
  rw [isCollected]
  change (reassemble rounds [{ offset := 0, length := 0, payload := [] }] >>= fun _ => _) = _
  rw [isEndless]
  rfl

end SingBox.Sniff
