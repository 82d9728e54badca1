import Mathlib.Algebra.Order.BigOperators.Group.List
import SingBox.Sniff.HelloMessage
import SingBox.Sniff.Quic

/-! # A ClientHello in several packets

The fragments of a ClientHello may come in any order, in any number of packets
and more than once. Every call keeps the fragments it has seen, repetitions
included, and the record it builds announces the sum of all their lengths. So
the message is recognised only if the repetitions do not show in the 16 bits of
that sum.
-/

namespace SingBox.Ja3

open Checked List Bytes Nat

structure NamedHello where
  fields : HelloFields
  blocks : List Extension
  nameBlock : Extension
  small : (blocks.flatMap Extension.bytes).length < 2 ^ 16
  wellFormed : ∀ block ∈ blocks, block.WellFormed
  listFits : ∀ block ∈ blocks, block.ListFits
  named : blocks.filter (fun block => block.kind = .serverName) = [nameBlock]

namespace NamedHello

variable (hello : NamedHello)

def exs : Bytes :=
  bigEndian 2 (hello.blocks.flatMap Extension.bytes).length ++
    hello.blocks.flatMap Extension.bytes

def message : Bytes := hello.fields.handshake hello.exs

/-- The host name, after the lengths and the type in the block. -/
def serverName : Bytes := hello.nameBlock.body.drop 5

theorem exs_length : hello.exs.length = 2 + (hello.blocks.flatMap Extension.bytes).length := by
  rw [exs, length_append, bigEndian_length]

theorem body_small : (hello.fields.body hello.exs).length < 2 ^ 24 := by
  have isBody := hello.fields.body_length hello.exs
  have areSuites := hello.fields.suites_length hello.exs
  have areExtensions := hello.exs_length
  have isID := hello.fields.sessionID_small
  have areCiphers := hello.fields.cipherSuites_small
  have areMethods := hello.fields.compressionMethods_small
  have isSmall := hello.small
  omega

theorem foldl_sniAfter :
    hello.blocks.foldl (fun name block => block.sniAfter name) [] = hello.serverName := by
  have isLast : ∀ (blocks : List Extension) (before : Bytes),
      blocks.foldl (fun name block => block.sniAfter name) before =
        ((blocks.filter fun block => block.kind = .serverName).getLast?.map
          fun block => block.body.drop 5).getD before := by
    intro blocks _
    induction blocks using reverseRecOn with
    | nil => rfl
    | append_singleton _ last induction =>
      rw [foldl_append, foldl_cons, foldl_nil, induction, Extension.sniAfter, filter_append]
      by_cases isName : last.kind = .serverName
      · rw [if_pos isName]
        simp [isName]
      · rw [if_neg isName]
        simp [isName]
  rw [isLast, hello.named]
  rfl

end NamedHello

/-! ## The parser on parts of the message -/

variable {part rest : Bytes} {announced : Nat} {hello : NamedHello}

theorem parseFront_part {fields : HelloFields} {exs : Bytes}
    (small : (fields.body exs).length < 2 ^ 24) (isPart : part ++ rest = fields.handshake exs)
    (proper : rest ≠ []) : ∃ err, parseFront part = .error (.returned err) := by
  by_cases isLong : 39 ≤ part.length
  · rcases part with _ | ⟨first, _ | ⟨high, _ | ⟨middle, _ | ⟨low, tail⟩⟩⟩⟩
    case cons.cons.cons.cons =>
      have isMessage : first :: high :: middle :: low :: (tail ++ rest) =
          1 :: (bigEndian 3 (fields.body exs).length ++ fields.body exs) := isPart
      rcases cons.inj isMessage with ⟨rfl, isSplit⟩
      have isSplit : [high, middle, low] ++ (tail ++ rest) =
          bigEndian 3 (fields.body exs).length ++ fields.body exs := isSplit
      rcases append_inj isSplit (by simp) with ⟨isNumber, isBody⟩
      have isLength : ofBigEndian [high, middle, low] = (fields.body exs).length := by
        rw [isNumber, ofBigEndian_of_lt 3 small]
      have isShorter : tail.length ≠ ofBigEndian [high, middle, low] := by
        have isPositive := length_pos_iff.mpr proper
        rw [isLength, ← isBody, length_append]
        omega
      refine ⟨.length 4, ?_⟩
      rw [parseFront, demand_bind_of isLong]
      exact demand_bind_of_not isShorter
    all_goals
      simp at isLong
  · exact ⟨.length 3, demand_bind_of_not isLong⟩

theorem supported_tls12 : SupportedVersion 0x0303 := by decide

theorem compute_header (rounds announced : Nat) (rest : Bytes) :
    compute rounds (recordOf 0x0303 announced rest) =
      demand (announced % 2 ^ 16 ≤ rest.length) (.length 2) >>= fun _ =>
        parseHandshake rounds (rest.take (announced % 2 ^ 16)) := by
  have isNumber : bigEndian 2 (announced % 2 ^ 16) = bigEndian 2 announced :=
    bigEndian_mod 2 announced
  rw [compute, parseSegment, recordOf, ← isNumber, ← recordOf,
    parseRecord_header supported_tls12 (mod_lt announced (by decide)), bind_assoc]
  rfl

theorem compute_part (isPart : part ++ rest = hello.message)
    (isWrong : rest ≠ [] ∨ announced % 2 ^ 16 ≠ hello.message.length) :
    ∃ err, ∀ rounds, compute rounds (recordOf 0x0303 announced part) =
      .error (.returned err) := by
  by_cases inside : announced % 2 ^ 16 ≤ part.length
  · have isSplit : part.take (announced % 2 ^ 16) ++ (part.drop (announced % 2 ^ 16) ++ rest) =
        hello.message := by
      rw [← append_assoc, take_append_drop, isPart]
    have proper : part.drop (announced % 2 ^ 16) ++ rest ≠ [] := by
      intro isEmpty
      rcases append_eq_nil_iff.mp isEmpty with ⟨isDropped, rfl⟩
      rw [drop_eq_nil_iff] at isDropped
      rcases isWrong with isWrong | isWrong
      · exact isWrong rfl
      · rw [← isPart, append_nil] at isWrong
        omega
    rcases parseFront_part hello.body_small isSplit proper with ⟨err, isError⟩
    refine ⟨err, fun rounds => ?_⟩
    rw [compute_header, demand_bind_of inside, parseHandshake, isError]
    rfl
  · refine ⟨.length 2, fun rounds => ?_⟩
    rw [compute_header, demand_bind_of_not inside]

theorem compute_message (isRight : announced % 2 ^ 16 = hello.message.length) {rounds : Nat}
    (enough : hello.message.length < rounds) :
    ∃ fingerprint, compute rounds (recordOf 0x0303 announced hello.message) = .ok fingerprint ∧
      fingerprint.serverName = hello.serverName := by
  have isMessage := hello.fields.handshake_length hello.exs
  have isBody := hello.fields.body_length hello.exs
  have areSuites := hello.fields.suites_length hello.exs
  have areExtensions := hello.exs_length
  have isEnough : (hello.blocks.flatMap Extension.bytes).length < rounds := by
    rw [NamedHello.message] at enough
    omega
  rcases parseFront_handshake hello.fields hello.body_small with ⟨cipherSuites, isFront⟩
  rcases exists_extensionLoop_ok hello.small isEnough hello.wellFormed hello.listFits {} with
    ⟨found, isFound, isName⟩
  have areFound : parseExtensions rounds hello.exs = .ok found := by
    rw [NamedHello.exs, parseExtensions_blocks rounds (le_refl _) hello.small, isFound]
  refine ⟨clientHello ⟨hello.fields.version, cipherSuites, hello.exs⟩ found, ?_, ?_⟩
  · rw [compute_header, demand_bind_of, isRight, take_length, parseHandshake,
      NamedHello.message, isFront, ok_bind, areFound, ok_bind]
  · change found.sni = hello.serverName
    rw [isName]
    exact hello.foldl_sniAfter

end SingBox.Ja3

namespace SingBox.Sniff

open Checked Ja3 List Bytes

/-! ## Fragments of a message -/

def fragmentAt (offset : Nat) (piece : Bytes) : CryptoFragment :=
  { offset := BitVec.ofNat 62 offset, length := BitVec.ofNat 62 piece.length, payload := piece }

def cut : Nat → List Bytes → List CryptoFragment
  | _, [] => []
  | offset, piece :: pieces => fragmentAt offset piece :: cut (offset + piece.length) pieces

/-- The pieces from an offset on, up to the first that is missing. -/
def joined (fragments : List CryptoFragment) : Nat → List Bytes → Bytes
  | _, [] => []
  | offset, piece :: pieces =>
    if fragmentAt offset piece ∈ fragments then
      piece ++ joined fragments (offset + piece.length) pieces
    else []

theorem cut_append (offset : Nat) (before after : List Bytes) :
    cut offset (before ++ after) =
      cut offset before ++ cut (offset + before.flatten.length) after := by
  induction before generalizing offset with
  | nil => rfl
  | cons _ _ induction =>
    rw [cons_append, cut, induction, cut, cons_append, flatten_cons, length_append, add_assoc]

variable {offset : Nat}

theorem offset_fragmentAt (small : offset < 2 ^ 62) (piece : Bytes) :
    (fragmentAt offset piece).offset.toNat = offset :=
  toNat_of_lt small

theorem length_fragmentAt (offset : Nat) {piece : Bytes} (small : piece.length < 2 ^ 62) :
    (fragmentAt offset piece).length.toNat = piece.length :=
  toNat_of_lt small

variable {fragment : CryptoFragment}

theorem mem_cut {pieces : List Bytes} (bound : offset + pieces.flatten.length < 2 ^ 62)
    (member : fragment ∈ cut offset pieces) :
    offset ≤ fragment.offset.toNat ∧
      fragment.offset.toNat + fragment.payload.length ≤ offset + pieces.flatten.length ∧
      fragment.length.toNat = fragment.payload.length ∧ fragment.payload ∈ pieces := by
  induction pieces generalizing offset with
  | nil => cases member
  | cons piece pieces induction =>
    rw [flatten_cons, length_append] at bound ⊢
    rcases mem_cons.mp member with rfl | later
    · have isPayload : (fragmentAt offset piece).payload = piece := rfl
      rw [offset_fragmentAt (by omega), length_fragmentAt _ (by omega), isPayload]
      exact ⟨le_refl _, by omega, rfl, mem_cons_self⟩
    · have isLater := induction (by omega) later
      exact ⟨by omega, by omega, isLater.2.2.1, mem_cons_of_mem _ isLater.2.2.2⟩

section

variable {before pieces : List Bytes} {fragments : List CryptoFragment}

section

variable {piece : Bytes} (bound : (before ++ piece :: pieces).flatten.length < 2 ^ 62)
include bound

variable (nonempty : ∀ other ∈ before ++ piece :: pieces, other ≠ [])
include nonempty

theorem eq_fragmentAt (member : fragment ∈ cut 0 (before ++ piece :: pieces))
    (isOffset : fragment.offset.toNat = before.flatten.length) :
    fragment = fragmentAt before.flatten.length piece := by
  rw [flatten_append, flatten_cons, length_append, length_append] at bound
  rw [cut_append, zero_add, cut] at member
  rcases mem_append.mp member with earlier | others
  · have isEarlier := mem_cut (by omega) earlier
    have isPositive := length_pos_iff.mpr (nonempty _ (mem_append_left _ isEarlier.2.2.2))
    omega
  · rcases mem_cons.mp others with isThis | later
    · exact isThis
    have isLater := mem_cut (by omega) later
    have isPositive := length_pos_iff.mpr (nonempty piece (mem_append_right _ mem_cons_self))
    omega

theorem find?_eq_ite
    (members : ∀ fragment ∈ fragments, fragment ∈ cut 0 (before ++ piece :: pieces)) :
    fragments.find? (fun fragment => fragment.offset.toNat == before.flatten.length) =
      if fragmentAt before.flatten.length piece ∈ fragments then
        some (fragmentAt before.flatten.length piece)
      else none := by
  cases isFound : fragments.find?
      (fun fragment => fragment.offset.toNat == before.flatten.length) with
  | none =>
    have isOffset : (fragmentAt before.flatten.length piece).offset.toNat =
        before.flatten.length := by
      rw [flatten_append, length_append] at bound
      exact offset_fragmentAt (by omega) piece
    rw [if_neg]
    intro isThere
    have notThere := find?_eq_none.mp isFound _ isThere
    rw [isOffset] at notThere
    exact notThere (beq_self_eq_true _)
  | some _ =>
    rcases offset_of_find isFound with ⟨isFragment, isMember⟩
    have isThis := eq_fragmentAt bound nonempty (members _ isMember) isFragment
    rw [if_pos (isThis ▸ isMember), isThis]

end

theorem find_joined {capacity rounds : Nat} (bound : (before ++ pieces).flatten.length < 2 ^ 62)
    (nonempty : ∀ other ∈ before ++ pieces, other ≠ [])
    (members : ∀ fragment ∈ fragments, fragment ∈ cut 0 (before ++ pieces))
    (enough : pieces.length < rounds) {buffer : Bytes}
    (fits : buffer.length + (joined fragments before.flatten.length pieces).length ≤ capacity) :
    find fragments capacity rounds before.flatten.length buffer =
      .ok (buffer ++ joined fragments before.flatten.length pieces) := by
  induction pieces generalizing before rounds buffer with
  | nil =>
    rcases rounds with _ | rounds
    · omega
    rw [append_nil] at bound nonempty members
    rw [find_of_none, joined, append_nil]
    apply find?_eq_none.mpr
    intro fragment member
    have isMember := mem_cut (by omega) (members fragment member)
    have isPositive := length_pos_iff.mpr (nonempty _ isMember.2.2.2)
    simp only [beq_iff_eq]
    omega
  | cons piece pieces induction =>
    rcases rounds with _ | rounds
    · omega
    have isFound := find?_eq_ite bound nonempty members
    by_cases isThere : fragmentAt before.flatten.length piece ∈ fragments
    · rw [if_pos isThere] at isFound
      have isSplit : before ++ piece :: pieces = (before ++ [piece]) ++ pieces := by simp
      have isFlat : (before ++ [piece]).flatten.length =
          before.flatten.length + piece.length := by simp
      have isBound := bound
      rw [flatten_append, flatten_cons, length_append, length_append] at isBound
      rw [joined, if_pos isThere] at fits ⊢
      rw [length_append] at fits
      have isPayload : (fragmentAt before.flatten.length piece).payload = piece := rfl
      have isTaken : (buffer ++ piece).take capacity = buffer ++ piece := by
        apply take_of_length_le
        rw [length_append]
        omega
      rw [find_of_some isFound, offset_fragmentAt (by omega), length_fragmentAt _ (by omega),
        isPayload, isTaken, ← isFlat]
      rw [isSplit] at bound nonempty members
      rw [← isFlat] at fits
      have isEnough : pieces.length < rounds := by
        rw [length_cons] at enough
        omega
      have doesFit : (buffer ++ piece).length +
          (joined fragments (before ++ [piece]).flatten.length pieces).length ≤ capacity := by
        rw [length_append]
        omega
      rw [induction bound nonempty members isEnough doesFit, append_assoc]
    · rw [if_neg isThere] at isFound
      rw [find_of_none isFound, joined, if_neg isThere, append_nil]

theorem exists_rest (fragments : List CryptoFragment) (offset : Nat)
    (nonempty : ∀ piece ∈ pieces, piece ≠ []) :
    ∃ rest, joined fragments offset pieces ++ rest = pieces.flatten ∧
      (rest = [] ↔ ∀ fragment ∈ cut offset pieces, fragment ∈ fragments) := by
  induction pieces generalizing offset with
  | nil => exact ⟨[], rfl, by simp [cut]⟩
  | cons piece pieces induction =>
    rcases forall_mem_cons.mp nonempty with ⟨isPiece, arePieces⟩
    by_cases isThere : fragmentAt offset piece ∈ fragments
    · rcases induction (offset + piece.length) arePieces with ⟨rest, isJoined, isRest⟩
      refine ⟨rest, ?_, ?_⟩
      · rw [joined, if_pos isThere, append_assoc, isJoined, flatten_cons]
      · rw [isRest, cut, forall_mem_cons]
        exact ⟨fun later => ⟨isThere, later⟩, fun all => all.2⟩
    · refine ⟨(piece :: pieces).flatten, ?_, ?_⟩
      · rw [joined, if_neg isThere, nil_append]
      · rw [cut, forall_mem_cons, flatten_cons, append_eq_nil_iff]
        exact ⟨fun isEmpty => absurd isEmpty.1 isPiece, fun all => absurd all.1 isThere⟩

end

/-! ## Lengths -/

theorem frameLen_append (fragments others : List CryptoFragment) :
    frameLen (fragments ++ others) = frameLen fragments + frameLen others := by
  simp [frameLen]

theorem frameLen_le_of_sublist {some all : List CryptoFragment} (sublist : some.Sublist all) :
    frameLen some ≤ frameLen all :=
  (sublist.map _).sum_le_sum fun _ _ => Nat.zero_le _

variable {fragments : List CryptoFragment} {pieces : List Bytes}

theorem frameLen_filter_add_le {narrow wide : CryptoFragment → Bool}
    (implies : ∀ fragment, narrow fragment → wide fragment) (member : fragment ∈ fragments)
    (isWide : wide fragment = true) (notNarrow : narrow fragment = false) :
    frameLen (fragments.filter narrow) + fragment.length.toNat ≤
      frameLen (fragments.filter wide) := by
  rcases append_of_mem member with ⟨before, after, rfl⟩
  have earlier := frameLen_le_of_sublist (monotone_filter_right before implies)
  have later := frameLen_le_of_sublist (monotone_filter_right after implies)
  have isSingle : frameLen [fragment] = fragment.length.toNat := by simp [frameLen]
  rw [filter_append, filter_append, filter_cons_of_pos isWide,
    filter_cons_of_neg (by simp [notNarrow]), ← singleton_append, frameLen_append,
    frameLen_append, frameLen_append]
  omega

theorem length_joined_le (fragments : List CryptoFragment)
    (bound : offset + pieces.flatten.length < 2 ^ 62) (nonempty : ∀ piece ∈ pieces, piece ≠ []) :
    (joined fragments offset pieces).length ≤
      frameLen (fragments.filter fun fragment => offset ≤ fragment.offset.toNat) := by
  induction pieces generalizing offset with
  | nil => exact Nat.zero_le _
  | cons piece pieces induction =>
    rw [joined]
    split
    · next isThere =>
      rcases forall_mem_cons.mp nonempty with ⟨isPiece, arePieces⟩
      have isPositive := length_pos_iff.mpr isPiece
      rw [flatten_cons, length_append] at bound
      have later := induction (show offset + piece.length + pieces.flatten.length < 2 ^ 62 by
        omega) arePieces
      -- the first piece lies before the others
      have isOffset := offset_fragmentAt (show offset < 2 ^ 62 by omega) piece
      have isLonger : frameLen (fragments.filter fun fragment =>
          offset + piece.length ≤ fragment.offset.toNat) + _ ≤
            frameLen (fragments.filter fun fragment => offset ≤ fragment.offset.toNat) :=
        frameLen_filter_add_le (by simp; omega) isThere (by simp [isOffset])
          (by simp [isOffset, isPiece])
      rw [length_fragmentAt offset (by omega)] at isLonger
      rw [length_append]
      omega
    · exact Nat.zero_le _

theorem reassemble_joined {rounds : Nat}
    (bound : pieces.flatten.length < 2 ^ 62) (nonempty : ∀ piece ∈ pieces, piece ≠ [])
    (members : ∀ fragment ∈ fragments, fragment ∈ cut 0 pieces) (enough : pieces.length < rounds) :
    reassemble rounds fragments =
      .ok (recordOf 0x0303 (frameLen fragments) (joined fragments 0 pieces)) := by
  have isBound : 0 + pieces.flatten.length < 2 ^ 62 := by omega
  have isJoined := length_joined_le fragments isBound nonempty
  have isPart := frameLen_le_of_sublist (fragments.filter_sublist
    (p := fun fragment => decide (0 ≤ fragment.offset.toNat)))
  have isHeader : (recordHeader fragments).length = 5 := by simp [recordHeader]
  have doesFit : (recordHeader fragments).length + (joined fragments 0 pieces).length ≤
      5 + frameLen fragments := by omega
  have isStart : ([] ++ pieces).flatten.length < 2 ^ 62 := bound
  rw [reassemble]
  exact find_joined isStart nonempty members enough doesFit

/-! ## Calls for one packet after another -/

/-- Calls that hand on the metadata. -/
def sniffPackets (keys : InitialKeys) (rounds : Nat) :
    Metadata → List Bytes → Sniffing (List (Answer Metadata))
  | _, [] => .ok []
  | metadata, packet :: packets => do
    let answer ← quicClientHello keys rounds metadata packet
    let answers ← sniffPackets keys rounds answer.metadata packets
    .ok (answer :: answers)

/-- A packet that opens to frames, and has no fragments but those of the
message. -/
structure Carries (keys : InitialKeys) (pieces : List Bytes) (packet : Bytes)
    (frames : List Frame) : Prop where
  opens : ∃ spare, openInitial keys packet = .ok { decrypted := frames.flatMap Frame.bytes, spare }
  members : ∀ fragment ∈ frames.flatMap Frame.fragments, fragment ∈ cut 0 pieces

/-- The fragments in all packets, those of the last packet first. -/
def received (sent : List (List Frame)) : List CryptoFragment :=
  sent.reverse.flatMap fun frames => frames.flatMap Frame.fragments

theorem received_concat (sent : List (List Frame)) (frames : List Frame) :
    received (sent ++ [frames]) = frames.flatMap Frame.fragments ++ received sent := by
  simp [received]

section

variable {keys : InitialKeys} {hello : NamedHello} {pieces : List Bytes} {rounds : Nat}
variable {sent : List (List Frame)} {packet : Bytes} {frames : List Frame} {metadata : Metadata}
  {packets : List Bytes}

theorem quicClientHello_carries (carries : Carries keys pieces packet frames)
    (isSaved : metadata.sniffContext.getD [] = received sent) :
    quicClientHello keys rounds metadata packet =
      sniffHello rounds { metadata with sniffContext := some (received sent) }
        { frameTypeList := frames.map Frame.frameType
          fragments := frames.flatMap Frame.fragments } := by
  rcases carries.opens with ⟨spare, isOpened⟩
  rw [quicClientHello, isOpened]
  change (attempt (collectFrames spare (frames.flatMap Frame.bytes)) >>= fun _ => _) = _
  rw [collectFrames_frames]
  change sniffHello rounds metadata _ = _
  rw [sniffHello, sniffHello, isSaved]
  rfl

theorem detectClient_ok {types : List (BitVec 8)} (nonempty : types ≠ [])
    (fingerprint : Ja3.ClientHello) : ∃ client, detectClient types fingerprint = .ok client := by
  have isPositive := length_pos_iff.mpr nonempty
  rw [detectClient, index_bind 0 isPositive, sliceFrom_bind isPositive, index_bind 0]
  repeat' split
  all_goals exact ⟨_, rfl⟩

theorem length_pieces_le (nonempty : ∀ piece ∈ pieces, piece ≠ []) :
    pieces.length ≤ pieces.flatten.length := by
  induction pieces with
  | nil => exact le_refl _
  | cons piece pieces induction =>
    rcases forall_mem_cons.mp nonempty with ⟨isPiece, arePieces⟩
    have isPositive := length_pos_iff.mpr isPiece
    have later := induction arePieces
    rw [flatten_cons, length_append, length_cons]
    omega

theorem members_concat (members : ∀ fragment ∈ received sent, fragment ∈ cut 0 pieces)
    (carries : Carries keys pieces packet frames) :
    ∀ fragment ∈ received (sent ++ [frames]), fragment ∈ cut 0 pieces := by
  rw [received_concat]
  exact forall_mem_append.mpr ⟨carries.members, members⟩

theorem members_received (carries : List.Forall₂ (Carries keys pieces) packets sent) :
    ∀ fragment ∈ received sent, fragment ∈ cut 0 pieces := by
  induction carries with
  | nil => nofun
  | cons first _ induction =>
    rw [received, reverse_cons, flatMap_append, flatMap_singleton]
    exact forall_mem_append.mpr ⟨induction, first.members⟩

def named (fingerprint : Ja3.ClientHello) (client : String) : Answer Metadata where
  err := none
  metadata := { protocol := "quic", sniffHost := fingerprint.serverName, client }

section

variable (isMessage : pieces.flatten = hello.message)
variable (nonempty : ∀ piece ∈ pieces, piece ≠ []) (enough : hello.message.length < rounds)
include isMessage nonempty enough

section

variable (members : ∀ fragment ∈ received sent, fragment ∈ cut 0 pieces)
variable (carries : Carries keys pieces packet frames)
include members carries

theorem reassemble_received :
    reassemble rounds (frames.flatMap Frame.fragments ++ received sent) =
      .ok (recordOf 0x0303 (frameLen (received (sent ++ [frames])))
        (joined (received (sent ++ [frames])) 0 pieces)) := by
  have isSmall : pieces.flatten.length < 2 ^ 62 := by
    have isBody := hello.body_small
    rw [isMessage, NamedHello.message, hello.fields.handshake_length]
    omega
  have isEnough : pieces.length < rounds := by
    have isShort := length_pieces_le nonempty
    rw [isMessage] at isShort
    omega
  rw [← received_concat]
  exact reassemble_joined isSmall nonempty (members_concat members carries) isEnough

variable (isSaved : metadata.sniffContext.getD [] = received sent)
include isSaved

theorem quicClientHello_needsMore
    (isWrong : (∃ fragment ∈ cut 0 pieces, fragment ∉ received (sent ++ [frames])) ∨
      frameLen (received (sent ++ [frames])) % 2 ^ 16 ≠ hello.message.length) :
    ∃ answer, quicClientHello keys rounds metadata packet = .ok answer ∧
      (∃ cause, answer.err = some (.needMoreData cause)) ∧
      answer.metadata.sniffContext.getD [] = received (sent ++ [frames]) := by
  rcases exists_rest (received (sent ++ [frames])) 0 nonempty with ⟨rest, isJoined, isRest⟩
  rw [isMessage] at isJoined
  have isRejected : rest ≠ [] ∨
      frameLen (received (sent ++ [frames])) % 2 ^ 16 ≠ hello.message.length := by
    rcases isWrong with ⟨fragment, isPart, notThere⟩ | isWrong
    · exact .inl fun isEmpty => notThere (isRest.mp isEmpty fragment isPart)
    · exact .inr isWrong
  rcases compute_part isJoined isRejected with ⟨cause, isError⟩
  refine ⟨
    { err := some (.needMoreData cause)
      metadata :=
        { metadata with
          protocol := "quic", sniffContext := some (received (sent ++ [frames])) } },
    ?_, ⟨cause, rfl⟩, rfl⟩
  rw [quicClientHello_carries carries isSaved, sniffHello]
  change (reassemble rounds (frames.flatMap Frame.fragments ++ received sent) >>= fun _ => _) = _
  rw [reassemble_received isMessage nonempty enough members carries, ok_bind, isError,
    received_concat]
  rfl

theorem quicClientHello_named (notEmpty : frames ≠ [])
    (complete : ∀ fragment ∈ cut 0 pieces, fragment ∈ received (sent ++ [frames]))
    (isRight : frameLen (received (sent ++ [frames])) % 2 ^ 16 = hello.message.length) :
    ∃ answer, quicClientHello keys rounds metadata packet = .ok answer ∧ answer.err = none ∧
      answer.metadata.sniffHost = hello.serverName := by
  rcases exists_rest (received (sent ++ [frames])) 0 nonempty with ⟨_, isJoined, isRest⟩
  rw [isRest.mpr complete, append_nil, isMessage] at isJoined
  rcases compute_message isRight enough with ⟨fingerprint, isOk, isName⟩
  have isCalled : quicClientHello keys rounds metadata packet =
      if metadata.client = "" then
        detectClient (frames.map Frame.frameType) fingerprint >>= fun client =>
          .ok (named fingerprint client)
      else .ok (named fingerprint metadata.client) := by
    rw [quicClientHello_carries carries isSaved, sniffHello]
    change (reassemble rounds (frames.flatMap Frame.fragments ++ received sent) >>= fun _ => _) = _
    rw [reassemble_received isMessage nonempty enough members carries, ok_bind, isJoined, isOk]
    rfl
  rcases detectClient_ok (show frames.map Frame.frameType ≠ [] by simpa using notEmpty)
    fingerprint with ⟨client, isClient⟩
  rw [isClient] at isCalled
  by_cases isUnknown : metadata.client = ""
  · rw [if_pos isUnknown] at isCalled
    exact ⟨named fingerprint client, isCalled, rfl, isName⟩
  · rw [if_neg isUnknown] at isCalled
    exact ⟨named fingerprint metadata.client, isCalled, rfl, isName⟩

end

theorem sniffPackets_needMore {next : List (List Frame)}
    (carries : List.Forall₂ (Carries keys pieces) packets next)
    (members : ∀ fragment ∈ received sent, fragment ∈ cut 0 pieces)
    (isSaved : metadata.sniffContext.getD [] = received sent)
    (incomplete : ∃ fragment ∈ cut 0 pieces, fragment ∉ received (sent ++ next)) :
    ∃ answers after,
      (∀ answer ∈ answers, ∃ cause, answer.err = some (.needMoreData cause)) ∧
      after.sniffContext.getD [] = received (sent ++ next) ∧
      ∀ others, sniffPackets keys rounds metadata (packets ++ others) =
        sniffPackets keys rounds after others >>= fun later => .ok (answers ++ later) := by
  induction carries generalizing sent metadata with
  | nil =>
    refine ⟨[], metadata, by simp, by simpa using isSaved, fun others => ?_⟩
    cases isLater : sniffPackets keys rounds metadata others <;> simp [isLater] <;> rfl
  | @cons _ frames _ next carriesFirst _ induction =>
    have isSplit : sent ++ frames :: next = sent ++ [frames] ++ next := by simp
    rw [isSplit] at incomplete
    rcases incomplete with ⟨missing, isPart, notThere⟩
    have isMissing : missing ∉ received (sent ++ [frames]) := by
      intro isThere
      apply notThere
      rw [received, reverse_append, flatMap_append, mem_append]
      exact .inr isThere
    rcases quicClientHello_needsMore isMessage nonempty enough members carriesFirst isSaved
      (.inl ⟨missing, isPart, isMissing⟩) with ⟨answer, isCalled, needsMore, isKept⟩
    rcases induction (members_concat members carriesFirst) isKept ⟨missing, isPart, notThere⟩
      with ⟨answers, after, needMore, isAfter, isRun⟩
    refine ⟨answer :: answers, after, ?_, by rw [isSplit, isAfter], fun others => ?_⟩
    · rw [forall_mem_cons]
      exact ⟨needsMore, needMore⟩
    · rw [cons_append, sniffPackets, isCalled, ok_bind, isRun, bind_assoc]
      rfl

end

/-- The call that completes the message finds its name, and the calls before it
ask for more, exactly if the lengths of all fragments, with every repetition,
add up to the length of the message in 16 bits. -/
theorem sniffPackets_named_iff (isMessage : pieces.flatten = hello.message)
    (nonempty : ∀ piece ∈ pieces, piece ≠ []) (enough : hello.message.length < rounds)
    {packets : List Bytes} (areCarried : List.Forall₂ (Carries keys pieces) packets sent)
    (isCarried : Carries keys pieces packet frames) (fresh : metadata.sniffContext = none)
    (incomplete : ∃ fragment ∈ cut 0 pieces, fragment ∉ received sent)
    (complete : ∀ fragment ∈ cut 0 pieces, fragment ∈ received (sent ++ [frames])) :
    (∃ answers last,
      sniffPackets keys rounds metadata (packets ++ [packet]) = .ok (answers ++ [last]) ∧
      (∀ answer ∈ answers, ∃ cause, answer.err = some (.needMoreData cause)) ∧
      last.err = none ∧ last.metadata.sniffHost = hello.serverName) ↔
    frameLen (received (sent ++ [frames])) % 2 ^ 16 = hello.message.length := by
  have isSaved : metadata.sniffContext.getD [] = received [] := by
    rw [fresh]
    rfl
  have noMembers : ∀ fragment ∈ received [], fragment ∈ cut 0 pieces := by simp [received]
  rcases sniffPackets_needMore isMessage nonempty enough areCarried noMembers isSaved
    incomplete with ⟨answers, _, needMore, isAfter, isRun⟩
  have members := members_received areCarried
  constructor
  · rintro ⟨_, last, isOk, -, isDone, -⟩
    by_contra isWrong
    rcases quicClientHello_needsMore isMessage nonempty enough members isCarried isAfter
      (.inr isWrong) with ⟨_, isCalled, ⟨_, needsMore⟩, -⟩
    rw [isRun, sniffPackets, isCalled] at isOk
    have isOk := Except.ok.inj isOk
    have isLast := append_inj_right' isOk rfl
    rw [← singleton_inj.mp isLast, needsMore] at isDone
    cases isDone
  · intro isRight
    have notEmpty : frames ≠ [] := by
      rintro rfl
      rcases incomplete with ⟨missing, isPart, notThere⟩
      have isThere := complete missing isPart
      rw [received_concat] at isThere
      exact notThere isThere
    rcases quicClientHello_named isMessage nonempty enough members isCarried isAfter notEmpty
      complete isRight with ⟨last, isCalled, isDone, isName⟩
    refine ⟨answers, last, ?_, needMore, isDone, isName⟩
    rw [isRun, sniffPackets, isCalled]
    rfl

end

/-! ## A message that is sent twice -/

def nameExtension : Extension where
  exType := 0
  body := [0, 4, 0, 0, 1, 0x61]
  small := by decide

/-- A ClientHello of 54 bytes, for the host `a`. -/
def shortHello : NamedHello where
  fields :=
    { version := 0x0303
      random := replicate 32 0
      sessionID := []
      cipherSuites := []
      compressionMethods := []
      supported := supported_tls12
      random_length := rfl
      sessionID_small := by decide
      cipherSuites_small := by decide
      compressionMethods_small := by decide }
  blocks := [nameExtension]
  nameBlock := nameExtension
  small := by decide
  wellFormed := by
    intro block isBlock
    rw [mem_singleton.mp isBlock]
    exact ⟨by decide, by decide, by decide⟩
  listFits := by
    intro _ isBlock
    rw [mem_singleton.mp isBlock]
    trivial
  named := rfl

def wholeFrame : Frame := .crypto ⟨0, [], rfl⟩ ⟨54, [], rfl⟩ shortHello.message rfl

def firstHalf : Frame := .crypto ⟨0, [], rfl⟩ ⟨27, [], rfl⟩ (shortHello.message.take 27) rfl

def secondHalf : Frame := .crypto ⟨27, [], rfl⟩ ⟨27, [], rfl⟩ (shortHello.message.drop 27) rfl

theorem sniffPackets_named_whole :
    Carries sampleKeys [shortHello.message] (samplePacket wholeFrame.bytes) [wholeFrame] ∧
    ((∃ answers last,
      sniffPackets sampleKeys 55 {} ([] ++ [samplePacket wholeFrame.bytes]) =
        .ok (answers ++ [last]) ∧
      (∀ answer ∈ answers, ∃ cause, answer.err = some (.needMoreData cause)) ∧
      last.err = none ∧ last.metadata.sniffHost = shortHello.serverName) ↔
    frameLen (received ([] ++ [[wholeFrame]])) % 2 ^ 16 = shortHello.message.length) := by
  have isCarried : Carries sampleKeys [shortHello.message] (samplePacket wholeFrame.bytes)
      [wholeFrame] := by
    refine ⟨⟨[], by decide +kernel⟩, by decide +kernel⟩
  refine ⟨isCarried, sniffPackets_named_iff rfl (by decide +kernel) (by decide +kernel) .nil
    isCarried rfl (by decide +kernel) (by decide +kernel)⟩

/-- The first half is sent twice, and then the second: all calls ask for more. -/
theorem sniffPackets_twice :
    Carries sampleKeys [shortHello.message.take 27, shortHello.message.drop 27]
        (samplePacket firstHalf.bytes) [firstHalf] ∧
      Carries sampleKeys [shortHello.message.take 27, shortHello.message.drop 27]
        (samplePacket secondHalf.bytes) [secondHalf] ∧
      (∀ fragment ∈ cut 0 [shortHello.message.take 27, shortHello.message.drop 27],
        fragment ∈ received [[firstHalf], [firstHalf], [secondHalf]]) ∧
      (sniffPackets sampleKeys 55 {} [samplePacket firstHalf.bytes, samplePacket firstHalf.bytes,
        samplePacket secondHalf.bytes]).map (map fun answer => answer.err.isSome) =
          .ok [true, true, true] := by
  refine ⟨⟨⟨[], ?_⟩, ?_⟩, ⟨⟨[], ?_⟩, ?_⟩, ?_, ?_⟩
  all_goals decide +kernel

end SingBox.Sniff
