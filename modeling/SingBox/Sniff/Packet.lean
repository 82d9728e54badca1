import SingBox.Sniff.Quic

/-! # Packet sniffers

The eight sniffers for packets, and `PeekPacket`, which runs a list of them
until one returns no error. A sniffer that returns no error is meant to have
recognised the packet. `DomainNameQuery` also returns no error for a message
that is no query, so it hides the packet from the sniffers after it.
-/

namespace SingBox.Sniff

open Checked Wire Decoder List

/-! ## The loop over the sniffers -/

/-- `E.Errors` of the library `sing`. -/
def joinErrors : List SniffError → Option SniffError
  | [] => none
  | [err] => some err
  | errs => some (.errors errs)

section

variable {m : Type → Type} [Monad m] {Context : Type}

/-- The loop of `PeekPacket`, with the errors of the sniffers so far. -/
def peekFrom (packet : Bytes) : List (Context → Bytes → m (Answer Context)) → List SniffError →
    Context → m (Answer Context)
  | [], sniffError, metadata => pure { err := joinErrors sniffError, metadata }
  | sniffer :: sniffers, sniffError, metadata => do
    let answer ← sniffer metadata packet
    match answer.err with
    | none => pure answer
    | some err => peekFrom packet sniffers (sniffError ++ [err]) answer.metadata

def peekPacket (sniffers : List (Context → Bytes → m (Answer Context))) (metadata : Context)
    (packet : Bytes) : m (Answer Context) :=
  peekFrom packet sniffers [] metadata

end

/-! ## Sniffers that look at a header -/

abbrev PacketSniffer := Metadata → Bytes → Sniffing (Answer Metadata)

def recognise (protocol : String) (check : Bytes → Checked SniffError Unit) : PacketSniffer :=
  fun metadata packet => do
    match ← attempt (check packet) with
    | .error err => .ok { err := some err, metadata }
    | .ok () => .ok { err := none, metadata := { metadata with protocol } }

def invalid : SniffError := .plain .invalid

variable (packet : Bytes)

def checkShortHeader : Checked SniffError Unit := do
  demand (packet.length ≠ 0) (.plain (.new "empty packet"))
  let first ← index packet 0
  demand (first &&& 0xc0 = 0x40) (.plain (.new "not a QUIC short header packet"))

def quicShortHeader : PacketSniffer := recognise "quic" checkShortHeader

def checkSTUN : Checked SniffError Unit := do
  demand (20 ≤ packet.length) invalid
  let magic ← slice packet 4 8
  demand (Bytes.ofBigEndian magic = 0x2112A442) invalid
  let length ← slice packet 2 4
  demand (20 + Bytes.ofBigEndian length ≤ packet.length) invalid

def stunMessage : PacketSniffer := recognise "stun" checkSTUN

/-- A round of the loop over the extensions. -/
def utpExtension (extension : BitVec 8) : Reader (BitVec 8 ⊕ Unit) :=
  if extension = 0 then pure (.inr ())
  else do
    let next ← readByte
    if 0x04 < next then throw .invalid
    else do
      let length ← readByte
      seek length.toNat
      pure (.inl next)

def utpRound (extension : BitVec 8) : FrameReader (BitVec 8 ⊕ Unit) :=
  reading (utpExtension extension)

def checkUTP : Checked SniffError Unit := do
  demand (20 ≤ packet.length) invalid
  let first ← index packet 0
  demand (first &&& 0x0F = 1 ∧ first >>> 4 ≤ 4) invalid
  let extension ← index packet 1
  let rest ← sliceFrom packet 20
  let _ ← (loop .unfinished utpRound extension).run rest
  .ok ()

def utp : PacketSniffer := recognise "bittorrent" checkUTP

def checkUDPTracker : Checked SniffError Unit := do
  demand (16 ≤ packet.length) invalid
  let protocolID ← slice packet 0 8
  demand (Bytes.ofBigEndian protocolID = 0x41727101980) invalid
  let connectFlag ← slice packet 8 12
  demand (Bytes.ofBigEndian connectFlag = 0) invalid

def udpTracker : PacketSniffer := recognise "bittorrent" checkUDPTracker

def checkDTLS : Checked SniffError Unit := do
  demand (13 ≤ packet.length) invalid
  let contentType ← index packet 0
  demand (contentType = 20 ∨ contentType = 21 ∨ contentType = 22 ∨ contentType = 23 ∨
    contentType = 25) invalid
  let versionMajor ← index packet 1
  demand (versionMajor = 0xfe) invalid
  let versionMinor ← index packet 2
  demand (versionMinor = 0xff ∨ versionMinor = 0xfd) invalid

def dtlsRecord : PacketSniffer := recognise "dtls" checkDTLS

/-- 16 seconds in units of 1/65536 second, which the source compares as floating
point numbers without rounding. -/
def maxRootDelay : Nat := 16 * 65536

def checkNTP : Checked SniffError Unit := do
  demand (48 ≤ packet.length) invalid
  let firstByte ← index packet 0
  demand ((firstByte >>> 6) &&& 0x03 ≤ 3) invalid
  demand ((firstByte >>> 3) &&& 0x07 = 3 ∨ (firstByte >>> 3) &&& 0x07 = 4) invalid
  demand (firstByte &&& 0x07 = 3) invalid
  let rootDelay ← slice packet 4 8
  let rootDispersion ← slice packet 8 12
  demand (Bytes.ofBigEndian rootDelay ≤ maxRootDelay) invalid
  demand (Bytes.ofBigEndian rootDispersion ≤ maxRootDelay) invalid

def ntp : PacketSniffer := recognise "ntp" checkNTP

/-! ## DNS queries -/

/-- What the sniffer reads of a DNS message: the QR flag and the number of
records in three sections. -/
structure DNSMessage where
  response : Bool
  question : Nat
  answer : Nat
  ns : Nat
  deriving DecidableEq

/-- `dns.Msg.Unpack`, which accepts a header without records whatever follows
it. -/
structure DNSLibrary where
  unpack : Bytes → Except Err DNSMessage
  unpack_header : ∀ (idHigh idLow flagsHigh flagsLow : BitVec 8) (rest : Bytes),
    unpack (idHigh :: idLow :: flagsHigh :: flagsLow :: (replicate 8 0 ++ rest)) =
      .ok { response := flagsHigh &&& 0x80 ≠ 0, question := 0, answer := 0, ns := 0 }

def DNSMessage.IsQuery (msg : DNSMessage) : Prop :=
  msg.response = false ∧ msg.question ≠ 0 ∧ msg.answer = 0 ∧ msg.ns = 0

instance (msg : DNSMessage) : Decidable msg.IsQuery :=
  inferInstanceAs (Decidable (_ ∧ _))

def domainNameQuery (library : DNSLibrary) : PacketSniffer := fun metadata packet =>
  match library.unpack packet with
  | .error err => .ok { err := some (.plain err), metadata }
  | .ok msg =>
    if msg.IsQuery then .ok { err := none, metadata := { metadata with protocol := "dns" } }
    else .ok { err := none, metadata }

/-! ## All sniffers -/

inductive Sniffer
  | domainNameQuery
  | quicClientHello
  | quicShortHeader
  | stunMessage
  | utp
  | udpTracker
  | dtlsRecord
  | ntp
  deriving DecidableEq

structure Libraries where
  dns : DNSLibrary
  keys : InitialKeys

def Sniffer.run (libraries : Libraries) (rounds : Nat) : Sniffer → PacketSniffer
  | .domainNameQuery => Sniff.domainNameQuery libraries.dns
  | .quicClientHello => Sniff.quicClientHello libraries.keys rounds
  | .quicShortHeader => Sniff.quicShortHeader
  | .stunMessage => Sniff.stunMessage
  | .utp => Sniff.utp
  | .udpTracker => Sniff.udpTracker
  | .dtlsRecord => Sniff.dtlsRecord
  | .ntp => Sniff.ntp

def defaultPacketSniffers : List Sniffer :=
  [.domainNameQuery, .quicClientHello, .quicShortHeader, .stunMessage, .utp, .udpTracker,
    .dtlsRecord, .ntp]

/-! ## Sniffers that look at a header return -/

theorem checkShortHeader_returns : (checkShortHeader packet).Returns := by
  refine .demand fun notEmpty => ?_
  rw [index_bind 0 (Nat.pos_of_ne_zero notEmpty)]
  exact returns_demand _ _

theorem checkSTUN_returns : (checkSTUN packet).Returns := by
  refine .demand fun isLong => ?_
  rw [slice_bind]
  refine .demand fun _ => ?_
  rw [slice_bind]
  exact returns_demand _ _

theorem checkUDPTracker_returns : (checkUDPTracker packet).Returns := by
  refine .demand fun isLong => ?_
  rw [slice_bind]
  refine .demand fun _ => ?_
  rw [slice_bind]
  exact returns_demand _ _

theorem checkDTLS_returns : (checkDTLS packet).Returns := by
  refine .demand fun isLong => ?_
  rw [index_bind 0]
  refine .demand fun _ => ?_
  rw [index_bind 0]
  refine .demand fun _ => ?_
  rw [index_bind 0]
  exact returns_demand _ _

theorem checkNTP_returns : (checkNTP packet).Returns := by
  refine .demand fun isLong => ?_
  rw [index_bind 0]
  refine .demand fun _ => .demand fun _ => .demand fun _ => ?_
  rw [slice_bind, slice_bind]
  exact .demand fun _ => returns_demand _ _

theorem progresses_utpRound : Progresses utpRound := by
  intro extension input next rest isOk
  have isOk := of_reading isOk
  rw [utpExtension] at isOk
  split at isOk
  · cases isOk
  have takes : (do
      let next ← readByte
      if 0x04 < next then throw .invalid
      else do
        let length ← readByte
        seek length.toNat
        pure (.inl next) : Reader (BitVec 8 ⊕ Unit)).Takes := by
    apply takes_readByte.bind
    intro next
    split
    · exact .throw _
    apply takes_readByte.shrinks.bind
    intro length
    apply Shrinks.bind
    · rintro input _ _ ⟨⟩
      rw [length_drop]
      omega
    · intro _
      exact .pure _
  exact takes isOk

theorem utpLoop_returns (extension : BitVec 8) (input : Bytes) :
    Returns ((loop .unfinished utpRound extension).run input) := by
  -- by the length of what is left to read
  induction isLength : input.length using Nat.strong_induction_on generalizing extension input with
  | _ length induction =>
    rw [run_loop progresses_utpRound]
    cases isRound : (utpRound extension).run input with
    | error =>
      rcases reading_returns isRound with ⟨err, rfl⟩
      exact returns_returned err
    | ok read =>
      rcases read with ⟨next | _, rest⟩
      · have isShorter := progresses_utpRound isRound
        exact induction rest.length (isLength ▸ isShorter) next rest rfl
      · exact returns_ok _

theorem checkUTP_returns : (checkUTP packet).Returns := by
  refine .demand fun isLong => ?_
  rw [index_bind 0]
  refine .demand fun _ => ?_
  rw [index_bind 0, sliceFrom_bind isLong]
  exact (utpLoop_returns _ _).bind fun _ _ => returns_ok _

/-! ## What a sniffer does to the protocol -/

def NotQuery (library : DNSLibrary) (packet : Bytes) : Prop :=
  ∃ msg, library.unpack packet = .ok msg ∧ ¬msg.IsQuery

/-- A sniffer that answers with an error and sets nothing. -/
def Sniffer.Rejects (libraries : Libraries) (rounds : Nat) (metadata : Metadata) (packet : Bytes)
    (sniffer : Sniffer) : Prop :=
  ∃ err, sniffer.run libraries rounds { metadata with protocol := "" } packet =
    .ok { err := some err, metadata := { metadata with protocol := "" } }

/-- The one sniffer that returns no error for a packet that it does not recognise. -/
def Sniffer.Silent (libraries : Libraries) (packet : Bytes) (sniffer : Sniffer) : Prop :=
  sniffer = .domainNameQuery ∧ NotQuery libraries.dns packet

/-- What a call does to the protocol, which no sniffer looks at. It is kept, and
only a silent call then returns no error; or the result is the same whatever it
was, and an answer has one, also if it returns an error. -/
inductive Outcome (metadata : Metadata) (silent : Prop)
    (run : Metadata → Sniffing (Answer Metadata)) : Prop
  | kept (err : Option SniffError) (isNone : err = none ↔ silent)
      (isRun : ∀ protocol, run { metadata with protocol } =
        .ok { err, metadata := { metadata with protocol } })
  | settled (notSilent : ¬silent) (result : Sniffing (Answer Metadata))
      (isSet : ∀ answer, result = .ok answer → answer.metadata.protocol ≠ "")
      (isRun : ∀ protocol, run { metadata with protocol } = result)

section

variable {libraries : Libraries} {rounds : Nat} {metadata : Metadata} {packet : Bytes}
  {sniffer : Sniffer} {answer : Answer Metadata} {sniffers : List Sniffer}

namespace Outcome

variable {silent other : Prop} {run next : Metadata → Sniffing (Answer Metadata)}

theorem congr (outcome : Outcome metadata silent run) (isSilent : other ↔ silent)
    (isSame : ∀ protocol, next { metadata with protocol } = run { metadata with protocol }) :
    Outcome metadata other next := by
  cases outcome with
  | kept err isNone isRun =>
    exact .kept err (isNone.trans isSilent.symm) fun protocol =>
      (isSame protocol).trans (isRun protocol)
  | settled notSilent result isSet isRun =>
    exact .settled (isSilent.not.mpr notSilent) result isSet fun protocol =>
      (isSame protocol).trans (isRun protocol)

/-- A protocol is not lost. -/
theorem protocol_ne (outcome : Outcome metadata silent run) (isSet : metadata.protocol ≠ "")
    (isOk : run metadata = .ok answer) : answer.metadata.protocol ≠ "" := by
  cases outcome with
  | kept _ _ isRun =>
    cases isOk.symm.trans (isRun metadata.protocol)
    exact isSet
  | settled _ _ settles isRun =>
    exact settles answer ((isRun metadata.protocol).symm.trans isOk)

end Outcome

theorem recognise_outcome {protocol : String} {check : Bytes → Checked SniffError Unit}
    (isOther : sniffer ≠ .domainNameQuery) (notEmpty : protocol ≠ "")
    (returns : (check packet).Returns) :
    Outcome metadata (sniffer.Silent libraries packet) (recognise protocol check · packet) := by
  have notSilent : ¬sniffer.Silent libraries packet := fun silent => isOther silent.1
  cases isCheck : check packet with
  | error fault =>
    rcases returns fault isCheck with ⟨err, rfl⟩
    refine .kept (some err) (by simp [notSilent]) fun _ => ?_
    rw [recognise, isCheck]
    rfl
  | ok =>
    refine .settled notSilent (.ok { err := none, metadata := { metadata with protocol } }) ?_
      fun _ => ?_
    · rintro _ ⟨⟩
      exact notEmpty
    · rw [recognise, isCheck]
      rfl

theorem domainNameQuery_outcome :
    Outcome metadata (Sniffer.domainNameQuery.Silent libraries packet)
      (domainNameQuery libraries.dns · packet) := by
  cases isUnpacked : libraries.dns.unpack packet with
  | error err =>
    refine .kept (some (.plain err)) (by simp [Sniffer.Silent, NotQuery, isUnpacked]) fun _ => ?_
    rw [domainNameQuery, isUnpacked]
  | ok msg =>
    have isSilent : Sniffer.domainNameQuery.Silent libraries packet ↔ ¬msg.IsQuery := by
      simp [Sniffer.Silent, NotQuery, isUnpacked]
    by_cases isQuery : msg.IsQuery
    · refine .settled (by simp [isSilent, isQuery])
        (.ok { err := none, metadata := { metadata with protocol := "dns" } }) ?_ fun _ => ?_
      · rintro _ ⟨⟩
        exact (by decide : "dns" ≠ "")
      · rw [domainNameQuery, isUnpacked]
        exact if_pos isQuery
    · refine .kept none (by simp [isSilent, isQuery]) fun _ => ?_
      rw [domainNameQuery, isUnpacked]
      exact if_neg isQuery

/-- The part of `QUICClientHello` after the frame loop. -/
def sniffCollected (rounds : Nat) (metadata : Metadata) :
    Except SniffError Collected → Sniffing (Answer Metadata)
  | .error err => .ok { err := some err, metadata }
  | .ok collected => sniffHello rounds metadata collected

theorem sniffHello_sets {collected : Collected}
    (isOk : sniffHello rounds metadata collected = .ok answer) :
    answer.metadata.protocol = "quic" := by
  rw [sniffHello] at isOk
  rcases bind_eq_ok isOk with ⟨_, _, isOk⟩
  rcases bind_eq_ok isOk with ⟨_ | _, _, isOk⟩
  · cases isOk
    rfl
  change (if metadata.client = "" then _ else _) = _ at isOk
  split at isOk
  · rcases bind_eq_ok isOk with ⟨_, _, ⟨⟩⟩
    rfl
  · cases isOk
    rfl

theorem quicClientHello_outcome :
    Outcome metadata (Sniffer.quicClientHello.Silent libraries packet)
      (quicClientHello libraries.keys rounds · packet) := by
  have notSilent : ¬Sniffer.quicClientHello.Silent libraries packet := by
    rintro ⟨⟨⟩, -⟩
  cases isOpened : openInitial libraries.keys packet with
  | error err =>
    refine .kept (some (.plain err)) (by simp [notSilent]) fun _ => ?_
    rw [quicClientHello, isOpened]
  | ok opened =>
    have isRun : ∀ protocol,
        quicClientHello libraries.keys rounds { metadata with protocol } packet =
          attempt (collectFrames opened.spare opened.decrypted) >>=
            sniffCollected rounds { metadata with protocol } := by
      intro protocol
      rewrite [quicClientHello, isOpened]
      rfl
    rcases isCollected : (attempt (collectFrames opened.spare opened.decrypted) :
        Sniffing (Except SniffError Collected)) with fault | err | collected
    · refine .settled notSilent (.error fault) (by rintro _ ⟨⟩) fun protocol => ?_
      rw [isRun, isCollected]
      rfl
    · refine .kept (some err) (by simp [notSilent]) fun protocol => ?_
      rw [isRun, isCollected]
      rfl
    · refine .settled notSilent (sniffHello rounds { metadata with protocol := "" } collected) ?_
        fun protocol => ?_
      · intro _ isOk
        rw [sniffHello_sets isOk]
        decide
      · rw [isRun, isCollected]
        rfl

variable (libraries rounds metadata packet) in
theorem sniffer_outcome (sniffer : Sniffer) :
    Outcome metadata (sniffer.Silent libraries packet) (sniffer.run libraries rounds · packet) := by
  cases sniffer with
  | domainNameQuery => exact domainNameQuery_outcome
  | quicClientHello => exact quicClientHello_outcome
  | quicShortHeader =>
    exact recognise_outcome (by decide) (by decide) (checkShortHeader_returns packet)
  | stunMessage => exact recognise_outcome (by decide) (by decide) (checkSTUN_returns packet)
  | utp => exact recognise_outcome (by decide) (by decide) (checkUTP_returns packet)
  | udpTracker => exact recognise_outcome (by decide) (by decide) (checkUDPTracker_returns packet)
  | dtlsRecord => exact recognise_outcome (by decide) (by decide) (checkDTLS_returns packet)
  | ntp => exact recognise_outcome (by decide) (by decide) (checkNTP_returns packet)

/-! ## A list of sniffers -/

theorem domainNameQuery_silent (notQuery : NotQuery libraries.dns packet) :
    Sniffer.domainNameQuery.run libraries rounds metadata packet =
      .ok { err := none, metadata } := by
  rcases notQuery with ⟨_, isUnpacked, isNone⟩
  rw [Sniffer.run, domainNameQuery, isUnpacked]
  exact if_neg isNone

/-- `DomainNameQuery` is given a message that is no query, and the sniffers
before it reject it. -/
def Masked (libraries : Libraries) (rounds : Nat) (metadata : Metadata) (packet : Bytes)
    (sniffers : List Sniffer) : Prop :=
  ∃ before after, sniffers = before ++ .domainNameQuery :: after ∧
    (∀ sniffer ∈ before, sniffer.Rejects libraries rounds metadata packet) ∧
    NotQuery libraries.dns packet

theorem masked_cons :
    Masked libraries rounds metadata packet (sniffer :: sniffers) ↔
      sniffer.Silent libraries packet ∨
        (sniffer.Rejects libraries rounds metadata packet ∧
          Masked libraries rounds metadata packet sniffers) := by
  constructor
  · rintro ⟨before, after, isSplit, areRejected, notQuery⟩
    cases before with
    | nil =>
      rcases cons.inj isSplit with ⟨isFirst, _⟩
      exact .inl ⟨isFirst, notQuery⟩
    | cons _ before =>
      rcases cons.inj isSplit with ⟨rfl, isRest⟩
      rcases forall_mem_cons.mp areRejected with ⟨isRejected, areRejected⟩
      exact .inr ⟨isRejected, before, after, isRest, areRejected, notQuery⟩
  · rintro (⟨rfl, notQuery⟩ | ⟨isRejected, before, after, rfl, areRejected, notQuery⟩)
    · refine ⟨[], sniffers, rfl, ?_, notQuery⟩
      nofun
    · exact ⟨sniffer :: before, after, rfl, forall_mem_cons.mpr ⟨isRejected, areRejected⟩, notQuery⟩

theorem joinErrors_eq_none_iff {errs : List SniffError} : joinErrors errs = none ↔ errs = [] := by
  rcases errs with _ | ⟨_, _ | ⟨_, _⟩⟩ <;> simp [joinErrors]

variable (libraries rounds metadata packet) in
theorem peekFrom_outcome (sniffers : List Sniffer) (sniffError : List SniffError) :
    Outcome metadata
      (Masked libraries rounds metadata packet sniffers ∨ sniffError = [] ∧ sniffers = [])
      (peekFrom packet (sniffers.map (Sniffer.run libraries rounds)) sniffError) := by
  induction sniffers generalizing sniffError metadata with
  | nil =>
    refine .kept (joinErrors sniffError) ?_ fun _ => rfl
    simp [joinErrors_eq_none_iff, Masked]
  | cons sniffer sniffers induction =>
    rcases sniffer_outcome libraries rounds metadata packet sniffer with
      ⟨_ | err, isNone, isRun⟩ | ⟨notSilent, result, isSet, isRun⟩
    · refine .kept none (iff_of_true rfl (.inl (masked_cons.mpr (.inl (isNone.mp rfl))))) ?_
      intro protocol
      rw [map_cons, peekFrom, isRun]
      rfl
    · refine (induction metadata (sniffError ++ [err])).congr ?_ fun protocol => ?_
      · have notSilent := isNone.not.mp (Option.some_ne_none err)
        have isRejected : sniffer.Rejects libraries rounds metadata packet := ⟨err, isRun ""⟩
        simp [masked_cons, notSilent, isRejected]
      · rw [map_cons, peekFrom, isRun]
        rfl
    · refine .settled ?_ (result >>= fun answer =>
        match answer.err with
        | none => pure answer
        | some err => peekFrom packet (sniffers.map (Sniffer.run libraries rounds))
            (sniffError ++ [err]) answer.metadata) ?_ fun protocol => ?_
      · rw [masked_cons]
        rintro ((silent | ⟨⟨err, isRejected⟩, -⟩) | ⟨-, ⟨⟩⟩)
        · exact notSilent silent
        · exact isSet _ ((isRun "").symm.trans isRejected) rfl
      · intro _ isOk
        rcases bind_eq_ok isOk with ⟨answer, isResult, isOk⟩
        have notEmpty := isSet answer isResult
        cases isErr : answer.err with
        | none =>
          rw [isErr] at isOk
          cases isOk
          exact notEmpty
        | some err =>
          rw [isErr] at isOk
          exact (induction _ (sniffError ++ [err])).protocol_ne notEmpty isOk
      · rw [map_cons, peekFrom, isRun]

end

/-- A call that returns no error has set the protocol, which it leaves behind
also if none was set before; and if a sniffer of the list would recognise the
packet, the call does not return without an error and a protocol. Both hold
exactly if there are sniffers and the packet is not hidden by
`DomainNameQuery`. -/
theorem peekPacket_recognised_iff (libraries : Libraries) (rounds : Nat)
    (sniffers : List Sniffer) (metadata : Metadata) (packet : Bytes) :
    ((∀ answer,
        peekPacket (sniffers.map (Sniffer.run libraries rounds)) metadata packet = .ok answer →
        answer.err = none →
        ∃ cleared, peekPacket (sniffers.map (Sniffer.run libraries rounds))
          { metadata with protocol := "" } packet = .ok cleared ∧ cleared.metadata.protocol ≠ "") ∧
      ∀ sniffer ∈ sniffers, ∀ alone,
        sniffer.run libraries rounds { metadata with protocol := "" } packet = .ok alone →
        alone.err = none → alone.metadata.protocol ≠ "" →
        ∀ answer,
          peekPacket (sniffers.map (Sniffer.run libraries rounds)) metadata packet = .ok answer →
          ¬(answer.err = none ∧ answer.metadata.protocol = "")) ↔
    sniffers ≠ [] ∧ ¬Masked libraries rounds metadata packet sniffers := by
  have outcome := peekFrom_outcome libraries rounds metadata packet sniffers []
  constructor
  · rintro ⟨isSet, -⟩
    rw [← not_or, or_comm]
    intro silent
    cases outcome with
    | kept _ isNone isPeek =>
      -- without a protocol at the start there is none in the end
      rcases isSet _ (isPeek metadata.protocol) (isNone.mpr (silent.imp_right fun isEmpty =>
        ⟨rfl, isEmpty⟩)) with ⟨_, isCleared, notEmpty⟩
      cases isCleared.symm.trans (isPeek "")
      exact notEmpty rfl
    | settled notSilent => exact notSilent (silent.imp_right fun isEmpty => ⟨rfl, isEmpty⟩)
  · rintro ⟨notEmpty, notMasked⟩
    cases outcome with
    | kept err isNone isPeek =>
      have isError : err ≠ none := fun isEmpty =>
        (isNone.mp isEmpty).elim notMasked fun empty => notEmpty empty.2
      have isPeek := isPeek metadata.protocol
      refine ⟨fun answer isOk isNone => ?_, fun _ _ _ _ _ _ answer isOk => ?_⟩
      · cases isOk.symm.trans isPeek
        exact absurd isNone isError
      · cases isOk.symm.trans isPeek
        exact fun isNone => isError isNone.1
    | settled _ result isSet isPeek =>
      refine ⟨fun answer isOk isNone => ?_, fun _ _ _ _ _ _ answer isOk => ?_⟩
      · have isResult : result = .ok answer := (isPeek metadata.protocol).symm.trans isOk
        exact ⟨answer, (isPeek "").trans isResult, isSet answer isResult⟩
      · have isResult : result = .ok answer := (isPeek metadata.protocol).symm.trans isOk
        exact fun isNone => isSet answer isResult isNone.2

/-- A DTLS record with the sequence number 0. -/
def firstRecord : Bytes := 22 :: 0xfe :: 0xfd :: 0 :: (replicate 8 0 ++ [1, 0])

/-- It is taken for a DNS response, and not recognised. -/
theorem firstRecord_masked :
    dtlsRecord {} firstRecord = .ok { err := none, metadata := { protocol := "dtls" } } ∧
      ∀ (libraries : Libraries) (rounds : Nat),
        peekPacket (defaultPacketSniffers.map (Sniffer.run libraries rounds)) {} firstRecord =
          .ok { err := none, metadata := {} } := by
  refine ⟨rfl, fun libraries rounds => ?_⟩
  have notQuery : NotQuery libraries.dns firstRecord :=
    ⟨_, libraries.dns.unpack_header 22 0xfe 0xfd 0 [1, 0], by decide⟩
  rw [peekPacket, defaultPacketSniffers, map_cons, peekFrom, domainNameQuery_silent notQuery]
  rfl

end SingBox.Sniff
