import SingBox.Routing.Stream

/-! # Packets

The packets that sniff actions have read are kept for the outbound. An action
that finds packets of earlier actions looks at them first. If they all need more
data it reads on, and returns them together with the new ones; the loop over the
rules adds both to the packets it has, so the earlier ones are there twice.
-/

namespace SingBox.Routing

open Adapter Sniff List

def packetsOf (reads : List PacketRead) : List PacketBuffer :=
  reads.filterMap fun
    | .packet destination data => some { data, destination }
    | _ => none

/-- A sniff action that reads with packets of earlier actions in its buffers:
all of them need more data. -/
def Router.Rereads (router : Router) (rule : Rule) (state : Matching) : Prop :=
  state.packetBuffers ≠ [] ∧ ∃ action, rule.sniffing state.metadata = some action ∧
    sniffs action state.metadata action.packetSniffers action.streamSniffers ∧
    (router.peekBuffered action state.metadata state.packetBuffers).2 = false

/-- No rule that the loop comes to is such an action. -/
def Router.NeverRereads (router : Router) : List Rule → Matching → Prop
  | [], _ => True
  | rule :: rules, state =>
    ¬router.Rereads rule state ∧
      match router.ruleStep rule state with
      | .next next => NeverRereads router rules next
      | _ => True

/-! ## One action -/

section

variable {router : Router}

theorem readPackets_packets (action : SniffAction) (metadata : Context)
    (packetBuffers : List PacketBuffer) (reads : List PacketRead) :
    ∃ read rest, reads = read ++ rest ∧
      (router.readPackets action metadata packetBuffers reads).input = .packets rest ∧
      (router.readPackets action metadata packetBuffers reads).packetBuffers =
        packetBuffers ++ packetsOf read ∧
      (router.readPackets action metadata packetBuffers reads).buffer = none := by
  induction reads generalizing metadata packetBuffers with
  | nil => exact ⟨[], [], rfl, rfl, (append_nil _).symm, rfl⟩
  | cons read reads induction =>
    cases read with
    | timeout => exact ⟨[.timeout], reads, rfl, rfl, (append_nil _).symm, rfl⟩
    | failed err => exact ⟨[.failed err], reads, rfl, rfl, (append_nil _).symm, rfl⟩
    | cancelled => exact ⟨[.cancelled], reads, rfl, rfl, (append_nil _).symm, rfl⟩
    | packet destination data =>
      rw [Router.readPackets]
      split
      · rcases induction (router.peek action metadata data)
          (packetBuffers ++ [⟨data, destination⟩]) with
          ⟨read, rest, isSplit, isInput, arePackets, isBuffer⟩
        refine ⟨.packet destination data :: read, rest, by rw [isSplit]; rfl, isInput, ?_,
          isBuffer⟩
        rw [arePackets, append_assoc]
        rfl
      · exact ⟨[.packet destination data], reads, rfl, rfl, rfl, rfl⟩

theorem ruleStep_packets {rule : Rule} {state : Matching} {reads : List PacketRead}
    (isInput : state.input = .packets reads) :
    ∃ read rest, reads = read ++ rest ∧
      (router.ruleStep rule state).state.input = .packets rest ∧
      (¬router.Rereads rule state → (router.ruleStep rule state).state.packetBuffers =
          state.packetBuffers ++ packetsOf read) ∧
      (router.Rereads rule state → (router.ruleStep rule state).state.packetBuffers =
          state.packetBuffers ++ (state.packetBuffers ++ packetsOf read)) := by
  cases isSniff : rule.sniffing state.metadata with
  | none =>
    rcases ruleStep_of_none isSniff with ⟨metadata, isStep⟩
    rw [isStep]
    refine ⟨[], reads, rfl, isInput, fun _ => (append_nil _).symm, ?_⟩
    rintro ⟨_, action, isSome, _⟩
    cases isSniff.symm.trans isSome
  | some action =>
    rw [ruleStep_of_some isSniff, Router.actionSniff, isInput]
    dsimp only
    split
    · next doesSniff =>
      rw [Router.sniffPackets]
      rcases isPeek : router.peekBuffered action state.metadata state.packetBuffers with
        ⟨next, _ | _⟩
      · -- all packets need more data
        rcases readPackets_packets action next state.packetBuffers reads with
          ⟨read, rest, isSplit, isRest, arePackets, isBuffer⟩
        have areAdded : (state.addBuffers (router.readPackets action next state.packetBuffers
            reads)).packetBuffers =
            state.packetBuffers ++ (state.packetBuffers ++ packetsOf read) := by
          rw [Matching.addBuffers, isBuffer, ← arePackets]
          rfl
        refine ⟨read, rest, isSplit, isRest, fun isFirst => ?_, fun _ => areAdded⟩
        have isEmpty : state.packetBuffers = [] := by
          by_contra notEmpty
          exact isFirst ⟨notEmpty, action, isSniff, doesSniff, by rw [isPeek]⟩
        rw [isEmpty, nil_append] at areAdded
        rw [isEmpty]
        exact areAdded
      · refine ⟨[], reads, rfl, rfl, fun _ => rfl, ?_⟩
        rintro ⟨_, given, isSome, _, isReading⟩
        cases isSniff.symm.trans isSome
        rw [isPeek] at isReading
        cases isReading
    · next noSniff =>
      refine ⟨[], reads, rfl, rfl, fun _ => rfl, ?_⟩
      rintro ⟨_, _, isSome, doesSniff, _⟩
      cases isSniff.symm.trans isSome
      exact absurd doesSniff noSniff

end

/-! ## All rules -/

def ExactlyRead (reads : List PacketRead) (state : Matching) : Prop :=
  ∃ read rest, reads = read ++ rest ∧ state.input = .packets rest ∧
    state.packetBuffers = packetsOf read

def TooMany (reads : List PacketRead) (state : Matching) : Prop :=
  ∃ read rest, reads = read ++ rest ∧ state.input = .packets rest ∧
    (packetsOf read).length < state.packetBuffers.length

theorem TooMany.not_exactlyRead {reads : List PacketRead} {state : Matching}
    (tooMany : TooMany reads state) : ¬ExactlyRead reads state := by
  rintro ⟨read, _, isSplit, isInput, arePackets⟩
  rcases tooMany with ⟨other, _, isOther, isLeft, isLonger⟩
  cases isInput.symm.trans isLeft
  have isSame : read = other := append_cancel_right (isSplit.symm.trans isOther)
  rw [arePackets, isSame] at isLonger
  exact Nat.lt_irrefl _ isLonger

section

variable {router : Router} {reads : List PacketRead}

theorem packetsOf_append (read later : List PacketRead) :
    packetsOf (read ++ later) = packetsOf read ++ packetsOf later :=
  filterMap_append

variable {rule : Rule} {state : Matching}

theorem ruleStep_exactlyRead (isExact : ExactlyRead reads state)
    (notAgain : ¬router.Rereads rule state) :
    ExactlyRead reads (router.ruleStep rule state).state := by
  rcases isExact with ⟨read, _, rfl, isInput, arePackets⟩
  rcases ruleStep_packets isInput with ⟨later, left, rfl, isLeft, isFirst, _⟩
  refine ⟨read ++ later, left, (append_assoc _ _ _).symm, isLeft, ?_⟩
  rw [isFirst notAgain, arePackets, packetsOf_append]

theorem ruleStep_rereads (isExact : ExactlyRead reads state)
    (again : router.Rereads rule state) : TooMany reads (router.ruleStep rule state).state := by
  rcases isExact with ⟨read, rest, rfl, isInput, arePackets⟩
  rcases ruleStep_packets isInput with ⟨later, left, rfl, isLeft, _, isAgain⟩
  refine ⟨read ++ later, left, (append_assoc _ _ _).symm, isLeft, ?_⟩
  have isPositive := length_pos_iff.mpr again.1
  rw [isAgain again, packetsOf_append, ← arePackets]
  simp only [length_append]
  omega

theorem ruleStep_tooMany (rule : Rule) (state : Matching) (tooMany : TooMany reads state) :
    TooMany reads (router.ruleStep rule state).state := by
  rcases tooMany with ⟨read, rest, rfl, isInput, isLonger⟩
  rcases ruleStep_packets isInput with ⟨later, left, rfl, isLeft, isFirst, isAgain⟩
  refine ⟨read ++ later, left, (append_assoc _ _ _).symm, isLeft, ?_⟩
  by_cases again : router.Rereads rule state
  · rw [isAgain again, packetsOf_append]
    simp only [length_append]
    omega
  · rw [isFirst again, packetsOf_append]
    simp only [length_append]
    omega

theorem matchRules_exactlyRead_iff {rules : List Rule} {index : Nat}
    (isExact : ExactlyRead reads state) :
    ExactlyRead reads (router.matchRules rules index state).state ↔
      router.NeverRereads rules state := by
  induction rules generalizing index state with
  | nil => exact ⟨fun _ => trivial, fun _ => isExact⟩
  | cons rule rules induction =>
    rw [Router.matchRules, Router.NeverRereads]
    by_cases again : router.Rereads rule state
    · have isTooMany := ruleStep_rereads isExact again
      have notExact : ¬ExactlyRead reads
          (router.matchRules (rule :: rules) index state).state := by
        apply TooMany.not_exactlyRead
        rw [Router.matchRules]
        cases isStep : router.ruleStep rule state with
        | next next =>
          rw [isStep] at isTooMany
          exact matchRules_invariant ruleStep_tooMany isTooMany
        | _ =>
          rw [isStep] at isTooMany
          exact isTooMany
      exact ⟨fun isExact => absurd isExact notExact, fun never => absurd again never.1⟩
    · have isNext := ruleStep_exactlyRead isExact again
      cases isStep : router.ruleStep rule state with
      | next =>
        rw [isStep] at isNext
        exact (induction isNext).trans ⟨fun never => ⟨again, never⟩, fun never => never.2⟩
      | _ =>
        rw [isStep] at isNext
        exact ⟨fun _ => ⟨again, trivial⟩, fun _ => isNext⟩

end

/-- The packets that `matchRule` returns are those it has read, once and in their
order, exactly if no sniff action reads on with packets in the buffers. -/
theorem matchRule_packets_iff (router : Router) (metadata : Context) (reads : List PacketRead) :
    (∃ read rest, reads = read ++ rest ∧
      (router.matchRule metadata (.packets reads)).state.input = .packets rest ∧
      (router.matchRule metadata (.packets reads)).state.packetBuffers = packetsOf read) ↔
    ∀ prepared, router.prepareMatchMetadata metadata = .ok prepared →
      router.NeverRereads router.rules { metadata := prepared, input := .packets reads } := by
  rw [Router.matchRule]
  cases isPrepared : router.prepareMatchMetadata metadata with
  | error =>
    refine ⟨fun _ prepared isOk => ?_, fun _ => ⟨[], reads, rfl, rfl, rfl⟩⟩
    cases isOk
  | ok prepared =>
    have isStart : ExactlyRead reads { metadata := prepared, input := .packets reads } :=
      ⟨[], reads, rfl, rfl, rfl⟩
    apply (matchRules_exactlyRead_iff isStart).trans
    constructor
    · rintro never _ ⟨⟩
      exact never
    · intro never
      exact never prepared rfl

/-- A sniffer that needs more data after the packet 1. -/
def needsSecond : AnySniffer := fun sniffed packet =>
  if packet = [1] then { err := some (.needMoreData (.length 2)), metadata := sniffed }
  else { err := none, metadata := { sniffed with protocol := "quic" } }

/-- A sniffer that fails, and then one for a message in two packets. -/
def sniffFragments : List Rule :=
  [{ accepts := fun _ => true
     action := .sniff { snifferNames := ["stun"], packetSniffers := [rejectAll] } },
   { accepts := fun _ => true
     action := .sniff { snifferNames := ["quic"], packetSniffers := [needsSecond] } }]

/-- Two packets arrive, and the first is there twice. -/
theorem sniffFragments_doubles :
    ((Router.sample sniffFragments).matchRule {}
        (.packets [.packet {} [1], .packet {} [2]])).state.input = .packets [] ∧
      ((Router.sample sniffFragments).matchRule {}
        (.packets [.packet {} [1], .packet {} [2]])).state.packetBuffers =
          [⟨[1], {}⟩, ⟨[1], {}⟩, ⟨[2], {}⟩] :=
  ⟨rfl, rfl⟩

end SingBox.Routing
