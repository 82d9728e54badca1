import SingBox.Foundation.Run
import Mathlib.Algebra.BigOperators.Group.Finset.Piecewise

/-! # Slots of one-shot UDP streams

Each `WriteTo` of a `oneShotPacketConn` takes a slot for a stream of its own and
hands it over to the map of connections. Whoever takes the entry out of the map
gives the slot back: the writer or the reader of the stream, its timer, or
`Close`. A stream is numbered by its `WriteTo`, and its connection is new.
-/

namespace SingBox.Ninja.OneShotPacketConn

open List Function Bool Finset

/-- Where `WriteTo` stands, and after it `readOnePacket`: `removing` is before
the lock of `removeConnection`, `releasing` before the receive from `streamSlots`. -/
inductive Position
  | idle | waiting | dialing | dialed | writing | reading | removing | releasing | ended
  deriving DecidableEq

/-- Whether the connection is in the map, or was taken out of it by the timer or
by `Close`, which have not yet received from `streamSlots`. -/
inductive Entry
  | absent | registered | expiring | closing
  deriving DecidableEq

structure Stream where
  position : Position := .idle
  entry : Entry := .absent
  deriving DecidableEq

/-- The steps of a stream. A call in between `succeeds` or `fails`; the read of a
packet is over either way. -/
inductive StreamAction
  | enter | acquire | giveUp | succeed | fail | register | remove | release
  | expire | releaseExpired | releaseClosed
  deriving DecidableEq

namespace StreamAction

/-- A send to `streamSlots`. -/
def takes (action : StreamAction) : Bool := action = .acquire

/-- A receive from `streamSlots`. -/
def gives (action : StreamAction) : Bool :=
  action = .release || action = .releaseExpired || action = .releaseClosed

end StreamAction

namespace Stream

variable (stream : Stream)

def next (closed : Bool) (action : StreamAction) : Option Stream :=
  match action, closed, stream.position, stream.entry with
  | .enter, true, .idle, _ => some { stream with position := .ended }
  | .enter, false, .idle, _ => some { stream with position := .waiting }
  | .acquire, _, .waiting, _ => some { stream with position := .dialing }
  | .giveUp, _, .waiting, _ => some { stream with position := .ended }
  | .fail, _, .dialing, _ => some { stream with position := .releasing }
  | .succeed, _, .dialing, _ => some { stream with position := .dialed }
  | .fail, _, .dialed, _ | .register, true, .dialed, _ =>
    some { stream with position := .releasing }
  | .register, false, .dialed, _ => some { position := .writing, entry := .registered }
  | .fail, _, .writing, _ => some { stream with position := .removing }
  | .succeed, _, .writing, _ => some { stream with position := .reading }
  | .succeed, _, .reading, _ => some { stream with position := .removing }
  | .remove, _, .removing, .registered => some { position := .releasing, entry := .absent }
  | .remove, _, .removing, _ | .release, _, .releasing, _ => some { stream with position := .ended }
  | .expire, _, _, .registered => some { stream with entry := .expiring }
  | .releaseExpired, _, _, .expiring | .releaseClosed, _, _, .closing =>
    some { stream with entry := .absent }
  | _, _, _, _ => none

/-- `Close` takes all connections out of the map. -/
def close : Stream :=
  if stream.entry = .registered then { stream with entry := .closing } else stream

/-- Between a send to `streamSlots` and the registration or the receive. -/
def acquired : Bool :=
  stream.position = .dialing || stream.position = .dialed

/-- Out of the map or never in it, and about to receive from `streamSlots`. -/
def releasing : Bool :=
  stream.position = .releasing || stream.entry = .expiring || stream.entry = .closing

def registered : Bool := stream.entry = .registered

def holds : Bool := stream.acquired || stream.releasing || stream.registered

/-- A connection is in the map only between its registration and its removal. -/
structure Sound (stream : Stream) : Prop where
  used : stream.entry ≠ .absent →
    stream.position ∉ [.idle, .waiting, .dialing, .dialed, .releasing]
  kept : stream.entry = .registered → stream.position ≠ .ended

/-- A step of a stream moves its slot as it sends and receives. -/
theorem next_sound {stream after : Stream} {closed : Bool} {action : StreamAction}
    (sound : stream.Sound) (isNext : stream.next closed action = some after) :
    after.Sound ∧
      after.holds.toNat + action.gives.toNat = stream.holds.toNat + action.takes.toNat := by
  rcases stream with ⟨position, entry⟩
  have used := sound.used
  have kept := sound.kept
  unfold next at isNext
  split at isNext <;> cases isNext <;> refine ⟨⟨?_, ?_⟩, ?_⟩ <;>
    simp_all [holds, acquired, releasing, registered, StreamAction.gives, StreamAction.takes]

theorem Sound.holds_once {stream : Stream} (sound : stream.Sound) (isHeld : stream.holds = true) :
    1 = ((if stream.registered then 1 else 0) + if stream.acquired then 1 else 0) +
      if stream.releasing then 1 else 0 := by
  have used := sound.used
  cases isEntry : stream.entry <;> cases isPosition : stream.position <;>
    simp_all [holds, acquired, releasing, registered]

theorem close_sound {stream : Stream} (sound : stream.Sound) :
    stream.close.Sound ∧ stream.close.holds = stream.holds := by
  have used := sound.used
  rw [close]
  split
  · refine ⟨⟨?_, ?_⟩, ?_⟩ <;> simp_all [holds, releasing, registered]
  · exact ⟨sound, rfl⟩

end Stream

def oneShotUDPMaxInFlight : Nat := 64

/-- The connection; `streamSlots` is the number of tokens in the channel. -/
structure Conn where
  streams : Nat → Stream := fun _ => {}
  streamSlots : Nat := 0
  closed : Bool := false

inductive Action
  | stream (id : Nat) (action : StreamAction)
  | close

/-- A step; a send to a full channel blocks, and so does a receive from an empty one. -/
def Conn.next (conn : Conn) : Action → Option Conn
  | .stream id action =>
    if action.takes && oneShotUDPMaxInFlight ≤ conn.streamSlots ||
        action.gives && conn.streamSlots = 0 then none
    else ((conn.streams id).next conn.closed action).map fun after =>
      { conn with
        streams := update conn.streams id after
        streamSlots := conn.streamSlots + action.takes.toNat - action.gives.toNat }
  | .close =>
    if conn.closed then some conn
    else some { conn with closed := true, streams := fun id => (conn.streams id).close }

abbrev Conn.Ran (actions : List Action) (conn : Conn) : Prop :=
  Run (fun conn action after => Conn.next conn action = some after) {} actions conn

def Conn.Counts (conn : Conn) (which : Stream → Bool) (count : Nat) : Prop :=
  ∃ ids : Finset Nat, (∀ id, id ∈ ids ↔ which (conn.streams id) = true) ∧ ids.card = count

def Action.takes (id : Nat) : Action → Bool
  | .stream other action => other = id && action.takes
  | .close => false

def Action.gives (id : Nat) : Action → Bool
  | .stream other action => other = id && action.gives
  | .close => false

/-- The slots are those of the streams, and each was taken and not yet given back. -/
structure Conn.Sound (actions : List Action) (conn : Conn) : Prop where
  streams : ∀ id, (conn.streams id).Sound
  slots : conn.Counts Stream.holds conn.streamSlots
  returned : ∀ id, actions.countP (Action.gives id) + (conn.streams id).holds.toNat =
    actions.countP (Action.takes id)

variable {actions : List Action}

theorem Conn.Sound.step {conn after : Conn} {action : Action} (sound : conn.Sound actions)
    (isNext : conn.next action = some after) :
    after.Sound (actions ++ [action]) := by
  rcases sound with ⟨streams, ⟨holders, areHolders, isCount⟩, returned⟩
  cases action with
  | close =>
    rw [next] at isNext
    split at isNext <;> cases isNext
    · exact ⟨streams, ⟨holders, areHolders, isCount⟩, by simpa⟩
    · refine ⟨fun id => (Stream.close_sound (streams id)).1, ⟨holders, fun id => ?_, isCount⟩,
        fun id => ?_⟩ <;>
        simp [(Stream.close_sound (streams id)).2, areHolders, returned, Action.gives, Action.takes]
  | stream id action =>
    simp only [next, Option.ite_none_left_eq_some, Option.map_eq_some_iff] at isNext
    rcases isNext with ⟨-, stream, isNext, rfl⟩
    rcases Stream.next_sound (streams id) isNext with ⟨isSound, moved⟩
    have held := areHolders id
    refine ⟨fun other => ?_, ⟨if stream.holds then insert id holders else holders.erase id,
      fun other => ?_, ?_⟩, fun other => ?_⟩
    · dsimp only
      rw [update_apply]
      split
      · exact isSound
      · exact streams other
    · have := areHolders other
      by_cases same : other = id <;> cases isHeld : stream.holds <;>
        simp_all
    · cases wasHeld : (conn.streams id).holds <;> cases isHeld : stream.holds <;>
        simp_all <;> omega
    · have before := returned other
      rw [countP_append, countP_append, countP_singleton, countP_singleton]
      by_cases same : id = other
      · subst same
        simp only [Action.gives, Action.takes, update_self, decide_true, Bool.true_and]
        cases gives : action.gives <;> cases takes : action.takes <;>
          simp only [gives, takes, toNat_false, toNat_true, if_true,
            Bool.false_eq_true, if_false] at moved ⊢ <;> omega
      · simpa [Action.gives, Action.takes, same, update_of_ne (Ne.symm same)] using before

/-- In every run the tokens are those of the entries and of the operations that have
sent one and not registered a connection, or taken a connection out of the map,
and not received it; a receive finds one, and each is received once. -/
theorem slots_conserved {actions : List Action} {conn : Conn} (run : conn.Ran actions) :
    (∃ entries acquired releasing, conn.Counts Stream.registered entries ∧
      conn.Counts Stream.acquired acquired ∧ conn.Counts Stream.releasing releasing ∧
      conn.streamSlots = entries + acquired + releasing) ∧
    (∀ id, (conn.streams id).releasing = true → 0 < conn.streamSlots) ∧
    (∀ id, actions.countP (Action.gives id) + (conn.streams id).holds.toNat =
      actions.countP (Action.takes id)) ∧
    ((∀ id, ((conn.streams id).position = .idle ∨ (conn.streams id).position = .ended) ∧
      (conn.streams id).releasing = false) → conn.streamSlots = 0) := by
  have sound : conn.Sound actions := by
    refine run.invariant (fun actions conn => conn.Sound actions) ?_
      fun sound isNext => sound.step isNext
    refine ⟨fun id => ⟨by simp, by simp⟩, ⟨∅, fun _ => ?_, rfl⟩, fun _ => rfl⟩
    simp [Stream.holds, Stream.acquired, Stream.releasing, Stream.registered]
  rcases sound with ⟨streams, ⟨holders, areHolders, isCount⟩, returned⟩
  refine ⟨?_, ?_, returned, ?_⟩
  · refine ⟨_, _, _, ⟨holders.filter fun id => (conn.streams id).registered, ?_, rfl⟩,
      ⟨holders.filter fun id => (conn.streams id).acquired, ?_, rfl⟩,
      ⟨holders.filter fun id => (conn.streams id).releasing, ?_, rfl⟩, ?_⟩
    case refine_4 =>
      rw [← isCount, card_eq_sum_ones, card_filter, card_filter,
        card_filter, ← sum_add_distrib, ← sum_add_distrib]
      exact sum_congr rfl fun id isHolder =>
        (streams id).holds_once ((areHolders id).mp isHolder)
    all_goals
      intro id
      rw [Finset.mem_filter, areHolders, Stream.holds]
      simp +contextual
  · intro id isReleasing
    rw [← isCount, card_pos]
    exact ⟨id, (areHolders id).mpr (by simp [Stream.holds, isReleasing])⟩
  · intro ended
    rw [← isCount, card_eq_zero, eq_empty_iff_forall_notMem]
    intro id isHolder
    have isHeld := (areHolders id).mp isHolder
    have used := (streams id).used
    have kept := (streams id).kept
    rcases ended id with ⟨isPosition | isPosition, notReleasing⟩ <;>
      simp_all [Stream.holds, Stream.acquired, Stream.registered]

def firstStream (actions : List StreamAction) : List Action := actions.map (.stream 0)

def opened : List StreamAction := [.enter, .acquire, .succeed, .register]

theorem slots_conserved_written :
    ∃ conn, Conn.Ran (firstStream opened) conn ∧
      (firstStream opened).countP (Action.gives 0) + (conn.streams 0).holds.toNat = 1 := by
  have run : Conn.Ran (firstStream opened) _ := Run.of_execute rfl
  exact ⟨_, run, (slots_conserved run).2.2.1 0⟩

/-- The timer has taken the connection out of the map, and the token is still there. -/
theorem slot_between :
    ∃ conn, Conn.Ran (firstStream (opened ++ [.succeed, .expire])) conn ∧
      conn.streamSlots = 1 ∧ ∀ id, (conn.streams id).registered = false ∧
        ((conn.streams id).position = .idle ∨ (conn.streams id).position = .reading) := by
  refine ⟨_, Run.of_execute rfl, rfl, fun id => ?_⟩
  cases id with
  | zero => decide
  | succ => exact ⟨rfl, .inl rfl⟩

end SingBox.Ninja.OneShotPacketConn
