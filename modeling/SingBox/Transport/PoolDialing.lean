import SingBox.Transport.PoolSharing

/-! # Dials in single mode

A state in single mode tracks its shared connection and nothing else, and every
dial for it is the one that its `connecting` announces: there is at most one.
-/

namespace SingBox.Transport

open List PoolPosition

variable {Conn : Type}

/-! ## The slots of the states -/

/-- A state tracks its shared connection and nothing else, and shares nothing
while a dial is under way. -/
structure SharedSlot.Sound (slot : SharedSlot Conn) : Prop where
  all : slot.all = slot.shared.toList
  unclaimed : slot.shared = none → slot.claimed = false
  dialing : slot.connecting = true → slot.shared = none

structure Sharing.Sound (sharing : Sharing Conn) : Prop where
  formed : ∀ id, sharing.state = some id → id < sharing.nextState
  slots : ∀ id, (sharing.slots id).Sound

namespace Sharing

variable {sharing : Sharing Conn} {id other : Nat} {slot : SharedSlot Conn}

@[simp] theorem setSlot_self (slot : SharedSlot Conn) :
    (sharing.setSlot id slot).slots id = slot := by
  simp [setSlot]

theorem setSlot_other (slot : SharedSlot Conn) (isOther : other ≠ id) :
    (sharing.setSlot id slot).slots other = sharing.slots other := by
  simp [setSlot, isOther]

variable (isSound : sharing.Sound)
include isSound

theorem Sound.setSlot (isNew : slot.Sound) :
    (sharing.setSlot id slot).Sound := by
  refine ⟨isSound.formed, ?_⟩
  intro other
  by_cases same : other = id
  · rwa [same, setSlot_self]
  · rw [setSlot_other slot same]
    exact isSound.slots other

theorem Sound.without [DecidableEq Conn] (conn : Conn) :
    (sharing.without id conn).Sound := by
  have isSlot := isSound.slots id
  rw [Sharing.without]
  split
  · next isShared =>
    refine ⟨?_, fun _ => rfl, fun _ => rfl⟩
    simp [isSlot.all, isShared]
  · next notShared =>
    refine ⟨?_, isSlot.unclaimed, isSlot.dialing⟩
    have notMember : ∀ member ∈ (sharing.slots id).shared.toList, member ≠ conn := by
      rintro _ isMember rfl
      exact notShared (Option.mem_toList.mp isMember)
    simpa [isSlot.all] using notMember

theorem Sound.settled [DecidableEq Conn] (isDialing : (sharing.slots id).connecting = true)
    (installed : Option Conn) :
    SharedSlot.Sound
      { sharing.slots id with
        connecting := false
        shared := installed.or (sharing.slots id).shared
        all := installed.elim (sharing.slots id).all (sharing.slots id).all.insert } := by
  have isSlot := isSound.slots id
  have notShared := isSlot.dialing isDialing
  refine ⟨?_, fun _ => isSlot.unclaimed notShared, nofun⟩
  cases installed with
  | none => simp [isSlot.all]
  | some => simp [isSlot.all, notShared]

end Sharing

theorem Shares.sound [DecidableEq Conn] {sharing after : Sharing Conn}
    {position next : PoolPosition Conn} (shares : Shares sharing position after next)
    (isSound : sharing.Sound)
    (isDialing : ∀ id, position.dials = some id → (sharing.slots id).connecting = true) :
    after.Sound := by
  cases shares with
  | keep sameSlots _ _ sameNext sameState =>
    refine ⟨?_, fun id => sameSlots ▸ isSound.slots id⟩
    intro id isCurrent
    rcases sameState with sameState | isClosed
    · exact sameNext ▸ isSound.formed id (sameState ▸ isCurrent)
    · cases isClosed.symm.trans isCurrent
  | dial conn same => subst same; exact ⟨isSound.formed, isSound.slots⟩
  | start id _ same => exact same ▸ isSound
  | announce id _ notShared _ same =>
    have isSlot := isSound.slots id
    exact same ▸ isSound.setSlot ⟨isSlot.all, isSlot.unclaimed, fun _ => notShared⟩
  | settle id installed _ same _ isDial =>
    exact same ▸ isSound.setSlot (isSound.settled (isDialing id isDial) installed)
  | claim id conn _ isShared same =>
    subst same
    have isSlot := isSound.slots id
    have claimed : SharedSlot.Sound { sharing.slots id with claimed := true } := by
      refine ⟨isSlot.all, ?_, isSlot.dialing⟩
      intro notShared
      cases isShared.symm.trans notShared
    have isSound : (sharing.setSlot id _).Sound := isSound.setSlot claimed
    exact ⟨isSound.formed, isSound.slots⟩
  | remove id conn _ _ same => exact same ▸ isSound.setSlot (isSound.without conn)
  | renew same =>
    subst same
    have isNew : SharedSlot.Sound (⟨none, false, false, []⟩ : SharedSlot Conn) :=
      ⟨rfl, fun _ => rfl, fun _ => rfl⟩
    refine ⟨?_, (isSound.setSlot isNew).slots⟩
    rintro _ ⟨⟩
    exact Nat.lt_succ_self _

/-! ## The dials of a state -/

namespace PoolPosition

def dialsFor (id : Nat) (position : PoolPosition Conn) : Bool := position.dials = some id

variable {id : Nat} {position : PoolPosition Conn}

theorem dialsFor_eq_true : position.dialsFor id = true ↔ position.dials = some id :=
  decide_eq_true_iff

theorem dialsFor_congr {next : PoolPosition Conn}
    (same : next.dials = position.dials) : next.dialsFor id = position.dialsFor id := by
  rw [dialsFor, dialsFor, same]

theorem dialsFor_of_none (isFree : position.dials = none) : position.dialsFor id = false := by
  simp [dialsFor, isFree]

theorem dialsFor_of_some {other : Nat}
    (isDial : position.dials = some other) : position.dialsFor id = decide (id = other) := by
  simp [dialsFor, isDial, eq_comm]

end PoolPosition

variable {after sharing : Sharing Conn} {position : PoolPosition Conn} {id : Nat}

theorem Shares.connecting_add [DecidableEq Conn]
    {next : PoolPosition Conn} (shares : Shares sharing position after next) (id : Nat)
    (isNew : id = sharing.nextState → (sharing.slots id).connecting = false)
    (isDialing : position.dials = some id → (sharing.slots id).connecting = true) :
    (after.slots id).connecting.toNat + (position.dialsFor id).toNat =
      (sharing.slots id).connecting.toNat + (next.dialsFor id).toNat +
        position.started.countP (dialsFor id) := by
  cases shares with
  | keep sameSlots _ _ _ _ _ sameDials startsNone =>
    rw [sameSlots, startsNone, dialsFor_congr sameDials]
    rfl
  | dial conn same _ sameDials startsNone =>
    rw [same, startsNone, dialsFor_congr sameDials]
    rfl
  | announce current _ _ notConnecting same _ isFree isDial startsNone =>
    rw [same, startsNone, dialsFor_of_none isFree, dialsFor_of_some isDial]
    by_cases isCurrent : id = current <;> simp [Sharing.setSlot, isCurrent, notConnecting]
  | start current _ same _ isDial isFree starts startedDial =>
    rw [same, starts, dialsFor_of_none isFree, dialsFor_of_some isDial, countP_singleton,
      dialsFor_of_some startedDial]
    by_cases isCurrent : id = current <;> simp [isCurrent]
  | settle current _ _ same _ isDial isFree startsNone =>
    rw [same, startsNone, dialsFor_of_none isFree, dialsFor_of_some isDial]
    by_cases isCurrent : id = current
    · subst isCurrent
      simp [isDialing isDial]
    · simp [Sharing.setSlot_other _ isCurrent, isCurrent]
  | claim current conn _ _ same _ wasFree isFree startsNone =>
    rw [same, startsNone, dialsFor_of_none isFree, dialsFor_of_none wasFree]
    by_cases isCurrent : id = current <;> simp [Sharing.setSlot, isCurrent]
  | remove current _ _ _ same _ wasFree isFree startsNone =>
    rw [startsNone, dialsFor_of_none isFree, dialsFor_of_none wasFree, same]
    by_cases isCurrent : id = current <;> simp [Sharing.setSlot, isCurrent]
    rw [Sharing.without]
    split <;> rfl
  | renew same _ wasFree isFree startsNone =>
    rw [same, startsNone, dialsFor_of_none isFree, dialsFor_of_none wasFree]
    by_cases isNext : id = sharing.nextState
    · simp [isNext, isNext ▸ isNew isNext]
    · simp [Sharing.setSlot, isNext]

theorem Shares.nextState_le [DecidableEq Conn] {next : PoolPosition Conn}
    (shares : Shares sharing position after next) : sharing.nextState ≤ after.nextState := by
  cases shares with
  | keep _ _ _ sameNext => exact Nat.le_of_eq sameNext.symm
  | renew same => exact same ▸ Nat.le_succ _
  | dial _ same | announce _ _ _ _ same | start _ _ same | settle _ _ _ same | claim _ _ _ _ same
  | remove _ _ _ _ same => exact same ▸ Nat.le_refl _

theorem Shares.dials_cases [DecidableEq Conn] {next : PoolPosition Conn}
    (shares : Shares sharing position after next) :
    (next.dials = some id → position.dials = some id ∨ sharing.state = some id) ∧
      ∀ started ∈ position.started, started.dials = some id → position.dials = some id := by
  cases shares with
  | keep _ _ _ _ _ _ sameDials startsNone | dial _ _ _ sameDials startsNone =>
    exact ⟨fun isDial => .inl (sameDials ▸ isDial), by simp [startsNone]⟩
  | announce current isCurrent _ _ _ _ _ nextDials startsNone =>
    refine ⟨fun isDial => .inr ?_, by simp [startsNone]⟩
    exact isCurrent.trans (nextDials.symm.trans isDial)
  | start _ _ _ _ wasDial isFree starts startedDial =>
    refine ⟨fun isDial => by simp [isFree] at isDial, ?_⟩
    intro _ member isDial
    rw [starts, mem_singleton] at member
    subst member
    exact wasDial.trans (startedDial.symm.trans isDial)
  | settle _ _ _ _ _ _ isFree startsNone | claim _ _ _ _ _ _ _ isFree startsNone
  | remove _ _ _ _ _ _ _ isFree startsNone | renew _ _ _ isFree startsNone =>
    simp [isFree, startsNone]

/-- In single mode, every dial is the one that its state has announced. -/
structure PoolSystem.Dialing (system : PoolSystem Conn) : Prop where
  sound : system.pool.sharing.Sound
  single : ∀ position ∈ system.threads, position.isOrdered = false
  known : ∀ position ∈ system.threads, ∀ id, position.dials = some id →
    id < system.pool.nextState
  dials : ∀ id, system.threads.countP (dialsFor id) =
    (system.pool.sharing.slots id).connecting.toNat

namespace PoolSystem.Dialing

variable {options : ConnPoolOptions} {system after : PoolSystem Conn}

theorem start : ({} : PoolSystem Conn).Dialing where
  sound := by
    refine ⟨?_, fun id => ⟨rfl, fun _ => rfl, fun _ => rfl⟩⟩
    rintro id ⟨⟩
    exact Nat.zero_lt_one
  single := by simp
  known := by simp
  dials := fun id => rfl

variable {position : PoolPosition Conn}

theorem isDialing (isShared : system.Dialing) (member : position ∈ system.threads)
    (isDial : position.dials = some id) : (system.pool.sharing.slots id).connecting = true := by
  have positive : 0 < system.threads.countP (dialsFor id) :=
    countP_pos_iff.mpr ⟨position, member, dialsFor_eq_true.mpr isDial⟩
  rw [isShared.dials id] at positive
  cases isConnecting : (system.pool.sharing.slots id).connecting with
  | false => simp [isConnecting] at positive
  | true => rfl

theorem call (isShared : system.Dialing) (isSingle : options.mode = .single)
    (call : PoolCall Conn) : (system.call options call).Dialing := by
  have isPlain : (call.position options).isOrdered = false ∧
      (call.position options).dials = none := by
    cases call <;> simp [PoolCall.position, isSingle, isOrdered, PoolPosition.dials]
  refine ⟨isShared.sound, ?_, ?_, ?_⟩ <;> simp only [PoolSystem.call, forall_mem_append,
    forall_mem_singleton]
  · exact ⟨isShared.single, isPlain.1⟩
  · exact ⟨isShared.known, by simp [isPlain.2]⟩
  · intro id
    rw [countP_append, countP_singleton, dialsFor_of_none isPlain.2]
    exact isShared.dials id

variable [DecidableEq Conn]

theorem step (isShared : system.Dialing) {thread : Nat}
    {outcome : PoolOutcome Conn} (isAt : system.threads[thread]? = some position)
    (shared : system.pool.SharedOutcome position outcome) :
    (system.moved thread position outcome).Dialing := by
  rcases shared with ⟨shares, isSingle⟩
  have isMember := mem_of_getElem? isAt
  have grows : system.pool.nextState ≤ outcome.pool.nextState := shares.nextState_le
  have isKnown := isShared.known position isMember
  have isDialing : ∀ id, position.dials = some id →
      (system.pool.sharing.slots id).connecting = true :=
    fun id isDial => isShared.isDialing isMember isDial
  refine ⟨shares.sound isShared.sound isDialing, ?_, ?_, ?_⟩
  · intro next member
    rcases mem_set_append_cases member with member | rfl | isStarted
    · exact isShared.single next member
    · exact isSingle
    · rcases eq_of_started isStarted with ⟨ctx, id, connect, rfl⟩
      rfl
  · intro next member id isDial
    rcases mem_set_append_cases member with member | rfl | isStarted
    · exact Nat.lt_of_lt_of_le (isShared.known next member id isDial) grows
    · rcases shares.dials_cases.1 isDial with wasDial | isCurrent
      · exact Nat.lt_of_lt_of_le (isKnown id wasDial) grows
      · exact Nat.lt_of_lt_of_le (isShared.sound.formed id isCurrent) grows
    · have wasDial := shares.dials_cases.2 next isStarted isDial
      exact Nat.lt_of_lt_of_le (isKnown id wasDial) grows
  · intro id
    have isNew : id = system.pool.nextState →
        (system.pool.sharing.slots id).connecting = false := by
      rintro rfl
      by_contra isConnecting
      have positive : 0 < system.threads.countP (dialsFor system.pool.nextState) := by
        rw [isShared.dials, Bool.not_eq_false _ |>.mp isConnecting]
        exact Nat.zero_lt_one
      rcases countP_pos_iff.mp positive with ⟨other, member, isDial⟩
      have known := isShared.known other member _ (dialsFor_eq_true.mp isDial)
      exact Nat.lt_irrefl _ known
    have counted := countP_set_add outcome.position (dialsFor id) isAt
    have connecting := shares.connecting_add id isNew (isDialing id)
    have before := isShared.dials id
    change _ = (outcome.pool.sharing.slots id).connecting.toNat
    rw [PoolSystem.moved, countP_append]
    omega

theorem next (isShared : system.Dialing) (isSingle : options.mode = .single)
    {action : PoolAction Conn} (isNext : system.next options action = some after) :
    after.Dialing := by
  cases action with
  | call call =>
    cases isNext
    exact isShared.call isSingle call
  | step =>
    rcases PoolSystem.step_cases isNext with ⟨position, _, isAt, isOutcome, rfl⟩
    have notOrdered := isShared.single position (mem_of_getElem? isAt)
    exact isShared.step isAt (ConnPool.next_shares isSingle notOrdered isOutcome)
  | expire =>
    cases isNext
    exact { isShared with }

theorem of_run {actions : List (PoolAction Conn)} (isSingle : options.mode = .single)
    (run : PoolRun options actions system) : system.Dialing :=
  run.preserves start fun isShared isNext => isShared.next isSingle isNext

end PoolSystem.Dialing

end SingBox.Transport
