import SingBox.Foundation.Update

/-! # A walk with a fence

Tasks are looked at in order. A raced task is not decided in its turn: it is
armed with the futures it needs, and a sweep evaluates it when all of them are
resolved. Any other task ends the walk only when no armed task is left, so
every raced task before it has had its chance. What happens is recorded in a
log.
-/

namespace SingBox

open List

inductive FenceEvent (Future : Type)
  | skipped (task : Nat)
  /-- A raced task needs these futures. -/
  | armed (task : Nat) (bound : List Future)
  /-- A sweep evaluates a raced task, when these futures are resolved. -/
  | evaluated (task : Nat) (resolved : List Future)
  /-- A task launches something, when these tasks are armed. -/
  | launched (task : Nat) (armed : List Nat)
  /-- The walk ends with a task that a sweep has evaluated. -/
  | swept (task : Nat)
  /-- The walk ends with a task in its turn. -/
  | committed (task : Nat)
  deriving DecidableEq

namespace FenceEvent

variable {Future : Type}

def arms (task : Nat) : FenceEvent Future → Bool
  | .armed other _ => other == task
  | _ => false

def launches (task : Nat) : FenceEvent Future → Bool
  | .launched other _ => other == task
  | _ => false

/-- The task that ends the walk. -/
def ends : FenceEvent Future → Option Nat
  | .swept task => some task
  | .committed task => some task
  | _ => none

variable {event : FenceEvent Future} {task : Nat}

theorem arms_iff : event.arms task = true ↔ ∃ bound, event = .armed task bound := by
  cases event <;> simp [arms]

theorem launches_iff : event.launches task = true ↔ ∃ armed, event = .launched task armed := by
  cases event <;> simp [launches]

end FenceEvent

structure FenceEntry (Future : Type) where
  task : Nat
  futures : List Future

inductive FencePhase
  | walking
  /-- The walk has ended with a task that launches something. -/
  | finishing
  | over
  deriving DecidableEq

structure Fence (Future : Type) where
  /-- The tasks below are dealt with. -/
  index : Nat := 0
  armed : List (FenceEntry Future) := []
  /-- What the sweep has taken out and not evaluated yet. -/
  taken : Option (FenceEntry Future) := none
  /-- The task that was launched while others were armed. -/
  speculative : Option Nat := none
  phase : FencePhase := .walking
  log : List (FenceEvent Future) := []

namespace Fence

variable {Future : Type} (race waits : Nat → Bool) (resolved : Future → Prop)

/-- The tasks that `waits` names launch only when nothing is armed. -/
inductive Step (fence : Fence Future) : Fence Future → Prop
  | stay : Step fence fence
  | pass :
    fence.phase = .walking →
    race fence.index = false →
    Step fence { fence with index := fence.index + 1 }
  | skip :
    fence.phase = .walking →
    Step fence
      { fence with index := fence.index + 1, log := fence.log ++ [.skipped fence.index] }
  | arm (bound futures : List Future) :
    fence.phase = .walking →
    (∀ future ∈ bound, future ∈ futures ∨ resolved future) →
    Step fence
      { fence with
        index := fence.index + 1
        armed := fence.armed ++ [⟨fence.index, futures⟩]
        log := fence.log ++ [.armed fence.index bound] }
  | take (place : Nat) (entry : FenceEntry Future) :
    fence.phase = .walking →
    fence.taken = none →
    fence.armed[place]? = some entry →
    (∀ future ∈ entry.futures, resolved future) →
    Step fence { fence with armed := fence.armed.eraseIdx place, taken := some entry }
  | drop (place : Nat) (entry : FenceEntry Future) :
    fence.phase = .walking →
    fence.armed[place]? = some entry →
    Step fence
      { fence with
        armed := fence.armed.eraseIdx place
        log := fence.log ++ [.skipped entry.task] }
  | evaluate (entry : FenceEntry Future) (known : List Future) :
    fence.phase = .walking →
    fence.taken = some entry →
    (∀ future, resolved future → future ∈ known) →
    Step fence { fence with taken := none, log := fence.log ++ [.evaluated entry.task known] }
  | launch :
    fence.phase = .walking →
    race fence.index = false →
    fence.speculative ≠ some fence.index →
    (waits fence.index = true → fence.armed = []) →
    Step fence
      { fence with
        index := fence.index + 1
        log := fence.log ++ [.launched fence.index (fence.armed.map FenceEntry.task)] }
  | speculate :
    fence.phase = .walking →
    race fence.index = false →
    waits fence.index = false →
    fence.speculative = none →
    Step fence
      { fence with
        speculative := some fence.index
        log := fence.log ++ [.launched fence.index (fence.armed.map FenceEntry.task)] }
  | commit {after : Fence Future} :
    fence.phase = .walking →
    race fence.index = false →
    waits fence.index = false →
    fence.armed = [] →
    fence.taken = none →
    after.phase ≠ .walking →
    (after.phase = .finishing → fence.speculative ≠ some fence.index) →
    after.log = fence.log ++ [.committed fence.index] →
    Step fence after
  | sweep {after : Fence Future} (task : Nat) :
    fence.phase = .walking →
    race task = true →
    waits task = false →
    after.phase ≠ .walking →
    after.log = fence.log ++ [.swept task] →
    Step fence after
  | finish {after : Fence Future} (task : Nat) (armed : List Nat) :
    fence.phase = .finishing →
    fence.log.getLast?.bind FenceEvent.ends = some task →
    after.phase = .over →
    after.log = fence.log ++ [.launched task armed] →
    Step fence after
  | close {after : Fence Future} :
    after.phase = .over →
    after.log = fence.log →
    Step fence after

/-! ## What the log says -/

/-- The log has a raced task in it that was armed once and evaluated when all it
needs was resolved, and that has not ended the walk; or the task was skipped. -/
def Settled (log : List (FenceEvent Future)) (task : Nat) : Prop :=
  .skipped task ∈ log ∨
    log.countP (FenceEvent.arms task) = 1 ∧ .swept task ∉ log ∧
      ∃ bound known, [.armed task bound, .evaluated task known].Sublist log ∧
        ∀ future ∈ bound, future ∈ known

structure History (log : List (FenceEvent Future)) : Prop where
  armedOnce : ∀ task, log.countP (FenceEvent.arms task) ≤ 1
  launchedOnce : ∀ task, log.countP (FenceEvent.launches task) ≤ 1
  alone : ∀ task armed, .launched task armed ∈ log → waits task = true → armed = []
  fenced : ∀ earlier task later, log = earlier ++ .committed task :: later →
    ∀ other < task, race other = true → Settled earlier other

variable {race waits resolved} {fence after : Fence Future} {log : List (FenceEvent Future)}

theorem History.nil : History race waits ([] : List (FenceEvent Future)) where
  armedOnce _ := Nat.zero_le _
  launchedOnce _ := Nat.zero_le _
  alone _ _ member := by cases member
  fenced earlier task later isLog := by
    have isLength := congrArg length isLog
    simp at isLength

variable {event : FenceEvent Future} {later : Future → Prop} {task : Nat}

private theorem once_concat {is : FenceEvent Future → Bool}
    (once : log.countP is ≤ 1) (isNew : ∀ other ∈ log, is event = true → ¬is other = true) :
    (log ++ [event]).countP is ≤ 1 := by
  rw [countP_append, countP_singleton]
  by_cases isOne : is event = true
  · have isZero : log.countP is = 0 :=
      countP_eq_zero.mpr fun other member => isNew other member isOne
    simp [isZero, isOne]
  · simpa [isOne] using once

variable (race waits) in
/-- What an event has to meet to go on a log. -/
def Fits (log : List (FenceEvent Future)) : FenceEvent Future → Prop
  | .armed task _ => ∀ bound, .armed task bound ∉ log
  | .launched task armed => (∀ armed, .launched task armed ∉ log) ∧ (waits task = true → armed = [])
  | .committed task => ∀ other < task, race other = true → Settled log other
  | _ => True

theorem History.concat (history : History race waits log)
    (fits : Fits race waits log event) : History race waits (log ++ [event]) where
  armedOnce task := by
    apply once_concat (history.armedOnce task)
    intro other member isOne isOther
    rcases FenceEvent.arms_iff.mp isOne with ⟨_, rfl⟩
    rcases FenceEvent.arms_iff.mp isOther with ⟨otherBound, rfl⟩
    exact fits otherBound member
  launchedOnce task := by
    apply once_concat (history.launchedOnce task)
    intro _ member isOne isOther
    rcases FenceEvent.launches_iff.mp isOne with ⟨armed, rfl⟩
    rcases FenceEvent.launches_iff.mp isOther with ⟨otherArmed, rfl⟩
    exact fits.1 otherArmed member
  alone task armed member := by
    rcases mem_append.mp member with earlier | last
    · exact history.alone task armed earlier
    · cases mem_singleton.mp last
      exact fits.2
  fenced earlier task later isLog := by
    rcases eq_nil_or_concat later with rfl | ⟨front, last, rfl⟩
    · have isLast := append_inj' isLog rfl
      cases isLast.2
      rw [← isLast.1]
      exact fits
    · have isFront : log ++ [event] = (earlier ++ .committed task :: front) ++ [last] := by
        simpa using isLog
      exact history.fenced earlier task front (append_inj' isFront rfl).1

/-! ## What holds during the walk -/

def Waiting (fence : Fence Future) (entry : FenceEntry Future) : Prop :=
  entry ∈ fence.armed ∨ fence.taken = some entry

variable (resolved) in
/-- A raced task was skipped, waits with what it needs, or was evaluated. -/
def Dealt (fence : Fence Future) (task : Nat) : Prop :=
  .skipped task ∈ fence.log ∨
    ∃ bound, .armed task bound ∈ fence.log ∧
      ((∃ entry, fence.Waiting entry ∧ entry.task = task ∧
          ∀ future ∈ bound, future ∈ entry.futures ∨ resolved future) ∨
        ∃ known, [.armed task bound, .evaluated task known].Sublist fence.log ∧
          ∀ future ∈ bound, future ∈ known)

variable (race resolved) in
structure Walking (fence : Fence Future) : Prop where
  dealt : ∀ task < fence.index, race task = true → fence.Dealt resolved task
  armed : ∀ task bound, .armed task bound ∈ fence.log → task < fence.index
  launched : ∀ task armed, .launched task armed ∈ fence.log →
    race task = false ∧ (task < fence.index ∨ task = fence.index ∧ fence.speculative = some task)
  taken : ∀ entry, fence.taken = some entry → ∀ future ∈ entry.futures, resolved future
  open_ : ∀ event ∈ fence.log, event.ends = none

variable (race waits resolved) in
structure Sound (fence : Fence Future) : Prop where
  walking : fence.phase = .walking → fence.Walking race resolved
  finishing : fence.phase = .finishing → ∃ task, waits task = false ∧
    fence.log.getLast?.bind FenceEvent.ends = some task ∧ ∀ armed, .launched task armed ∉ fence.log
  history : History race waits fence.log

theorem Sound.start : ({} : Fence Future).Sound race waits resolved where
  walking _ :=
    { dealt := fun _ isBelow => absurd isBelow (Nat.not_lt_zero _)
      armed := nofun
      launched := nofun
      taken := nofun
      open_ := nofun }
  finishing isFinishing := by cases isFinishing
  history := .nil

theorem Dealt.mono (dealt : fence.Dealt resolved task)
    (more : ∀ future, resolved future → later future) : fence.Dealt later task := by
  rcases dealt with isSkipped | ⟨bound, isArmed, ⟨entry, isWaiting, isTask, covers⟩ | evaluated⟩
  · exact .inl isSkipped
  · refine .inr ⟨bound, isArmed, .inl ⟨entry, isWaiting, isTask, ?_⟩⟩
    exact fun future member => (covers future member).imp id (more future)
  · exact .inr ⟨bound, isArmed, .inr evaluated⟩

theorem Sound.mono (sound : fence.Sound race waits resolved)
    (more : ∀ future, resolved future → later future) : fence.Sound race waits later where
  __ := sound
  walking isWalking :=
    let walking := sound.walking isWalking
    { walking with
      dealt := fun task isBelow isRace => (walking.dealt task isBelow isRace).mono more
      taken := fun entry isTaken future member =>
        more future (walking.taken entry isTaken future member) }

/-- A task stays dealt with if an entry that waits for it still does, or was
evaluated. -/
theorem Dealt.keep (dealt : fence.Dealt resolved task) (grows : fence.log.Sublist after.log)
    (kept : ∀ bound entry, .armed task bound ∈ fence.log → fence.Waiting entry →
      entry.task = task → (∀ future ∈ bound, future ∈ entry.futures ∨ resolved future) →
      after.Waiting entry ∨ ∃ known, [.armed task bound, .evaluated task known].Sublist after.log ∧
        ∀ future ∈ bound, future ∈ known) : after.Dealt resolved task := by
  rcases dealt with isSkipped | ⟨bound, isArmed, ⟨entry, isWaiting, isTask, covers⟩ |
    ⟨known, isSublist, covers⟩⟩
  · exact .inl (grows.subset isSkipped)
  · refine .inr ⟨bound, grows.subset isArmed, ?_⟩
    exact (kept bound entry isArmed isWaiting isTask covers).imp_left
      fun isWaiting => ⟨entry, isWaiting, isTask, covers⟩
  · exact .inr ⟨bound, grows.subset isArmed, .inr ⟨known, isSublist.trans grows, covers⟩⟩

theorem mem_eraseIdx_or_eq {place : Nat} {entry other : FenceEntry Future}
    (isAt : fence.armed[place]? = some entry) (member : other ∈ fence.armed) :
    other ∈ fence.armed.eraseIdx place ∨ other = entry := by
  rcases mem_iff_getElem?.mp member with ⟨index, isOther⟩
  by_cases same : index = place
  · subst same
    exact .inr (Option.some.inj (isOther.symm.trans isAt))
  · exact .inl (mem_eraseIdx_iff_getElem?.mpr ⟨index, same, isOther⟩)

theorem Walking.settled (walking : fence.Walking race resolved) (isBelow : task < fence.index)
    (isRace : race task = true) (history : History race waits fence.log)
    (noneArmed : fence.armed = []) (noneTaken : fence.taken = none) : Settled fence.log task := by
  rcases walking.dealt task isBelow isRace with isSkipped | ⟨bound, isArmed, isDealt⟩
  · exact .inl isSkipped
  have isPositive : 0 < fence.log.countP (FenceEvent.arms task) :=
    countP_pos_iff.mpr ⟨_, isArmed, FenceEvent.arms_iff.mpr ⟨bound, rfl⟩⟩
  have atMostOnce := history.armedOnce task
  refine .inr ⟨by omega, ?_, bound, ?_⟩
  · intro isSwept
    cases walking.open_ _ isSwept
  · rcases isDealt with ⟨_, isWaiting, -, -⟩ | evaluated
    · rcases isWaiting with isArmed | isTaken
      · rw [noneArmed] at isArmed
        cases isArmed
      · cases noneTaken.symm.trans isTaken
    · exact evaluated

/-! ## Steps -/

private theorem mem_concat {Value : Type} {values : List Value} {value last : Value}
    (member : value ∈ values ++ [last]) : value ∈ values ∨ value = last := by
  simpa using member

variable (race) in
/-- What an event says of the walk, which goes on after it. -/
def Notes (fence : Fence Future) : FenceEvent Future → Prop
  | .armed task _ => task < fence.index
  | .launched task _ =>
    race task = false ∧ (task < fence.index ∨ task = fence.index ∧ fence.speculative = some task)
  | .swept _ | .committed _ => False
  | _ => True

theorem Walking.record (walking : fence.Walking race resolved)
    (isLog : after.log = fence.log ++ [event]) (notes : after.Notes race event)
    (ahead : fence.index ≤ after.index)
    (sameSpeculative : ∀ task, fence.speculative = some task → after.speculative = some task)
    (dealt : ∀ task < after.index, race task = true → after.Dealt resolved task)
    (taken : ∀ entry, after.taken = some entry → ∀ future ∈ entry.futures, resolved future) :
    after.Walking race resolved where
  dealt := dealt
  armed task bound member := by
    rw [isLog] at member
    rcases mem_concat member with earlier | rfl
    · exact Nat.lt_of_lt_of_le (walking.armed task bound earlier) ahead
    · exact notes
  launched task armed member := by
    rw [isLog] at member
    rcases mem_concat member with earlier | rfl
    · rcases walking.launched task armed earlier with ⟨isPlain, isBelow | ⟨isHere, isSpeculative⟩⟩
      · exact ⟨isPlain, .inl (Nat.lt_of_lt_of_le isBelow ahead)⟩
      refine ⟨isPlain, ?_⟩
      rcases Nat.eq_or_lt_of_le ahead with same | isAhead
      · exact .inr ⟨isHere.trans same, sameSpeculative task isSpeculative⟩
      · exact .inl (isHere ▸ isAhead)
    · exact notes
  taken := taken
  open_ other member := by
    rw [isLog] at member
    rcases mem_concat member with earlier | rfl
    · exact walking.open_ other earlier
    cases other with
    | swept | committed => exact notes.elim
    | _ => rfl

theorem dealt_succ {index : Nat} (isIndex : after.index = index + 1)
    (below : ∀ task < index, race task = true → after.Dealt resolved task)
    (here : race index = true → after.Dealt resolved index) :
    ∀ task < after.index, race task = true → after.Dealt resolved task := by
  intro task isBelow isRace
  rw [isIndex] at isBelow
  rcases Nat.lt_succ_iff_lt_or_eq.mp isBelow with isBelow | rfl
  · exact below task isBelow isRace
  · exact here isRace

theorem Sound.of_walking (walking : after.Walking race resolved)
    (isWalking : after.phase = .walking) (history : History race waits after.log) :
    after.Sound race waits resolved where
  walking _ := walking
  finishing isFinishing := by
    cases isWalking.symm.trans isFinishing
  history := history

theorem Sound.of_over (isOver : after.phase = .over) (history : History race waits after.log) :
    after.Sound race waits resolved where
  walking isWalking := by
    cases isOver.symm.trans isWalking
  finishing isFinishing := by
    cases isOver.symm.trans isFinishing
  history := history

theorem Sound.of_ended (isEnd : event.ends = some task) (notWaiting : waits task = false)
    (isLog : after.log = fence.log ++ [event]) (notWalking : after.phase ≠ .walking)
    (notLaunched : after.phase = .finishing → ∀ armed, .launched task armed ∉ fence.log)
    (history : History race waits (fence.log ++ [event])) : after.Sound race waits resolved where
  walking isWalking := absurd isWalking notWalking
  finishing isFinishing := by
    refine ⟨task, notWaiting, ?_, ?_⟩
    · rw [isLog, getLast?_concat]
      exact isEnd
    · intro armed member
      rw [isLog] at member
      rcases mem_concat member with earlier | isLast
      · exact notLaunched isFinishing armed earlier
      · rw [← isLast] at isEnd
        cases isEnd
  history := isLog ▸ history

section

variable (walking : fence.Walking race resolved)
include walking

theorem Walking.not_launched (notSpeculative : fence.speculative ≠ some fence.index)
    (armed : List Nat) : .launched fence.index armed ∉ fence.log := by
  intro member
  rcases (walking.launched fence.index armed member).2 with isBelow | ⟨-, isSpeculative⟩
  · exact Nat.lt_irrefl _ isBelow
  · exact notSpeculative isSpeculative

theorem Walking.still (grows : fence.log.Sublist after.log)
    (kept : ∀ entry, fence.Waiting entry → after.Waiting entry) :
    ∀ task < fence.index, race task = true → after.Dealt resolved task :=
  fun task isBelow isRace => (walking.dealt task isBelow isRace).keep grows
    fun _ entry _ isWaiting _ _ => .inl (kept entry isWaiting)

theorem Walking.skip :
    ({ fence with
      index := fence.index + 1
      log := fence.log ++ [.skipped fence.index] } : Fence Future).Walking race resolved := by
  refine walking.record rfl trivial (Nat.le_succ _) (fun _ => id) ?_ walking.taken
  refine dealt_succ rfl (walking.still (sublist_append_left _ _) fun _ => id) ?_
  exact fun _ => .inl mem_concat_self

theorem Walking.pass (notRace : race fence.index = false) :
    ({ fence with index := fence.index + 1 } : Fence Future).Walking race resolved where
  __ := walking
  dealt := by
    refine dealt_succ rfl (walking.still (List.Sublist.refl _) fun _ => id) ?_
    simp [notRace]
  armed task bound member := Nat.lt_succ_of_lt (walking.armed task bound member)
  launched task armed member := by
    rcases walking.launched task armed member with ⟨isPlain, isBelow | ⟨isHere, -⟩⟩
    · exact ⟨isPlain, .inl (Nat.lt_succ_of_lt isBelow)⟩
    · exact ⟨isPlain, .inl (isHere ▸ Nat.lt_succ_self _)⟩

theorem Walking.arm {bound futures : List Future}
    (covers : ∀ future ∈ bound, future ∈ futures ∨ resolved future) :
    ({ fence with
      index := fence.index + 1
      armed := fence.armed ++ [⟨fence.index, futures⟩]
      log := fence.log ++ [.armed fence.index bound] } : Fence Future).Walking race resolved := by
  refine walking.record rfl (Nat.lt_succ_self _) (Nat.le_succ _) (fun _ => id) ?_ walking.taken
  apply dealt_succ rfl
  · exact walking.still (sublist_append_left _ _) fun _ isWaiting =>
      isWaiting.imp_left (mem_append_left _)
  · intro _
    refine .inr ⟨bound, mem_concat_self, .inl ?_⟩
    exact ⟨_, .inl mem_concat_self, rfl, covers⟩

variable {entry : FenceEntry Future} {place : Nat}

theorem Walking.take (noneTaken : fence.taken = none) (isAt : fence.armed[place]? = some entry)
    (areResolved : ∀ future ∈ entry.futures, resolved future) :
    ({ fence with
      armed := fence.armed.eraseIdx place
      taken := some entry } : Fence Future).Walking race resolved where
  __ := walking
  dealt := by
    refine walking.still (List.Sublist.refl _) ?_
    rintro other (isArmed | isTaken)
    · exact (mem_eraseIdx_or_eq isAt isArmed).imp_right fun same => congrArg some same.symm
    · cases noneTaken.symm.trans isTaken
  taken other isTaken := by
    cases isTaken
    exact areResolved

theorem Walking.drop (isAt : fence.armed[place]? = some entry) :
    ({ fence with
      armed := fence.armed.eraseIdx place
      log := fence.log ++ [.skipped entry.task] } : Fence Future).Walking race resolved := by
  refine walking.record rfl trivial (Nat.le_refl _) (fun _ => id) ?_ walking.taken
  intro task isBelow isRace
  by_cases isDropped : entry.task = task
  · subst isDropped
    exact .inl mem_concat_self
  refine (walking.dealt task isBelow isRace).keep (sublist_append_left _ _) ?_
  intro _ other _ isWaiting isTask _
  refine .inl (isWaiting.imp_left fun isArmed => (mem_eraseIdx_or_eq isAt isArmed).resolve_right ?_)
  rintro rfl
  exact isDropped isTask

theorem Walking.evaluate {known : List Future}
    (isTaken : fence.taken = some entry) (isKnown : ∀ future, resolved future → future ∈ known) :
    ({ fence with
      taken := none
      log := fence.log ++ [.evaluated entry.task known] } :
        Fence Future).Walking race resolved := by
  refine walking.record rfl trivial (Nat.le_refl _) (fun _ => id) ?_ (by simp)
  intro task isBelow isRace
  refine (walking.dealt task isBelow isRace).keep (sublist_append_left _ _) ?_
  rintro bound other isArmed (isOther | isOther) isTask covers
  · exact .inl (.inl isOther)
  · cases isTaken.symm.trans isOther
    subst isTask
    refine .inr ⟨known, (singleton_sublist.mpr isArmed).append (List.Sublist.refl _), ?_⟩
    intro future member
    exact isKnown future ((covers future member).elim (walking.taken entry isTaken future) id)

theorem Walking.launch (armed : List Nat) (notRace : race fence.index = false) :
    ({ fence with
      index := fence.index + 1
      log := fence.log ++ [.launched fence.index armed] } :
        Fence Future).Walking race resolved := by
  refine walking.record rfl ⟨notRace, .inl (Nat.lt_succ_self _)⟩ (Nat.le_succ _) (fun _ => id) ?_
    walking.taken
  refine dealt_succ rfl (walking.still (sublist_append_left _ _) fun _ => id) ?_
  simp [notRace]

theorem Walking.speculate (armed : List Nat) (notRace : race fence.index = false)
    (noneSpeculative : fence.speculative = none) :
    ({ fence with
      speculative := some fence.index
      log := fence.log ++ [.launched fence.index armed] } :
        Fence Future).Walking race resolved :=
  walking.record rfl ⟨notRace, .inr ⟨rfl, rfl⟩⟩ (Nat.le_refl _) (by simp [noneSpeculative])
    (walking.still (sublist_append_left _ _) fun _ => id) walking.taken

end

theorem Sound.step (sound : fence.Sound race waits resolved)
    (isStep : fence.Step race waits resolved after) : after.Sound race waits resolved := by
  have history := sound.history
  cases isStep with
  | stay => exact sound
  | pass isWalking notRace =>
    exact .of_walking ((sound.walking isWalking).pass notRace) isWalking history
  | skip isWalking =>
    exact .of_walking (sound.walking isWalking).skip isWalking (history.concat trivial)
  | arm _ _ isWalking covers =>
    refine .of_walking ((sound.walking isWalking).arm covers) isWalking (history.concat ?_)
    exact fun _ member => Nat.lt_irrefl _ ((sound.walking isWalking).armed _ _ member)
  | take place entry isWalking noneTaken isAt areResolved =>
    exact .of_walking ((sound.walking isWalking).take noneTaken isAt areResolved) isWalking history
  | drop _ entry isWalking isAt =>
    exact .of_walking ((sound.walking isWalking).drop isAt) isWalking (history.concat trivial)
  | evaluate _ _ isWalking isTaken isKnown =>
    exact .of_walking ((sound.walking isWalking).evaluate isTaken isKnown) isWalking
      (history.concat trivial)
  | launch isWalking notRace notSpeculative alone =>
    have walking := sound.walking isWalking
    refine .of_walking (walking.launch _ notRace) isWalking
      (history.concat ⟨walking.not_launched notSpeculative, fun isWaiting => ?_⟩)
    rw [alone isWaiting, map_nil]
  | speculate isWalking notRace notWaiting noneSpeculative =>
    have walking := sound.walking isWalking
    exact .of_walking (walking.speculate _ notRace noneSpeculative) isWalking
      (history.concat ⟨walking.not_launched (by simp [noneSpeculative]), by simp [notWaiting]⟩)
  | commit isWalking _ notWaiting noneArmed noneTaken notWalking launches isLog =>
    have walking := sound.walking isWalking
    refine .of_ended rfl notWaiting isLog notWalking
      (fun isFinishing => walking.not_launched (launches isFinishing)) (history.concat ?_)
    exact fun other isBelow isRace =>
      walking.settled isBelow isRace history noneArmed noneTaken
  | sweep task isWalking isRace notWaiting notWalking isLog =>
    refine .of_ended rfl notWaiting isLog notWalking ?_ (history.concat trivial)
    intro _ armed member
    cases isRace.symm.trans ((sound.walking isWalking).launched task armed member).1
  | finish _ _ isFinishing isEnd isOver isLog =>
    rcases sound.finishing isFinishing with ⟨_, notWaiting, isOther, notLaunched⟩
    cases isEnd.symm.trans isOther
    exact .of_over isOver (isLog ▸ history.concat ⟨notLaunched, by simp [notWaiting]⟩)
  | close isOver sameLog => exact .of_over isOver (sameLog ▸ history)

end Fence

end SingBox
