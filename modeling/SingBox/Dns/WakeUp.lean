import SingBox.Dns.LiveWalk

/-! # No wake-up is lost

While the walk waits it has found every armed rule, and the future it awaits,
not to be resolved after it had taken the last token. So whatever completes
later has its token still to come or in the channel, and the exchange never
stays blocked when what it waits for has arrived.
-/

namespace SingBox.Dns

open List Option Bool

namespace Exchange

variable {router : Router} {exchange after : Exchange}

/-- The armed rules that the sweep has found not to be ready. -/
def checked (exchange : Exchange) : List ArmedRule :=
  match exchange.position with
  | .sweep _ index | .ready _ index _ _ | .sweepEvaluate _ index _ | .sweepAct _ index _ =>
    exchange.state.armedRules.take index
  | .decide _ | .blocked _ => exchange.state.armedRules
  | _ => []

def awaited (exchange : Exchange) : Option Nat :=
  match exchange.position with
  | .blocked (.await future) => some future
  | _ => none

/-- The sweep looks at the futures of the armed rule at its index. -/
def Reads (exchange : Exchange) : Prop :=
  match exchange.position with
  | .ready _ index armed futures =>
    exchange.state.armedRules[index]? = some armed ∧ ∀ future ∈ futures, future ∈ armed.futures
  | _ => True

/-- What a step of the walk has looked at. -/
structure Looks (exchange after : Exchange) : Prop where
  checked : ∀ armed ∈ after.checked,
    armed ∈ exchange.checked ∧ after.state.wake = exchange.state.wake ∨
      ∃ future ∈ armed.futures, exchange.state.resolved future = false
  awaited : ∀ future, after.awaited = some future → exchange.state.resolved future = false
  reads : after.Reads

/-- The walk has nothing to do with a sweep and does not wait. -/
def idle (exchange : Exchange) : Bool :=
  match exchange.position with
  | .sweep _ _ | .ready _ _ _ _ | .sweepEvaluate _ _ _ | .sweepAct _ _ _ | .decide _
  | .blocked _ => false
  | _ => true

theorem Looks.of_unlooked (unlooked : after.checked = [] ∧ after.awaited = none ∧ after.Reads) :
    exchange.Looks after := by
  rcases unlooked with ⟨noneChecked, noneAwaited, reads⟩
  constructor
  · intro _ member
    rw [noneChecked] at member
    cases member
  · intro _ isAwaited
    cases noneAwaited.symm.trans isAwaited
  · exact reads

theorem Looks.of_idle (isIdle : after.idle = true) : exchange.Looks after := by
  apply of_unlooked
  rw [idle] at isIdle
  rw [Exchange.checked, Exchange.awaited, Exchange.Reads]
  split at isIdle <;> simp_all

theorem idle_suspend (suspension : Suspension) : (exchange.suspend suspension).idle = true := by
  rcases exchange.suspend_cases suspension with isState | ⟨_, _, _, isState⟩ <;>
    rw [isState] <;> rfl

theorem idle_predefined (action : PredefinedAction) (options : QueryOptions) :
    (exchange.predefined router action options).idle = true := by
  rcases exchange.predefined_cases action options with ⟨_, isState⟩ | ⟨_, _, isState⟩ <;>
    rw [isState] <;> rfl

theorem idle_acted {rule : DNSRule} (acted : Acted router exchange rule after) :
    after.idle = true := by
  cases acted with
  | pass | launch | respond | return_ => rfl
  | drain | await | pending | speculate => exact idle_suspend _
  | predefined action options => exact idle_predefined action options

theorem Looks.of_goto {position : Position} (sameChecked : (exchange.goto position).checked =
    exchange.checked) (noneAwaited : (exchange.goto position).awaited = none)
    (reads : (exchange.goto position).Reads) : exchange.Looks (exchange.goto position) := by
  constructor
  · intro _ member
    exact .inl ⟨sameChecked ▸ member, rfl⟩
  · intro _ isAwaited
    cases noneAwaited.symm.trans isAwaited
  · exact reads

/-! ## Steps of the walk -/

theorem looks_visit : exchange.Looks (exchange.visit router) := by
  rw [visit]
  split
  · rw [whenDrained]
    split <;> exact .of_idle (idle_suspend _)
  split
  · exact .of_idle rfl
  · split <;> exact .of_idle rfl

theorem looks_settleAt (caller : Caller) (position : Nat) :
    exchange.Looks (exchange.settleAt caller position) := by
  unfold settleAt
  split
  · exact .of_idle rfl
  split
  · split <;> exact .of_idle rfl
  · exact .of_unlooked ⟨rfl, rfl, trivial⟩

theorem looks_arm (rule : DNSRule) (pending : List Nat) :
    exchange.Looks (exchange.arm rule pending) := by
  rcases exchange.arm_cases rule pending with ⟨_, -, -, -, isSwept | isPassed⟩
  · rw [isSwept]
    exact .of_unlooked ⟨rfl, rfl, trivial⟩
  · rw [isPassed]
    exact .of_idle rfl

theorem looks_collect (rule : DNSRule) (pending : List Nat) (tags : List String) :
    exchange.Looks (exchange.collect rule pending tags) := by
  cases tags with
  | nil => exact looks_arm rule pending
  | cons => exact .of_idle rfl

theorem looks_awaitTags (rule : DNSRule) (tags : List String) :
    exchange.Looks (exchange.awaitTags rule tags) := by
  cases tags <;> rw [awaitTags] <;> split
  all_goals first | exact .of_idle (idle_suspend _) | exact .of_idle rfl

variable {caller : Caller} {index done : Nat} {armed : ArmedRule} {action : LiveAction}
  {query : Query}

theorem looks_sweep (isAt : exchange.position = .sweep caller index) :
    exchange.Looks (exchange.sweep caller index) := by
  have isChecked : exchange.checked = exchange.state.armedRules.take index := by
    rw [checked, isAt]
  unfold sweep
  split
  · next isArmed => exact .of_goto isChecked.symm rfl ⟨isArmed, fun future member => member⟩
  · exact .of_idle rfl
  next isEnd =>
  refine .of_goto ?_ rfl trivial
  rw [isChecked, take_of_length_le (getElem?_eq_none_iff.mp isEnd)]
  rfl

theorem looks_ready {futures : List Nat}
    (isAt : exchange.position = .ready caller index armed futures)
    (isArmed : exchange.state.armedRules[index]? = some armed)
    (areFutures : ∀ future ∈ futures, future ∈ armed.futures) :
    exchange.Looks (exchange.ready router caller index armed futures) := by
  have isChecked : exchange.checked = exchange.state.armedRules.take index := by
    rw [checked, isAt]
  cases futures with
  | cons future =>
    rw [ready]
    split
    · refine .of_goto isChecked.symm rfl ?_
      exact ⟨isArmed, (forall_mem_cons.mp areFutures).2⟩
    next unresolved =>
    refine ⟨?_, by rintro _ ⟨⟩, trivial⟩
    intro found (member : found ∈ exchange.state.armedRules.take (index + 1))
    rw [take_add_one, isArmed, mem_append] at member
    rcases member with earlier | isLast
    · exact .inl ⟨isChecked ▸ earlier, rfl⟩
    cases mem_singleton.mp isLast
    refine .inr ⟨future, areFutures future mem_cons_self, ?_⟩
    exact eq_false_iff.mpr unresolved
  | nil =>
    have kept : ∀ found ∈ (exchange.state.armedRules.eraseIdx index).take index,
        found ∈ exchange.checked := by
      intro found member
      rw [take_eraseIdx_eq_take_of_le _ _ _ (Nat.le_refl _)] at member
      exact isChecked ▸ member
    rw [ready]
    split <;> exact ⟨fun found member => .inl ⟨kept found member, rfl⟩, by rintro _ ⟨⟩, trivial⟩

theorem looks_sweepAct (isAt : exchange.position = .sweepAct caller index armed)
    (acted : SweepActed router exchange caller index armed after) : exchange.Looks after := by
  cases acted with
  | pass =>
    refine .of_goto ?_ rfl trivial
    rw [checked, checked, isAt]
    rfl
  | return_ => exact .of_idle rfl
  | pending =>
    cases caller with
    | walk => exact .of_idle (idle_suspend _)
    | resume => exact .of_idle rfl
  | predefined action options => exact .of_idle (idle_predefined action options)

theorem looks_decide {suspension : Suspension} (isAt : exchange.position = .decide suspension) :
    exchange.Looks (exchange.decide_ suspension) := by
  have isChecked : exchange.checked = exchange.state.armedRules := by
    rw [checked, isAt]
  cases suspension with
  | pending => exact .of_idle rfl
  | await =>
    rw [decide_]
    split
    · exact .of_idle rfl
    next unresolved =>
    refine ⟨fun armed member => .inl ⟨isChecked ▸ member, rfl⟩, ?_, trivial⟩
    rintro _ ⟨⟩
    exact eq_false_iff.mpr unresolved
  | drain =>
    rw [decide_]
    split
    · exact .of_idle rfl
    · exact .of_goto isChecked.symm rfl trivial

theorem looks_walk (reads : exchange.Reads) (isNext : exchange.walk router = some after) :
    exchange.Looks after := by
  rw [walk] at isNext
  split at isNext
  · exact some.inj isNext ▸ looks_visit
  · exact some.inj isNext ▸ looks_settleAt _ _
  · exact some.inj isNext ▸ looks_collect _ _ _
  · exact some.inj isNext ▸ looks_awaitTags _ _
  · rw [← some.inj isNext, evaluate]
    split <;> exact .of_idle rfl
  · exact some.inj isNext ▸ .of_idle (idle_acted acted_act)
  · rw [← some.inj isNext]
    cases exchange.state.anonymousResponse <;> exact .of_idle rfl
  · next isAt => exact some.inj isNext ▸ looks_sweep isAt
  · next isAt =>
    rw [Reads, isAt] at reads
    exact some.inj isNext ▸ looks_ready isAt reads.1 reads.2
  · next index _ isAt =>
    have isChecked : exchange.checked = exchange.state.armedRules.take index := by
      rw [checked, isAt]
    rw [← some.inj isNext, sweepEvaluate]
    split <;> exact .of_goto isChecked.symm rfl trivial
  · next isAt => exact some.inj isNext ▸ looks_sweepAct isAt sweepActed_sweepAct
  · next isAt => exact some.inj isNext ▸ looks_decide isAt
  · split at isNext <;> cases isNext
    exact .of_idle rfl
  · next pending _ =>
    cases pending with
    | exchange =>
      cases isNext
      exact .of_idle rfl
    | future =>
      rw [finish] at isNext
      split at isNext
      · cases isNext
      · split at isNext <;> cases isNext
        exact .of_idle rfl
  · cases isNext

/-! ## Tokens to come -/

/-- Since the future was last found pending no token has been taken: whatever
has completed since then has its token to come or in the channel. -/
def Unanswered (actions : List LiveAction) (exchange : Exchange) (future : Nat) : Prop :=
  ∃ earlier later, actions = earlier ++ later ∧
    (exchange.state.resolved future = true → .complete future ∈ later) ∧
    ∀ other, .complete other ∈ later → exchange.state.sent other = true →
      exchange.state.wake = true

variable {actions : List LiveAction} {future : Nat}

theorem Unanswered.of_unresolved (unresolved : exchange.state.resolved future = false) :
    Unanswered actions exchange future := by
  refine ⟨actions, [], (append_nil _).symm, ?_, ?_⟩
  · intro isResolved
    cases unresolved.symm.trans isResolved
  · nofun

theorem Unanswered.extend (unanswered : Unanswered actions exchange future)
    (resolved : after.state.resolved future = true →
      exchange.state.resolved future = true ∨ action = .complete future)
    (sent : ∀ other, after.state.sent other = true → after.state.wake = true ∨
      exchange.state.sent other = true ∧ after.state.wake = exchange.state.wake ∧
        action ≠ .complete other) : Unanswered (actions ++ [action]) after future := by
  rcases unanswered with ⟨earlier, later, rfl, completes, answered⟩
  refine ⟨earlier, later ++ [action], append_assoc _ _ _, ?_, ?_⟩
  · intro isResolved
    rcases resolved isResolved with wasResolved | rfl
    · exact mem_append_left _ (completes wasResolved)
    · exact mem_concat_self
  · intro other member isSent
    rcases sent other isSent with isAwake | ⟨wasSent, sameWake, isOther⟩
    · exact isAwake
    rcases mem_append.mp member with wasMember | isLast
    · exact sameWake.trans (answered other wasMember wasSent)
    · exact absurd (mem_singleton.mp isLast).symm isOther

/-- The walk waits only for what can still wake it. -/
structure Heard (actions : List LiveAction) (exchange : Exchange) : Prop where
  checked : ∀ armed ∈ exchange.checked, ∃ future ∈ armed.futures,
    Unanswered actions exchange future
  awaited : ∀ future, exchange.awaited = some future → Unanswered actions exchange future
  reads : exchange.Reads
  sent : ∀ future, exchange.state.sent future = true → exchange.state.resolved future = true

theorem Starts.heard (starts : Starts query exchange) : Heard [] exchange := by
  cases starts with
  | sync | async =>
    refine ⟨fun _ member => ?_, fun _ isAwaited => ?_, trivial, fun _ isSent => ?_⟩
    · cases member
    · cases isAwaited
    · cases isSent

theorem Continues.resolved (continues : exchange.Continues after)
    (isResolved : after.state.resolved future = true) : exchange.state.resolved future = true := by
  cases continues with
  | on _ kept => exact kept.resolved ▸ isResolved
  | nest => cases isResolved

theorem Continues.sent (continues : exchange.Continues after)
    (isSent : after.state.sent future = true) :
    exchange.state.sent future = true ∧ after.state.resolved = exchange.state.resolved := by
  cases continues with
  | on _ kept => exact ⟨kept.sent ▸ isSent, kept.resolved⟩
  | nest => cases isSent

section

variable (heard : Heard actions exchange)
include heard

theorem Heard.walk {disabled : Nat → Bool} (looks : exchange.Looks after)
    (continues : exchange.Continues after) : Heard (actions ++ [.walk disabled]) after := by
  have unresolved {future : Nat} (isPending : exchange.state.resolved future = false) :
      after.state.resolved future = false := by
    apply eq_false_iff.mpr
    intro isResolved
    rw [continues.resolved isResolved] at isPending
    cases isPending
  refine ⟨?_, ?_, looks.reads, ?_⟩
  · intro armed member
    rcases looks.checked armed member with ⟨wasChecked, sameWake⟩ | ⟨future, isBound, isPending⟩
    · rcases heard.checked armed wasChecked with ⟨future, isBound, unanswered⟩
      refine ⟨future, isBound, unanswered.extend ?_ ?_⟩
      · exact fun isResolved => .inl (continues.resolved isResolved)
      · intro _ isSent
        refine .inr ⟨(continues.sent isSent).1, sameWake, ?_⟩
        nofun
    · exact ⟨future, isBound, .of_unresolved (unresolved isPending)⟩
  · intro future isAwaited
    exact .of_unresolved (unresolved (looks.awaited future isAwaited))
  · intro future isSent
    rcases continues.sent isSent with ⟨wasSent, sameResolved⟩
    rw [sameResolved]
    exact heard.sent future wasSent

theorem Heard.change {futures : List Future} {wake : Bool}
    (isAfter : after = { exchange with state := { exchange.state with futures, wake } })
    (extends_ : ∀ {future}, Unanswered actions exchange future →
      Unanswered (actions ++ [action]) after future)
    (sent : ∀ future, after.state.sent future = true → after.state.resolved future = true) :
    Heard (actions ++ [action]) after := by
  subst isAfter
  refine ⟨?_, ?_, heard.reads, sent⟩
  · intro armed member
    rcases heard.checked armed member with ⟨future, isBound, unanswered⟩
    exact ⟨future, isBound, extends_ unanswered⟩
  · intro future isAwaited
    exact extends_ (heard.awaited future isAwaited)

theorem Heard.complete (completed : exchange.complete done = some after) :
    Heard (actions ++ [.complete done]) after := by
  have unsent := unsent_of_complete completed heard.sent
  have sameSent := sent_complete completed
  rcases complete_cases completed with ⟨_, -, -, rfl⟩
  apply heard.change rfl
  · intro future unanswered
    apply unanswered.extend
    · intro isResolved
      rcases (resolved_complete completed).mp isResolved with rfl | wasResolved
      · exact .inr rfl
      · exact .inl wasResolved
    · intro _ isSent
      rw [sameSent] at isSent
      refine .inr ⟨isSent, rfl, ?_⟩
      rintro ⟨⟩
      cases unsent.symm.trans isSent
  · intro future isSent
    rw [sameSent] at isSent
    exact (resolved_complete completed).mpr (.inr (heard.sent future isSent))

theorem Heard.send
    (sent : exchange.send done = some after) : Heard (actions ++ [.send done]) after := by
  have sameResolved := resolved_send sent
  rcases send_cases sent with ⟨_, -, -, -, rfl⟩
  apply heard.change rfl
  · intro future unanswered
    apply unanswered.extend
    · intro isResolved
      exact .inl (sameResolved ▸ isResolved)
    · intro _ _
      exact .inl rfl
  · intro future isSent
    rw [sameResolved]
    rcases sent_send sent isSent with wasSent | isResolved
    · exact heard.sent future wasSent
    · exact isResolved

theorem Heard.next
    (isNext : exchange.live router action = some after) : Heard (actions ++ [action]) after := by
  cases action with
  | walk => exact heard.walk (looks_walk heard.reads isNext) (continues_walk isNext)
  | complete future => exact heard.complete isNext
  | send => exact heard.send isNext
  | cancel =>
    rcases cancel_cases isNext with ⟨-, rfl⟩
    refine ⟨fun _ member => ?_, fun _ isAwaited => ?_, trivial, heard.sent⟩
    · cases member
    · cases isAwaited

end

theorem Heard.of_run {start : Exchange} (starts : Starts query start)
    (run : Run (fun before action after => before.live router action = some after) start actions
      exchange) : Heard actions exchange :=
  run.invariant Heard (Starts.heard starts) fun heard isNext => heard.next isNext

end Exchange

/-! ## The exchange does not stay blocked -/

private theorem exists_last {Value : Type} {is : Value → Prop} {values : List Value}
    (isThere : ∃ value ∈ values, is value) :
    ∃ earlier last later, values = earlier ++ last :: later ∧ is last ∧
      ∀ other ∈ later, ¬is other := by
  induction values with
  | nil =>
    rcases isThere with ⟨value, member, -⟩
    cases member
  | cons first rest induction =>
    by_cases isLater : ∃ value ∈ rest, is value
    · rcases induction isLater with ⟨earlier, last, later, rfl, isLast, noneLater⟩
      exact ⟨first :: earlier, last, later, rfl, isLast, noneLater⟩
    refine ⟨[], first, rest, rfl, ?_, fun other member isOther => isLater ⟨other, member, isOther⟩⟩
    rcases isThere with ⟨value, member, isValue⟩
    rcases mem_cons.mp member with rfl | member
    · exact isValue
    · exact absurd ⟨value, member, isValue⟩ isLater

namespace Exchange

variable {router : Router} {exchange : Exchange} {actions : List LiveAction} {future : Nat}

/-- What a blocked exchange waits for has arrived. -/
def Arrived (exchange : Exchange) : Prop :=
  (∃ future, exchange.position = .blocked (.await future) ∧
      exchange.state.resolved future = true) ∨
    ∃ suspension, exchange.position = .blocked suspension ∧
      ∃ armed ∈ exchange.state.armedRules, ∀ future ∈ armed.futures,
        exchange.state.resolved future = true

theorem Heard.unsent_of_await (heard : Heard actions exchange)
    (isBlocked : exchange.position = .blocked (.await future))
    (isResolved : exchange.state.resolved future = true) :
    exchange.state.wake = true ∨ exchange.state.sent future = false := by
  have isAwaited : exchange.awaited = some future := by
    rw [Exchange.awaited, isBlocked]
  rcases heard.awaited future isAwaited with ⟨_, _, -, completes, answered⟩
  cases isSent : exchange.state.sent future with
  | false => exact .inr rfl
  | true => exact .inl (answered future (completes isResolved) isSent)

/-- The callback that has resolved the last future of an armed rule is not over. -/
theorem Heard.unsent_of_ready (heard : Heard actions exchange) {suspension : Suspension}
    (isBlocked : exchange.position = .blocked suspension) {armed : ArmedRule}
    (isArmed : armed ∈ exchange.state.armedRules)
    (areResolved : ∀ future ∈ armed.futures, exchange.state.resolved future = true) :
    exchange.state.wake = true ∨
      ∃ future ∈ armed.futures, exchange.state.sent future = false ∧
        ∃ earlier later, actions = earlier ++ .complete future :: later ∧
          ∀ other ∈ armed.futures, .complete other ∉ later := by
  have isChecked : armed ∈ exchange.checked := by
    rw [Exchange.checked, isBlocked]
    exact isArmed
  rcases heard.checked armed isChecked with
    ⟨future, isBound, earlier, later, rfl, completes, answered⟩
  let completesBound (action : LiveAction) : Prop :=
    ∃ future ∈ armed.futures, action = .complete future
  have isThere : ∃ action ∈ later, completesBound action :=
    ⟨.complete future, completes (areResolved future isBound), future, isBound, rfl⟩
  rcases exists_last isThere with ⟨before, _, behind, rfl, ⟨last, isLast, rfl⟩, noneBehind⟩
  cases isSent : exchange.state.sent last with
  | true => exact .inl (answered last (mem_append_right _ mem_cons_self) isSent)
  | false =>
    refine .inr ⟨last, isLast, isSent, earlier ++ before, behind, (append_assoc _ _ _).symm, ?_⟩
    intro other isOther member
    exact noneBehind _ member ⟨other, isOther, rfl⟩

variable {suspension : Suspension} (isBlocked : exchange.position = .blocked suspension)
include isBlocked

theorem walk_of_wake (isAwake : exchange.state.wake = true) (disabled : Nat → Bool) :
    (exchange.live router (.walk disabled)).isSome = true := by
  rw [live, walk, isBlocked]
  simp [isAwake]

theorem send_of_unsent (isResolved : exchange.state.resolved future = true)
    (notSent : exchange.state.sent future = false) :
    ∃ after, exchange.live router (.send future) = some after ∧
      after.position = .blocked suspension ∧ after.state.wake = true := by
  rcases WalkState.resolved_iff.mp isResolved with ⟨finished, isFinished, isDone⟩
  have isPending : finished.sent = false := by
    rw [WalkState.sent, isFinished] at notSent
    exact notSent
  rw [live, send, isFinished]
  simp [isDone, isPending, isBlocked]

/-- A token or a send that is still to come unblocks the exchange. -/
theorem unblocks (wakes : exchange.state.wake = true ∨
      ∃ future, exchange.state.resolved future = true ∧ exchange.state.sent future = false)
    (disabled : Nat → Bool) :
    (exchange.live router (.walk disabled)).isSome = true ∨
      ∃ future after, exchange.live router (.send future) = some after ∧
        (after.live router (.walk disabled)).isSome = true := by
  rcases wakes with isAwake | ⟨future, isResolved, notSent⟩
  · exact .inl (walk_of_wake isBlocked isAwake disabled)
  · rcases send_of_unsent isBlocked isResolved notSent with ⟨after, isSend, isBlocked, isAwake⟩
    exact .inr ⟨future, after, isSend, walk_of_wake isBlocked isAwake disabled⟩

end Exchange

theorem wake_up_not_lost {router : Router} {query : Query} {start exchange : Exchange}
    {actions : List LiveAction} (starts : Starts query start)
    (run : Run (fun before action after => before.live router action = some after) start actions
      exchange) :
    (∀ future, exchange.position = .blocked (.await future) →
      exchange.state.resolved future = true →
      exchange.state.wake = true ∨ exchange.state.sent future = false) ∧
    (∀ suspension, exchange.position = .blocked suspension →
      ∀ armed ∈ exchange.state.armedRules,
        (∀ future ∈ armed.futures, exchange.state.resolved future = true) →
        exchange.state.wake = true ∨
          ∃ future ∈ armed.futures, exchange.state.sent future = false ∧
            ∃ earlier later, actions = earlier ++ .complete future :: later ∧
              ∀ other ∈ armed.futures, .complete other ∉ later) ∧
    (exchange.Arrived → ∀ disabled,
      (exchange.live router (.walk disabled)).isSome = true ∨
        ∃ future after, exchange.live router (.send future) = some after ∧
          (after.live router (.walk disabled)).isSome = true) := by
  have heard := Exchange.Heard.of_run starts run
  refine ⟨?_, ?_, ?_⟩
  · intro future isBlocked isResolved
    exact heard.unsent_of_await isBlocked isResolved
  · intro suspension isBlocked armed isArmed areResolved
    exact heard.unsent_of_ready isBlocked isArmed areResolved
  · rintro (⟨future, isBlocked, isResolved⟩ | ⟨_, isBlocked, _, isArmed, areResolved⟩)
      disabled
    · apply Exchange.unblocks isBlocked
      rcases heard.unsent_of_await isBlocked isResolved with isAwake | notSent
      · exact .inl isAwake
      · exact .inr ⟨future, isResolved, notSent⟩
    · apply Exchange.unblocks isBlocked
      rcases heard.unsent_of_ready isBlocked isArmed areResolved with isAwake |
        ⟨future, isBound, notSent, -⟩
      · exact .inl isAwake
      · exact .inr ⟨future, areResolved future isBound, notSent⟩

def drainingActions : List LiveAction :=
  replicate 18 (.walk fun _ => false) ++ [.complete 0]

theorem wake_up_not_lost_draining :
    ∃ exchange, Run (fun before action after => before.live raceRouter action = some after)
        (exchangeWithRules sampleQuery) drainingActions exchange ∧
      exchange.position = .blocked .drain ∧ exchange.Arrived ∧
      ((exchange.live raceRouter (.walk fun _ => false)).isSome = true ∨
        ∃ future after, exchange.live raceRouter (.send future) = some after ∧
          (after.live raceRouter (.walk fun _ => false)).isSome = true) := by
  have run : ∃ exchange, Run (fun before action after => before.live raceRouter action = some after)
        (exchangeWithRules sampleQuery) drainingActions exchange ∧
      exchange.position = .blocked .drain ∧
      (exchange.state.armedRules.map ArmedRule.futures).head? = some [0] ∧
      exchange.state.resolved 0 = true :=
    ⟨_, Run.of_execute rfl, rfl, rfl, rfl⟩
  rcases run with ⟨exchange, run, isBlocked, isArmed, isResolved⟩
  have arrived : exchange.Arrived := by
    rcases mem_map.mp (mem_of_head? isArmed) with ⟨armed, member, isBound⟩
    refine .inr ⟨.drain, isBlocked, armed, member, ?_⟩
    intro _ isFuture
    rw [isBound] at isFuture
    rw [mem_singleton.mp isFuture]
    exact isResolved
  exact ⟨exchange, run, isBlocked, arrived, (wake_up_not_lost .sync run).2.2 arrived _⟩

end SingBox.Dns
