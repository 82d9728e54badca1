import SingBox.Dns.RaceSweep

/-! # The race barrier

The walk keeps to the fence of its race rules in every run. So when it commits
through a rule in its turn, every enabled race rule before it was armed once and
evaluated when all that it binds was resolved.
-/

namespace SingBox.Dns

open Route Exchange List

variable {rules : List DNSRule} {actions : List LiveAction} {options : List RuleOptions}
  {sets : RuleSets}

theorem raceBound_of_built {lib : SingLib} (built : buildRules lib sets 0 options = .ok rules) :
    RaceBound rules := by
  intro _ member isRace
  rcases newDNSRule_of_mem built member with ⟨_, isRule⟩
  rw [hasBindings, Bool.or_eq_true]
  rcases bound_of_race isRule isRace with isTagged | isAnonymous
  · exact .inl (by simpa using isTagged)
  · exact .inr isAnonymous

theorem Placed.callback {exchange after : Exchange}
    (placed : Placed rules exchange) (samePosition : after.position = exchange.position)
    (isAfter : ∃ futures wake, after.state =
      { exchange.state with futures := futures, wake := wake })
    (more : ∀ future, exchange.state.resolved future = true → after.state.resolved future = true) :
    Placed rules after := by
  rcases isAfter with ⟨futures, _, isState⟩
  have isPlaced := placed.position
  refine placed.move ?_ (by rw [isState]) (by rw [isState]) (by rw [isState])
  rw [samePosition]
  generalize exchange.position = position at isPlaced
  cases position with
  | collect =>
    rcases isPlaced with ⟨isRule, isRace, seen, isSeen, covers⟩
    refine ⟨by rw [isState]; exact isRule, isRace, seen, isSeen, ?_⟩
    intro tag isTag future isFuture
    rw [isState] at isFuture
    exact (covers tag isTag future isFuture).imp id (more future)
  | ready caller index =>
    rcases isPlaced with ⟨isWalking, isArmed, covers⟩
    refine ⟨isWalking, by rw [isState]; exact isArmed, ?_⟩
    exact fun future member => (covers future member).imp id (more future)
  | settle caller position | sweep caller index => cases caller <;> rw [isState] <;> exact isPlaced
  | _ =>
    rw [isState]
    exact isPlaced

structure Watched (rules : List DNSRule) (observed : Observed) : Prop where
  placed : Placed rules observed.exchange
  sound : (observed.exchange.fence observed.log).Sound (races rules) (waits rules)
    fun future => observed.exchange.state.resolved future = true
  past : ∀ log ∈ observed.past, Fence.History (races rules) (waits rules) log

namespace Watched

variable {router : Router} {observed after : Observed} {exchange : Exchange} {query : Query}

theorem observe (isBound : RaceBound router.rules) (watched : Watched router.rules observed)
    (isNext : observed.exchange.walk router = some exchange) :
    Watched router.rules (observed.observe router exchange) := by
  have follows : Exchange.Follows router observed.log observed.exchange exchange :=
    follows_walk isBound watched.placed isNext
  rw [Observed.observe]
  cases follows with
  | on sameFrames placed isStep =>
    rw [if_pos sameFrames]
    refine ⟨placed, (watched.sound.step isStep).mono ?_, watched.past⟩
    intro future isResolved
    cases continues_walk isNext with
    | on _ kept => exact kept.resolved ▸ isResolved
    | nest nested frame =>
      have longer : observed.exchange.frames.length + 1 = observed.exchange.frames.length :=
        sameFrames
      omega
  | nest nested _ isNested isStep =>
    have longer : exchange.frames.length ≠ observed.exchange.frames.length := by
      rw [isNested]
      exact Nat.succ_ne_self _
    rw [if_neg longer]
    refine ⟨?_, ?_, ?_⟩
    · rw [isNested]
      exact .fresh nested _ _
    · rw [isNested]
      exact .start
    · intro log member
      rcases mem_append.mp member with earlier | isLast
      · exact watched.past log earlier
      · rw [mem_singleton.mp isLast]
        exact (watched.sound.step isStep).history

theorem callback (watched : Watched router.rules observed)
    (isAfter : ∃ futures wake, exchange =
      { observed.exchange with
        state := { observed.exchange.state with futures := futures, wake := wake } })
    (more : ∀ future, observed.exchange.state.resolved future = true →
      exchange.state.resolved future = true) :
    Watched router.rules { observed with exchange := exchange } := by
  rcases isAfter with ⟨futures, wake, isAfter⟩
  refine ⟨watched.placed.callback ?_ ⟨futures, wake, ?_⟩ more, ?_, watched.past⟩
  · rw [isAfter]
  · rw [isAfter]
  · have same : exchange.fence observed.log = observed.exchange.fence observed.log := by
      rw [isAfter]
      rfl
    rw [same]
    exact watched.sound.mono more

theorem next (isBound : RaceBound router.rules) (watched : Watched router.rules observed)
    {action : LiveAction} (isNext : observed.next router action = some after) :
    Watched router.rules after := by
  rcases Option.map_eq_some_iff.mp isNext with ⟨_, isLive, rfl⟩
  cases action with
  | walk disabled =>
    have isBound : RaceBound (router.switched disabled).rules := isBound
    exact observe isBound watched isLive
  | complete future =>
    apply watched.callback
    · rcases complete_cases isLive with ⟨_, -, -, rfl⟩
      exact ⟨_, _, rfl⟩
    · intro other isResolved
      exact (resolved_complete isLive).mpr (.inr isResolved)
  | send =>
    apply watched.callback
    · rcases send_cases isLive with ⟨_, -, -, -, rfl⟩
      exact ⟨_, _, rfl⟩
    · intro _ isResolved
      rw [resolved_send isLive]
      exact isResolved
  | cancel =>
    rcases cancel_cases isLive with ⟨-, rfl⟩
    exact ⟨watched.placed.return_ _, watched.sound.step (.close rfl rfl), watched.past⟩

theorem start (starts : Starts query exchange) : Watched router.rules { exchange := exchange } := by
  cases starts with
  | sync | async =>
    refine ⟨⟨trivial, fun _ member => ?_, fun _ isTerminal => ?_⟩, .start, fun _ member => ?_⟩
    · cases member
    · cases isTerminal
    · cases member

theorem of_run (isBound : RaceBound router.rules) {start : Exchange} (starts : Starts query start)
    (run : Run (fun before action after => before.next router action = some after)
      { exchange := start } actions observed) : Watched router.rules observed :=
  run.preserves (.start starts) fun watched isNext => watched.next isBound isNext

theorem history (watched : Watched router.rules observed) {log : List WalkEvent}
    (member : log ∈ observed.log :: observed.past) :
    Fence.History (races router.rules) (waits router.rules) log := by
  rcases mem_cons.mp member with rfl | member
  · exact watched.sound.history
  · exact watched.past log member

end Watched

theorem race_barrier {router : Router} {sets : RuleSets} {options : List RuleOptions}
    (built : buildRules router.lib sets 0 options = .ok router.rules) {query : Query}
    {start : Exchange} (starts : Starts query start) {actions : List LiveAction}
    {observed : Observed}
    (run : Run (fun before action after => before.next router action = some after)
      { exchange := start } actions observed) :
    ∀ log ∈ observed.log :: observed.past,
      (∀ earlier index later, log = earlier ++ .committed index :: later →
        ∀ other < index, races router.rules other = true →
          .skipped other ∈ earlier ∨
            earlier.countP (FenceEvent.arms other) = 1 ∧ .swept other ∉ earlier ∧
              ∃ bound resolved,
                [.armed other bound, .evaluated other resolved].Sublist earlier ∧
                  ∀ future ∈ bound, future ∈ resolved) ∧
      (∀ index armed, .launched index armed ∈ log → waits router.rules index = true →
        armed = []) ∧
      ∀ index, log.countP (FenceEvent.launches index) ≤ 1 := by
  intro _ member
  have history := (Watched.of_run (raceBound_of_built built) starts run).history member
  exact ⟨history.fenced, history.alone, history.launchedOnce⟩

/-- The evaluated exchange fails, so the race rule does not match and the walk
commits through the route behind it. -/
def committingActions : List LiveAction :=
  replicate 18 (.walk fun _ => false) ++ [.complete 0, .send 0] ++
    replicate 13 (.walk fun _ => false)

theorem race_barrier_route :
    ∃ observed : Observed,
      Run (fun (before : Observed) action after => before.next raceRouter action = some after)
        { exchange := exchangeWithRules sampleQuery } committingActions observed ∧
      observed.log = [.launched 0 [], .armed 1 [0], .launched 2 [1], .evaluated 1 [0],
        .committed 2] ∧
      ∀ index, observed.log.countP (FenceEvent.launches index) ≤ 1 := by
  have built : buildRules raceRouter.lib sampleSets 0 raceOptions = .ok raceRouter.rules := rfl
  have executed : (Run.execute (Observed.next raceRouter)
      { exchange := exchangeWithRules sampleQuery } committingActions).map Observed.log =
        some [.launched 0 [], .armed 1 [0], .launched 2 [1], .evaluated 1 [0], .committed 2] := by
    decide +kernel
  rcases Option.map_eq_some_iff.mp executed with ⟨observed, executed, isLog⟩
  have run := Run.of_execute executed
  have barrier := race_barrier built .sync run observed.log mem_cons_self
  exact ⟨observed, run, isLog, barrier.2.2⟩

end SingBox.Dns
