import SingBox.Dns.RaceLog

/-! # Rules in their turn

What the walk does with a rule in its turn is a step of the fence of its race
rules: it passes, skips or arms the rule, launches an exchange, or commits when
nothing is armed.
-/

namespace SingBox.Dns

open Route List Bool

/-- A race rule binds a response. -/
def RaceBound (rules : List DNSRule) : Prop :=
  ∀ rule ∈ rules, rule.race = true → Exchange.hasBindings rule = true

section

variable {rules : List DNSRule} {index : Nat} {rule : DNSRule}

variable (isRule : rules[index]? = some rule)
include isRule

theorem races_of_rule : races rules index = rule.race := by
  rw [races, isRule]
  rfl

theorem waits_of_rule : waits rules index = rule.waits := by
  rw [waits, isRule]
  rfl

end

namespace Placed

variable {rules : List DNSRule} {exchange after : Exchange}

section

variable (placed : Placed rules exchange)
include placed

variable {position : Position}

theorem of_at (isAt : exchange.position = position) : position.Placed rules exchange.state :=
  isAt ▸ placed.position

theorem move (position : after.position.Placed rules after.state)
    (sameArmed : after.state.armedRules = exchange.state.armedRules)
    (sameTerminal : after.state.terminalFuture = exchange.state.terminalFuture)
    (sameIndex : after.state.terminalIndex = exchange.state.terminalIndex) :
    Placed rules after where
  position := position
  armed := by
    rw [sameArmed]
    exact placed.armed
  terminal := by
    rw [sameTerminal, sameIndex]
    exact placed.terminal

theorem goto (isPlaced : position.Placed rules exchange.state) :
    Placed rules (exchange.goto position) :=
  placed.move isPlaced rfl rfl rfl

theorem nextRule : Placed rules exchange.nextRule :=
  placed.move trivial rfl rfl rfl

theorem return_ (result : ExchangeResult) : Placed rules (exchange.return_ result) :=
  placed.move trivial rfl rfl rfl

theorem suspend (suspension : Suspension)
    (drained : suspension.phase ≠ .walking → exchange.state.armedRules = []) :
    Placed rules (exchange.suspend suspension) := by
  rcases exchange.suspend_cases suspension with isState | ⟨_, _, _, isState⟩
  · rw [isState]
    exact placed.move drained rfl rfl rfl
  · rw [isState]
    exact placed.move trivial rfl rfl rfl

end

theorem fresh (nested : Query) (launches : Nat) (frames : List Frame) :
    Placed rules
      { query := nested
        state := { effectiveOptions := nested.options }
        launches := launches
        frames := frames
        async := false } where
  position := trivial
  armed _ member := by cases member
  terminal _ isTerminal := by cases isTerminal

end Placed

namespace Exchange

variable {router : Router} {exchange after : Exchange} {log : List WalkEvent} {rule : DNSRule}
  {position : Position}

theorem silent_of_at (router : Router) (log : List WalkEvent) (isAt : exchange.position = position)
    (isSilent : ∀ after, events router { exchange with position } log after = []) :
    ∀ after, exchange.events router log after = [] := by
  subst isAt
  exact isSilent

/-- The fence of a walk that is at a rule or between two rules. -/
def standing (exchange : Exchange) (log : List WalkEvent) : Fence Nat where
  index := exchange.state.ruleIndex
  armed := exchange.state.armedRules.map ArmedRule.entry
  speculative := exchange.state.terminalFuture.map fun _ => exchange.state.terminalIndex
  log := log

theorem fence_eq_standing (isAt : exchange.position = position) (notAhead : position.ahead = 0)
    (noneTaken : position.taken = none) (isWalking : position.phase = .walking) :
    exchange.fence log = exchange.standing log := by
  rw [fence, isAt, notAhead, noneTaken, isWalking]
  rfl

abbrev Steps (router : Router) (log : List WalkEvent) (exchange : Exchange) (fence : Fence Nat) :
    Prop :=
  (exchange.fence log).Step (races router.rules) (waits router.rules)
    (fun future => exchange.state.resolved future = true) fence

/-- A step of the walk is a step of its fence. -/
inductive Follows (router : Router) (log : List WalkEvent) (exchange : Exchange) : Exchange → Prop
  | on {after : Exchange} :
    after.frames.length = exchange.frames.length →
    Placed router.rules after →
    exchange.Steps router log (after.fence (log ++ exchange.events router log after)) →
    Follows router log exchange after
  | nest {after : Exchange} (nested : Query) (frame : Frame) :
    after = exchange.nest nested frame →
    exchange.Steps router log { phase := .over, log := log ++ exchange.events router log after } →
    Follows router log exchange after

section

variable (sameFrames : after.frames.length = exchange.frames.length)
include sameFrames

variable (placed : Placed router.rules after)
include placed

theorem Follows.silent (silent : exchange.events router log after = [])
    (step : exchange.Steps router log (after.fence log)) : Follows router log exchange after := by
  apply Follows.on sameFrames placed
  rw [silent, append_nil]
  exact step

theorem Follows.stay (silent : exchange.events router log after = [])
    (same : after.fence log = exchange.fence log) : Follows router log exchange after := by
  apply Follows.silent sameFrames placed silent
  rw [same]
  exact .stay

end

/-! ## Positions after a step -/

theorem commits_of_phase (notWalking : after.position.phase ≠ .walking) :
    exchange.commits after = true := by
  rw [commits, or_eq_true]
  exact .inl (bne_iff_ne.mpr notWalking)

theorem commits_of_frames (notSame : after.frames.length ≠ exchange.frames.length) :
    exchange.commits after = true := by
  rw [commits, or_eq_true]
  exact .inr (bne_iff_ne.mpr notSame)

theorem commits_eq_false (isWalking : after.position.phase = .walking)
    (sameFrames : after.frames.length = exchange.frames.length) :
    exchange.commits after = false := by
  rw [commits, isWalking, sameFrames]
  simp

variable (suspension : Suspension)

theorem fence_suspend :
    (exchange.suspend suspension).fence log =
      { exchange.standing log with phase := suspension.phase } := by
  rcases exchange.suspend_cases suspension with isState | ⟨_, _, rfl, isState⟩ <;> rw [isState] <;>
    rfl

theorem phase_suspend : (exchange.suspend suspension).position.phase = suspension.phase := by
  have isFence : (exchange.suspend suspension).fence [] = _ := fence_suspend suspension
  exact congrArg Fence.phase isFence

theorem launches_suspend : (exchange.suspend suspension).launches = exchange.launches := by
  rcases exchange.suspend_cases suspension with isState | ⟨_, _, _, isState⟩ <;> rw [isState]

/-! ## Steps of the rule loop -/

section

variable (isFence : exchange.fence log = exchange.standing log)
  (notRace : races router.rules exchange.state.ruleIndex = false)
  (notWaiting : waits router.rules exchange.state.ruleIndex = false)
  (isDrained : exchange.state.armedRules = [])
include isFence notRace notWaiting isDrained

theorem step_commit {fence : Fence Nat} (notWalking : fence.phase ≠ .walking)
    (notLaunched : fence.phase = .finishing → exchange.state.terminalFuture = none ∨
      exchange.state.terminalIndex ≠ exchange.state.ruleIndex)
    (isLog : fence.log = log ++ [.committed exchange.state.ruleIndex]) :
    exchange.Steps router log fence := by
  rw [Steps, isFence]
  apply Fence.Step.commit rfl notRace notWaiting
  · rw [standing, isDrained]
    rfl
  · rfl
  · exact notWalking
  · intro isFinishing isSpeculative
    rcases Option.map_eq_some_iff.mp isSpeculative with ⟨_, isTerminal, isHere⟩
    rcases notLaunched isFinishing with isNone | isElsewhere
    · cases isNone.symm.trans isTerminal
    · exact isElsewhere isHere
  · exact isLog

theorem follows_commit (placed : Placed router.rules after)
    (sameFrames : after.frames.length = exchange.frames.length)
    (told : exchange.events router log after = [.committed exchange.state.ruleIndex])
    (notWalking : after.position.phase ≠ .walking)
    (notLaunched : after.position.phase = .finishing → exchange.state.terminalFuture = none ∨
      exchange.state.terminalIndex ≠ exchange.state.ruleIndex) :
    Follows router log exchange after := by
  refine .on sameFrames placed ?_
  rw [told]
  exact step_commit isFence notRace notWaiting isDrained notWalking notLaunched rfl

theorem follows_return (placed : Placed router.rules exchange) (result : ExchangeResult)
    (told : exchange.events router log (exchange.return_ result) =
      [.committed exchange.state.ruleIndex]) :
    Follows router log exchange (exchange.return_ result) := by
  apply follows_commit isFence notRace notWaiting isDrained (placed.return_ result) rfl told
  · intro isWalking
    cases isWalking
  · intro isFinishing
    cases isFinishing

end

theorem phase_suspend_pending (pending : PendingExchange) :
    (exchange.suspend (.pending pending)).position.phase ≠ .walking := by
  rw [phase_suspend]
  cases pending <;> exact nofun

theorem follows_goto {before : Position} (placed : Placed router.rules exchange)
    (isAt : exchange.position = before) (isPlaced : position.Placed router.rules exchange.state)
    (silent : exchange.events router log (exchange.goto position) = [])
    (same : (position.ahead, position.taken, position.phase) =
      (before.ahead, before.taken, before.phase)) :
    Follows router log exchange (exchange.goto position) := by
  rw [Prod.mk.injEq, Prod.mk.injEq, ← isAt] at same
  rcases same with ⟨sameAhead, sameTaken, samePhase⟩
  refine .stay rfl (placed.goto isPlaced) silent ?_
  rw [fence, fence, ← sameAhead, ← sameTaken, ← samePhase]
  rfl

theorem events_visit (isAt : exchange.position = .visit) :
    exchange.events router log after =
      if exchange.commits after then [.committed exchange.state.ruleIndex]
      else if router.rules[exchange.state.ruleIndex]?.isSome &&
          router.disabled exchange.state.ruleIndex then
        [.skipped exchange.state.ruleIndex]
      else [] := by
  rw [events, isAt]

theorem follows_visit (isBound : RaceBound router.rules) (placed : Placed router.rules exchange)
    (isAt : exchange.position = .visit) : Follows router log exchange (exchange.visit router) := by
  have isFence : exchange.fence log = exchange.standing log :=
    fence_eq_standing isAt rfl rfl rfl
  rw [visit]
  split
  · next isEnd =>
    rw [whenDrained]
    split
    · next isDrained =>
      have isDrained := isEmpty_iff.mp isDrained
      apply follows_commit isFence (by rw [races, isEnd]; rfl) (by rw [waits, isEnd]; rfl) isDrained
        (placed.suspend _ fun _ => isDrained) (congrArg length (suspend_frames _))
      · rw [events_visit isAt, if_pos (commits_of_phase (phase_suspend_pending _))]
      · exact phase_suspend_pending _
      · intro _
        cases isTerminal : exchange.state.terminalFuture with
        | none => exact .inl rfl
        | some future =>
          rcases placed.terminal future isTerminal with ⟨rule, _, _, _, isRule, _⟩
          refine .inr fun isHere => ?_
          rw [isHere, isEnd] at isRule
          cases isRule
    · apply Follows.stay (congrArg length (suspend_frames _))
      · exact placed.suspend _ fun notWalking => absurd rfl notWalking
      · rw [events_visit isAt, commits_eq_false (phase_suspend _)
          (congrArg length (suspend_frames _)), isEnd]
        rfl
      · rw [fence_suspend, isFence]
        rfl
  · next rule isRule =>
    have silent (position : Position) (isWalking : position.phase = .walking)
        (isEnabled : router.disabled exchange.state.ruleIndex = false) :
        exchange.events router log (exchange.goto position) = [] := by
      have notCommits : exchange.commits (exchange.goto position) = false :=
        commits_eq_false isWalking rfl
      rw [events_visit isAt, notCommits, isRule, isEnabled]
      rfl
    split
    · next isDisabled =>
      have notCommits : exchange.commits exchange.nextRule = false := commits_eq_false rfl rfl
      refine .on rfl placed.nextRule ?_
      rw [events_visit isAt, notCommits, isRule, isDisabled, Steps, isFence]
      exact .skip rfl
    · next isEnabled =>
      rw [not_eq_true] at isEnabled
      split
      · exact follows_goto placed isAt isRule (silent _ rfl isEnabled) rfl
      next notBound =>
      have notRace : rule.race = false := by
        apply eq_false_iff.mpr
        intro isRace
        exact notBound (isBound rule (mem_of_getElem? isRule) isRace)
      exact follows_goto placed isAt ⟨isRule, notRace⟩ (silent _ rfl isEnabled) rfl

theorem follows_settleAt {caller : Caller} {position : Nat}
    (placed : Placed router.rules exchange) (isAt : exchange.position = .settle caller position) :
    Follows router log exchange (exchange.settleAt caller position) := by
  have isPlaced := placed.of_at isAt
  have silent := silent_of_at router log isAt fun _ => rfl
  unfold settleAt
  split
  · rcases exchange.state.settle_cases position with ⟨isState, _⟩ | ⟨_, _, _, _, _, isState, _⟩
    all_goals
      rw [isState]
      refine .stay rfl ?_ (silent _) ?_
      · exact placed.move (by cases caller <;> exact isPlaced) rfl rfl rfl
      · rw [fence, fence, isAt]
        rfl
  · split
    · next =>
      split
      · next isRace =>
        refine follows_goto placed isAt ⟨isPlaced, isRace, [], rfl, ?_⟩ (silent _) rfl
        nofun
      · next notRace =>
        exact follows_goto placed isAt ⟨isPlaced, eq_false_iff.mpr notRace⟩ (silent _) rfl
    · next => exact follows_goto placed isAt isPlaced (silent _) rfl

theorem pending_or_resolved {state : WalkState} {found : Option Nat} {future : Nat}
    (isFound : found = some future) :
    future ∈ (state.pendingFuture found).toList ∨ state.resolved future = true := by
  cases isResolved : state.resolved future with
  | true => exact .inr rfl
  | false =>
    rw [isFound, Option.mem_toList, WalkState.pendingFuture]
    exact .inl (Option.filter_eq_some_iff.mpr ⟨rfl, by rw [isResolved]; rfl⟩)

theorem covers_armedFutures {pending : List Nat}
    (collected : exchange.state.Collected rule [] pending) :
    ∀ future ∈ exchange.state.bound rule, future ∈ exchange.armedFutures rule pending ∨
      exchange.state.resolved future = true := by
  rcases collected with ⟨_, isSeen, covers⟩
  rw [append_nil] at isSeen
  intro future member
  rw [WalkState.bound, mem_append] at member
  rcases member with isTagged | isAnonymous
  · rcases mem_filterMap.mp isTagged with ⟨tag, isTag, isFuture⟩
    exact (covers tag (isSeen ▸ isTag) future isFuture).imp_left (mem_append_left _)
  · exact (pending_or_resolved (Option.mem_toList.mp isAnonymous)).imp_left (mem_append_right _)

section

variable (placed : Placed router.rules exchange)
include placed

variable {pending : List Nat} {tags : List String}

theorem follows_arm (isAt : exchange.position = .collect rule [] pending) :
    Follows router log exchange (exchange.arm rule pending) := by
  rcases placed.of_at isAt with ⟨isRule, isRace, collected⟩
  have isEvent (after : Exchange) : exchange.events router log after =
      [.armed exchange.state.ruleIndex (exchange.state.bound rule)] := by
    rw [events, isAt]
  rcases exchange.arm_cases rule pending with ⟨armed, isIndex, isArmed, areFutures, isAfter⟩
  have isEntry : armed.entry = ⟨exchange.state.ruleIndex, exchange.armedFutures rule pending⟩ := by
    rw [ArmedRule.entry, isIndex, areFutures]
  have allPlaced : ∀ other ∈ exchange.state.armedRules ++ [armed],
      router.rules[other.ruleIndex]? = some other.rule ∧ other.rule.race = true := by
    intro other member
    rcases mem_append.mp member with earlier | isLast
    · exact placed.armed other earlier
    · rw [mem_singleton.mp isLast, isIndex, isArmed]
      exact ⟨isRule, isRace⟩
  have isStep : exchange.Steps router log { exchange.standing log with
        index := exchange.state.ruleIndex + 1
        armed := (exchange.state.armedRules ++ [armed]).map ArmedRule.entry
        log := log ++ [.armed exchange.state.ruleIndex (exchange.state.bound rule)] } := by
    rw [Steps, fence_eq_standing isAt rfl rfl rfl, map_append, map_singleton, isEntry]
    exact .arm _ _ rfl (covers_armedFutures collected)
  rcases isAfter with isAfter | isAfter
  all_goals
    rw [isAfter]
    refine .on rfl ⟨trivial, allPlaced, placed.terminal⟩ ?_
    rw [isEvent]
    exact isStep

theorem follows_collect (isAt : exchange.position = .collect rule tags pending) :
    Follows router log exchange (exchange.collect rule pending tags) := by
  cases tags with
  | nil => exact follows_arm placed isAt
  | cons tag =>
    rcases placed.of_at isAt with ⟨isRule, isRace, seen, isSeen, covers⟩
    have silent := silent_of_at router log isAt fun _ => rfl
    refine follows_goto placed isAt ⟨isRule, isRace, seen ++ [tag], ?_, ?_⟩ (silent _) rfl
    · rw [isSeen, append_assoc]
      rfl
    · intro other member future isFuture
      rcases mem_append.mp member with earlier | isLast
      · exact (covers other earlier future isFuture).imp_left (mem_append_left _)
      · cases mem_singleton.mp isLast
        exact (pending_or_resolved isFuture).imp_left (mem_append_right _)

theorem follows_suspend {suspension : Suspension}
    (isFence : exchange.fence log = exchange.standing log) (isWalking : suspension.phase = .walking)
    (silent : exchange.events router log (exchange.suspend suspension) = []) :
    Follows router log exchange (exchange.suspend suspension) := by
  refine .stay (congrArg length (suspend_frames _)) ?_ silent ?_
  · exact placed.suspend _ fun notWalking => absurd isWalking notWalking
  · rw [fence_suspend, isFence, isWalking]
    rfl

theorem follows_awaitTags (isAt : exchange.position = .await rule tags) :
    Follows router log exchange (exchange.awaitTags rule tags) := by
  have isPlaced := placed.of_at isAt
  have silent := silent_of_at router log isAt fun _ => rfl
  cases tags with
  | nil | cons tag tags =>
    rw [awaitTags]
    split
    · exact follows_suspend placed (fence_eq_standing isAt rfl rfl rfl) rfl (silent _)
    · exact follows_goto placed isAt isPlaced (silent _) rfl

theorem follows_pass (isFence : exchange.fence log = exchange.standing log)
    (notRace : races router.rules exchange.state.ruleIndex = false) (options : QueryOptions)
    (anonymous : Option Nat) (silent : exchange.events router log
      { exchange with
        state :=
          { exchange.state with
            effectiveOptions := options
            anonymousFuture := anonymous } }.nextRule = []) :
    Follows router log exchange
      { exchange with
        state :=
          { exchange.state with
            effectiveOptions := options
            anonymousFuture := anonymous } }.nextRule := by
  refine .silent rfl (placed.move trivial rfl rfl rfl) silent ?_
  rw [Steps, isFence]
  exact .pass rfl notRace

theorem follows_evaluate (isAt : exchange.position = .evaluate rule) :
    Follows router log exchange (exchange.evaluate router rule) := by
  have isPlaced := placed.of_at isAt
  have silent := silent_of_at router log isAt fun _ => rfl
  rw [evaluate]
  split
  · exact follows_goto placed isAt isPlaced (silent _) rfl
  · exact follows_pass placed (fence_eq_standing isAt rfl rfl rfl)
      ((races_of_rule isPlaced.1).trans isPlaced.2) _ _ (silent _)

end

/-! ## Actions in their turn -/

section

variable (isAt : exchange.position = .act rule)
include isAt

theorem events_act :
    exchange.events router log after =
      if exchange.commits after then [.committed exchange.state.ruleIndex]
      else if exchange.launches < after.launches then
        [.launched exchange.state.ruleIndex exchange.armedIndices]
      else [] := by
  rw [events, isAt]

variable (isWalking : after.position.phase = .walking)
  (sameFrames : after.frames.length = exchange.frames.length)
include isWalking sameFrames

theorem events_act_silent (sameLaunches : after.launches = exchange.launches) :
    exchange.events router log after = [] := by
  rw [events_act isAt, commits_eq_false isWalking sameFrames, sameLaunches]
  simp

theorem events_act_launched (launches : after.launches = exchange.launches + 1) :
    exchange.events router log after =
      [.launched exchange.state.ruleIndex exchange.armedIndices] := by
  rw [events_act isAt, commits_eq_false isWalking sameFrames, launches]
  simp

end

theorem armedIndices_eq (log : List WalkEvent) :
    exchange.armedIndices = (exchange.standing log).armed.map FenceEntry.task := by
  rw [armedIndices, standing, map_map]
  rfl

variable (placed : Placed router.rules exchange)
include placed

variable {options : RouteOptions} {server : String}

theorem follows_launch {tag : String} {speculative : Bool} (isAt : exchange.position = .act rule)
    (isAction : rule.action = some (.evaluate server tag speculative options))
    (alone : speculative = false → exchange.state.armedRules = []) (transport : Transport)
    (queryOptions : QueryOptions) :
    Follows router log exchange
      (exchange.evaluateAction router tag transport queryOptions).nextRule := by
  rcases placed.of_at isAt with ⟨isRule, notRace⟩
  have isAfter (log : List WalkEvent) :
      (exchange.evaluateAction router tag transport queryOptions).nextRule.fence log =
        { exchange.standing log with index := exchange.state.ruleIndex + 1 } := by
    rw [evaluateAction]
    split <;> rfl
  have launches : (exchange.evaluateAction router tag transport queryOptions).launches =
      exchange.launches + 1 := by
    rw [evaluateAction]
    split <;> rfl
  have sameFrames : (exchange.evaluateAction router tag transport queryOptions).frames.length =
      exchange.frames.length := congrArg length (evaluateAction_frames _ _ _)
  have told : exchange.events router log
      (exchange.evaluateAction router tag transport queryOptions).nextRule =
        [.launched exchange.state.ruleIndex exchange.armedIndices] :=
    events_act_launched isAt rfl sameFrames launches
  refine .on sameFrames ?_ ?_
  · refine placed.move trivial ?_ ?_ ?_ <;>
    · rw [evaluateAction]
      split <;> rfl
  · rw [told, isAfter, Steps, fence_eq_standing isAt rfl rfl rfl, armedIndices_eq log]
    apply Fence.Step.launch rfl ((races_of_rule isRule).trans notRace)
    · intro isSpeculative
      rcases Option.map_eq_some_iff.mp isSpeculative with ⟨future, isTerminal, isHere⟩
      rcases placed.terminal future isTerminal with ⟨_, _, _, _, isOther, isRoute⟩
      have isHere : exchange.state.terminalIndex = exchange.state.ruleIndex := isHere
      rw [isHere, isRule] at isOther
      cases isOther
      cases isAction.symm.trans isRoute
    · intro isWaiting
      have isWaiting : waits router.rules exchange.state.ruleIndex = true := isWaiting
      rw [waits_of_rule isRule, DNSRule.waits, isAction] at isWaiting
      rw [standing, alone (by simpa using isWaiting)]
      rfl

theorem follows_speculate (isAt : exchange.position = .act rule)
    (isAction : rule.action = some (.route server true options))
    (isNone : exchange.state.terminalFuture = none) (transport : Transport)
    (queryOptions : QueryOptions) :
    Follows router log exchange
      ((exchange.speculate router transport queryOptions).suspend .drain) := by
  rcases placed.of_at isAt with ⟨isRule, notRace⟩
  have sameFrames :
      ((exchange.speculate router transport queryOptions).suspend .drain).frames.length =
        exchange.frames.length := congrArg length (suspend_frames _)
  refine .on sameFrames ?_ ?_
  · apply Placed.suspend
    · refine ⟨?_, placed.armed, ?_⟩
      · change exchange.position.Placed _ _
        rw [isAt]
        exact ⟨isRule, notRace⟩
      · intro _ _
        exact ⟨rule, server, true, options, isRule, isAction⟩
    · intro notWalking
      exact absurd rfl notWalking
  · rw [events_act_launched isAt (phase_suspend _) sameFrames (launches_suspend _), fence_suspend,
      Steps, fence_eq_standing isAt rfl rfl rfl, armedIndices_eq log]
    apply Fence.Step.speculate rfl ((races_of_rule isRule).trans notRace)
    · change waits router.rules exchange.state.ruleIndex = false
      rw [waits_of_rule isRule, DNSRule.waits, isAction]
    · rw [standing, isNone]
      rfl

theorem follows_predefined {action : PredefinedAction} {options : QueryOptions} {event : WalkEvent}
    (told : ∀ after, exchange.commits after = true → exchange.events router log after = [event])
    (step : ∀ fence : Fence Nat, fence.phase = .over → fence.log = log ++ [event] →
      exchange.Steps router log fence) :
    Follows router log exchange (exchange.predefined router action options) := by
  rcases exchange.predefined_cases action options with ⟨result, isAfter⟩ | ⟨nested, frame, isAfter⟩
  · rw [isAfter]
    refine .on rfl (placed.return_ result) (step _ rfl ?_)
    have commits : exchange.commits (exchange.return_ result) = true := rfl
    rw [told _ commits]
    rfl
  · rw [isAfter]
    refine .nest nested frame rfl (step _ rfl ?_)
    rw [told _ (commits_of_frames _)]
    · intro same
      have same : exchange.frames.length + 1 = exchange.frames.length := same
      omega

theorem follows_acted (isAt : exchange.position = .act rule)
    (acted : Acted router exchange rule after) : Follows router log exchange after := by
  have isFence : exchange.fence log = exchange.standing log :=
    fence_eq_standing isAt rfl rfl rfl
  rcases placed.of_at isAt with ⟨isRule, notRace⟩
  have notRaces := (races_of_rule isRule).trans notRace
  have drains (suspension : Suspension) (isWalking : suspension.phase = .walking) :
      Follows router log exchange (exchange.suspend suspension) := by
    apply follows_suspend placed isFence isWalking
    exact events_act_silent isAt ((phase_suspend _).trans isWalking)
      (congrArg length (suspend_frames _)) (launches_suspend _)
  cases acted with
  | pass options anonymous =>
    exact follows_pass placed isFence notRaces options anonymous
      (events_act_silent isAt rfl rfl rfl)
  | launch server _ speculative options transport queryOptions isAction alone =>
    exact follows_launch placed isAt isAction alone transport queryOptions
  | drain => exact drains .drain rfl
  | await future => exact drains (.await future) rfl
  | speculate server options transport queryOptions isAction isNone =>
    exact follows_speculate placed isAt isAction isNone transport queryOptions
  | respond isDrained isRespond =>
    exact follows_goto placed isAt ⟨⟨rule, isRule, notRace, isRespond⟩, isDrained⟩
      (events_act_silent isAt rfl rfl rfl) rfl
  | return_ result isDrained notWaiting =>
    apply follows_return isFence notRaces ((waits_of_rule isRule).trans notWaiting) isDrained placed
    rw [events_act isAt]
    exact if_pos rfl
  | pending pending _ _ options isDrained isAction notLaunched =>
    have notWaiting : waits router.rules exchange.state.ruleIndex = false := by
      rw [waits_of_rule isRule, DNSRule.waits, isAction]
    apply follows_commit isFence notRaces notWaiting isDrained
      (placed.suspend _ fun _ => isDrained) (congrArg length (suspend_frames _))
    · rw [events_act isAt]
      exact if_pos (commits_of_phase (phase_suspend_pending _))
    · exact phase_suspend_pending _
    · rw [phase_suspend]
      cases pending with
      | exchange transport options => exact fun _ => notLaunched transport options rfl
      | future =>
        intro isFinishing
        cases isFinishing
  | predefined _ _ isDrained isAction =>
    have notWaiting : waits router.rules exchange.state.ruleIndex = false := by
      rw [waits_of_rule isRule, DNSRule.waits, isAction]
    apply follows_predefined placed
    · intro _ commits
      rw [events_act isAt]
      exact if_pos commits
    · intro _ isOver isLog
      apply step_commit isFence notRaces notWaiting isDrained
      · intro isWalking
        cases isOver.symm.trans isWalking
      · intro isFinishing
        cases isOver.symm.trans isFinishing
      · exact isLog

theorem follows_respond (isAt : exchange.position = .respond) (result : ExchangeResult) :
    Follows router log exchange (exchange.return_ result) := by
  rcases placed.of_at isAt with ⟨⟨_, isRule, notRace, isRespond⟩, isDrained⟩
  have notWaiting : waits router.rules exchange.state.ruleIndex = false := by
    rw [waits_of_rule isRule, DNSRule.waits, isRespond]
  apply follows_return (fence_eq_standing isAt rfl rfl rfl)
    ((races_of_rule isRule).trans notRace) notWaiting isDrained placed
  rw [events, isAt]

end Exchange

end SingBox.Dns
