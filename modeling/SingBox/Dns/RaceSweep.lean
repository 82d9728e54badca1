import SingBox.Dns.RaceTurn

/-! # Sweeps over the armed rules

A sweep takes out an armed rule when all its futures are resolved and evaluates
it. With that every step of the walk is a step of its fence.
-/

namespace SingBox.Dns

open Route Option List

namespace Exchange

variable {router : Router} {exchange after : Exchange} {log : List WalkEvent} {rule : DNSRule}

def sweeping (exchange : Exchange) (caller : Caller) (log : List WalkEvent) : Fence Nat :=
  { exchange.standing log with index := exchange.state.ruleIndex + caller.ahead }

variable {caller : Caller}

theorem fence_eq_sweeping {position : Position} (isAt : exchange.position = position)
    (isAhead : position.ahead = caller.ahead) (noneTaken : position.taken = none)
    (isWalking : position.phase = .walking) :
    exchange.fence log = exchange.sweeping caller log := by
  rw [fence, isAt, isAhead, noneTaken, isWalking]
  rfl

theorem placed_sweep {rules : List DNSRule} {index : Nat} {state : WalkState}
    (isWalking : caller.phase = .walking) : (Position.sweep caller index).Placed rules state := by
  cases caller with
  | walk => trivial
  | resume => exact fun notWalking => absurd isWalking notWalking

theorem fence_goto_sweep (index : Nat) (isWalking : caller.phase = .walking) :
    (exchange.goto (.sweep caller index)).fence log = exchange.sweeping caller log :=
  fence_eq_sweeping rfl rfl rfl isWalking

section

variable (placed : Placed router.rules exchange)
include placed

variable {index : Nat} {armed : ArmedRule}

theorem follows_sweep (isAt : exchange.position = .sweep caller index) :
    Follows router log exchange (exchange.sweep caller index) := by
  have isPlaced := placed.of_at isAt
  have silent := silent_of_at router log isAt fun _ => rfl
  unfold sweep
  cases isArmed : exchange.state.armedRules[index]? with
  | some =>
    have isWalking : caller.phase = .walking := by
      cases caller with
      | walk rule => rfl
      | resume suspension =>
        by_contra notWalking
        rw [isPlaced notWalking] at isArmed
        cases isArmed
    exact follows_goto placed isAt ⟨isWalking, isArmed, fun future member => .inl member⟩
      (silent _) rfl
  | none =>
    cases caller with
    | walk =>
      refine .stay rfl placed.nextRule (silent _) ?_
      rw [fence, fence, isAt]
      rfl
    | resume => exact follows_goto placed isAt isPlaced (silent _) rfl

theorem follows_ready_future {future : Nat} {futures : List Nat}
    (isAt : exchange.position = .ready caller index armed (future :: futures)) :
    Follows router log exchange (exchange.ready router caller index armed (future :: futures)) := by
  rcases placed.of_at isAt with ⟨isWalking, isArmed, covers⟩
  have silent := silent_of_at router log isAt fun _ => rfl
  rw [ready]
  split
  · next isResolved =>
    refine follows_goto placed isAt ⟨isWalking, isArmed, ?_⟩ (silent _) rfl
    intro other member
    rcases covers other member with isLeft | isResolved
    · rcases mem_cons.mp isLeft with rfl | isLeft
      · exact .inr isResolved
      · exact .inl isLeft
    · exact .inr isResolved
  · exact follows_goto placed isAt (placed_sweep isWalking) (silent _) rfl

theorem follows_ready_taken (isAt : exchange.position = .ready caller index armed []) :
    Follows router log exchange (exchange.ready router caller index armed []) := by
  rcases placed.of_at isAt with ⟨isWalking, isArmed, covers⟩
  have isFence : exchange.fence log = exchange.sweeping caller log :=
    fence_eq_sweeping isAt rfl rfl isWalking
  have areResolved : ∀ future ∈ armed.futures, exchange.state.resolved future = true := by
    intro future member
    rcases covers future member with isLeft | isResolved
    · cases isLeft
    · exact isResolved
  have isEntry : (exchange.sweeping caller log).armed[index]? = some armed.entry := by
    change (exchange.state.armedRules.map ArmedRule.entry)[index]? = _
    rw [getElem?_map, isArmed]
    rfl
  have allPlaced : ∀ other ∈ exchange.state.armedRules.eraseIdx index,
      router.rules[other.ruleIndex]? = some other.rule ∧ other.rule.race = true :=
    fun other member => placed.armed other (mem_of_mem_eraseIdx member)
  have isErased : (exchange.state.armedRules.eraseIdx index).map ArmedRule.entry =
      (exchange.sweeping caller log).armed.eraseIdx index :=
    (eraseIdx_map _ _ _).symm
  rw [ready]
  split
  · next isDisabled =>
    have told (after : Exchange) :
        exchange.events router log after = [.skipped armed.ruleIndex] := by
      rw [events, isAt]
      exact if_pos isDisabled
    refine .on rfl ⟨placed_sweep isWalking, allPlaced, placed.terminal⟩ ?_
    have isAfter (armedRules : List ArmedRule) (log : List WalkEvent) :
        ({ exchange with
          state := { exchange.state with armedRules := armedRules } }.goto
            (.sweep caller index)).fence log =
          { exchange.sweeping caller log with armed := armedRules.map ArmedRule.entry } :=
      fence_goto_sweep index isWalking
    rw [told, isAfter, Steps, isFence, isErased]
    exact .drop index armed.entry rfl isEntry
  · next isEnabled =>
    have silent (after : Exchange) : exchange.events router log after = [] := by
      rw [events, isAt]
      exact if_neg isEnabled
    have isRace := placed.armed armed (mem_of_getElem? isArmed)
    refine .silent rfl ⟨⟨isWalking, isRace⟩, allPlaced, placed.terminal⟩ (silent _) ?_
    have isAfter (armedRules : List ArmedRule) :
        ({ exchange with
          state := { exchange.state with armedRules := armedRules } }.goto
            (.sweepEvaluate caller index armed)).fence log =
          { exchange.sweeping caller log with
            armed := armedRules.map ArmedRule.entry
            taken := some armed.entry } := by
      change Fence.mk _ _ _ _ caller.phase _ = _
      rw [isWalking]
      rfl
    rw [isAfter, Steps, isFence, isErased]
    exact .take index armed.entry rfl rfl isEntry areResolved

theorem follows_sweepEvaluate (isAt : exchange.position = .sweepEvaluate caller index armed) :
    Follows router log exchange (exchange.sweepEvaluate router caller index armed) := by
  rcases placed.of_at isAt with ⟨isWalking, isRace⟩
  have isFence : exchange.fence log =
      { exchange.sweeping caller log with taken := some armed.entry } := by
    rw [fence, isAt]
    change Fence.mk _ _ _ _ caller.phase _ = _
    rw [isWalking]
    rfl
  have told (after : Exchange) : exchange.events router log after =
      [.evaluated armed.ruleIndex exchange.state.resolvedFutures] := by
    rw [events, isAt]
  have isStep : exchange.Steps router log (exchange.sweeping caller
        (log ++ [.evaluated armed.ruleIndex exchange.state.resolvedFutures])) := by
    rw [Steps, isFence]
    exact .evaluate armed.entry _ rfl rfl
      fun _ isResolved => WalkState.mem_resolvedFutures isResolved
  rw [sweepEvaluate]
  split
  · refine .on rfl (placed.goto ⟨isWalking, isRace⟩) ?_
    rw [told]
    have isAfter (log : List WalkEvent) : (exchange.goto (.sweepAct caller index armed)).fence log =
        exchange.sweeping caller log := fence_eq_sweeping rfl rfl rfl isWalking
    rw [isAfter]
    exact isStep
  · refine .on rfl (placed.goto (placed_sweep isWalking)) ?_
    rw [told, fence_goto_sweep index isWalking]
    exact isStep

theorem follows_sweepActed (isAt : exchange.position = .sweepAct caller index armed)
    (acted : SweepActed router exchange caller index armed after) :
    Follows router log exchange after := by
  rcases placed.of_at isAt with ⟨isWalking, isRule, isRace⟩
  have isFence : exchange.fence log = exchange.sweeping caller log :=
    fence_eq_sweeping isAt rfl rfl isWalking
  have isEvents (after : Exchange) : exchange.events router log after =
      if exchange.commits after then [.swept armed.ruleIndex] else [] := by
    rw [events, isAt]
  have told (after : Exchange) (commits : exchange.commits after = true) :
      exchange.events router log after = [.swept armed.ruleIndex] := by
    rw [isEvents]
    exact if_pos commits
  have isStep (notWaiting : armed.rule.waits = false) (fence : Fence Nat)
      (notWalking : fence.phase ≠ .walking) (isLog : fence.log = log ++ [.swept armed.ruleIndex]) :
      exchange.Steps router log fence := by
    rw [Steps, isFence]
    exact .sweep armed.ruleIndex rfl ((races_of_rule isRule).trans isRace)
      ((waits_of_rule isRule).trans notWaiting) notWalking isLog
  cases acted with
  | pass =>
    refine .stay rfl (placed.goto (placed_sweep isWalking)) ?_ ?_
    · have notCommits : exchange.commits (exchange.goto (.sweep caller index)) = false :=
        commits_eq_false isWalking rfl
      rw [isEvents, notCommits]
      rfl
    · rw [fence_goto_sweep index isWalking, isFence]
  | return_ result notWaiting =>
    refine .on rfl (placed.return_ result) (isStep notWaiting _ ?_ ?_)
    · rintro ⟨⟩
    · rw [told _ rfl]
      rfl
  | pending pending notWaiting =>
    cases caller with
    | walk =>
      rw [sweepPending]
      refine .on (congrArg length (suspend_frames _)) ?_
        (isStep notWaiting _ (phase_suspend_pending _) ?_)
      · apply Placed.suspend
        · refine ⟨?_, ?_, placed.terminal⟩
          · rw [isAt]
            exact ⟨rfl, isRule, isRace⟩
          · rintro _ ⟨⟩
        · exact fun _ => rfl
      · rw [told _ (commits_of_phase (phase_suspend_pending _))]
        rfl
    | resume =>
      have isPhase : (exchange.goto (.finish pending)).position.phase ≠ .walking := by
        intro isWalking
        cases pending <;> cases isWalking
      rw [sweepPending]
      refine .on rfl (placed.goto trivial) (isStep notWaiting _ isPhase ?_)
      rw [told _ (commits_of_phase isPhase)]
      rfl
  | predefined _ options isAction =>
    apply follows_predefined placed told
    intro fence isOver isLog
    apply isStep _ fence _ isLog
    · rw [DNSRule.waits, isAction]
    · intro isWalking
      cases isOver.symm.trans isWalking

/-! ## Steps of the loop that resumes -/

theorem follows_decide {suspension : Suspension} (isAt : exchange.position = .decide suspension) :
    Follows router log exchange (exchange.decide_ suspension) := by
  have silent := silent_of_at router log isAt fun _ => rfl
  cases suspension with
  | pending pending => cases pending <;> exact follows_goto placed isAt trivial (silent _) rfl
  | _ =>
    rw [decide_]
    split
    · exact follows_goto placed isAt trivial (silent _) rfl
    · exact follows_goto placed isAt rfl (silent _) rfl

theorem follows_finish {pending : PendingExchange} (isAt : exchange.position = .finish pending)
    (isNext : exchange.finish router pending = some after) : Follows router log exchange after := by
  have isEvents (after : Exchange) : exchange.events router log after =
      if exchange.launches < after.launches then
        (log.getLast?.bind FenceEvent.ends).toList.map (.launched · exchange.armedIndices)
      else [] := by
    rw [events, isAt]
  cases pending with
  | exchange =>
    cases isNext
    refine .on rfl (placed.move trivial rfl rfl rfl) ?_
    rw [isEvents]
    change (exchange.fence log).Step _ _ _
      (Exchange.fence _ (log ++ if exchange.launches < exchange.launches + 1 then _ else _))
    rw [if_pos (Nat.lt_succ_self _)]
    cases isEnd : log.getLast?.bind FenceEvent.ends with
    | none => exact .close rfl (append_nil _)
    | some task =>
      apply Fence.Step.finish task exchange.armedIndices _ isEnd rfl rfl
      rw [fence, isAt]
      rfl
  | future =>
    rw [finish] at isNext
    split at isNext
    · cases isNext
    split at isNext <;> cases isNext
    refine .silent rfl (placed.return_ _) ?_ (.close rfl rfl)
    rw [isEvents]
    exact if_neg (Nat.lt_irrefl _)

end

theorem follows_walk (isBound : RaceBound router.rules) (placed : Placed router.rules exchange)
    (isNext : exchange.walk router = some after) : Follows router log exchange after := by
  rw [walk] at isNext
  split at isNext
  · next isAt => exact some.inj isNext ▸ follows_visit isBound placed isAt
  · next isAt => exact some.inj isNext ▸ follows_settleAt placed isAt
  · next isAt => exact some.inj isNext ▸ follows_collect placed isAt
  · next isAt => exact some.inj isNext ▸ follows_awaitTags placed isAt
  · next isAt => exact some.inj isNext ▸ follows_evaluate placed isAt
  · next isAt => exact some.inj isNext ▸ follows_acted placed isAt acted_act
  · next isAt =>
    cases isNext
    cases exchange.state.anonymousResponse <;> exact follows_respond placed isAt _
  · next isAt => exact some.inj isNext ▸ follows_sweep placed isAt
  · next futures isAt =>
    cases isNext
    cases futures with
    | nil => exact follows_ready_taken placed isAt
    | cons => exact follows_ready_future placed isAt
  · next isAt => exact some.inj isNext ▸ follows_sweepEvaluate placed isAt
  · next isAt => exact some.inj isNext ▸ follows_sweepActed placed isAt sweepActed_sweepAct
  · next isAt => exact some.inj isNext ▸ follows_decide placed isAt
  · next isAt =>
    split at isNext <;> cases isNext
    refine .stay rfl ?_ ?_ ?_
    · have isWalking := placed.of_at isAt
      exact placed.move (fun notWalking => absurd isWalking notWalking) rfl rfl rfl
    · rw [events, isAt]
    · rw [fence, fence, isAt]
      rfl
  · next isAt => exact follows_finish placed isAt isNext
  · cases isNext

end Exchange

end SingBox.Dns
