import SingBox.Dns.WalkReading

/-! # The walk refines the sequential reference

Each step of a walk without race rules leaves the sequential state it stands
for alone, or is the next step of the reference. The one gap is between the
settling of a named future and the check that it is resolved: a future that
completes there counts as resolved although its response is not recorded. The
refinement is proved for the runs in which no bound future completes there.
-/

namespace SingBox.Dns

open Adapter Route Exchange Bool Nat

variable {router : Router} {result : ExchangeResult} {suspension : Suspension} {position : Position}

/-! ## Positions -/

/-- The pending exchange is what the reference does next. -/
def PendingExchange.Holds (router : Router) (running : SequentialState) : PendingExchange → Prop
  | .exchange transport options => running.look router = running.answer router transport options
  | .future _ => False

def Suspension.Holds (router : Router) (state : WalkState) (running : SequentialState) :
    Suspension → Prop
  | .await future => future < state.futures.length
  | .drain => False
  | .pending exchange => exchange.Holds router running

def Position.Holds (router : Router) (state : WalkState) (running : SequentialState) :
    Position → Prop
  | .visit => True
  | .settle (.walk rule) position =>
    Current router state rule ∧ Seen state (matchResponseTags rule.rule) position
  | .settle (.resume suspension) _ => suspension.Holds router state running
  | .await rule tags =>
    Current router state rule ∧
      Seen state (matchResponseTags rule.rule) state.futures.length ∧
      ∀ tag ∈ matchResponseTags rule.rule, tag ∉ tags → ∀ index,
        state.namedFutures tag = some index → state.resolved index = true
  | .evaluate rule => Current router state rule ∧ Ready state rule
  | .act rule => Current router state rule ∧ Ready state rule ∧ running.matches_ router rule = true
  | .respond =>
    (∀ index, state.anonymousFuture = some index → state.resolved index = true) ∧
      running.look router = running.respondWith running.anonymous
  | .sweep (.resume suspension) _ | .decide suspension | .blocked suspension =>
    suspension.Holds router state running
  | .finish pending => pending.Holds router running
  | .returned _ => True
  -- The positions of armed rules are not reached.
  | .collect _ _ _ | .sweep (.walk _) _ | .ready _ _ _ _ | .sweepEvaluate _ _ _
  | .sweepAct _ _ _ => False

structure Sound (router : Router) (exchange : Exchange) : Prop where
  consistent : Consistent router exchange.state
  position : exchange.position.Holds router exchange.state exchange.running

/-- The exchange goes on as the reference does, or not at all. -/
structure Moves (router : Router) (exchange after : Exchange) : Prop where
  sound : Sound router after
  refines : after.sequential = .running exchange.running ∨
    after.sequential = exchange.running.look router

section

variable {exchange : Exchange} (consistent : Consistent router exchange.state)
include consistent

theorem moves_goto (holds : position.Holds router exchange.state exchange.running)
    (notReturned : (exchange.goto position).sequential = .running exchange.running) :
    Moves router exchange (exchange.goto position) :=
  ⟨⟨consistent, holds⟩, .inl notReturned⟩

theorem moves_nextRule (skips : exchange.running.look router = exchange.running.nextRule) :
    Moves router exchange exchange.nextRule :=
  ⟨⟨consistent.frame exchange.state.effectiveOptions exchange.state.wake (le_succ _), trivial⟩,
    .inr skips.symm⟩

theorem moves_return (returns : exchange.running.look router = exchange.running.return_ result) :
    Moves router exchange (exchange.return_ result) :=
  ⟨⟨consistent, trivial⟩, .inr returns.symm⟩

theorem moves_suspend (holds : suspension.Holds router exchange.state exchange.running) :
    Moves router exchange (exchange.suspend suspension) := by
  unfold suspend
  split <;> exact ⟨⟨consistent, holds⟩, .inl rfl⟩

theorem moves_respondWith {response : Option Msg} {transport : Option Transport}
    {evaluated : Option Evaluated}
    (responds : exchange.running.look router = exchange.running.respondWith evaluated)
    (isResponse : response = evaluated.bind Evaluated.view)
    (isTransport : ∀ found, response = some found → transport = evaluated.map Evaluated.transport) :
    Moves router exchange (exchange.respondWith response transport) := by
  unfold SequentialState.respondWith at responds
  rw [← isResponse] at responds
  cases response with
  | none => exact moves_return consistent responds
  | some found =>
    rw [isTransport found rfl]
    exact moves_return consistent responds

/-! ## Actions -/

variable {rule : DNSRule}

theorem moves_respondAction (orderly : Orderly router)
    (current : Current router exchange.state rule) (ready : Ready exchange.state rule)
    (isAction : rule.action = some .respond)
    (look : exchange.running.look router = exchange.running.respondAction rule) :
    Moves router exchange (exchange.respondAction rule) := by
  unfold SequentialState.respondAction at look
  unfold respondAction
  dsimp only at look ⊢
  by_cases noTag : matchResponseTag rule.rule = ""
  · have noTags := orderly.respond rule current.member isAction noTag
    rw [if_neg (by simpa using noTag)] at look ⊢
    split
    · next bound =>
      have anonymous : matchResponseAnonymous rule.rule = true := by
        simpa [hasBindings, noTags] using bound
      exact moves_goto consistent ⟨ready.anonymous anonymous, look⟩ rfl
    · cases isPending : exchange.state.pendingFuture exchange.state.anonymousFuture with
      | some future =>
        exact moves_suspend consistent (consistent.anonymous (pendingFuture_eq_some isPending))
      | none =>
        exact moves_goto consistent
          ⟨fun index isFuture => pendingFuture_eq_none isPending isFuture, look⟩ rfl
  · have bound : matchResponseTag rule.rule ∈ matchResponseTags rule.rule :=
      matchResponseTag_mem noTag
    rw [if_pos noTag] at look ⊢
    refine moves_respondWith consistent look (consistent.namedResponses_of_ready ready bound) ?_
    intro _ isResponse
    change _ = ((exchange.state.namedFutures _).bind exchange.state.evaluated).map _
    cases isNamed : exchange.state.namedFutures (matchResponseTag rule.rule) with
    | none =>
      rw [consistent.missing isNamed] at isResponse
      cases isResponse
    | some =>
      rcases consistent.recorded_of_ready ready bound isNamed with
        ⟨future, isFuture, _, _, isTransport⟩
      simp [isTransport, WalkState.evaluated, isFuture]

theorem moves_rejectAction {action : RejectAction}
    (look : exchange.running.look router = exchange.running.rejectAction router action) :
    Moves router exchange (exchange.rejectAction router action exchange.nextRule) := by
  unfold SequentialState.rejectAction at look
  unfold rejectAction
  cases isMethod : action.method with
  | reply =>
    rw [isMethod] at look
    exact moves_nextRule consistent look
  | _ =>
    rw [isMethod] at look
    exact moves_return consistent look

theorem moves_act (orderly : Orderly router)
    (current : Current router exchange.state rule) (ready : Ready exchange.state rule)
    (isMatch : exchange.running.matches_ router rule = true) :
    Moves router exchange (exchange.act router rule) := by
  have look : exchange.running.look router = _ := current.look_eq.trans (if_pos isMatch)
  unfold SequentialState.act at look
  unfold act
  cases isAction : rule.action with
  | none =>
    rw [isAction] at look
    exact moves_nextRule consistent look
  | some action =>
    rw [isAction] at look
    cases action with
    | routeOptions options => exact ⟨⟨consistent.frame _ _ (le_succ _), trivial⟩, .inr look.symm⟩
    | evaluate server _ speculative options =>
      dsimp only at look ⊢
      cases isTransport : router.transport server with
      | none =>
        rw [isTransport] at look
        dsimp only at look ⊢
        split
        · next noTag =>
          rw [if_pos noTag] at look
          exact ⟨⟨consistent.forgetAnonymous.frame _ _ (le_succ _), trivial⟩, .inr look.symm⟩
        · next isTagged =>
          rw [if_neg isTagged] at look
          exact moves_nextRule consistent look
      | some transport =>
        rw [isTransport] at look
        dsimp only at look ⊢
        rw [whenDrained_eq consistent, ite_self]
        refine ⟨⟨consistent_evaluate orderly consistent
          ⟨rule, server, speculative, options, current.isRule, isAction⟩, trivial⟩, .inr ?_⟩
        rw [look, ← running_evaluateAction consistent]
        rfl
    | respond =>
      rw [whenDrained_eq consistent]
      exact moves_respondAction consistent orderly current ready isAction look
    | route server _ options =>
      dsimp only at look ⊢
      rw [running_query, running_effectiveOptions] at look
      cases status : router.resolveDNSRoute server options exchange.query.allowFakeIP
          exchange.state.effectiveOptions with
      | missing =>
        rw [status] at look
        exact moves_nextRule consistent look
      | skipped =>
        rw [status] at look
        exact moves_nextRule consistent look
      | resolved _ options =>
        rw [status] at look
        simp only [consistent.unarmed, List.isEmpty_nil, routeAction, consistent.noTerminal]
        exact moves_suspend consistent look
    | reject action =>
      dsimp only at look ⊢
      rw [whenDrained_eq consistent]
      exact moves_rejectAction consistent look
    | predefined action =>
      dsimp only at look ⊢
      rw [SequentialState.predefined, running_query, running_effectiveOptions] at look
      rw [whenDrained_eq consistent, predefined]
      cases follows : followPredefinedCNAME router.names router.closing exchange.query
          (action.response exchange.query) exchange.state.effectiveOptions with
      | none =>
        rw [follows] at look
        exact moves_return consistent look
      | some nested =>
        rw [follows] at look
        exact ⟨⟨Consistent.fresh nested.options, trivial⟩, .inr look.symm⟩

/-! ## The loop over the rules -/

theorem moves_visit : Moves router exchange (exchange.visit router) := by
  rw [visit]
  cases isRule : router.rules[exchange.state.ruleIndex]? with
  | none =>
    have answers : exchange.running.look router = exchange.running.answer router
        router.defaultTransport exchange.state.effectiveOptions := by
      rw [SequentialState.look, running_ruleIndex, isRule, running_effectiveOptions]
    rw [whenDrained_eq consistent]
    exact moves_suspend consistent answers
  | some rule =>
    dsimp only
    split
    · next isDisabled =>
      have skips : exchange.running.look router = exchange.running.nextRule := by
        rw [SequentialState.look, running_ruleIndex, isRule]
        exact if_pos isDisabled
      exact moves_nextRule consistent skips
    · next notDisabled =>
      have current : Current router exchange.state rule :=
        ⟨isRule, eq_false_iff.mpr notDisabled⟩
      split
      · exact moves_goto consistent ⟨current, fun before => absurd before (not_lt_zero _)⟩ rfl
      next unbound =>
      exact moves_goto consistent ⟨current, ready_of_unbound (eq_false_iff.mpr unbound) _⟩ rfl

theorem moves_awaitTags {tags : List String}
    (holds : (Position.await rule tags).Holds router exchange.state exchange.running) :
    Moves router exchange (exchange.awaitTags rule tags) := by
  rcases holds with ⟨current, seen, checked⟩
  cases tags with
  | cons tag =>
    rw [awaitTags]
    cases isPending : exchange.state.pendingFuture (exchange.state.namedFutures tag) with
    | some future =>
      rcases consistent.named (pendingFuture_eq_some isPending) with ⟨_, isFuture, _⟩
      exact moves_suspend consistent (index_lt isFuture)
    | none =>
      refine moves_goto consistent ⟨current, seen, ?_⟩ rfl
      intro other bound notLeft index isNamed
      by_cases same : other = tag
      · subst same
        exact pendingFuture_eq_none isPending isNamed
      · exact checked other bound (by simp [same, notLeft]) index isNamed
  | nil =>
    rw [awaitTags]
    cases isPending : exchange.state.pendingFuture
        (if matchResponseAnonymous rule.rule then exchange.state.anonymousFuture else none) with
    | some future =>
      have isFuture := pendingFuture_eq_some isPending
      split at isFuture
      · exact moves_suspend consistent (consistent.anonymous isFuture)
      · cases isFuture
    | none =>
      refine moves_goto consistent ⟨current, ?_, ?_⟩ rfl
      · intro tag bound index isNamed
        have resolved := checked tag bound List.not_mem_nil index isNamed
        rcases WalkState.resolved_iff.mp resolved with ⟨future, isFuture, isDone⟩
        rcases consistent.named isNamed with ⟨_, isOther, isTag⟩
        cases isFuture.symm.trans isOther
        subst isTag
        exact ⟨future, isFuture, isDone,
          seen (index_lt isFuture) isFuture bound isDone⟩
      · intro bound _ isFuture
        rw [if_pos bound] at isPending
        exact pendingFuture_eq_none isPending isFuture

theorem moves_evaluatePosition (orderly : Orderly router)
    (current : Current router exchange.state rule) (ready : Ready exchange.state rule) :
    Moves router exchange (exchange.evaluate router rule) := by
  unfold evaluate
  rw [matches_of_ready consistent (orderly.reads rule current.member) ready]
  split
  · next isMatch => exact moves_goto consistent ⟨current, ready, isMatch⟩ rfl
  next noMatch =>
  refine moves_nextRule consistent ?_
  rw [current.look_eq, if_neg noMatch]

end

/-! ## Futures that move on -/

variable {after state : WalkState} {running : SequentialState}

theorem Suspension.Holds.advances (holds : suspension.Holds router state running)
    (advances : state.Advances after) : suspension.Holds router after running := by
  cases suspension with
  | await => exact advances.lt_length holds
  | drain | pending exchange => exact holds

/-- The tags of the rule whose named futures are being settled and checked,
and how many futures the walk has settled for it. -/
def Position.settling (length : Nat) : Position → Option (List String × Nat)
  | .settle (.walk rule) position => some (matchResponseTags rule.rule, position)
  | .await rule _ => some (matchResponseTags rule.rule, length)
  | _ => none

theorem Position.Holds.advances (holds : position.Holds router state running)
    (advances : state.Advances after)
    (seen : ∀ {tags count}, position.settling state.futures.length = some (tags, count) →
      Seen state tags count → Seen after tags count) :
    position.Holds router after running := by
  cases position with
  | settle caller =>
    cases caller with
    | walk rule => exact ⟨advances.current holds.1, seen rfl holds.2⟩
    | resume suspension => exact Suspension.Holds.advances holds advances
  | await rule =>
    rcases holds with ⟨current, isSeen, checked⟩
    refine ⟨advances.current current, ?_, ?_⟩
    · have afterSeen : Seen after _ _ := seen rfl isSeen
      intro index _ before
      exact afterSeen (lt_of_lt_of_le before advances.length_le)
    · intro tag bound notLeft index isNamed
      rw [advances.namedFutures] at isNamed
      exact advances.resolved (checked tag bound notLeft index isNamed)
  | evaluate rule => exact ⟨advances.current holds.1, advances.ready holds.2⟩
  | act rule => exact ⟨advances.current holds.1, advances.ready holds.2.1, holds.2.2⟩
  | respond =>
    refine ⟨?_, holds.2⟩
    intro index isFuture
    rw [advances.anonymousFuture] at isFuture
    exact advances.resolved (holds.1 index isFuture)
  | sweep caller =>
    cases caller with
    | walk => exact holds
    | resume suspension => exact Suspension.Holds.advances holds advances
  | decide suspension | blocked suspension => exact Suspension.Holds.advances holds advances
  | _ => exact holds

/-! ## One step of the walk -/

section

variable {exchange after : Exchange}

theorem moves_settleAt (orderly : Orderly router) (consistent : Consistent router exchange.state)
    {caller : Caller} {count : Nat}
    (holds : (Position.settle caller count).Holds router exchange.state exchange.running) :
    Moves router exchange (exchange.settleAt caller count) := by
  unfold settleAt
  split
  · have advances := WalkState.Advances.settle exchange.state count
    have same := advances.running_eq (.settle caller (count + 1))
    refine ⟨⟨consistent.settle count, ?_⟩, .inl (congrArg Sequential.running same)⟩
    rw [same]
    cases caller with
    | resume suspension => exact Suspension.Holds.advances holds advances
    | walk rule =>
      refine ⟨advances.current holds.1, ?_⟩
      intro index future before isFuture bound isDone
      by_cases last : index = count
      · subst last
        exact settled_of_settle isFuture isDone
      have isBefore : exchange.state.futures[index]? = some future :=
        (settle_getElem_of_ne last).symm.trans isFuture
      exact holds.2 (by omega) isBefore bound isDone
  · next allSettled =>
    cases caller with
    | resume suspension => exact moves_goto consistent holds rfl
    | walk rule =>
      have notRace := orderly.raceless rule holds.1.member
      simp only [notRace, false_eq_true]
      refine moves_goto consistent ⟨holds.1, ?_, ?_⟩ rfl
      · intro index future before
        exact holds.2 (by omega)
      · intro _ bound notLeft
        exact absurd bound notLeft

theorem moves_walk (orderly : Orderly router) (sound : Sound router exchange)
    (walked : exchange.walk router = some after) : Moves router exchange after := by
  rcases sound with ⟨consistent, holds⟩
  unfold walk at walked
  cases isPosition : exchange.position with
  | visit =>
    rw [isPosition] at walked
    cases walked
    exact moves_visit consistent
  | settle caller =>
    rw [isPosition] at walked holds
    cases walked
    exact moves_settleAt orderly consistent holds
  | await rule =>
    rw [isPosition] at walked holds
    cases walked
    exact moves_awaitTags consistent holds
  | evaluate rule =>
    rw [isPosition] at walked holds
    cases walked
    exact moves_evaluatePosition consistent orderly holds.1 holds.2
  | act rule =>
    rw [isPosition] at walked holds
    cases walked
    exact moves_act consistent orderly holds.1 holds.2.1 holds.2.2
  | respond =>
    rw [isPosition] at walked holds
    cases walked
    refine moves_respondWith consistent holds.2 (anonymousResponse_of_resolved holds.1) ?_
    intro _ _
    change _ = (exchange.state.anonymousFuture.bind exchange.state.evaluated).map _
    cases exchange.state.anonymousFuture with
    | none => rfl
    | some index =>
      change exchange.state.futures[index]?.map _ = (exchange.state.futures[index]?.map _).map _
      rw [Option.map_map]
      rfl
  | sweep caller index =>
    rw [isPosition] at walked holds
    cases walked
    cases caller with
    | walk => exact holds.elim
    | resume suspension =>
      have noRule : exchange.state.armedRules[index]? = none := by
        rw [consistent.unarmed]
        rfl
      unfold sweep
      rw [noRule]
      exact moves_goto consistent holds rfl
  | decide suspension =>
    rw [isPosition] at walked holds
    cases walked
    cases suspension with
    | pending pending => exact moves_goto consistent holds rfl
    | drain => exact holds.elim
    | await future =>
      rw [decide_]
      split
      · exact moves_goto consistent trivial rfl
      · exact moves_goto consistent holds rfl
  | blocked =>
    rw [isPosition] at walked holds
    dsimp only at walked
    split at walked <;> cases walked
    have waked := consistent.frame exchange.state.effectiveOptions false (le_refl _)
    exact ⟨⟨waked, Suspension.Holds.advances holds (.wake _ false)⟩, .inl rfl⟩
  | finish pending =>
    rw [isPosition] at walked holds
    cases pending with
    | future => exact holds.elim
    | exchange =>
      cases walked
      exact ⟨⟨consistent, trivial⟩, .inr holds.symm⟩
  | returned =>
    rw [isPosition] at walked
    cases walked
  | _ =>
    rw [isPosition] at holds
    exact holds.elim

end

/-! ## All steps -/

/-- A future that the walk has passed while settling for a rule that is bound
to it, and that the await checks of the rule are still to look at. -/
def Exchange.overlooked (exchange : Exchange) (future : Nat) : Bool :=
  match exchange.position.settling exchange.state.futures.length with
  | some (tags, count) =>
    future < count &&
      exchange.state.futures[future]?.any fun pending => tags.contains pending.tag
  | none => false

/-- No overlooked future completes. -/
def Exchange.Calm (exchange : Exchange) (action : WalkAction) : Prop :=
  ∀ future, action = .complete future → exchange.overlooked future = false

section

variable {exchange after : Exchange} {future : Nat}

section

variable (sound : Sound router exchange)
include sound

private theorem simulated_of_advances (consistent : Consistent router state)
    (advances : exchange.state.Advances state) (seen : ∀ {tags count},
      exchange.position.settling exchange.state.futures.length = some (tags, count) →
        Seen exchange.state tags count → Seen state tags count) :
    Sound router { exchange with state := state } ∧
      { exchange with state := state }.sequential = exchange.sequential := by
  have same : { exchange with state := state }.running = exchange.running :=
    advances.running_eq exchange.position
  refine ⟨⟨consistent, ?_⟩, ?_⟩
  · rw [same]
    exact sound.position.advances advances seen
  · unfold sequential
    rw [same]

theorem simulated_complete (completed : exchange.complete future = some after)
    (calm : exchange.overlooked future = false) :
    Sound router after ∧ after.sequential = exchange.sequential := by
  rcases complete_cases completed with ⟨pending, isFuture, notDone, rfl⟩
  refine simulated_of_advances sound (sound.consistent.complete isFuture notDone)
    (.set { pending with done := true } isFuture ⟨rfl, rfl, rfl, fun _ => rfl, id⟩) ?_
  intro tags _ isSettling seen _ _ before isOther bound isDone
  rcases getElem?_set_cases isOther with ⟨isIndex, isNew⟩ | ⟨_, isOther⟩
  · -- The completed future would be one that the walk has passed.
    rw [isIndex] at before
    rw [isNew] at bound
    have isBound : pending.tag ∈ tags := bound
    simp [overlooked, isSettling, before, isFuture, isBound] at calm
  · exact seen before isOther bound isDone

theorem simulated_send (sent : exchange.send future = some after) :
    Sound router after ∧ after.sequential = exchange.sequential := by
  rcases send_cases sent with ⟨finished, isFuture, _, _, rfl⟩
  refine simulated_of_advances sound (sound.consistent.send isFuture)
    (.set { finished with sent := true } isFuture ⟨rfl, rfl, rfl, id, id⟩) ?_
  intro _ _ _ seen _ _ before isOther bound isDone
  rcases getElem?_set_cases isOther with ⟨isIndex, isNew⟩ | ⟨_, isOther⟩
  · rw [isIndex] at before
    rw [isNew] at bound isDone ⊢
    have wasSettled : finished.settled = true := seen before isFuture bound isDone
    exact wasSettled
  · exact seen before isOther bound isDone

end

theorem simulated_next (orderly : Orderly router) (sound : Sound router exchange)
    {action : WalkAction} (taken : exchange.next router action = some after)
    (calm : exchange.Calm action) :
    Sound router after ∧ (after.sequential = exchange.sequential ∨
      after.sequential = exchange.sequential.step router) := by
  cases action with
  | walk =>
    have moves := moves_walk orderly sound taken
    refine ⟨moves.sound, ?_⟩
    have running : exchange.sequential = .running exchange.running := by
      unfold sequential
      split
      · next isReturned =>
        change exchange.walk router = _ at taken
        rw [walk, isReturned] at taken
        cases taken
      · rfl
    rw [running]
    exact moves.refines
  | complete future =>
    rcases simulated_complete sound taken (calm future rfl) with ⟨afterSound, same⟩
    exact ⟨afterSound, .inl same⟩
  | send =>
    rcases simulated_send sound taken with ⟨afterSound, same⟩
    exact ⟨afterSound, .inl same⟩

end

variable {query : Query} {start : Exchange}

theorem Starts.sound (starts : Starts query start) : Sound router start := by
  cases starts <;> exact ⟨Consistent.fresh query.options, trivial⟩

theorem Starts.sequential_eq (starts : Starts query start) :
    start.sequential = Sequential.start query := by
  cases starts <;> rfl

/-- Whatever a calm run returns is the result of the reference. -/
theorem returns_of_calm_run (orderly : Orderly router) (starts : Starts query start)
    {actions : List WalkAction} {exchange : Exchange} (run : Run (fun exchange action after =>
      exchange.next router action = some after ∧ exchange.Calm action) start actions exchange)
    (returned : exchange.position = .returned result) :
    Sequential.Returns router query result := by
  have refined : Sound router exchange ∧ ∃ count,
      (Sequential.step router)^[count] start.sequential = exchange.sequential :=
    run.refines (Sound router) starts.sound
      fun sound isStep => simulated_next orderly sound isStep.1 isStep.2
  rcases refined with ⟨_, count, reached⟩
  refine ⟨count, ?_⟩
  rw [← starts.sequential_eq, reached]
  unfold sequential
  rw [returned]

end SingBox.Dns
