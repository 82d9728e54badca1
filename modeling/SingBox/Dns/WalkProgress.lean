import Mathlib.Data.Prod.Lex
import SingBox.Dns.WalkReading

/-! # The walk ends

A walk without race rules takes finitely many steps, whatever the callbacks
do, and as long as it has not returned either it or a callback can take one.
Its rank counts the alias names that can still be followed, the rules left to
look at, what the callbacks have still to do together with the token in the
wake channel, and the statements up to the next of these events.
-/

namespace SingBox.Dns

open Route Exchange WalkState List Option Bool Nat

variable {router : Router}

/-! ## Rank -/

namespace WalkState

/-- What is left for the callbacks, and the token they have left behind. -/
def work (state : WalkState) : Nat :=
  state.futures.countP (!·.done) + 2 * state.futures.countP (!·.sent) + state.wake.toNat

def tagCount (router : Router) (state : WalkState) : Nat :=
  (router.rules[state.ruleIndex]?.map fun rule => (matchResponseTags rule.rule).length).getD 0

/-- The statements from the head of the loop up to a suspension. -/
def visitRank (router : Router) (state : WalkState) : Nat :=
  2 * state.futures.length + 9 + state.tagCount router

/-- A suspension whose future is resolved leads back to the rule. -/
def decideRank (router : Router) (state : WalkState) : Suspension → Nat
  | .await future => if state.resolved future then state.visitRank router + 1 else 2
  | .pending _ => 2
  | .drain => 2

end WalkState

def Position.rank (router : Router) (state : WalkState) : Position → Nat
  | .visit => state.visitRank router
  | .settle (.walk _) position =>
    state.futures.length + 8 + state.tagCount router + (state.futures.length - position)
  | .settle (.resume suspension) position =>
    state.decideRank router suspension + 2 + (state.futures.length - position)
  | .await _ tags => state.futures.length + 7 + tags.length
  | .evaluate _ => state.futures.length + 6
  | .act _ => state.futures.length + 5
  | .sweep (.resume suspension) _ => state.decideRank router suspension + 1
  | .decide suspension => state.decideRank router suspension
  | .respond => 1
  | .blocked _ => 1
  | .finish _ => 1
  | _ => 0

def Exchange.rank (router : Router) (exchange : Exchange) : Nat × Nat × Nat × Nat :=
  (exchange.query.openAliases router.names router.rules,
    router.rules.length - exchange.state.ruleIndex,
    exchange.state.work,
    exchange.position.rank router exchange.state)

def RankLess : Nat × Nat × Nat × Nat → Nat × Nat × Nat × Nat → Prop :=
  Prod.Lex (· < ·) (Prod.Lex (· < ·) (Prod.Lex (· < ·) (· < ·)))

theorem rankLess_wellFounded : WellFounded RankLess := by
  have less : WellFounded (α := Nat) (· < ·) := wellFounded_lt
  exact less.prod_lex (less.prod_lex (less.prod_lex less))

/-! ## Positions without race rules -/

def Suspension.Proper (state : WalkState) : Suspension → Prop
  | .await future => future < state.futures.length
  | .drain => False
  | .pending (.exchange _ _) => True
  | .pending (.future _) => False

def Position.Proper (router : Router) (state : WalkState) : Position → Prop
  | .visit => True
  | .settle (.walk rule) _ => Current router state rule
  | .settle (.resume suspension) _ => suspension.Proper state
  | .await rule tags =>
    Current router state rule ∧ tags.length ≤ (matchResponseTags rule.rule).length
  | .evaluate rule | .act rule => Current router state rule
  | .respond => True
  | .sweep (.resume suspension) _ | .decide suspension => suspension.Proper state
  -- The token of a callback that is over has not been taken.
  | .blocked (.await future) =>
    ∃ awaited, state.futures[future]? = some awaited ∧
      (awaited.sent = true → state.wake = true)
  | .blocked _ => False
  | .finish (.exchange _ _) => True
  | .returned _ => True
  | _ => False

structure Proper (router : Router) (exchange : Exchange) : Prop where
  consistent : Consistent router exchange.state
  sent : ∀ {index : Nat} {future : Future}, exchange.state.futures[index]? = some future →
    future.sent = true → future.done = true
  position : exchange.position.Proper router exchange.state

/-- A step keeps the walk in order and lowers its rank. -/
structure Progresses (router : Router) (exchange after : Exchange) : Prop where
  proper : Proper router after
  decreases : RankLess (after.rank router) (exchange.rank router)

variable {state : WalkState} {index : Nat}

theorem rulesLeft_lt {rule : DNSRule} (isRule : router.rules[index]? = some rule) :
    router.rules.length - (index + 1) < router.rules.length - index := by
  have fits := index_lt isRule
  omega

theorem work_settle (state : WalkState) (position : Nat) :
    (state.settle position).work = state.work := by
  rcases state.settle_cases position with ⟨same, _⟩ | ⟨old, _, _, isOld, _, isState, _⟩
  · rw [same]
  have undone := countP_set_unchanged { old with settled := true } (!·.done) isOld rfl
  have unsent := countP_set_unchanged { old with settled := true } (!·.sent) isOld rfl
  rw [isState]
  unfold work
  rw [undone, unsent]

theorem resolved_settle (state : WalkState) (position index : Nat) :
    (state.settle position).resolved index = state.resolved index := by
  rcases state.settle_cases position with ⟨same, _⟩ | ⟨_, _, _, isOld, _, isState, _⟩
  · rw [same]
  rw [isState]
  unfold resolved
  by_cases same : index = position
  · subst same
    have fits := index_lt isOld
    rw [getElem?_set_self fits, isOld]
    rfl
  · rw [getElem?_set_ne (Ne.symm same)]

theorem decideRank_settle (state : WalkState) (position : Nat) (suspension : Suspension) :
    (state.settle position).decideRank router suspension =
      state.decideRank router suspension := by
  have advances := WalkState.Advances.settle state position
  cases suspension with
  | await =>
    simp only [decideRank, visitRank, tagCount, resolved_settle,
      advances.length_eq, advances.ruleIndex]
  | drain | pending exchange => rfl

theorem Suspension.Proper.advances {after : WalkState} {suspension : Suspension}
    (isProper : suspension.Proper state) (advances : state.Advances after) :
    suspension.Proper after := by
  cases suspension with
  | await => exact advances.lt_length isProper
  | drain => exact isProper
  | pending exchange => cases exchange <;> exact isProper

theorem Position.Proper.advances {position : Position} {later : WalkState}
    (isProper : position.Proper router state) (advances : state.Advances later)
    (woken : ∀ {index : Nat} {before now : Future}, state.futures[index]? = some before →
      later.futures[index]? = some now → (before.sent = true → state.wake = true) →
        now.sent = true → later.wake = true) :
    position.Proper router later := by
  cases position with
  | settle caller =>
    cases caller with
    | walk rule => exact advances.current isProper
    | resume suspension => exact Suspension.Proper.advances isProper advances
  | await rule => exact ⟨advances.current isProper.1, isProper.2⟩
  | evaluate rule | act rule => exact advances.current isProper
  | sweep caller =>
    cases caller with
    | walk => exact isProper
    | resume suspension => exact Suspension.Proper.advances isProper advances
  | decide suspension => exact Suspension.Proper.advances isProper advances
  | blocked suspension =>
    cases suspension with
    | await future =>
      rcases isProper with ⟨_, isFuture, hasToken⟩
      rcases advances.future isFuture with ⟨now, isNow, _⟩
      exact ⟨now, isNow, woken isFuture isNow hasToken⟩
    | drain | pending pending => exact isProper
  | finish pending => cases pending <;> exact isProper
  | _ => exact isProper

section

variable {exchange : Exchange} (proper : Proper router exchange)
include proper

variable {position : Position} {rule : DNSRule} {suspension : Suspension} {future : Nat}

theorem Proper.of_at (isAt : exchange.position = position) :
    position.Proper router exchange.state :=
  isAt ▸ proper.position

theorem progresses_goto {next : Position} (isAt : exchange.position = position)
    (isProper : next.Proper router exchange.state)
    (less : next.rank router exchange.state < position.rank router exchange.state) :
    Progresses router exchange (exchange.goto next) := by
  subst isAt
  exact ⟨⟨proper.consistent, proper.sent, isProper⟩, .right _ (.right _ (.right _ less))⟩

theorem progresses_return (result : ExchangeResult)
    (positive : 0 < exchange.position.rank router exchange.state) :
    Progresses router exchange (exchange.return_ result) :=
  progresses_goto proper rfl trivial positive

theorem progresses_nextRule (isRule : router.rules[exchange.state.ruleIndex]? = some rule) :
    Progresses router exchange exchange.nextRule :=
  ⟨⟨proper.consistent.frame _ _ (le_succ _), proper.sent, trivial⟩,
    .right _ (.left _ _ (rulesLeft_lt isRule))⟩

section

variable
  (less : exchange.state.futures.length + 4 < exchange.position.rank router exchange.state)
include less

theorem progresses_suspend (isProper : suspension.Proper exchange.state)
    (waits : exchange.state.decideRank router suspension = 2) :
    Progresses router exchange (exchange.suspend suspension) := by
  unfold suspend
  split
  · refine ⟨⟨proper.consistent, proper.sent, trivial⟩, .right _ (.right _ (.right _ ?_))⟩
    change 1 < exchange.position.rank router exchange.state
    omega
  · refine ⟨⟨proper.consistent, proper.sent, isProper⟩, .right _ (.right _ (.right _ ?_))⟩
    change exchange.state.decideRank router _ + 2 + (exchange.state.futures.length - 0) <
      exchange.position.rank router exchange.state
    rw [waits]
    omega

theorem progresses_suspend_await {future : Option Nat}
    (isPending : exchange.state.pendingFuture future = some index)
    (fits : index < exchange.state.futures.length) :
    Progresses router exchange (exchange.suspend (.await index)) := by
  refine progresses_suspend proper less fits ?_
  have unresolved := (filter_eq_some_iff.mp isPending).2
  rw [not_eq_true'] at unresolved
  simp [decideRank, unresolved]

theorem progresses_suspend_exchange (transport : Transport) (options : QueryOptions) :
    Progresses router exchange (exchange.suspend (.pending (.exchange transport options))) :=
  progresses_suspend proper less trivial rfl

end

theorem progresses_respondWith (response : Option Msg) (transport : Option Transport)
    (positive : 0 < exchange.position.rank router exchange.state) :
    Progresses router exchange (exchange.respondWith response transport) := by
  unfold respondWith
  split <;> exact progresses_return proper _ positive

/-! ## Actions -/

theorem progresses_evaluate (orderly : Orderly router) {tag : String} {transport : Transport}
    {options : QueryOptions} (evaluates : Evaluates router exchange.state.ruleIndex tag) :
    Progresses router exchange
      (exchange.evaluateAction router tag transport options).nextRule := by
  rcases id evaluates with ⟨rule, _, _, _, isRule, _⟩
  refine ⟨⟨consistent_evaluate orderly proper.consistent evaluates, ?_, trivial⟩, ?_⟩
  · intro index future isFuture isSent
    rw [futures_evaluateAction, getElem?_append] at isFuture
    split at isFuture
    · exact proper.sent isFuture isSent
    rw [getElem?_singleton] at isFuture
    split at isFuture <;> cases isFuture
    cases isSent
  · unfold evaluateAction
    split <;> exact .right _ (.left _ _ (rulesLeft_lt isRule))

theorem progresses_respondAction (atRule : exchange.position = .act rule) :
    Progresses router exchange (exchange.respondAction rule) := by
  have isRank : exchange.position.rank router exchange.state =
      exchange.state.futures.length + 5 := by rw [atRule, Position.rank]
  have responds : Progresses router exchange (exchange.goto .respond) := by
    refine progresses_goto proper atRule trivial ?_
    simp only [Position.rank]
    omega
  unfold respondAction
  dsimp only
  split
  · exact progresses_respondWith proper _ _ (by omega)
  split
  · exact responds
  split
  · next index isPending =>
    exact progresses_suspend_await proper (by omega) isPending
      (proper.consistent.anonymous (pendingFuture_eq_some isPending))
  · exact responds

theorem progresses_act (orderly : Orderly router) (atRule : exchange.position = .act rule) :
    Progresses router exchange (exchange.act router rule) := by
  have current : Current router exchange.state rule := proper.of_at atRule
  have consistent := proper.consistent
  have isRank : exchange.position.rank router exchange.state =
      exchange.state.futures.length + 5 := by rw [atRule, Position.rank]
  have left := rulesLeft_lt current.isRule
  unfold act
  cases isAction : rule.action with
  | none => exact progresses_nextRule proper current.isRule
  | some action =>
    cases action with
    | routeOptions options =>
      exact ⟨⟨consistent.frame _ _ (le_succ _), proper.sent, trivial⟩,
        .right _ (.left _ _ left)⟩
    | evaluate server tag speculative options =>
      dsimp only
      split
      · split
        · exact ⟨⟨consistent.forgetAnonymous.frame _ _ (le_succ _), proper.sent, trivial⟩,
            .right _ (.left _ _ left)⟩
        · exact progresses_nextRule proper current.isRule
      · rw [whenDrained_eq consistent, ite_self]
        exact progresses_evaluate proper orderly
          ⟨rule, server, speculative, options, current.isRule, isAction⟩
    | respond =>
      rw [whenDrained_eq consistent]
      exact progresses_respondAction proper atRule
    | route server speculative options =>
      dsimp only
      split
      · exact progresses_nextRule proper current.isRule
      · exact progresses_nextRule proper current.isRule
      simp only [consistent.unarmed, isEmpty_nil, routeAction, consistent.noTerminal]
      exact progresses_suspend_exchange proper (by omega) _ _
    | reject action =>
      dsimp only
      rw [whenDrained_eq consistent]
      unfold rejectAction
      split
      · exact progresses_return proper _ (by omega)
      · exact progresses_return proper _ (by omega)
      · exact progresses_nextRule proper current.isRule
    | predefined action =>
      dsimp only
      rw [whenDrained_eq consistent]
      unfold predefined
      dsimp only
      split
      · exact progresses_return proper _ (by omega)
      next nested follows =>
      refine ⟨⟨Consistent.fresh nested.options, ?_, trivial⟩, .left _ _ ?_⟩
      · nofun
      · exact openAliases_follow_lt router.names current.member isAction follows

/-! ## The loop over the rules -/

theorem progresses_visit (atVisit : exchange.position = .visit) :
    Progresses router exchange (exchange.visit router) := by
  have isRank : exchange.position.rank router exchange.state =
      2 * exchange.state.futures.length + 9 + exchange.state.tagCount router := by
    rw [atVisit, Position.rank, visitRank]
  unfold visit
  split
  · rw [whenDrained_eq proper.consistent]
    exact progresses_suspend_exchange proper (by omega) _ _
  next rule isRule =>
  split
  · exact progresses_nextRule proper isRule
  next notDisabled =>
  have current : Current router exchange.state rule :=
    ⟨isRule, eq_false_iff.mpr notDisabled⟩
  split <;>
  · refine progresses_goto proper atVisit current ?_
    simp only [Position.rank, visitRank]
    omega

theorem progresses_awaitTags {tags : List String} (atAwait : exchange.position = .await rule tags) :
    Progresses router exchange (exchange.awaitTags rule tags) := by
  have isRank : exchange.position.rank router exchange.state =
      exchange.state.futures.length + 7 + tags.length := by rw [atAwait, Position.rank]
  rcases proper.of_at atAwait with ⟨current, shorter⟩
  cases tags with
  | nil =>
    rw [awaitTags]
    split
    · next index isPending =>
      have isFuture := pendingFuture_eq_some isPending
      split at isFuture
      · exact progresses_suspend_await proper (by omega) isPending
          (proper.consistent.anonymous isFuture)
      · cases isFuture
    · refine progresses_goto proper atAwait current ?_
      simp [Position.rank]
  | cons tag tags =>
    rw [length_cons] at isRank shorter
    rw [awaitTags]
    split
    · next index isPending =>
      rcases proper.consistent.named (pendingFuture_eq_some isPending) with ⟨_, isFuture, _⟩
      exact progresses_suspend_await proper (by omega) isPending
        (index_lt isFuture)
    · refine progresses_goto proper atAwait ⟨current, by omega⟩ ?_
      simp [Position.rank]

/-! ## Settling -/

theorem sent_set {changed : Nat} {new future : Future} (isDone : new.done = true)
    (isFuture : (exchange.state.futures.set changed new)[index]? = some future)
    (isSent : future.sent = true) : future.done = true := by
  rcases getElem?_set_cases isFuture with ⟨_, isNew⟩ | ⟨_, isOther⟩
  · rw [isNew]
    exact isDone
  · exact proper.sent isOther isSent

theorem sent_settle (position : Nat) :
    ∀ {index : Nat} {future : Future},
      (exchange.state.settle position).futures[index]? = some future → future.sent = true →
        future.done = true := by
  intro _ _ isFuture isSent
  rcases exchange.state.settle_cases position with ⟨same, _⟩ |
    ⟨old, _, _, isOld, isDone, isState, _⟩
  · rw [same] at isFuture
    exact proper.sent isFuture isSent
  rw [isState] at isFuture
  refine sent_set proper ?_ isFuture isSent
  exact isDone

theorem progresses_settleAt (orderly : Orderly router) {caller : Caller} {count : Nat}
    (atSettle : exchange.position = .settle caller count) :
    Progresses router exchange (exchange.settleAt caller count) := by
  have isProper := proper.of_at atSettle
  have advances := WalkState.Advances.settle exchange.state count
  unfold settleAt
  split
  · next more =>
    refine ⟨⟨proper.consistent.settle count, sent_settle proper count, ?_⟩, ?_⟩
    · cases caller with
      | walk rule => exact advances.current isProper
      | resume suspension => exact Suspension.Proper.advances isProper advances
    · unfold rank
      rw [advances.ruleIndex, work_settle, atSettle]
      refine .right _ (.right _ (.right _ ?_))
      cases caller with
      | walk rule =>
        simp only [Position.rank, tagCount, advances.length_eq, advances.ruleIndex]
        omega
      | resume suspension =>
        simp only [Position.rank, decideRank_settle, advances.length_eq]
        omega
  · next allSettled =>
    cases caller with
    | resume suspension =>
      refine progresses_goto proper atSettle isProper ?_
      simp only [Position.rank]
      omega
    | walk rule =>
      have notRace := orderly.raceless rule (Current.member isProper)
      simp only [notRace, false_eq_true]
      refine progresses_goto proper atSettle ⟨isProper, le_refl _⟩ ?_
      simp only [Position.rank, WalkState.tagCount, Current.isRule isProper, map_some,
        getD_some]
      omega

/-! ## All steps -/

variable {after : Exchange}

theorem progresses_decide (atDecide : exchange.position = .decide suspension) :
    Progresses router exchange (exchange.decide_ suspension) := by
  have isProper := proper.of_at atDecide
  cases suspension with
  | drain => exact isProper.elim
  | pending pending =>
    cases pending with
    | future future => exact isProper.elim
    | exchange => exact progresses_goto proper atDecide trivial (lt_succ_self _)
  | await future =>
    rw [decide_]
    split
    · next resolved =>
      refine progresses_goto proper atDecide trivial ?_
      simp [Position.rank, decideRank, resolved]
    · next unresolved =>
      have isFuture : exchange.state.futures[future]? = some _ :=
        getElem?_eq_getElem isProper
      refine progresses_goto proper atDecide ⟨_, isFuture, ?_⟩ ?_
      · -- Only the callback of a resolved future has sent its token.
        intro isSent
        exact absurd (resolved_iff.mpr ⟨_, isFuture, proper.sent isFuture isSent⟩) unresolved
      · simp [Position.rank, decideRank, unresolved]

theorem progresses_walk (orderly : Orderly router)
    (walked : exchange.walk router = some after) : Progresses router exchange after := by
  unfold walk at walked
  split at walked
  · next isAt => exact some.inj walked ▸ progresses_visit proper isAt
  · next isAt => exact some.inj walked ▸ progresses_settleAt proper orderly isAt
  · next isAt => exact (proper.of_at isAt).elim
  · next isAt => exact some.inj walked ▸ progresses_awaitTags proper isAt
  · next rule isAt =>
    cases walked
    have current : Current router exchange.state rule := proper.of_at isAt
    unfold evaluate
    split
    · exact progresses_goto proper isAt current (lt_succ_self _)
    · exact progresses_nextRule proper current.isRule
  · next isAt => exact some.inj walked ▸ progresses_act proper orderly isAt
  · next isAt =>
    cases walked
    exact progresses_respondWith proper _ _ (isAt ▸ zero_lt_one)
  · next caller index isAt =>
    cases walked
    have isProper := proper.of_at isAt
    cases caller with
    | walk => exact isProper.elim
    | resume suspension =>
      have noRule : exchange.state.armedRules[index]? = none := by
        rw [proper.consistent.unarmed]
        rfl
      unfold sweep
      rw [noRule]
      exact progresses_goto proper isAt isProper (lt_succ_self _)
  · next isAt => exact (proper.of_at isAt).elim
  · next isAt => exact (proper.of_at isAt).elim
  · next isAt => exact (proper.of_at isAt).elim
  · next isAt => exact some.inj walked ▸ progresses_decide proper isAt
  · next suspension isAt =>
    split at walked <;> cases walked
    next hasToken =>
    have isProper := proper.of_at isAt
    have waked := proper.consistent.frame exchange.state.effectiveOptions false (le_refl _)
    refine ⟨⟨waked, proper.sent, ?_⟩, .right _ (.right _ (.left _ _ ?_))⟩
    · cases suspension with
      | await future =>
        rcases isProper with ⟨_, isFuture, _⟩
        exact index_lt isFuture
      | _ => exact isProper.elim
    · change _ + 0 < _ + exchange.state.wake.toNat
      rw [hasToken]
      exact lt_succ_self _
  · next pending isAt =>
    cases pending with
    | future => exact (proper.of_at isAt).elim
    | exchange =>
      cases walked
      refine ⟨⟨proper.consistent, proper.sent, trivial⟩, .right _ (.right _ (.right _ ?_))⟩
      rw [isAt]
      exact zero_lt_one
  · cases walked

theorem progresses_complete (completed : exchange.complete future = some after) :
    Progresses router exchange after := by
  rcases complete_cases completed with ⟨pending, isFuture, notDone, rfl⟩
  refine ⟨⟨proper.consistent.complete isFuture notDone, ?_, ?_⟩, .right _ (.right _ (.left _ _ ?_))⟩
  · exact sent_set proper rfl
  · refine proper.position.advances
      (.set { pending with done := true } isFuture ⟨rfl, rfl, rfl, fun _ => rfl, id⟩) ?_
    intro index before now isBefore isNow hasToken isSent
    apply hasToken
    rcases getElem?_set_cases isNow with ⟨isIndex, isNew⟩ | ⟨_, isOther⟩
    · rw [isIndex, isFuture] at isBefore
      cases isBefore
      rw [isNew] at isSent
      exact isSent
    · cases isBefore.symm.trans isOther
      exact isSent
  · have undone := countP_set_removed { pending with done := true } (!·.done) isFuture
      (by simp [notDone]) rfl
    have unsent := countP_set_unchanged { pending with done := true } (!·.sent) isFuture rfl
    unfold work
    dsimp only
    omega

theorem progresses_send (sent : exchange.send future = some after) :
    Progresses router exchange after := by
  rcases send_cases sent with ⟨finished, isFuture, isDone, notSent, rfl⟩
  refine ⟨⟨proper.consistent.send isFuture, ?_, ?_⟩, .right _ (.right _ (.left _ _ ?_))⟩
  · exact sent_set proper isDone
  · exact proper.position.advances
      (.set { finished with sent := true } isFuture ⟨rfl, rfl, rfl, id, id⟩) fun _ _ _ _ => rfl
  · have undone := countP_set_unchanged { finished with sent := true } (!·.done) isFuture rfl
    have unsent := countP_set_removed { finished with sent := true } (!·.sent) isFuture
      (by simp [notSent]) rfl
    have token : exchange.state.wake.toNat ≤ 1 := toNat_le _
    unfold work
    dsimp only
    rw [toNat_true]
    omega

theorem progresses_next (orderly : Orderly router) {action : WalkAction}
    (taken : exchange.next router action = some after) : Progresses router exchange after := by
  cases action with
  | walk => exact progresses_walk proper orderly taken
  | complete future => exact progresses_complete proper taken
  | send => exact progresses_send proper taken

/-- While it has not returned, the walk or a callback can take a step. -/
theorem returned_of_stuck (stuck : ∀ action, exchange.next router action = none) :
    ∃ result, exchange.position = .returned result := by
  have cannotWalk : exchange.walk router = none := stuck .walk
  unfold walk at cannotWalk
  cases isPosition : exchange.position with
  | returned result => exact ⟨result, rfl⟩
  | blocked suspension =>
    rw [isPosition] at cannotWalk
    have isProper := proper.of_at isPosition
    cases suspension with
    | drain | pending pending => exact isProper.elim
    | await future =>
      rcases isProper with ⟨awaited, isFuture, hasToken⟩
      have isDone : awaited.done = true := by
        have cannotComplete : exchange.complete future = none := stuck (.complete future)
        by_contra notDone
        simp [complete, isFuture, notDone] at cannotComplete
      have isSent : awaited.sent = true := by
        have cannotSend : exchange.send future = none := stuck (.send future)
        by_contra notSent
        simp [send, isFuture, isDone, notSent] at cannotSend
      simp [hasToken isSent] at cannotWalk
  | finish pending =>
    rw [isPosition] at cannotWalk
    cases pending with
    | future => exact (proper.of_at isPosition).elim
    | exchange => cases cannotWalk
  | _ => simp [isPosition] at cannotWalk

end

variable {query : Query} {start : Exchange}

theorem Starts.proper (starts : Starts query start) : Proper router start := by
  cases starts <;>
    exact ⟨Consistent.fresh query.options, nofun, trivial⟩

theorem walk_terminates (orderly : Orderly router) (starts : Starts query start) :
    Terminates (fun exchange action after => exchange.next router action = some after) start :=
  terminates_of_rank rankLess_wellFounded (rank router) (Proper router) starts.proper
    fun proper taken =>
      have progresses := progresses_next proper orderly taken
      ⟨progresses.proper, progresses.decreases⟩

end SingBox.Dns
