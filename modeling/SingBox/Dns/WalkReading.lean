import SingBox.Dns.WalkState

/-! # What the walk reads

A rule is ready when the futures that it is bound to are resolved and, if they
are named, settled. Reading the state then gives what the reference has
evaluated. Callbacks and settling only ever move futures on.
-/

namespace SingBox.Dns

open Adapter Route List Exchange WalkState Option Function Bool

variable {router : Router}

/-! ## What a rule waits for -/

/-- The futures before `count` with one of these tags are settled if done. -/
def Seen (state : WalkState) (tags : List String) (count : Nat) : Prop :=
  ∀ {index : Nat} {future : Future}, index < count → state.futures[index]? = some future →
    future.tag ∈ tags → future.done = true → future.settled = true

structure Ready (state : WalkState) (rule : DNSRule) : Prop where
  tags : ∀ tag ∈ matchResponseTags rule.rule, ∀ index, state.namedFutures tag = some index →
    ∃ future, state.futures[index]? = some future ∧ future.done = true ∧ future.settled = true
  anonymous : matchResponseAnonymous rule.rule = true → ∀ index,
    state.anonymousFuture = some index → state.resolved index = true

variable {index : Nat} {state : WalkState} {exchange : Exchange} {rule : DNSRule}

theorem WalkState.resolved_iff :
    state.resolved index = true ↔
      ∃ future, state.futures[index]? = some future ∧ future.done = true := by
  unfold resolved
  cases state.futures[index]? <;> simp

theorem pendingFuture_eq_none {future : Option Nat} (notPending : state.pendingFuture future = none)
    (isFuture : future = some index) : state.resolved index = true := by
  subst isFuture
  simpa [pendingFuture] using notPending

theorem pendingFuture_eq_some {future : Option Nat}
    (isPending : state.pendingFuture future = some index) : future = some index := by
  exact eq_some_of_filter_eq_some isPending

theorem ready_of_unbound (unbound : hasBindings rule = false) (state : WalkState) :
    Ready state rule := by
  simp only [hasBindings, or_eq_false_iff, not_eq_false', List.isEmpty_iff] at unbound
  constructor
  · intro _ bound
    rw [unbound.1] at bound
    cases bound
  · intro bound
    rw [unbound.2] at bound
    cases bound

/-! ## Reading futures -/

section

variable {state : WalkState} {index : Nat} {rule : DNSRule} {tag : String}

theorem view_of_done {future : Future} (isFuture : state.futures[index]? = some future)
    (isDone : future.done = true) : future.view = (state.evaluated index).bind Evaluated.view := by
  simp [evaluated, isFuture, Future.view, isDone, Evaluated.view]

theorem anonymousResponse_of_resolved
    (resolved : ∀ index, state.anonymousFuture = some index → state.resolved index = true) :
    state.anonymousResponse =
      (state.anonymousFuture.bind state.evaluated).bind Evaluated.view := by
  unfold anonymousResponse
  cases isFuture : state.anonymousFuture with
  | none => rfl
  | some index =>
    rcases resolved_iff.mp (resolved index isFuture) with ⟨_, isAt, isDone⟩
    rw [bind_some, bind_some, ← view_of_done isAt isDone, view, isAt]
    rfl

section

variable (consistent : Consistent router state) (ready : Ready state rule)
  (bound : tag ∈ matchResponseTags rule.rule)
include consistent ready bound

theorem Consistent.recorded_of_ready (isNamed : state.namedFutures tag = some index) :
    ∃ future, state.futures[index]? = some future ∧ future.done = true ∧
      state.namedResponses tag = future.view ∧
      state.namedTransports tag = some future.transport := by
  rcases ready.tags tag bound index isNamed with ⟨future, isFuture, isDone, isSettled⟩
  rcases consistent.named isNamed with ⟨_, isOther, isTag⟩
  cases isFuture.symm.trans isOther
  have isTagged : future.tag ≠ "" := by
    rw [isTag]
    intro isEmpty
    rw [isEmpty] at bound
    exact matchResponseTags_ne_empty rule.rule bound
  have recorded := (consistent.settled isFuture isSettled).2 isTagged
  rw [isTag] at recorded
  exact ⟨future, isFuture, isDone, recorded⟩

theorem Consistent.namedResponses_of_ready :
    state.namedResponses tag =
      ((state.namedFutures tag).bind state.evaluated).bind Evaluated.view := by
  cases isNamed : state.namedFutures tag with
  | none => exact consistent.missing isNamed
  | some =>
    rcases consistent.recorded_of_ready ready bound isNamed with
      ⟨future, isFuture, isDone, response, _⟩
    exact response.trans (view_of_done isFuture isDone)

end

end

theorem matches_of_ready (consistent : Consistent router exchange.state)
    (reads : ReadsBound rule.rule) (ready : Ready exchange.state rule) :
    exchange.matches_ router rule exchange.state.anonymousResponse =
      exchange.running.matches_ router rule := by
  refine congrArg Outcome.matched <| match_eq_of_bound reads
    (exchange.evaluationMetadata exchange.state.anonymousResponse) rfl
    (exchange.running.anonymous.bind Evaluated.view)
    (fun tag => (exchange.running.named tag).bind Evaluated.view) ?_ ?_
  · intro _ bound
    exact consistent.namedResponses_of_ready ready bound
  · intro bound
    exact anonymousResponse_of_resolved (ready.anonymous bound)

/-! ## The current rule -/

structure Current (router : Router) (state : WalkState) (rule : DNSRule) : Prop where
  isRule : router.rules[state.ruleIndex]? = some rule
  enabled : router.disabled state.ruleIndex = false

namespace Current

variable {exchange : Exchange} {rule : DNSRule}

section

variable (current : Current router exchange.state rule)
include current

theorem member : rule ∈ router.rules :=
  mem_of_getElem? current.isRule

theorem look_eq :
    exchange.running.look router =
      if exchange.running.matches_ router rule then exchange.running.act router rule
      else exchange.running.nextRule := by
  have isRule : router.rules[exchange.running.ruleIndex]? = some rule := current.isRule
  have enabled : router.disabled exchange.running.ruleIndex = false := current.enabled
  simp only [SequentialState.look, isRule, enabled, false_eq_true, if_false]

end

end Current

/-! ## Launching -/

section

variable {exchange : Exchange}

theorem whenDrained_eq (consistent : Consistent router exchange.state) (next : Exchange) :
    exchange.whenDrained next = next := by
  simp [whenDrained, consistent.unarmed]

theorem bind_evaluated_launch {found : Option Nat}
    (fits : ∀ {index}, found = some index → index < state.futures.length) (new : Future) :
    found.bind { state with futures := state.futures ++ [new] }.evaluated =
      found.bind state.evaluated := by
  cases isFound : found with
  | none => rfl
  | some index =>
    change ((state.futures ++ [new])[index]?).map _ = (state.futures[index]?).map _
    rw [getElem?_append_left (fits isFound)]

theorem evaluated_launched (state : WalkState) (new : Future) :
    { state with futures := state.futures ++ [new] }.evaluated state.futures.length =
      some ⟨new.transport, new.reply⟩ := by
  change ((state.futures ++ [new])[state.futures.length]?).map _ = _
  rw [getElem?_concat_length]
  rfl

theorem running_evaluateAction (consistent : Consistent router exchange.state) (tag : String)
    (transport : Transport) (options : QueryOptions) :
    (exchange.evaluateAction router tag transport options).running =
      exchange.running.evaluateAction router tag transport options := by
  have namedFits : ∀ {other : String} {index : Nat},
      exchange.state.namedFutures other = some index → index < exchange.state.futures.length := by
    intro other _ isNamed
    rcases consistent.named isNamed with ⟨_, isFuture, _⟩
    exact index_lt isFuture
  unfold evaluateAction SequentialState.evaluateAction
  split
  · ext1
    case isTrue.anonymous => exact evaluated_launched exchange.state _
    case isTrue.named =>
      funext other
      exact bind_evaluated_launch namedFits _
    all_goals rfl
  · ext1
    case isFalse.anonymous => exact bind_evaluated_launch consistent.anonymous _
    case isFalse.named =>
      funext other
      change (update exchange.state.namedFutures tag _ other).bind _ =
        update exchange.running.named tag _ other
      by_cases same : other = tag
      · subst same
        rw [update_self, update_self]
        exact evaluated_launched exchange.state _
      · rw [update_of_ne same, update_of_ne same]
        exact bind_evaluated_launch namedFits _
    all_goals rfl

theorem futures_evaluateAction (tag : String) (transport : Transport) (options : QueryOptions) :
    (exchange.evaluateAction router tag transport options).nextRule.state.futures =
      exchange.state.futures ++
        [exchange.launchedFuture router tag transport options false] := by
  unfold evaluateAction
  split <;> rfl

theorem consistent_evaluate (orderly : Orderly router)
    (consistent : Consistent router exchange.state) {tag : String} {transport : Transport}
    {options : QueryOptions} (evaluates : Evaluates router exchange.state.ruleIndex tag) :
    Consistent router
      (exchange.evaluateAction router tag transport options).nextRule.state := by
  unfold evaluateAction
  split
  · next noTag => exact consistent.launchAnonymous rfl noTag
  next isTagged =>
  exact consistent.launchNamed orderly
    (exchange.launchedFuture router tag transport options false) rfl isTagged evaluates

end

/-! ## Futures that move on -/

structure Future.Advances (before after : Future) : Prop where
  tag : after.tag = before.tag
  transport : after.transport = before.transport
  reply : after.reply = before.reply
  done : before.done = true → after.done = true
  settled : before.settled = true → after.settled = true

theorem Future.Advances.refl (future : Future) : future.Advances future :=
  ⟨rfl, rfl, rfl, id, id⟩

structure WalkState.Advances (before after : WalkState) : Prop where
  ruleIndex : after.ruleIndex = before.ruleIndex
  effectiveOptions : after.effectiveOptions = before.effectiveOptions
  anonymousFuture : after.anonymousFuture = before.anonymousFuture
  namedFutures : after.namedFutures = before.namedFutures
  futures : ∀ index : Nat,
    Option.Rel Future.Advances before.futures[index]? after.futures[index]?

namespace WalkState.Advances

variable {state after : WalkState}

theorem refl (state : WalkState) : state.Advances state := by
  refine ⟨rfl, rfl, rfl, rfl, ?_⟩
  intro index
  cases state.futures[index]? with
  | none => exact .none
  | some future => exact .some (.refl future)

theorem wake (state : WalkState) (wake : Bool) : state.Advances { state with wake := wake } :=
  ⟨rfl, rfl, rfl, rfl, (refl state).futures⟩

theorem set {position : Nat} {old : Future} (new : Future)
    (isOld : state.futures[position]? = some old) (advances : old.Advances new) {wake : Bool}
    {responses : String → Option Msg} {transports : String → Option Transport} :
    state.Advances
      { state with
        futures := state.futures.set position new
        wake := wake
        namedResponses := responses
        namedTransports := transports } := by
  refine ⟨rfl, rfl, rfl, rfl, ?_⟩
  intro index
  by_cases same : index = position
  · subst same
    have fits := index_lt isOld
    rw [isOld, getElem?_set_self fits]
    exact .some advances
  · rw [getElem?_set_ne (Ne.symm same)]
    exact (refl state).futures index

theorem settle (state : WalkState) (position : Nat) : state.Advances (state.settle position) := by
  rcases state.settle_cases position with ⟨same, _⟩ | ⟨old, _, _, isOld, _, isState, _⟩
  · rw [same]
    exact refl state
  · rw [isState]
    exact set { old with settled := true } isOld ⟨rfl, rfl, rfl, id, fun _ => rfl⟩

section

variable (advances : state.Advances after)
include advances

variable {index : Nat} {rule : DNSRule}

theorem future {future : Future} (isFuture : state.futures[index]? = some future) :
    ∃ later, after.futures[index]? = some later ∧ future.Advances later := by
  have related := advances.futures index
  rw [isFuture] at related
  generalize isLater : after.futures[index]? = found at related
  cases related with
  | some advanced => exact ⟨_, rfl, advanced⟩

theorem lt_length (fits : index < state.futures.length) : index < after.futures.length := by
  rcases advances.future (getElem?_eq_getElem fits) with ⟨_, isLater, _⟩
  exact index_lt isLater

theorem length_le : after.futures.length ≤ state.futures.length := by
  have related := advances.futures state.futures.length
  rw [getElem?_eq_none (Nat.le_refl _)] at related
  generalize isLater : after.futures[state.futures.length]? = found at related
  cases related
  exact getElem?_eq_none_iff.mp isLater

theorem length_eq : after.futures.length = state.futures.length := by
  refine Nat.le_antisymm advances.length_le (Nat.le_of_not_lt ?_)
  intro shorter
  exact Nat.lt_irrefl _ (advances.lt_length shorter)

theorem resolved (isResolved : state.resolved index = true) : after.resolved index = true := by
  rcases resolved_iff.mp isResolved with ⟨future, isFuture, isDone⟩
  rcases advances.future isFuture with ⟨later, isLater, advanced⟩
  exact resolved_iff.mpr ⟨later, isLater, advanced.done isDone⟩

theorem ready (ready : Ready state rule) :
    Ready after rule where
  tags tag bound index isNamed := by
    rw [advances.namedFutures] at isNamed
    rcases ready.tags tag bound index isNamed with ⟨future, isFuture, isDone, isSettled⟩
    rcases advances.future isFuture with ⟨later, isLater, advanced⟩
    exact ⟨later, isLater, advanced.done isDone, advanced.settled isSettled⟩
  anonymous bound index isFuture := by
    rw [advances.anonymousFuture] at isFuture
    exact advances.resolved (ready.anonymous bound index isFuture)

theorem current (current : Current router state rule) : Current router after rule := by
  rcases current with ⟨isRule, enabled⟩
  rw [← advances.ruleIndex] at isRule enabled
  exact ⟨isRule, enabled⟩

theorem evaluated_eq : after.evaluated = state.evaluated := by
  funext index
  have related := advances.futures index
  unfold evaluated
  generalize after.futures[index]? = later at related ⊢
  generalize state.futures[index]? = earlier at related ⊢
  cases related with
  | none => rfl
  | some advanced => simp [advanced.transport, advanced.reply]

end

theorem running_eq (advances : exchange.state.Advances after) (position : Position) :
    { exchange with state := after, position := position }.running = exchange.running := by
  unfold running
  rw [advances.ruleIndex, advances.effectiveOptions, advances.anonymousFuture,
    advances.namedFutures, advances.evaluated_eq]

end WalkState.Advances

variable {position : Nat} {state : WalkState}

theorem settle_getElem_of_ne (different : index ≠ position) :
    (state.settle position).futures[index]? = state.futures[index]? := by
  rcases state.settle_cases position with ⟨same, _⟩ | ⟨_, _, _, _, _, isState, _⟩
  · rw [same]
  · rw [isState]
    exact getElem?_set_ne (Ne.symm different)

theorem settled_of_settle {future : Future}
    (isFuture : (state.settle position).futures[position]? = some future)
    (isDone : future.done = true) : future.settled = true := by
  rcases state.settle_cases position with ⟨same, settled⟩ | ⟨_, _, _, _, _, isState, _⟩
  · rw [same] at isFuture
    exact settled future isFuture isDone
  rw [isState] at isFuture
  rcases getElem?_set_cases isFuture with ⟨_, isNew⟩ | ⟨different, _⟩
  · rw [isNew]
  · exact absurd rfl different

end SingBox.Dns
