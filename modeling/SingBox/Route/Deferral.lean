import SingBox.Foundation.Verdict
import SingBox.Route.Match

/-! # Deferred groups as verdicts

Before a lookup the evaluator is three-valued: a match with deferred groups is
left to the response. This file reads an outcome as a verdict, shows that the
loops of the evaluator combine verdicts by the Kleene connectives, and says
when a group is deferred.
-/

namespace SingBox.Route

open Adapter List DefaultItems Bool

namespace Outcome

def verdict (outcome : Outcome) : Verdict :=
  if outcome.matched then if outcome.deferred == 0 then .yes else .maybe else .no

variable {outcome : Outcome}

theorem verdict_no (noMatch : outcome.matched = false) : outcome.verdict = .no := by
  simp [verdict, noMatch]

theorem verdict_yes (isMatch : outcome.matched = true) (certain : outcome.deferred = 0#8) :
    outcome.verdict = .yes := by
  simp [verdict, isMatch, certain]

theorem verdict_maybe (isMatch : outcome.matched = true) (isOpen : outcome.deferred ≠ 0#8) :
    outcome.verdict = .maybe := by
  simp [verdict, isMatch, isOpen]

theorem verdict_eq_no_iff : outcome.verdict = .no ↔ outcome.matched = false := by
  by_cases isMatch : outcome.matched = true <;> by_cases certain : outcome.deferred = 0#8 <;>
    simp [verdict, certain]

theorem verdict_eq_yes_iff :
    outcome.verdict = .yes ↔ outcome.matched = true ∧ outcome.deferred = 0#8 := by
  by_cases isMatch : outcome.matched = true <;> by_cases certain : outcome.deferred = 0#8 <;>
    simp [verdict, isMatch]

end Outcome

namespace Rule

variable {Item : Type} (itemMatch : Item → InboundContext → Bool)

/-! ## Verdicts of the loops -/

theorem invertDefault_verdict (invert : Bool) (inner : Outcome) :
    (invertDefault invert inner).verdict =
      if invert then inner.verdict.not else inner.verdict := by
  rcases inner with ⟨matched, deferred⟩
  by_cases certain : deferred = 0#8 <;> cases invert <;> cases matched <;>
    simp [invertDefault, Outcome.verdict, Verdict.not, certain]

variable {metadata : InboundContext}

theorem invertLogical_verdict (invert : Bool) (fresh : metadata.deferredIPCIDRMatchGroups = 0#8)
    (inner : Outcome) :
    (invertLogical invert metadata inner).verdict =
      if invert then inner.verdict.not else inner.verdict := by
  rcases inner with ⟨matched, deferred⟩
  by_cases certain : deferred = 0#8 <;> cases invert <;> cases matched <;>
    simp [invertLogical, Outcome.verdict, Verdict.not, fresh, certain]

variable (rules : List (Rule Item))

private theorem matchAnd_verdict_from (metadata : InboundContext)
    (deferredGroups : RuleMatchState) :
    (matchAnd itemMatch rules metadata deferredGroups).verdict =
      (Outcome.mk true deferredGroups).verdict.and
        (.all (rules.map fun rule =>
          (rule.match itemMatch metadata.resetRuleCache).verdict)) := by
  induction rules generalizing deferredGroups with
  | nil =>
    by_cases certain : deferredGroups = 0#8 <;>
      simp [matchAnd, Outcome.verdict, Verdict.and, certain]
  | cons rule _ induction =>
    rw [matchAnd, map_cons, Verdict.all_cons]
    generalize rule.match itemMatch metadata.resetRuleCache = nested
    rcases nested with ⟨matched, deferred⟩
    cases matched with
    | false =>
      by_cases certain : deferredGroups = 0#8 <;>
        simp [Outcome.verdict, Verdict.and, certain]
    | true =>
      simp only [if_true, induction]
      generalize Verdict.all _ = rest
      by_cases certain : deferredGroups = 0#8 <;> by_cases nestedCertain : deferred = 0#8 <;>
        cases rest <;>
        simp [Outcome.verdict, Verdict.and, certain, nestedCertain]

theorem matchAnd_verdict (metadata : InboundContext) :
    (matchAnd itemMatch rules metadata 0).verdict =
      .all (rules.map fun rule =>
        (rule.match itemMatch metadata.resetRuleCache).verdict) := by
  rw [matchAnd_verdict_from]
  generalize Verdict.all _ = rest
  cases rest <;> rfl

/-- The loop over alternatives that `matchOr` and `matchAnyHeadlessRule` share. -/
def alternatives : List Outcome → Bool → RuleMatchState → Outcome
  | [], matched, deferredGroups => ⟨matched, deferredGroups⟩
  | nested :: rest, matched, deferredGroups =>
    if nested.matched then
      if nested.deferred == 0 then ⟨true, 0⟩
      else alternatives rest true (deferredGroups ||| nested.deferred)
    else alternatives rest matched deferredGroups

theorem matchOr_eq_alternatives (metadata : InboundContext)
    (matched : Bool) (deferredGroups : RuleMatchState) :
    matchOr itemMatch rules metadata matched deferredGroups =
      alternatives (rules.map fun rule => rule.match itemMatch metadata.resetRuleCache)
        matched deferredGroups := by
  induction rules generalizing matched deferredGroups with
  | nil => rfl
  | cons _ _ induction => simp only [matchOr, map_cons, alternatives, induction]

theorem matchAnyHeadlessRule_eq_alternatives
    (fresh : metadata.deferredIPCIDRMatchGroups = 0#8) (matched : Bool)
    (deferredGroups : RuleMatchState) (closed : matched = false → deferredGroups = 0#8) :
    matchAnyHeadlessRule itemMatch rules metadata matched deferredGroups =
      alternatives (rules.map fun rule => rule.match itemMatch metadata.resetRuleMatchCache)
        matched deferredGroups := by
  induction rules generalizing matched deferredGroups with
  | nil =>
    cases matched with
    | false => simp [matchAnyHeadlessRule, alternatives, fresh, closed rfl]
    | true => simp [matchAnyHeadlessRule, alternatives, fresh]
  | cons _ _ induction =>
    have joined := fun deferred =>
      induction true (deferredGroups ||| deferred) (by simp)
    simp only [matchAnyHeadlessRule, map_cons, joined, induction matched deferredGroups closed,
      fresh]
    rfl

variable (outcomes : List Outcome)

private theorem alternatives_verdict_from (matched : Bool)
    (deferredGroups : RuleMatchState) (isOpen : matched = true → deferredGroups ≠ 0#8) :
    (alternatives outcomes matched deferredGroups).verdict =
      (Outcome.mk matched deferredGroups).verdict.or
        (.any (outcomes.map Outcome.verdict)) := by
  induction outcomes generalizing matched deferredGroups with
  | nil =>
    rw [alternatives, map_nil, Verdict.any_nil]
    generalize (Outcome.mk matched deferredGroups).verdict = soFar
    cases soFar <;> rfl
  | cons nested _ induction =>
    rw [alternatives, map_cons, Verdict.any_cons]
    cases isMatch : nested.matched with
    | false =>
      rw [Outcome.verdict_no isMatch, if_neg (by simp), induction _ _ isOpen]
      generalize Verdict.any _ = others
      cases others <;> rfl
    | true =>
      by_cases certain : nested.deferred = 0#8
      · rw [Outcome.verdict_yes isMatch certain, if_pos rfl, if_pos (by simp [certain])]
        generalize (Outcome.mk matched deferredGroups).verdict = soFar
        cases soFar <;> rfl
      · have joined : deferredGroups ||| nested.deferred ≠ 0#8 := by
          simp [certain]
        rw [Outcome.verdict_maybe isMatch certain, if_pos rfl, if_neg (by simp [certain]),
          induction _ _ fun _ => joined, Outcome.verdict_maybe rfl joined]
        generalize Verdict.any _ = others
        cases matched with
        | false => cases others <;> rfl
        | true =>
          rw [Outcome.verdict_maybe rfl (isOpen rfl)]
          cases others <;> rfl

theorem alternatives_verdict :
    (alternatives outcomes false 0).verdict = .any (outcomes.map Outcome.verdict) := by
  rw [alternatives_verdict_from outcomes false 0 nofun]
  generalize Verdict.any _ = others
  cases others <;> rfl

/-! ## Results of the loops -/

theorem matchAnd_matched (metadata : InboundContext) :
    (matchAnd itemMatch rules metadata 0).matched =
      rules.all fun rule => (rule.match itemMatch metadata.resetRuleCache).matched := by
  rw [Bool.eq_iff_iff, ← not_eq_false, ← Outcome.verdict_eq_no_iff, matchAnd_verdict,
    Verdict.all_eq_no_iff]
  simp [Outcome.verdict_eq_no_iff]

theorem alternatives_matched :
    (alternatives outcomes false 0).matched = outcomes.any Outcome.matched := by
  rw [Bool.eq_iff_iff, ← not_eq_false, ← Outcome.verdict_eq_no_iff, alternatives_verdict,
    Verdict.any_eq_no_iff]
  simp [Outcome.verdict_eq_no_iff]

section

variable {rules} (fresh : metadata.deferredIPCIDRMatchGroups = 0#8)
include fresh

theorem matchAnyHeadlessRule_verdict :
    (matchAnyHeadlessRule itemMatch rules metadata false 0).verdict =
      .any (rules.map fun rule =>
        (rule.match itemMatch metadata.resetRuleMatchCache).verdict) := by
  rw [matchAnyHeadlessRule_eq_alternatives itemMatch rules fresh false 0 fun _ => rfl,
    alternatives_verdict, map_map]
  rfl

theorem matchAnyHeadlessRule_matched :
    (matchAnyHeadlessRule itemMatch rules metadata false 0).matched =
      rules.any fun rule => (rule.match itemMatch metadata.resetRuleMatchCache).matched := by
  rw [matchAnyHeadlessRule_eq_alternatives itemMatch rules fresh false 0 fun _ => rfl,
    alternatives_matched, any_map]
  rfl

end

/-! ## Where deferred groups come from -/

/-- Nothing is deferred, or the destination address is, for a reason. -/
def DeferredFor (reason : Prop) (state : RuleMatchState) : Prop :=
  state = 0#8 ∨ (state = Group.destinationAddress.bit ∧ reason)

namespace DeferredFor

variable {reason : Prop} {left right : RuleMatchState}

theorem zero : DeferredFor reason 0#8 := .inl rfl

theorem or (leftDeferred : DeferredFor reason left) (rightDeferred : DeferredFor reason right) :
    DeferredFor reason (left ||| right) := by
  rcases leftDeferred with rfl | ⟨rfl, holds⟩
  · simpa using rightDeferred
  · rcases rightDeferred with rfl | ⟨rfl, _⟩ <;> exact .inr ⟨by simp, holds⟩

theorem andNot (leftDeferred : DeferredFor reason left) (right : RuleMatchState) :
    DeferredFor reason (left &&& ~~~right) := by
  have cleared : ∀ state : RuleMatchState,
      Group.destinationAddress.bit &&& ~~~state = 0#8 ∨
        Group.destinationAddress.bit &&& ~~~state = Group.destinationAddress.bit := by
    decide
  rcases leftDeferred with rfl | ⟨rfl, holds⟩
  · exact .inl (by simp)
  · exact (cleared right).imp_right fun isBit => ⟨isBit, holds⟩

theorem ite (condition : Bool) (leftDeferred : DeferredFor reason left)
    (rightDeferred : DeferredFor reason right) :
    DeferredFor reason (if condition then left else right) := by
  cases condition with
  | false => exact rightDeferred
  | true => exact leftDeferred

end DeferredFor

theorem deferredFor_deferGroups (own : DefaultItems Item)
    (fresh : metadata.deferredIPCIDRMatchGroups = 0#8) :
    DeferredFor (metadata.ignoreDestinationIPCIDRMatch = true) (own.deferGroups metadata) := by
  unfold deferGroups
  split
  · next pending =>
    simp only [and_eq_true] at pending
    rw [fresh]
    exact .inr ⟨by simp, pending.1.1.1⟩
  · exact .inl fresh

/-! ## Rule-sets -/

variable (outerGroups : RuleGroupMatch) (nested : InboundContext) {setList : List (RuleSet Item)}
  {ruleSet : RuleSet Item}

/-- The condition under which `matchWithOuterGroups` counts a set as matched. -/
def setMatches (ruleSet : RuleSet Item) : Bool :=
  match mergeableRuleIn ruleSet with
  | some branch =>
    branch.matchItems itemMatch nested &&
      (outerGroups.mergeWith (branch.groups itemMatch nested)).done
  | none => outerGroups.done && (matchAnyHeadlessRule itemMatch ruleSet nested false 0).matched

/-- What a set that matches leaves to the response. -/
def setDeferred (ruleSet : RuleSet Item) : RuleMatchState :=
  match mergeableRuleIn ruleSet with
  | some branch =>
    branch.deferGroups nested &&&
      ~~~(outerGroups.mergeWith (branch.groups itemMatch nested)).satisfied
  | none => (matchAnyHeadlessRule itemMatch ruleSet nested false 0).deferred

/-- What it leaves of the groups that the outer rule defers. -/
def setRest (deferred : RuleMatchState) (ruleSet : RuleSet Item) : RuleMatchState :=
  match mergeableRuleIn ruleSet with
  | some branch =>
    deferred &&& ~~~(outerGroups.mergeWith (branch.groups itemMatch nested)).satisfied
  | none => deferred

section

variable (setList : List (RuleSet Item)) (nested : InboundContext) (outerGroups : RuleGroupMatch)
variable (deferred : RuleMatchState) (matched : Bool) (deferredGroups : RuleMatchState)

theorem matchWithOuterGroups_cons (ruleSet : RuleSet Item) :
    matchWithOuterGroups itemMatch (ruleSet :: setList) nested outerGroups deferred matched
        deferredGroups =
      if setMatches itemMatch outerGroups nested ruleSet then
        if setDeferred itemMatch outerGroups nested ruleSet = 0#8 then
          ⟨true, setRest itemMatch outerGroups nested deferred ruleSet⟩
        else
          matchWithOuterGroups itemMatch setList nested outerGroups deferred true
            (deferredGroups ||| setDeferred itemMatch outerGroups nested ruleSet)
      else
        matchWithOuterGroups itemMatch setList nested outerGroups deferred matched
          deferredGroups := by
  rw [matchWithOuterGroups, setMatches, setDeferred, setRest]
  cases mergeableRuleIn ruleSet with
  | none => simp
  | some branch =>
    cases matchItems : branch.matchItems itemMatch nested with
    | false => simp [evaluateForMerge, matchItems]
    | true => simp [evaluateForMerge, evaluateGroups, matchItems]

theorem matchWithOuterGroups_matched :
    (matchWithOuterGroups itemMatch setList nested outerGroups deferred matched
      deferredGroups).matched =
      (matched || setList.any (setMatches itemMatch outerGroups nested)) := by
  induction setList generalizing matched deferredGroups with
  | nil => simp [matchWithOuterGroups]
  | cons ruleSet _ induction =>
    rw [matchWithOuterGroups_cons, any_cons]
    cases setMatches itemMatch outerGroups nested ruleSet with
    | false => simp [induction]
    | true =>
      rw [if_pos rfl]
      split <;> simp [induction]

end

/-! ## Default rules before their inversion -/

/-- What a default rule asks after its own items. -/
def ruleSetsOutcome (ruleSetItem : Option (RuleSetItem Item)) (metadata : InboundContext)
    (groups : RuleGroupMatch) (deferred : RuleMatchState) : Outcome :=
  match ruleSetItem with
  | none => ⟨groups.done, deferred⟩
  | some item =>
    matchWithOuterGroups itemMatch item.setList (item.nestedMetadata metadata) groups deferred
      false 0

def matchInner (own : DefaultItems Item) (ruleSetItem : Option (RuleSetItem Item))
    (metadata : InboundContext) : Outcome :=
  matchInnerWith itemMatch own metadata (ruleSetsOutcome itemMatch ruleSetItem metadata)

section

variable (own : DefaultItems Item) (ruleSetItem : Option (RuleSetItem Item)) (invert : Bool)
  (metadata : InboundContext)

theorem matchDefault_eq_matchInner :
    matchDefault itemMatch own ruleSetItem invert metadata =
      if ruleSetItem.isNone && own.isEmpty then ⟨true, metadata.deferredIPCIDRMatchGroups⟩
      else invertDefault invert (matchInner itemMatch own ruleSetItem metadata) := by
  rcases ruleSetItem with _ | ⟨_, _, _⟩ <;>
  · rw [matchDefault]
    rfl

theorem matchInner_matched :
    (matchInner itemMatch own ruleSetItem metadata).matched =
      (own.matchItems itemMatch metadata &&
        (ruleSetsOutcome itemMatch ruleSetItem metadata (own.groups itemMatch metadata)
          (own.deferGroups metadata)).matched) := by
  cases matchItems : own.matchItems itemMatch metadata with
  | false =>
    rw [matchInner, matchInnerWith_of_not_matchItems _ matchItems]
    rfl
  | true =>
    rw [matchInner, matchInnerWith_of_matchItems _ matchItems, Bool.true_and]
    dsimp only
    split <;> simp_all

end

section

variable {inner : Outcome} (invert : Bool)

theorem invertDefault_matched (nothing : (invertDefault false inner).deferred = 0#8) :
    (invertDefault invert inner).matched = (invert ^^ inner.matched) := by
  rcases inner with ⟨matched, deferred⟩
  have isZero : deferred = 0#8 := nothing
  cases isZero
  cases invert <;> cases matched <;> rfl

theorem invertLogical_matched (nothing : (invertLogical false metadata inner).deferred = 0#8) :
    (invertLogical invert metadata inner).matched = (invert ^^ inner.matched) := by
  rcases inner with ⟨matched, deferred⟩
  cases matched with
  | false => cases invert <;> rfl
  | true =>
    have isZero : metadata.deferredIPCIDRMatchGroups ||| deferred = 0#8 := nothing
    cases (BitVec.or_eq_zero_iff.mp isZero).2
    cases invert <;> rfl

end

/-! ## What is deferred -/

section

variable {itemMatch} {reason : Prop} {deferredGroups : RuleMatchState}
  {metadata nested : InboundContext} {matched : Bool} {inner : Outcome}

private theorem deferredFor_matchAnd {rules : List (Rule Item)}
    (nested : ∀ rule ∈ rules,
      DeferredFor reason (rule.match itemMatch metadata.resetRuleCache).deferred)
    (soFar : DeferredFor reason deferredGroups) :
    DeferredFor reason (matchAnd itemMatch rules metadata deferredGroups).deferred := by
  induction rules generalizing deferredGroups with
  | nil => exact soFar
  | cons rule _ induction =>
    rw [matchAnd]
    split
    · exact induction (forall_mem_cons.mp nested).2
        (soFar.or (nested rule mem_cons_self))
    · exact .zero

private theorem deferredFor_alternatives {outcomes : List Outcome}
    (nested : ∀ outcome ∈ outcomes, DeferredFor reason outcome.deferred)
    (soFar : DeferredFor reason deferredGroups) :
    DeferredFor reason (alternatives outcomes matched deferredGroups).deferred := by
  induction outcomes generalizing matched deferredGroups with
  | nil => exact soFar
  | cons outcome _ induction =>
    have tail := (forall_mem_cons.mp nested).2
    rw [alternatives]
    split
    · split
      · exact .zero
      · exact induction tail (soFar.or (nested outcome mem_cons_self))
    · exact induction tail soFar

section

variable (fresh : nested.deferredIPCIDRMatchGroups = 0#8)
include fresh

private theorem deferredFor_matchAny (each : ∀ rule ∈ ruleSet,
      DeferredFor reason (rule.match itemMatch nested.resetRuleMatchCache).deferred) :
    DeferredFor reason (matchAnyHeadlessRule itemMatch ruleSet nested false 0).deferred := by
  rw [matchAnyHeadlessRule_eq_alternatives itemMatch ruleSet fresh false 0 fun _ => rfl]
  exact deferredFor_alternatives (forall_mem_map.mpr each) .zero

private theorem deferredFor_matchWithOuterGroups
    (isReason : (nested.ignoreDestinationIPCIDRMatch = true) = reason)
    (members : ∀ ruleSet ∈ setList, ∀ rule ∈ ruleSet,
      DeferredFor reason (rule.match itemMatch nested.resetRuleMatchCache).deferred)
    {outerGroups : RuleGroupMatch} {deferred : RuleMatchState} (outer : DeferredFor reason deferred)
    (soFar : DeferredFor reason deferredGroups) :
    DeferredFor reason (matchWithOuterGroups itemMatch setList nested outerGroups deferred
      matched deferredGroups).deferred := by
  induction setList generalizing matched deferredGroups with
  | nil => exact .ite matched (outer.or soFar) outer
  | cons ruleSet _ induction =>
    rcases forall_mem_cons.mp members with ⟨first, members⟩
    have head : DeferredFor reason (setDeferred itemMatch outerGroups nested ruleSet) := by
      rw [setDeferred]
      split
      · next branch _ =>
        rw [← isReason]
        exact (deferredFor_deferGroups branch fresh).andNot _
      · exact deferredFor_matchAny fresh first
    rw [matchWithOuterGroups_cons]
    split_ifs
    · rw [setRest]
      split
      · exact outer.andNot _
      · exact outer
    · exact induction members (soFar.or head)
    · exact induction members soFar

end

private theorem deferredFor_invertDefault (invert : Bool)
    (deferred : DeferredFor reason inner.deferred) :
    DeferredFor reason (invertDefault invert inner).deferred := by
  rcases inner with ⟨matched, _⟩
  cases invert <;> cases matched <;> first | exact deferred | exact .zero

private theorem deferredFor_invertLogical (invert : Bool)
    (fresh : metadata.deferredIPCIDRMatchGroups = 0#8)
    (deferred : DeferredFor reason inner.deferred) :
    DeferredFor reason (invertLogical invert metadata inner).deferred := by
  have outer : DeferredFor reason metadata.deferredIPCIDRMatchGroups := .inl fresh
  rcases inner with ⟨matched, _⟩
  cases invert <;> cases matched <;> first | exact outer.or deferred | exact outer

private theorem deferredFor_matchInnerWith (own : DefaultItems Item)
    (metadata : InboundContext) (ownDeferred : DeferredFor reason (own.deferGroups metadata))
    {ruleSets : RuleGroupMatch → RuleMatchState → Outcome}
    (deferred : DeferredFor reason
      (ruleSets (own.groups itemMatch metadata) (own.deferGroups metadata)).deferred) :
    DeferredFor reason (matchInnerWith itemMatch own metadata ruleSets).deferred := by
  cases matchItems : own.matchItems itemMatch metadata with
  | false =>
    rw [matchInnerWith_of_not_matchItems itemMatch matchItems]
    exact ownDeferred
  | true =>
    rw [matchInnerWith_of_matchItems itemMatch matchItems]
    dsimp only
    split
    · exact deferred.andNot _
    · exact deferred

private theorem deferredFor_ruleSetsOutcome {ruleSetItem : Option (RuleSetItem Item)}
    {groups : RuleGroupMatch} {deferred : RuleMatchState}
    (outer : DeferredFor (metadata.ignoreDestinationIPCIDRMatch = true) deferred)
    (members : ∀ item, ruleSetItem = some item → ∀ ruleSet ∈ item.setList, ∀ rule ∈ ruleSet,
      DeferredFor (metadata.ignoreDestinationIPCIDRMatch = true)
        (rule.match itemMatch (item.nestedMetadata metadata).resetRuleMatchCache).deferred) :
    DeferredFor (metadata.ignoreDestinationIPCIDRMatch = true)
      (ruleSetsOutcome itemMatch ruleSetItem metadata groups deferred).deferred := by
  cases ruleSetItem with
  | none => exact outer
  | some item => exact deferredFor_matchWithOuterGroups rfl rfl (members item rfl) outer .zero

end

/-- A rule defers the destination address only, and only before a lookup. -/
theorem deferredFor_match (rule : Rule Item) : ∀ {metadata : InboundContext},
    metadata.deferredIPCIDRMatchGroups = 0#8 →
      DeferredFor (metadata.ignoreDestinationIPCIDRMatch = true)
        (rule.match itemMatch metadata).deferred := by
  induction rule using Rule.induct with
  | step rule induction =>
    intro metadata fresh
    cases rule with
    | default own ruleSetItem invert matchResponse matchResponseTag =>
      rw [«match»]
      cases matchResponse with
      | true => cases boundMetadata true matchResponseTag metadata <;> exact .inl fresh
      | false =>
        change DeferredFor _ (matchDefault itemMatch own ruleSetItem invert metadata).deferred
        have ownDeferred := deferredFor_deferGroups own fresh
        rw [matchDefault_eq_matchInner]
        split
        · exact .inl fresh
        refine deferredFor_invertDefault _ (deferredFor_matchInnerWith own metadata ownDeferred ?_)
        refine deferredFor_ruleSetsOutcome ownDeferred ?_
        rintro item rfl ruleSet setMember rule member
        exact induction rule ⟨ruleSet, setMember, member⟩ rfl
    | logical mode rules invert =>
      have children : ∀ rule ∈ rules,
          DeferredFor (metadata.ignoreDestinationIPCIDRMatch = true)
            (rule.match itemMatch metadata.resetRuleCache).deferred :=
        fun rule member => induction rule member rfl
      cases mode with
      | and =>
        rw [«match»]
        exact deferredFor_invertLogical _ fresh (deferredFor_matchAnd children .zero)
      | or =>
        rw [«match», matchOr_eq_alternatives]
        apply deferredFor_invertLogical _ fresh
        exact deferredFor_alternatives (forall_mem_map.mpr children) .zero

variable {nested : InboundContext} {deferred : RuleMatchState} {outerGroups : RuleGroupMatch}

theorem deferredFor_ruleSets (own : DefaultItems Item) (ruleSetItem : Option (RuleSetItem Item))
    (fresh : metadata.deferredIPCIDRMatchGroups = 0#8) :
    DeferredFor (metadata.ignoreDestinationIPCIDRMatch = true)
      (ruleSetsOutcome itemMatch ruleSetItem metadata outerGroups
        (own.deferGroups metadata)).deferred :=
  deferredFor_ruleSetsOutcome (deferredFor_deferGroups own fresh)
    fun _ _ _ _ rule _ => deferredFor_match itemMatch rule rfl

theorem match_deferred_eq_zero (rule : Rule Item) (fresh : metadata.deferredIPCIDRMatchGroups = 0#8)
    (ordinary : metadata.ignoreDestinationIPCIDRMatch = false) :
    (rule.match itemMatch metadata).deferred = 0#8 := by
  rcases deferredFor_match itemMatch rule fresh with isZero | ⟨_, ignored⟩
  · exact isZero
  · cases ordinary.symm.trans ignored

section

variable (fresh : metadata.deferredIPCIDRMatchGroups = 0#8)
  (ordinary : metadata.ignoreDestinationIPCIDRMatch = false)
include fresh ordinary

theorem matchDefault_matched (own : DefaultItems Item) (ruleSetItem : Option (RuleSetItem Item))
    (invert : Bool) :
    (matchDefault itemMatch own ruleSetItem invert metadata).matched =
      (ruleSetItem.isNone && own.isEmpty ||
        (invert ^^ (matchInner itemMatch own ruleSetItem metadata).matched)) := by
  have nothing := match_deferred_eq_zero itemMatch (default own ruleSetItem false false "") fresh
    ordinary
  change (matchDefault _ _ _ _ _).deferred = 0#8 at nothing
  rw [matchDefault_eq_matchInner] at nothing ⊢
  split
  · next isEmpty => rw [isEmpty, Bool.true_or]
  · next notEmpty =>
    rw [if_neg notEmpty] at nothing
    rw [invertDefault_matched invert nothing, eq_false_of_not_eq_true notEmpty, Bool.false_or]

theorem match_logical_matched (mode : LogicalMode) (rules : List (Rule Item)) (invert : Bool) :
    ((logical mode rules invert).match itemMatch metadata).matched =
      (invert ^^ match mode with
        | .and => rules.all fun rule => (rule.match itemMatch metadata.resetRuleCache).matched
        | .or => rules.any fun rule => (rule.match itemMatch metadata.resetRuleCache).matched) := by
  have nothing := match_deferred_eq_zero itemMatch (logical mode rules false) fresh ordinary
  cases mode <;> rw [«match»] at nothing ⊢ <;> rw [invertLogical_matched invert nothing]
  case and => rw [matchAnd_matched]
  case or =>
    rw [matchOr_eq_alternatives, alternatives_matched, any_map]
    rfl

end

/-! ## Sure matches over several sets -/

/-- A set that matches for sure ends the loop, if the rule defers nothing itself. -/
theorem matchWithOuterGroups_of_sure (member : ruleSet ∈ setList)
    (isMatch : setMatches itemMatch outerGroups nested ruleSet = true)
    (isCertain : setDeferred itemMatch outerGroups nested ruleSet = 0#8) (matched : Bool)
    (deferredGroups : RuleMatchState) :
    matchWithOuterGroups itemMatch setList nested outerGroups 0#8 matched deferredGroups =
      ⟨true, 0#8⟩ := by
  induction setList generalizing matched deferredGroups with
  | nil => cases member
  | cons other _ induction =>
    have nothing : setRest itemMatch outerGroups nested 0#8 other = 0#8 := by
      rw [setRest]
      split <;> simp
    rw [matchWithOuterGroups_cons, nothing]
    rcases mem_cons.mp member with rfl | member
    · rw [if_pos isMatch, if_pos isCertain]
    · rw [induction member, induction member]
      split_ifs <;> rfl

/-- A sure match comes from one set that leaves nothing to the response, neither of
its own nor of the rule that refers to it. -/
theorem exists_sureSet {matched : Bool} {deferredGroups : RuleMatchState}
    (soFar : matched = true → deferredGroups ≠ 0#8)
    (sure : matchWithOuterGroups itemMatch setList nested outerGroups deferred matched
      deferredGroups = ⟨true, 0#8⟩) :
    ∃ ruleSet ∈ setList, setMatches itemMatch outerGroups nested ruleSet = true ∧
      setDeferred itemMatch outerGroups nested ruleSet = 0#8 ∧
      setRest itemMatch outerGroups nested deferred ruleSet = 0#8 := by
  induction setList generalizing matched deferredGroups with
  | nil =>
    cases matched with
    | false => cases sure
    | true => exact absurd (BitVec.or_eq_zero_iff.mp (congrArg Outcome.deferred sure)).2 (soFar rfl)
  | cons ruleSet _ induction =>
    rw [matchWithOuterGroups_cons] at sure
    split_ifs at sure with isMatch isCertain
    · exact ⟨ruleSet, mem_cons_self, isMatch, isCertain, congrArg Outcome.deferred sure⟩
    · rcases induction (by simp [isCertain]) sure with ⟨other, member, isSure⟩
      exact ⟨other, mem_cons_of_mem _ member, isSure⟩
    · rcases induction soFar sure with ⟨other, member, isSure⟩
      exact ⟨other, mem_cons_of_mem _ member, isSure⟩

end Rule

end SingBox.Route
