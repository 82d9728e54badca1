import SingBox.Route.Match

/-! # What matching depends on

Two evaluations of one rule tree, with their own items and metadata, have the
same outcome when each step of the first is answered by the same step of the
second. The conditions are collected in `Correspondence`, a relation between
two evaluations that is kept from a rule to the rules it refers to.
-/

namespace SingBox.Route

open Adapter List

variable {Item : Type}

namespace DefaultItems

def all (own : DefaultItems Item) : List Item :=
  own.items ++ own.sourceAddressItems ++ own.sourcePortItems ++
    own.destinationAddressItems ++ own.destinationIPCIDRItems ++ own.destinationPortItems

/-- The items give the same results, and the metadata agree on the fields that
the evaluation of the groups reads itself. -/
structure Corresponds (left right : Item → InboundContext → Bool) (own : DefaultItems Item)
    (first second : InboundContext) : Prop where
  items : ∀ item ∈ own.all, left item first = right item second
  matchSource : first.ipCIDRMatchSource = second.ipCIDRMatchSource
  ignoreDestination :
    first.ignoreDestinationIPCIDRMatch = second.ignoreDestinationIPCIDRMatch
  deferred : first.deferredIPCIDRMatchGroups = second.deferredIPCIDRMatchGroups

namespace Corresponds

variable {left right : Item → InboundContext → Bool} {own : DefaultItems Item}
  {first second : InboundContext} (corresponds : own.Corresponds left right first second)
include corresponds

theorem groups : own.groups left first = own.groups right second := by
  have same : ∀ items : List Item, (∀ item ∈ items, item ∈ own.all) →
      matchAnyItem left items first = matchAnyItem right items second :=
    fun _ within => matchAnyItem_congr fun item member =>
      corresponds.items item (within item member)
  have source := same own.sourceAddressItems fun item member => by simp [all, member]
  have sourcePort := same own.sourcePortItems fun item member => by simp [all, member]
  have destination := same own.destinationAddressItems fun item member => by simp [all, member]
  have destinationIPCIDR := same own.destinationIPCIDRItems fun item member => by
    simp [all, member]
  have destinationPort := same own.destinationPortItems fun item member => by simp [all, member]
  have matchesSource : own.destinationIPCIDRMatchesSource first =
      own.destinationIPCIDRMatchesSource second := by
    rw [destinationIPCIDRMatchesSource, corresponds.matchSource]
    rfl
  have matchesDestination : own.destinationIPCIDRMatchesDestination first =
      own.destinationIPCIDRMatchesDestination second := by
    rw [destinationIPCIDRMatchesDestination, corresponds.matchSource, corresponds.ignoreDestination]
    rfl
  unfold DefaultItems.groups
  rw [source, sourcePort, destination, destinationIPCIDR, destinationPort, matchesSource,
    matchesDestination]

theorem deferGroups : own.deferGroups first = own.deferGroups second := by
  unfold DefaultItems.deferGroups
  rw [corresponds.matchSource, corresponds.ignoreDestination, corresponds.deferred]

theorem matchItems : own.matchItems left first = own.matchItems right second := by
  have same : ∀ item ∈ own.items, left item first = right item second :=
    fun item member => corresponds.items item (by simp [all, member])
  rw [Bool.eq_iff_iff]
  simp only [DefaultItems.matchItems, all_eq_true]
  exact forall₂_congr fun item member => by rw [same item member]

theorem evaluateGroups : own.evaluateGroups left first = own.evaluateGroups right second := by
  rw [DefaultItems.evaluateGroups, corresponds.groups, corresponds.deferGroups]
  rfl

theorem evaluateForMerge : own.evaluateForMerge left first = own.evaluateForMerge right second := by
  rw [DefaultItems.evaluateForMerge, corresponds.matchItems, corresponds.evaluateGroups]
  rfl

end Corresponds

end DefaultItems

namespace Rule

def CorrespondsInSet (left right : Item → InboundContext → Bool)
    (related : Rule Item → InboundContext → InboundContext → Prop)
    (ruleSet : RuleSet Item) (first second : InboundContext) : Prop :=
  match mergeableRuleIn ruleSet with
  | some branch => branch.Corresponds left right first second
  | none =>
    first.deferredIPCIDRMatchGroups = second.deferredIPCIDRMatchGroups ∧
      ∀ child ∈ ruleSet, related child first.resetRuleMatchCache second.resetRuleMatchCache

structure Correspondence (left right : Item → InboundContext → Bool)
    (related : Rule Item → InboundContext → InboundContext → Prop) : Prop where
  deferred : ∀ {rule first second}, related rule first second →
    first.deferredIPCIDRMatchGroups = second.deferredIPCIDRMatchGroups
  bound : ∀ {own ruleSetItem invert matchResponse matchResponseTag first second},
    related (.default own ruleSetItem invert matchResponse matchResponseTag) first second →
    Option.Rel
      (fun first second => own.Corresponds left right first second ∧
        ∀ item, ruleSetItem = some item → ∀ ruleSet ∈ item.setList,
          CorrespondsInSet left right related ruleSet
            (item.nestedMetadata first) (item.nestedMetadata second))
      (boundMetadata matchResponse matchResponseTag first)
      (boundMetadata matchResponse matchResponseTag second)
  child : ∀ {mode rules invert first second},
    related (.logical mode rules invert) first second → ∀ child ∈ rules,
      related child first.resetRuleCache second.resetRuleCache

section

variable {left right : Item → InboundContext → Bool} {first second : InboundContext}
  {rules : List (Rule Item)}

section

variable
  (same : ∀ rule ∈ rules,
    rule.match left first.resetRuleCache = rule.match right second.resetRuleCache)
include same

private theorem matchAnd_congr (deferredGroups : RuleMatchState) :
    matchAnd left rules first deferredGroups = matchAnd right rules second deferredGroups := by
  induction rules generalizing deferredGroups with
  | nil => rfl
  | cons rule _ induction =>
    have tail := induction (forall_mem_cons.mp same).2
    simp only [matchAnd, same rule mem_cons_self, tail]

private theorem matchOr_congr (matched : Bool) (deferredGroups : RuleMatchState) :
    matchOr left rules first matched deferredGroups =
      matchOr right rules second matched deferredGroups := by
  induction rules generalizing matched deferredGroups with
  | nil => rfl
  | cons rule _ induction =>
    have tail := induction (forall_mem_cons.mp same).2
    simp only [matchOr, same rule mem_cons_self, tail]

end

private theorem matchAnyHeadlessRule_congr
    (deferred : first.deferredIPCIDRMatchGroups = second.deferredIPCIDRMatchGroups)
    (same : ∀ rule ∈ rules, rule.match left first.resetRuleMatchCache =
      rule.match right second.resetRuleMatchCache) (matched : Bool)
    (deferredGroups : RuleMatchState) :
    matchAnyHeadlessRule left rules first matched deferredGroups =
      matchAnyHeadlessRule right rules second matched deferredGroups := by
  induction rules generalizing matched deferredGroups with
  | nil => simp only [matchAnyHeadlessRule, deferred]
  | cons rule _ induction =>
    have tail := induction (forall_mem_cons.mp same).2
    simp only [matchAnyHeadlessRule, same rule mem_cons_self, tail, deferred]

private theorem matchWithOuterGroups_congr {setList : List (RuleSet Item)}
    {related : Rule Item → InboundContext → InboundContext → Prop}
    (corresponds : ∀ ruleSet ∈ setList, CorrespondsInSet left right related ruleSet first second)
    (same : ∀ ruleSet ∈ setList, ∀ rule ∈ ruleSet, ∀ {first second},
      related rule first second → rule.match left first = rule.match right second)
    (outerGroups : RuleGroupMatch) (deferred : RuleMatchState) (matched : Bool)
    (deferredGroups : RuleMatchState) :
    matchWithOuterGroups left setList first outerGroups deferred matched deferredGroups =
      matchWithOuterGroups right setList second outerGroups deferred matched
        deferredGroups := by
  induction setList generalizing matched deferredGroups with
  | nil => rfl
  | cons ruleSet _ induction =>
    have tail := induction
      (forall_mem_cons.mp corresponds).2
      (forall_mem_cons.mp same).2
    have head := corresponds ruleSet mem_cons_self
    unfold CorrespondsInSet at head
    simp only [matchWithOuterGroups]
    cases mergeable : mergeableRuleIn ruleSet with
    | some =>
      rw [mergeable] at head
      simp only [head.evaluateForMerge, tail]
    | none =>
      rw [mergeable] at head
      have independent := matchAnyHeadlessRule_congr head.1
        (fun rule member => same ruleSet mem_cons_self rule member
          (head.2 rule member)) false 0
      simp only [independent, tail]

end

private theorem matchInnerWith_congr {left right : Item → InboundContext → Bool}
    {own : DefaultItems Item} {first second : InboundContext}
    (corresponds : own.Corresponds left right first second)
    {leftSets rightSets : RuleGroupMatch → RuleMatchState → Outcome}
    (same : ∀ groups deferred, leftSets groups deferred = rightSets groups deferred) :
    matchInnerWith left own first leftSets = matchInnerWith right own second rightSets := by
  have sets : leftSets = rightSets := by
    funext groups deferred
    exact same groups deferred
  rw [sets, matchInnerWith, matchInnerWith, corresponds.evaluateGroups, corresponds.matchItems]

namespace Correspondence

variable {left right : Item → InboundContext → Bool}
  {related : Rule Item → InboundContext → InboundContext → Prop}

theorem match_eq (correspondence : Correspondence left right related) (rule : Rule Item) :
    ∀ {first second}, related rule first second →
      rule.match left first = rule.match right second := by
  induction rule using Rule.induct with
  | step rule induction =>
    intro first second isRelated
    have deferred := correspondence.deferred isRelated
    cases rule with
    | default own ruleSetItem invert matchResponse matchResponseTag =>
      have bound := correspondence.bound isRelated
      simp only [«match»]
      generalize boundMetadata matchResponse matchResponseTag first = firstBound at bound ⊢
      generalize boundMetadata matchResponse matchResponseTag second = secondBound
        at bound ⊢
      cases bound with
      | none => simp only [deferred]
      | some bound =>
        rename_i firstBound secondBound
        rcases bound with ⟨corresponds, sets⟩
        have inner : matchDefault left own ruleSetItem invert firstBound =
            matchDefault right own ruleSetItem invert secondBound := by
          cases ruleSetItem with
          | none =>
            simp only [matchDefault, corresponds.deferred]
            rw [matchInnerWith_congr corresponds fun _ _ => rfl]
          | some item =>
            rcases item with ⟨_, _, _⟩
            apply congrArg (invertDefault invert)
            apply matchInnerWith_congr corresponds
            intro _ deferred
            apply matchWithOuterGroups_congr (sets _ rfl)
            intro ruleSet setMember rule member
            exact induction rule ⟨ruleSet, setMember, member⟩
        simp only [inner, deferred]
    | logical mode rules =>
      have same : ∀ rule ∈ rules, rule.match left first.resetRuleCache =
          rule.match right second.resetRuleCache :=
        fun rule member => induction rule member
          (correspondence.child isRelated rule member)
      cases mode with
      | and => simp only [«match», matchAnd_congr same, invertLogical, deferred]
      | or => simp only [«match», matchOr_congr same, invertLogical, deferred]

end Correspondence

end Rule

end SingBox.Route
