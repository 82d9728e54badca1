import SingBox.Route.Congruence
import SingBox.Route.Item

/-! # How the rule-set flags reach the items

`rule_set_ip_cidr_match_source` and `rule_set_ip_cidr_accept_empty` travel in
the metadata. `Evaluates` records the metadata that every item of a tree is given
at its place; matching depends on nothing else of the items. The
flags reach an item of a rule-set unless the item lies under a logical rule:
`abstractLogicalRule.Match` calls `ResetRuleCache` on the metadata of its
children, where `matchAnyHeadlessRule` keeps the flags.
-/

namespace SingBox.Route

open Adapter RuleItem DefaultItems List

namespace Rule

variable {Item : Type}

/-- `item` stands in the tree of `rule`, in one of the lists that `pick` selects:
matching the rule with the first metadata gives it the second, unless the match is
decided before it gets there. -/
inductive Evaluates (pick : DefaultItems Item → List Item) :
    Rule Item → InboundContext → Item → InboundContext → Prop
  | own {own ruleSetItem invert matchResponse matchResponseTag metadata bound item}
      (isBound : boundMetadata matchResponse matchResponseTag metadata = some bound)
      (member : item ∈ pick own) :
      Evaluates pick (.default own ruleSetItem invert matchResponse matchResponseTag)
        metadata item bound
  | merged {own ruleSetItem invert matchResponse matchResponseTag metadata bound ruleSet
      branch item}
      (isBound : boundMetadata matchResponse matchResponseTag metadata = some bound)
      (setMember : ruleSet ∈ ruleSetItem.setList)
      (mergeable : mergeableRuleIn ruleSet = some branch)
      (member : item ∈ pick branch) :
      Evaluates pick (.default own (some ruleSetItem) invert matchResponse matchResponseTag)
        metadata item (ruleSetItem.nestedMetadata bound)
  | independent {own ruleSetItem invert matchResponse matchResponseTag metadata bound ruleSet
      child item seen}
      (isBound : boundMetadata matchResponse matchResponseTag metadata = some bound)
      (setMember : ruleSet ∈ ruleSetItem.setList)
      (mergeable : mergeableRuleIn ruleSet = none)
      (member : child ∈ ruleSet)
      (evaluates : Evaluates pick child
        (ruleSetItem.nestedMetadata bound).resetRuleMatchCache item seen) :
      Evaluates pick (.default own (some ruleSetItem) invert matchResponse matchResponseTag)
        metadata item seen
  | child {mode rules invert metadata child item seen}
      (member : child ∈ rules)
      (evaluates : Evaluates pick child metadata.resetRuleCache item seen) :
      Evaluates pick (.logical mode rules invert) metadata item seen

/-- Matching reads the items only at their places in the tree. -/
theorem match_eq_of_evaluates {left right : Item → InboundContext → Bool} (rule : Rule Item)
    (metadata : InboundContext)
    (same : ∀ item seen, Evaluates all rule metadata item seen → left item seen = right item seen) :
    rule.match left metadata = rule.match right metadata := by
  let related (rule : Rule Item) (first second : InboundContext) : Prop :=
    first = second ∧ ∀ item seen, Evaluates all rule first item seen →
      left item seen = right item seen
  have correspondence : Correspondence left right related := by
    constructor
    · rintro rule first second ⟨rfl, _⟩
      rfl
    · rintro own _ invert matchResponse matchResponseTag first second ⟨rfl, same⟩
      cases isBound : boundMetadata matchResponse matchResponseTag first with
      | none => exact .none
      | some bound =>
        refine .some ⟨⟨fun item member => same item bound (.own isBound member), rfl, rfl, rfl⟩, ?_⟩
        intro item isItem ruleSet setMember
        subst isItem
        unfold CorrespondsInSet
        cases mergeable : mergeableRuleIn ruleSet with
        | some =>
          exact ⟨fun other member =>
            same other _ (.merged isBound setMember mergeable member), rfl, rfl, rfl⟩
        | none =>
          refine ⟨rfl, fun child member => ⟨rfl, fun other seen evaluates => ?_⟩⟩
          exact same other seen (.independent isBound setMember mergeable member evaluates)
    · rintro _ _ _ _ _ ⟨rfl, same⟩ child member
      exact ⟨rfl, fun item seen evaluates => same item seen (.child member evaluates)⟩
  exact correspondence.match_eq rule ⟨rfl, same⟩

theorem match_eq_of_evaluates_reset :
    let rule := logical .and [default { items := [1] } none false false ""] false
    let metadata : InboundContext := { ipCIDRMatchSource := true }
    rule.match (fun item seen => item == 1 && !seen.ipCIDRMatchSource) metadata =
      rule.match (fun _ _ => true) metadata := by
  apply match_eq_of_evaluates
  intro item _ evaluates
  cases evaluates with
  | child inside evaluates =>
    cases mem_singleton.mp inside
    cases evaluates with
    | own isBound member =>
      cases isBound
      cases mem_singleton.mp member
      rfl

/-! ## Headless rules -/

/-- Headless rules have no rule-set item and no response binding. -/
def IsHeadless : Rule Item → Prop
  | .default _ ruleSetItem _ matchResponse _ => ruleSetItem = none ∧ matchResponse = false
  | .logical _ _ _ => True

/-- The rule itself or a rule below it has an item in the picked lists. -/
def HasItem (pick : DefaultItems Item → List Item) (rule : Rule Item) : Prop :=
  ¬ rule.Everywhere fun
    | .default own _ _ _ _ => pick own = []
    | .logical _ _ _ => True

variable {rule : Rule Item} {invert matchResponse : Bool} {matchResponseTag : String} {item : Item}
  {own : DefaultItems Item} {bound metadata seen : InboundContext}
  {pick : DefaultItems Item → List Item}

theorem HasItem.of_child {child : Rule Item} (refers : rule.Refers child)
    (hasItem : child.HasItem pick) : rule.HasItem pick :=
  fun none => hasItem (none.child refers)

theorem HasItem.of_mem {ruleSetItem : Option (RuleSetItem Item)} (member : item ∈ pick own) :
    (default own ruleSetItem invert matchResponse matchResponseTag).HasItem pick := by
  intro none
  have empty : pick own = [] := none.here
  rw [empty] at member
  cases member

theorem HasItem.child_of_logical {mode : LogicalMode} {rules : List (Rule Item)}
    (hasItem : (logical mode rules invert).HasItem pick) :
    ∃ child ∈ rules, child.HasItem pick := by
  by_contra none
  push Not at none
  exact hasItem (everywhere_iff.mpr ⟨trivial, fun child member => not_not.mp (none child member)⟩)

theorem Evaluates.hasItem
    (evaluates : Evaluates pick rule metadata item seen) : rule.HasItem pick := by
  induction evaluates with
  | own _ member => exact .of_mem member
  | merged _ setMember mergeable member =>
    rcases mergeableRuleIn_eq_some mergeable with ⟨_, _, rfl⟩
    exact .of_child ⟨_, setMember, mem_singleton_self _⟩ (.of_mem member)
  | independent _ setMember _ member _ induction => exact .of_child ⟨_, setMember, member⟩ induction
  | child member _ induction => exact .of_child member induction

/-- Every picked item of a headless rule is matched with some metadata. -/
theorem evaluates_of_hasItem (rule : Rule Item) :
    rule.Everywhere IsHeadless → rule.HasItem pick → ∀ metadata,
      ∃ item seen, Evaluates pick rule metadata item seen := by
  induction rule using Rule.induct with
  | step rule induction =>
    intro headless hasItem metadata
    cases rule with
    | default own ruleSetItem invert matchResponse =>
      have shape : ruleSetItem = none ∧ matchResponse = false := headless.here
      rcases shape with ⟨rfl, rfl⟩
      have present : pick own ≠ [] := by
        intro empty
        exact hasItem (everywhere_iff.mpr ⟨empty, nofun⟩)
      rcases exists_mem_of_ne_nil _ present with ⟨item, member⟩
      exact ⟨item, metadata, .own rfl member⟩
    | logical =>
      rcases hasItem.child_of_logical with ⟨child, member, childHasItem⟩
      rcases induction child member (headless.child member) childHasItem
        metadata.resetRuleCache with ⟨item, seen, evaluates⟩
      exact ⟨item, seen, .child member evaluates⟩

theorem Evaluates.flags_unset
    (evaluates : Evaluates pick rule metadata item seen) (headless : rule.Everywhere IsHeadless)
    (noSource : metadata.ipCIDRMatchSource = false) (noEmpty : metadata.ipCIDRAcceptEmpty = false) :
    seen.ipCIDRMatchSource = false ∧ seen.ipCIDRAcceptEmpty = false := by
  induction evaluates with
  | own isBound =>
    rcases headless.here with ⟨rfl, rfl⟩
    cases isBound
    exact ⟨noSource, noEmpty⟩
  | merged | independent => cases headless.here.1
  | child member _ induction => exact induction (headless.child member) rfl rfl

theorem boundMetadata_toRequest
    (isBound : boundMetadata matchResponse matchResponseTag metadata = some bound) :
    bound.toRequest = metadata.toRequest := by
  unfold boundMetadata at isBound
  split at isBound
  · rcases Option.map_eq_some_iff.mp isBound with ⟨_, _, rfl⟩
    rfl
  · cases isBound
    rfl

theorem Evaluates.same (evaluates : Evaluates pick rule metadata item seen) :
    seen.toRequest = metadata.toRequest := by
  induction evaluates with
  | own isBound => exact boundMetadata_toRequest isBound
  | merged isBound =>
    have same := boundMetadata_toRequest isBound
    exact same
  | independent isBound _ _ _ _ induction =>
    have same := boundMetadata_toRequest isBound
    exact induction.trans same
  | child _ _ induction => exact induction

/-! ## The flags of a rule-set item -/

/-- Matching `ruleSet` with the nested metadata matches `item` with `seen`. -/
def EvaluatesInSet (pick : DefaultItems Item → List Item) (ruleSet : RuleSet Item)
    (nested : InboundContext) (item : Item) (seen : InboundContext) : Prop :=
  match mergeableRuleIn ruleSet with
  | some branch => item ∈ pick branch ∧ seen = nested
  | none => ∃ child ∈ ruleSet, Evaluates pick child nested.resetRuleMatchCache item seen

/-- An item of the set is matched with the flags of the rule-set item and with
the request of the rule. -/
structure SeenAsFlagged (ruleSetItem : RuleSetItem Item) (metadata seen : InboundContext) :
    Prop where
  matchSource : seen.ipCIDRMatchSource = ruleSetItem.ipCidrMatchSource
  acceptEmpty : seen.ipCIDRAcceptEmpty = ruleSetItem.ipCidrAcceptEmpty
  request : seen.toRequest = metadata.toRequest

def FlagsReach (pick : DefaultItems Item → List Item) (ruleSetItem : RuleSetItem Item)
    (ruleSet : RuleSet Item) (metadata : InboundContext) : Prop :=
  ∀ item seen,
    EvaluatesInSet pick ruleSet (ruleSetItem.nestedMetadata metadata) item seen →
      SeenAsFlagged ruleSetItem metadata seen

/-- No picked item lies under a logical rule of the set. -/
def NoItemUnderLogical (pick : DefaultItems Item → List Item) (ruleSet : RuleSet Item) : Prop :=
  ∀ mode rules invert, logical mode rules invert ∈ ruleSet →
    ¬ (logical mode rules invert).HasItem pick

variable {ruleSetItem : RuleSetItem Item} {ruleSet : RuleSet Item}

section

variable (headless : ∀ rule ∈ ruleSet, rule.Everywhere IsHeadless)
include headless

theorem flagsReach_of_unset_or_noItem
    (condition : (ruleSetItem.ipCidrMatchSource = false ∧ ruleSetItem.ipCidrAcceptEmpty = false) ∨
      NoItemUnderLogical pick ruleSet)
    (metadata : InboundContext) : FlagsReach pick ruleSetItem ruleSet metadata := by
  intro _ _ evaluates
  unfold EvaluatesInSet at evaluates
  split at evaluates
  · rcases evaluates with ⟨_, rfl⟩
    exact ⟨rfl, rfl, rfl⟩
  rcases evaluates with ⟨child, member, evaluates⟩
  rcases condition with ⟨noSource, noEmpty⟩ | noItem
  · rcases evaluates.flags_unset (headless child member) noSource noEmpty with
      ⟨seenSource, seenEmpty⟩
    exact ⟨seenSource.trans noSource.symm, seenEmpty.trans noEmpty.symm, evaluates.same⟩
  cases child with
  | default own _ invert =>
    rcases (headless _ member).here with ⟨rfl, rfl⟩
    cases evaluates with
    | own isBound =>
      cases isBound
      exact ⟨rfl, rfl, rfl⟩
  | logical mode rules invert => exact absurd evaluates.hasItem (noItem mode rules invert member)

theorem exists_flags_hidden (hasItem : ¬ NoItemUnderLogical pick ruleSet)
    (metadata : InboundContext) :
    ∃ item seen, EvaluatesInSet pick ruleSet (ruleSetItem.nestedMetadata metadata) item seen ∧
      seen.ipCIDRMatchSource = false ∧ seen.ipCIDRAcceptEmpty = false := by
  unfold NoItemUnderLogical at hasItem
  push Not at hasItem
  rcases hasItem with ⟨_, _, _, member, hasItem⟩
  rcases hasItem.child_of_logical with ⟨child, childMember, hasItem⟩
  have childHeadless := (headless _ member).child childMember
  rcases evaluates_of_hasItem child childHeadless hasItem
    (ruleSetItem.nestedMetadata metadata).resetRuleMatchCache.resetRuleCache with
    ⟨item, seen, evaluates⟩
  refine ⟨item, seen, ?_, evaluates.flags_unset childHeadless rfl rfl⟩
  unfold EvaluatesInSet
  cases mergeable : mergeableRuleIn ruleSet with
  | some =>
    rcases mergeableRuleIn_eq_some mergeable with ⟨_, _, rfl⟩
    cases mem_singleton.mp member
  | none => exact ⟨_, member, .child childMember evaluates⟩

end

theorem flagsReach_iff (ruleSetItem : RuleSetItem Item)
    (headless : ∀ rule ∈ ruleSet, rule.Everywhere IsHeadless) (metadata : InboundContext) :
    FlagsReach pick ruleSetItem ruleSet metadata ↔
      (ruleSetItem.ipCidrMatchSource = false ∧ ruleSetItem.ipCidrAcceptEmpty = false) ∨
        NoItemUnderLogical pick ruleSet := by
  constructor
  · intro reach
    by_cases noItem : NoItemUnderLogical pick ruleSet
    · exact .inr noItem
    rcases exists_flags_hidden headless noItem metadata with
      ⟨item, seen, evaluates, noSource, noEmpty⟩
    have flagged := reach item seen evaluates
    exact .inl ⟨flagged.matchSource.symm.trans noSource, flagged.acceptEmpty.symm.trans noEmpty⟩
  · intro condition
    exact flagsReach_of_unset_or_noItem headless condition metadata

/-- The flags of a rule reach every destination IP item of its rule-sets
exactly when neither flag is set or no such item is under a logical rule of a
rule-set. -/
theorem flags_reach_ruleSets_iff (ruleSetItem : RuleSetItem Item)
    (headless : ∀ ruleSet ∈ ruleSetItem.setList, ∀ rule ∈ ruleSet, rule.Everywhere IsHeadless)
    (metadata : InboundContext) :
    (∀ ruleSet ∈ ruleSetItem.setList,
        FlagsReach destinationIPCIDRItems ruleSetItem ruleSet metadata) ↔
      (ruleSetItem.ipCidrMatchSource = false ∧ ruleSetItem.ipCidrAcceptEmpty = false) ∨
        ∀ ruleSet ∈ ruleSetItem.setList,
          NoItemUnderLogical destinationIPCIDRItems ruleSet := by
  constructor
  · intro reach
    by_cases unset :
        ruleSetItem.ipCidrMatchSource = false ∧ ruleSetItem.ipCidrAcceptEmpty = false
    · exact .inl unset
    refine .inr fun ruleSet member => ?_
    have condition := (flagsReach_iff ruleSetItem (headless ruleSet member) metadata).mp
      (reach ruleSet member)
    exact condition.resolve_left unset
  · intro condition ruleSet member
    apply (flagsReach_iff ruleSetItem (headless ruleSet member) metadata).mpr
    exact condition.imp_right fun noItem => noItem ruleSet member

private def tenRule : Rule RuleItem :=
  .default { destinationIPCIDRItems := [.ipCIDR false (· == .v4 0x0a000001)] } none false false ""

private def matchSourceItem (ruleSet : RuleSet RuleItem) : RuleSetItem RuleItem :=
  .mk [ruleSet] true false

private theorem tenRule_headless : tenRule.Everywhere IsHeadless :=
  everywhere_iff.mpr ⟨⟨rfl, rfl⟩, fun _ refers => refers.elim⟩

theorem flags_reach_tenRule :
    FlagsReach destinationIPCIDRItems (matchSourceItem [tenRule]) [tenRule]
      { source := { addr := .v4 0x0a000001 } } := by
  refine (flags_reach_ruleSets_iff (matchSourceItem [tenRule]) ?_ _).mpr (.inr ?_) _
    (mem_singleton_self _)
  · intro ruleSet setMember _ member
    cases mem_singleton.mp setMember
    cases mem_singleton.mp member
    exact tenRule_headless
  · intro _ setMember _ _ _ member
    cases mem_singleton.mp setMember
    cases mem_singleton.mp member

/-- A logical rule in the set: the item is matched without the flag, and the
rule misses a source address that the set contains. -/
theorem flags_hidden_by_logical :
    let ruleSet := [logical .and [tenRule] false]
    let metadata : InboundContext := { source := { addr := .v4 0x0a000001 } }
    ¬ FlagsReach destinationIPCIDRItems (matchSourceItem ruleSet) ruleSet
        metadata ∧
      ((default {} (some (matchSourceItem ruleSet)) false false "").match
        (RuleItem.match .sample) metadata).matched = false ∧
      ((default {} (some (matchSourceItem [tenRule])) false false "").match
        (RuleItem.match .sample) metadata).matched = true := by
  refine ⟨fun reach => ?_, by decide, by decide⟩
  have evaluates : EvaluatesInSet destinationIPCIDRItems
      [logical .and [tenRule] false]
      ((matchSourceItem [logical .and [tenRule] false]).nestedMetadata
        { source := { addr := .v4 0x0a000001 } })
      (.ipCIDR false (· == .v4 0x0a000001)) { source := { addr := .v4 0x0a000001 } } :=
    ⟨_, mem_singleton_self _, .child (mem_singleton_self _)
      (.own rfl (mem_singleton_self _))⟩
  exact Bool.false_ne_true (reach _ _ evaluates).matchSource

end Rule

end SingBox.Route
