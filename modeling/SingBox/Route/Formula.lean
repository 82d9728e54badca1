import SingBox.Route.Deferral
import SingBox.Route.Evaluation
import SingBox.Route.Item

/-! # The documented matching formula

The documentation gives the meaning of a rule as a formula: every other field
matches, and every group of fields that is used has a field that matches. A
rule-set with a single plain default rule is read as part of the rule that
refers to it; any other rule-set is one more condition. Here that formula is
stated over rule trees and compared with the evaluator, outside of the
lookups of the legacy DNS mode.
-/

namespace SingBox.Route

open Adapter DefaultItems List

variable {Item : Type} (itemMatch : Item → InboundContext → Bool)

namespace DefaultItems

/-- The groups of the documentation: the destination address group holds the
domain fields together with the destination IP fields. -/
def documentedRequirement (own : DefaultItems Item) (metadata : InboundContext) :
    Requirement Group where
  required
    | .sourceAddress => !own.sourceAddressItems.isEmpty
    | .sourcePort => !own.sourcePortItems.isEmpty
    | .destinationAddress =>
      !own.destinationAddressItems.isEmpty || !own.destinationIPCIDRItems.isEmpty
    | .destinationPort => !own.destinationPortItems.isEmpty
  satisfied
    | .sourceAddress => matchAnyItem itemMatch own.sourceAddressItems metadata
    | .sourcePort => matchAnyItem itemMatch own.sourcePortItems metadata
    | .destinationAddress =>
      matchAnyItem itemMatch own.destinationAddressItems metadata ||
        matchAnyItem itemMatch own.destinationIPCIDRItems metadata
    | .destinationPort => matchAnyItem itemMatch own.destinationPortItems metadata

end DefaultItems

namespace Rule

mutual
def documented : Rule Item → InboundContext → Bool
  | .default own ruleSetItem invert matchResponse matchResponseTag, metadata =>
    match boundMetadata matchResponse matchResponseTag metadata with
    | none => invert
    | some metadata => documentedDefault own ruleSetItem invert metadata
  | .logical .and rules invert, metadata => invert ^^ documentedAll rules metadata
  | .logical .or rules invert, metadata => invert ^^ documentedAny rules metadata

def documentedDefault (own : DefaultItems Item) (ruleSetItem : Option (RuleSetItem Item))
    (invert : Bool) (metadata : InboundContext) : Bool :=
  match ruleSetItem with
  | none =>
    own.isEmpty ||
      (invert ^^ (own.matchItems itemMatch metadata &&
        decide (own.documentedRequirement itemMatch metadata).Holds))
  | some (.mk setList _ _) =>
    invert ^^ (own.matchItems itemMatch metadata && documentedSets own setList metadata)

/-- Several rule-sets are alternatives. -/
def documentedSets (own : DefaultItems Item) :
    List (RuleSet Item) → InboundContext → Bool
  | [], _ => false
  | ruleSet :: setList, metadata =>
    (match mergeableRuleIn ruleSet with
      | some branch =>
        branch.matchItems itemMatch metadata &&
          decide ((own.documentedRequirement itemMatch metadata).unite
            (branch.documentedRequirement itemMatch metadata)).Holds
      | none =>
        decide (own.documentedRequirement itemMatch metadata).Holds &&
          documentedAny ruleSet metadata) ||
      documentedSets own setList metadata

def documentedAll : List (Rule Item) → InboundContext → Bool
  | [], _ => true
  | rule :: rules, metadata => documented rule metadata && documentedAll rules metadata

def documentedAny : List (Rule Item) → InboundContext → Bool
  | [], _ => false
  | rule :: rules, metadata => documented rule metadata || documentedAny rules metadata
end

def FlagsUnset : Rule Item → Prop
  | .default _ (some ruleSetItem) _ _ _ =>
    ruleSetItem.ipCidrMatchSource = false ∧ ruleSetItem.ipCidrAcceptEmpty = false
  | _ => True

/-! ## The evaluator outside of a lookup -/

/-- The metadata of an ordinary evaluation: a fresh rule cache, and destination
IP items are not left out. -/
structure Ordinary (metadata : InboundContext) : Prop extends metadata.FreshRuleCache where
  ignoreDestinationIPCIDRMatch : metadata.ignoreDestinationIPCIDRMatch = false

namespace Ordinary

variable {metadata : InboundContext}

section

variable (ordinary : Ordinary metadata)
include ordinary

theorem bound {bound : InboundContext} {matchResponse : Bool} {matchResponseTag : String}
    (isBound : boundMetadata matchResponse matchResponseTag metadata = some bound) :
    Ordinary bound := by
  unfold boundMetadata at isBound
  split at isBound
  · rcases Option.map_eq_some_iff.mp isBound with ⟨_, _, rfl⟩
    exact { ordinary with }
  · cases isBound
    exact ordinary

theorem resetRuleMatchCache : metadata.resetRuleMatchCache = metadata := by
  rcases ordinary with ⟨⟨_, _, deferred⟩, _⟩
  cases metadata
  cases deferred
  rfl

theorem nestedMetadata {ruleSetItem : RuleSetItem Item}
    (matchSource : ruleSetItem.ipCidrMatchSource = false)
    (acceptEmpty : ruleSetItem.ipCidrAcceptEmpty = false) :
    ruleSetItem.nestedMetadata metadata = metadata := by
  rw [← ordinary.toFreshRuleCache.resetRuleCache_eq]
  simp only [RuleSetItem.nestedMetadata, matchSource, acceptEmpty]
  rfl

theorem requirement (own : DefaultItems Item) :
    own.requirement itemMatch metadata = own.documentedRequirement itemMatch metadata := by
  have noSource : own.destinationIPCIDRMatchesSource metadata = false := by
    simp [destinationIPCIDRMatchesSource, ordinary.ipCIDRMatchSource]
  have destination : own.destinationIPCIDRMatchesDestination metadata =
      !own.destinationIPCIDRItems.isEmpty := by
    simp [destinationIPCIDRMatchesDestination, ordinary.ipCIDRMatchSource,
      ordinary.ignoreDestinationIPCIDRMatch]
  simp only [DefaultItems.requirement, documentedRequirement,
    noSource, destination, Requirement.mk.injEq]
  constructor
  · funext group
    cases group <;> simp
  · funext group
    cases group with
    | destinationAddress =>
      cases empty : own.destinationIPCIDRItems.isEmpty with
      | false => simp
      | true => simp [matchAnyItem, isEmpty_iff.mp empty]
    | _ => simp

theorem groups_done (own : DefaultItems Item) :
    (own.groups itemMatch metadata).done =
      decide (own.documentedRequirement itemMatch metadata).Holds := by
  rw [Bool.eq_iff_iff, own.groups_done_iff, ordinary.requirement, decide_eq_true_iff]

theorem mergeWith_done (own branch : DefaultItems Item) :
    ((own.groups itemMatch metadata).mergeWith (branch.groups itemMatch metadata)).done =
      decide ((own.documentedRequirement itemMatch metadata).unite
        (branch.documentedRequirement itemMatch metadata)).Holds := by
  rw [Bool.eq_iff_iff, own.mergeWith_done_iff, ordinary.requirement, ordinary.requirement,
    decide_eq_true_iff]

end

end Ordinary

/-- The evaluator returns the formula. -/
def AgreesOn (metadata : InboundContext) (rule : Rule Item) : Prop :=
  (rule.match itemMatch metadata).matched = rule.documented itemMatch metadata

section

variable {itemMatch} {metadata : InboundContext} {rules : List (Rule Item)}

theorem loops_matched (agree : ∀ rule ∈ rules, AgreesOn itemMatch metadata rule) :
    (rules.all fun rule => (rule.match itemMatch metadata).matched) =
        documentedAll itemMatch rules metadata ∧
      (rules.any fun rule => (rule.match itemMatch metadata).matched) =
        documentedAny itemMatch rules metadata := by
  induction rules with
  | nil => exact ⟨rfl, rfl⟩
  | cons rule _ induction =>
    rcases forall_mem_cons.mp agree with ⟨head, tail⟩
    rcases induction tail with ⟨isAll, isAny⟩
    rw [all_cons, any_cons, documentedAll, documentedAny, head, isAll, isAny]
    exact ⟨rfl, rfl⟩

variable (ordinary : Ordinary metadata) (own : DefaultItems Item)
include ordinary

theorem any_setMatches {setList : List (RuleSet Item)}
    (agree : ∀ ruleSet ∈ setList, ∀ rule ∈ ruleSet, AgreesOn itemMatch metadata rule) :
    setList.any (setMatches itemMatch (own.groups itemMatch metadata) metadata) =
      documentedSets itemMatch own setList metadata := by
  induction setList with
  | nil => rfl
  | cons ruleSet _ induction =>
    rcases forall_mem_cons.mp agree with ⟨head, tail⟩
    rw [any_cons, documentedSets, induction tail, setMatches]
    cases mergeableRuleIn ruleSet with
    | none =>
      simp only [matchAnyHeadlessRule_matched itemMatch ordinary.deferredIPCIDRMatchGroups,
        ordinary.resetRuleMatchCache, (loops_matched head).2, ordinary.groups_done]
    | some branch => simp only [ordinary.mergeWith_done]

theorem matchDefault_eq_documentedDefault (ruleSetItem : Option (RuleSetItem Item)) (invert : Bool)
    (flags : ∀ item, ruleSetItem = some item →
      item.ipCidrMatchSource = false ∧ item.ipCidrAcceptEmpty = false)
    (agree : ∀ item, ruleSetItem = some item → ∀ ruleSet ∈ item.setList,
      ∀ rule ∈ ruleSet, AgreesOn itemMatch metadata rule) :
    (matchDefault itemMatch own ruleSetItem invert metadata).matched =
      documentedDefault itemMatch own ruleSetItem invert metadata := by
  rw [matchDefault_matched itemMatch ordinary.deferredIPCIDRMatchGroups
    ordinary.ignoreDestinationIPCIDRMatch, matchInner_matched]
  cases ruleSetItem with
  | none => simp only [ruleSetsOutcome, ordinary.groups_done, documentedDefault, Option.isNone_none,
      Bool.true_and]
  | some item =>
    rcases item with ⟨_, _, _⟩
    rcases flags _ rfl with ⟨noSource, noEmpty⟩
    simp only [ruleSetsOutcome, ordinary.nestedMetadata noSource noEmpty,
      matchWithOuterGroups_matched, any_setMatches ordinary own (agree _ rfl), documentedDefault,
      Option.isNone_some, Bool.false_and, Bool.false_or]
    rfl

end

theorem agreesOn_of_ordinary (rule : Rule Item) :
    rule.Everywhere FlagsUnset → ∀ {metadata : InboundContext}, Ordinary metadata →
      AgreesOn itemMatch metadata rule := by
  induction rule using Rule.induct with
  | step rule induction =>
    intro unset metadata ordinary
    have children : ∀ {metadata : InboundContext}, Ordinary metadata →
        ∀ child, rule.Refers child → AgreesOn itemMatch metadata child :=
      fun ordinary child refers => induction child refers (unset.child refers) ordinary
    unfold AgreesOn
    cases rule with
    | default own ruleSetItem invert matchResponse matchResponseTag =>
      rw [«match», documented]
      cases isBound : boundMetadata matchResponse matchResponseTag metadata with
      | none => rfl
      | some bound =>
        have boundOrdinary := ordinary.bound isBound
        have equal := matchDefault_eq_documentedDefault boundOrdinary own ruleSetItem invert
          (by
            rintro item rfl
            exact unset.here)
          (by
            rintro _ rfl ruleSet setMember child member
            exact children boundOrdinary child ⟨ruleSet, setMember, member⟩)
        dsimp only
        rw [← equal]
        split <;> rfl
    | logical mode =>
      rw [match_logical_matched itemMatch ordinary.deferredIPCIDRMatchGroups
        ordinary.ignoreDestinationIPCIDRMatch, ordinary.toFreshRuleCache.resetRuleCache_eq]
      cases mode with
      | and => rw [documented, ← (loops_matched (children ordinary)).1]
      | or => rw [documented, ← (loops_matched (children ordinary)).2]

/-! ## The result -/

/-- Outside of a lookup and without rule-set flags, matching is the formula. A
default DNS rule with `match_response` applies it to its bound response. -/
theorem match_eq_documented (rule : Rule Item) (unset : rule.Everywhere FlagsUnset)
    {metadata : InboundContext} (ordinary : Ordinary metadata) :
    (rule.match itemMatch metadata).matched = rule.documented itemMatch metadata :=
  agreesOn_of_ordinary itemMatch rule unset ordinary

private def networkRule (network : String) (matchResponse : Bool) : Rule RuleItem :=
  .default { items := [.network [network]] } none false matchResponse ""

/-- An inverted rule over a merged rule-set and an independent one. -/
private def setsRule : Rule RuleItem :=
  .logical .or [.default {} (some (.mk [[networkRule "tcp" false],
    [networkRule "tcp" false, networkRule "udp" false]] false false)) false false ""] true

theorem match_eq_documented_sets :
    (setsRule.match (RuleItem.match .sample) { network := "udp" }).matched = false := by
  have leaf (network : String) : (networkRule network false).Everywhere FlagsUnset :=
    everywhere_iff.mpr ⟨trivial, fun _ refers => refers.elim⟩
  have unset : setsRule.Everywhere FlagsUnset := by
    refine everywhere_iff.mpr ⟨trivial, fun child member => ?_⟩
    cases mem_singleton.mp member
    refine everywhere_iff.mpr ⟨⟨rfl, rfl⟩, ?_⟩
    simp [Refers, RuleSetItem.setList, leaf]
  rw [match_eq_documented (RuleItem.match .sample) setsRule unset ⟨⟨rfl, rfl, rfl⟩, rfl⟩]
  decide

/-- A rule with `match_response` and no response to look at does not match,
although all of its items do. -/
theorem match_ne_documentedDefault_without_response :
    ((networkRule "udp" true).match (RuleItem.match .sample) { network := "udp" }).matched = false ∧
      documentedDefault (RuleItem.match .sample) { items := [.network ["udp"]] } none false
        { network := "udp" } = true := by
  decide

end Rule

end SingBox.Route
