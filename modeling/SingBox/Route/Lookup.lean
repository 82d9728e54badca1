import SingBox.Route.Deferral
import SingBox.Route.Evaluation
import SingBox.Route.Item

/-! # One rule before and after a lookup

In the legacy DNS mode a rule is matched twice: before the lookup with the
destination IP items left out, and with the response. `Lookup` relates the two
metadata. Every item other than the destination IP items gives the same result
both times, so the two evaluations of a default rule differ in its destination
address group only.
-/

namespace SingBox.Route

open Adapter

/-- The metadata of one rule before the lookup and with the response. -/
structure Lookup (before after : InboundContext) : Prop where
  request : after.toRequest = before.toRequest
  matchSource : after.ipCIDRMatchSource = before.ipCIDRMatchSource
  ignoreBefore : before.ignoreDestinationIPCIDRMatch = true
  ignoreAfter : after.ignoreDestinationIPCIDRMatch = false
  freshBefore : before.deferredIPCIDRMatchGroups = 0#8
  freshAfter : after.deferredIPCIDRMatchGroups = 0#8

namespace Lookup

variable {before after : InboundContext}

variable (lookup : Lookup before after)
include lookup

theorem resetRuleCache :
    Lookup before.resetRuleCache after.resetRuleCache :=
  ⟨lookup.request, rfl, lookup.ignoreBefore, lookup.ignoreAfter, rfl, rfl⟩

theorem nestedMetadata {Item : Type} (item : RuleSetItem Item) :
    Lookup (item.nestedMetadata before) (item.nestedMetadata after) :=
  ⟨lookup.request, rfl, lookup.ignoreBefore, lookup.ignoreAfter, rfl, rfl⟩

theorem resetRuleMatchCache :
    Lookup before.resetRuleMatchCache after.resetRuleMatchCache :=
  ⟨lookup.request, lookup.matchSource, lookup.ignoreBefore, lookup.ignoreAfter, rfl, rfl⟩

end Lookup

/-! ## Items as the constructors sort them -/

namespace RuleItem

/-- The destination IP items of a headless rule. -/
def IsIPCIDR : RuleItem → Prop
  | .ipCIDR isSource _ => isSource = false
  | _ => False

variable {lib : SingLib} {before after : InboundContext} {item : RuleItem}

theorem IsQuery.match_eq (query : item.IsQuery) (lookup : Lookup before after) :
    item.match lib before = item.match lib after := by
  have request := lookup.request
  cases item with
  | ipCIDR isSource =>
    cases query
    simp [RuleItem.match, matchIPCIDR, request]
  | ipIsPrivate =>
    cases query
    simp [RuleItem.match, matchIPIsPrivate, request]
  | request => simp [RuleItem.match, request]
  | _ => cases query

theorem IsIPCIDR.match_eq (isIPCIDR : item.IsIPCIDR) (lookup : Lookup before after)
    (matchSource : before.ipCIDRMatchSource = true) :
    item.match lib before = item.match lib after := by
  have request := lookup.request
  have afterSource := lookup.matchSource.trans matchSource
  cases item with
  | ipCIDR => simp [RuleItem.match, matchIPCIDR, request, matchSource, afterSource]
  | _ => cases isIPCIDR

end RuleItem

namespace DefaultItems

variable {Item : Type}

def queryItems (own : DefaultItems Item) : List Item :=
  own.items ++ own.sourceAddressItems ++ own.sourcePortItems ++
    own.destinationAddressItems ++ own.destinationPortItems

/-- The same results before and after the lookup, except for pending items. -/
structure Stable (itemMatch : Item → InboundContext → Bool) (own : DefaultItems Item)
    (before after : InboundContext) : Prop where
  query : ∀ item ∈ own.queryItems, itemMatch item before = itemMatch item after
  source : before.ipCIDRMatchSource = true → ∀ item ∈ own.destinationIPCIDRItems,
    itemMatch item before = itemMatch item after

/-- The destination IP items of the rule are left to the response. -/
def pending (own : DefaultItems Item) (before : InboundContext) : Bool :=
  !before.ipCIDRMatchSource && !own.destinationIPCIDRItems.isEmpty

variable {itemMatch : Item → InboundContext → Bool} {own : DefaultItems Item}
  {before after : InboundContext}

namespace Stable

variable (stable : own.Stable itemMatch before after)
include stable

theorem matchItems : own.matchItems itemMatch before = own.matchItems itemMatch after := by
  unfold DefaultItems.matchItems
  rw [Bool.eq_iff_iff]
  simp only [List.all_eq_true]
  apply forall₂_congr
  intro item member
  rw [stable.query item (by simp [queryItems, member])]

theorem matchAny (items : List Item) (within : ∀ item ∈ items, item ∈ own.queryItems) :
    matchAnyItem itemMatch items before = matchAnyItem itemMatch items after :=
  matchAnyItem_congr fun item member => stable.query item (within item member)

end Stable

/-- The response adds the pending items to the destination address group. -/
theorem requirement_extend (lookup : Lookup before after)
    (stable : own.Stable itemMatch before after) :
    own.requirement itemMatch after =
      (own.requirement itemMatch before).extend .destinationAddress (own.pending before)
        (own.pending before && matchAnyItem itemMatch own.destinationIPCIDRItems after) := by
  have sources := stable.matchAny own.sourceAddressItems (by simp +contextual [queryItems])
  have sourcePorts := stable.matchAny own.sourcePortItems (by simp +contextual [queryItems])
  have domains := stable.matchAny own.destinationAddressItems (by simp +contextual [queryItems])
  have ports := stable.matchAny own.destinationPortItems (by simp +contextual [queryItems])
  have sameFlag : own.destinationIPCIDRMatchesSource after =
      own.destinationIPCIDRMatchesSource before := by
    simp [destinationIPCIDRMatchesSource, lookup.matchSource]
  have addresses : (own.destinationIPCIDRMatchesSource before &&
        matchAnyItem itemMatch own.destinationIPCIDRItems before) =
      (own.destinationIPCIDRMatchesSource before &&
        matchAnyItem itemMatch own.destinationIPCIDRItems after) := by
    cases matchSource : before.ipCIDRMatchSource with
    | false => simp [destinationIPCIDRMatchesSource, matchSource]
    | true => rw [matchAnyItem_congr (stable.source matchSource)]
  simp only [requirement, Requirement.extend, Requirement.mk.injEq]
  constructor <;> funext group <;> cases group <;>
    simp [destinationIPCIDRMatchesDestination, pending, lookup.ignoreBefore, lookup.ignoreAfter,
      lookup.matchSource, sources, sourcePorts, domains, ports, sameFlag, addresses]

end DefaultItems

end SingBox.Route
