import SingBox.Route.Match

/-! # What the groups of a rule require

`evaluateGroups` collects bits; this file states them as a requirement over
the four groups, which is all that the results about matching use.
-/

namespace SingBox.Route

open Adapter

variable {Item : Type} (itemMatch : Item → InboundContext → Bool)

namespace DefaultItems

/-- The groups of a rule and the items that satisfy them. Destination IP items
belong to the source address under `ipCIDRMatchSource`, to the destination
address otherwise, and to no group before a lookup. -/
def requirement (own : DefaultItems Item) (metadata : InboundContext) :
    Requirement Group where
  required
    | .sourceAddress =>
      !own.sourceAddressItems.isEmpty || own.destinationIPCIDRMatchesSource metadata
    | .sourcePort => !own.sourcePortItems.isEmpty
    | .destinationAddress =>
      !own.destinationAddressItems.isEmpty ||
        own.destinationIPCIDRMatchesDestination metadata
    | .destinationPort => !own.destinationPortItems.isEmpty
  satisfied
    | .sourceAddress =>
      matchAnyItem itemMatch own.sourceAddressItems metadata ||
        (own.destinationIPCIDRMatchesSource metadata &&
          matchAnyItem itemMatch own.destinationIPCIDRItems metadata)
    | .sourcePort => matchAnyItem itemMatch own.sourcePortItems metadata
    | .destinationAddress =>
      matchAnyItem itemMatch own.destinationAddressItems metadata ||
        (own.destinationIPCIDRMatchesDestination metadata &&
          matchAnyItem itemMatch own.destinationIPCIDRItems metadata)
    | .destinationPort => matchAnyItem itemMatch own.destinationPortItems metadata

variable (groups : RuleGroupMatch)

/-- One conditional statement of `evaluateGroups`. -/
private def requireIf (present : Bool) (group : Group) (hit : Bool) : RuleGroupMatch :=
  if present then groups.require group hit else groups

private theorem requireIf_required (present : Bool) (group other : Group) (hit : Bool) :
    (requireIf groups present group hit).required.has other =
      (groups.required.has other || (present && decide (group = other))) := by
  cases present <;> simp [requireIf, RuleGroupMatch.require]

private theorem requireIf_satisfied (present : Bool) (group other : Group) (hit : Bool) :
    (requireIf groups present group hit).satisfied.has other =
      (groups.satisfied.has other || (present && hit && decide (group = other))) := by
  cases present <;> cases hit <;> simp [requireIf, RuleGroupMatch.require]

private theorem requireIf_grouped {groups : RuleGroupMatch} (present : Bool) (group : Group)
    (hit : Bool) (grouped : groups.required.Grouped) :
    (requireIf groups present group hit).required.Grouped := by
  cases present with
  | false => exact grouped
  | true => exact grouped.or (RuleMatchState.grouped_bit group)

private theorem groups_eq (own : DefaultItems Item) (metadata : InboundContext) :
    own.groups itemMatch metadata =
      let groups : RuleGroupMatch := {}
      let groups := requireIf groups (!own.sourceAddressItems.isEmpty) .sourceAddress
        (matchAnyItem itemMatch own.sourceAddressItems metadata)
      let groups := requireIf groups (own.destinationIPCIDRMatchesSource metadata)
        .sourceAddress (!groups.satisfied.has .sourceAddress &&
          matchAnyItem itemMatch own.destinationIPCIDRItems metadata)
      let groups := requireIf groups (!own.sourcePortItems.isEmpty) .sourcePort
        (matchAnyItem itemMatch own.sourcePortItems metadata)
      let groups := requireIf groups (!own.destinationAddressItems.isEmpty)
        .destinationAddress (matchAnyItem itemMatch own.destinationAddressItems metadata)
      let groups := requireIf groups (own.destinationIPCIDRMatchesDestination metadata)
        .destinationAddress (!groups.satisfied.has .destinationAddress &&
          matchAnyItem itemMatch own.destinationIPCIDRItems metadata)
      requireIf groups (!own.destinationPortItems.isEmpty) .destinationPort
        (matchAnyItem itemMatch own.destinationPortItems metadata) :=
  rfl

private theorem present_and_hit {items : List Item} (metadata : InboundContext) :
    (!items.isEmpty && matchAnyItem itemMatch items metadata) =
      matchAnyItem itemMatch items metadata := by
  cases items <;> rfl

private theorem or_unless (hit present other : Bool) :
    (hit || (present && (!hit && other))) = (hit || (present && other)) := by
  cases hit <;> rfl

section

variable (own : DefaultItems Item) (metadata : InboundContext)
include own metadata

theorem groups_required_grouped : (own.groups itemMatch metadata).required.Grouped := by
  rw [groups_eq]
  exact requireIf_grouped _ _ _ (requireIf_grouped _ _ _ (requireIf_grouped _ _ _
    (requireIf_grouped _ _ _ (requireIf_grouped _ _ _ (requireIf_grouped _ _ _
      RuleMatchState.grouped_zero)))))

theorem groups_requirement :
    (own.groups itemMatch metadata).requirement = own.requirement itemMatch metadata := by
  rw [groups_eq]
  simp only [RuleGroupMatch.requirement, requirement, Requirement.mk.injEq]
  constructor
  · funext group
    cases group <;> simp [requireIf_required]
  · funext group
    cases group <;> simp [requireIf_satisfied, present_and_hit, or_unless]

theorem groups_done_iff :
    (own.groups itemMatch metadata).done = true ↔
      (own.requirement itemMatch metadata).Holds := by
  rw [RuleGroupMatch.done_iff (own.groups_required_grouped itemMatch metadata), groups_requirement]

end

theorem mergeWith_done_iff (own branch : DefaultItems Item) (metadata nested : InboundContext) :
    ((own.groups itemMatch metadata).mergeWith (branch.groups itemMatch nested)).done = true ↔
      ((own.requirement itemMatch metadata).unite
        (branch.requirement itemMatch nested)).Holds := by
  rw [RuleGroupMatch.done_iff ((own.groups_required_grouped itemMatch metadata).or
        (branch.groups_required_grouped itemMatch nested)),
    RuleGroupMatch.requirement_mergeWith, groups_requirement, groups_requirement]

end DefaultItems

end SingBox.Route
