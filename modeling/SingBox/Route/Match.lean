import SingBox.Route.Tree

/-! # Matching

The evaluator of `rule_abstract.go` and `rule_item_rule_set.go`. The items are
an interface, so the evaluator is stated over any item type and its `Match`
function. The only field of the metadata that matching writes is
`DeferredIPCIDRMatchGroups`; every function returns the value it leaves there
beside its result.
-/

namespace SingBox.Route

open Adapter

structure Outcome where
  matched : Bool
  deferred : RuleMatchState
  deriving DecidableEq

variable {Item : Type} (itemMatch : Item → InboundContext → Bool)

def matchAnyItem (items : List Item) (metadata : InboundContext) : Bool :=
  items.any fun item => itemMatch item metadata

theorem matchAnyItem_congr {left right : Item → InboundContext → Bool}
    {first second : InboundContext} {items : List Item}
    (same : ∀ item ∈ items, left item first = right item second) :
    matchAnyItem left items first = matchAnyItem right items second := by
  induction items with
  | nil => rfl
  | cons item _ induction =>
    have head := same item List.mem_cons_self
    have tail := induction (List.forall_mem_cons.mp same).2
    simp only [matchAnyItem, List.any_cons] at tail ⊢
    rw [head, tail]

namespace DefaultItems

variable (own : DefaultItems Item)

def isEmpty : Bool :=
  own.items.isEmpty && own.sourceAddressItems.isEmpty &&
    own.sourcePortItems.isEmpty && own.destinationAddressItems.isEmpty &&
    own.destinationIPCIDRItems.isEmpty && own.destinationPortItems.isEmpty

variable (metadata : InboundContext)

def destinationIPCIDRMatchesSource : Bool :=
  metadata.ipCIDRMatchSource && !own.destinationIPCIDRItems.isEmpty

def destinationIPCIDRMatchesDestination : Bool :=
  !metadata.ignoreDestinationIPCIDRMatch && !metadata.ipCIDRMatchSource &&
    !own.destinationIPCIDRItems.isEmpty

/-- The groups of `evaluateGroups`, one statement of the source after another. -/
def groups (own : DefaultItems Item) (metadata : InboundContext) : RuleGroupMatch :=
  let groups : RuleGroupMatch := {}
  let groups :=
    if !own.sourceAddressItems.isEmpty then
      groups.require .sourceAddress
        (matchAnyItem itemMatch own.sourceAddressItems metadata)
    else groups
  let groups :=
    if own.destinationIPCIDRMatchesSource metadata then
      groups.require .sourceAddress
        (!groups.satisfied.has .sourceAddress &&
          matchAnyItem itemMatch own.destinationIPCIDRItems metadata)
    else groups
  let groups :=
    if !own.sourcePortItems.isEmpty then
      groups.require .sourcePort (matchAnyItem itemMatch own.sourcePortItems metadata)
    else groups
  let groups :=
    if !own.destinationAddressItems.isEmpty then
      groups.require .destinationAddress
        (matchAnyItem itemMatch own.destinationAddressItems metadata)
    else groups
  let groups :=
    if own.destinationIPCIDRMatchesDestination metadata then
      groups.require .destinationAddress
        (!groups.satisfied.has .destinationAddress &&
          matchAnyItem itemMatch own.destinationIPCIDRItems metadata)
    else groups
  if !own.destinationPortItems.isEmpty then
    groups.require .destinationPort
      (matchAnyItem itemMatch own.destinationPortItems metadata)
  else groups

/-- The last statement of `evaluateGroups`: before a lookup, destination IP
items without domain items are left to the response. -/
def deferGroups : RuleMatchState :=
  if metadata.ignoreDestinationIPCIDRMatch && !metadata.ipCIDRMatchSource &&
      !own.destinationIPCIDRItems.isEmpty && own.destinationAddressItems.isEmpty then
    metadata.deferredIPCIDRMatchGroups ||| Group.destinationAddress.bit
  else metadata.deferredIPCIDRMatchGroups

def evaluateGroups : RuleGroupMatch × RuleMatchState :=
  (own.groups itemMatch metadata, own.deferGroups metadata)

def matchItems : Bool :=
  own.items.all fun item => itemMatch item metadata

/-- `evaluateForMerge`: no groups when another item fails. -/
def evaluateForMerge : Option (RuleGroupMatch × RuleMatchState) :=
  if own.matchItems itemMatch metadata then some (own.evaluateGroups itemMatch metadata)
  else none

end DefaultItems

/-- `mergeableRuleIn`: the items of the only rule of a set, when that rule is
a plain default rule. -/
def mergeableRuleIn : RuleSet Item → Option (DefaultItems Item)
  | [.default own none false _ _] => some own
  | _ => none

theorem mergeableRuleIn_eq_some {ruleSet : RuleSet Item} {branch : DefaultItems Item}
    (mergeable : mergeableRuleIn ruleSet = some branch) :
    ∃ matchResponse matchResponseTag,
      ruleSet = [.default branch none false matchResponse matchResponseTag] := by
  unfold mergeableRuleIn at mergeable
  split at mergeable <;> cases mergeable
  exact ⟨_, _, rfl⟩

namespace RuleSetItem

def nestedMetadata (ruleSetItem : RuleSetItem Item) (metadata : InboundContext) : InboundContext :=
  { metadata.resetRuleMatchCache with
    ipCIDRMatchSource := ruleSetItem.ipCidrMatchSource
    ipCIDRAcceptEmpty := ruleSetItem.ipCidrAcceptEmpty }

end RuleSetItem

namespace Rule

/-- The metadata a default DNS rule is evaluated with. A rule with
`match_response` works on a copy that holds its bound response, and is not
evaluated without one. -/
def boundMetadata (matchResponse : Bool) (matchResponseTag : String)
    (metadata : InboundContext) : Option InboundContext :=
  if matchResponse then
    let response :=
      if matchResponseTag != "" then metadata.namedDNSResponses matchResponseTag
      else metadata.dnsResponse
    response.map fun response =>
      { metadata with
        dnsResponse := some response
        destinationAddressMatchFromResponse := true }
  else some metadata

/-- What `abstractDefaultRule.Match` makes of the result of `matchInner`. -/
def invertDefault (invert : Bool) (inner : Outcome) : Outcome :=
  if invert then
    if !inner.matched then ⟨true, 0⟩
    else ⟨inner.deferred != 0, inner.deferred⟩
  else inner

/-- What `abstractLogicalRule.Match` makes of the result of its loop. -/
def invertLogical (invert : Bool) (metadata : InboundContext) (inner : Outcome) : Outcome :=
  let deferred :=
    if inner.matched then metadata.deferredIPCIDRMatchGroups ||| inner.deferred
    else metadata.deferredIPCIDRMatchGroups
  if invert then
    if !inner.matched then ⟨true, deferred⟩ else ⟨inner.deferred != 0, deferred⟩
  else ⟨inner.matched, deferred⟩

/-- `matchInner` from the evaluated groups on: the rule-sets are consulted
through `ruleSets`, which gets the deferred groups of the rule itself. -/
def matchInnerWith (own : DefaultItems Item) (metadata : InboundContext)
    (ruleSets : RuleGroupMatch → RuleMatchState → Outcome) : Outcome :=
  let (groups, deferred) := own.evaluateGroups itemMatch metadata
  if own.matchItems itemMatch metadata then
    let result := ruleSets groups deferred
    if result.matched then ⟨true, result.deferred &&& ~~~groups.satisfied⟩ else result
  else ⟨false, deferred⟩

variable {metadata : InboundContext} {own : DefaultItems Item}

theorem matchInnerWith_of_matchItems (matchItems : own.matchItems itemMatch metadata = true)
    (ruleSets : RuleGroupMatch → RuleMatchState → Outcome) :
    matchInnerWith itemMatch own metadata ruleSets =
      let result := ruleSets (own.groups itemMatch metadata) (own.deferGroups metadata)
      if result.matched then
        ⟨true, result.deferred &&& ~~~(own.groups itemMatch metadata).satisfied⟩
      else result :=
  if_pos matchItems

theorem matchInnerWith_of_not_matchItems (matchItems : own.matchItems itemMatch metadata = false)
    (ruleSets : RuleGroupMatch → RuleMatchState → Outcome) :
    matchInnerWith itemMatch own metadata ruleSets = ⟨false, own.deferGroups metadata⟩ :=
  if_neg (by rw [matchItems]; exact Bool.false_ne_true)

mutual
def «match» : Rule Item → InboundContext → Outcome
  | .default own ruleSetItem invert matchResponse matchResponseTag, metadata =>
    match boundMetadata matchResponse matchResponseTag metadata with
    | none => ⟨invert, metadata.deferredIPCIDRMatchGroups⟩
    | some bound =>
      let inner := matchDefault own ruleSetItem invert bound
      if matchResponse then ⟨inner.matched, metadata.deferredIPCIDRMatchGroups⟩
      else inner
  | .logical mode rules invert, metadata =>
    invertLogical invert metadata <|
      match mode with
      | .and => matchAnd rules metadata 0
      | .or => matchOr rules metadata false 0

/-- `abstractDefaultRule.Match`. -/
def matchDefault (own : DefaultItems Item) (ruleSetItem : Option (RuleSetItem Item))
    (invert : Bool) (metadata : InboundContext) : Outcome :=
  match ruleSetItem with
  | none =>
    if own.isEmpty then ⟨true, metadata.deferredIPCIDRMatchGroups⟩
    else invertDefault invert <|
      matchInnerWith itemMatch own metadata fun groups deferred =>
        ⟨groups.done, deferred⟩
  | some (.mk setList ipCidrMatchSource ipCidrAcceptEmpty) =>
    invertDefault invert <|
      matchInnerWith itemMatch own metadata fun groups deferred =>
        matchWithOuterGroups setList
          ((RuleSetItem.mk setList ipCidrMatchSource ipCidrAcceptEmpty).nestedMetadata
            metadata) groups deferred false 0

/-- The loop of a logical `and`, with the groups deferred so far. -/
def matchAnd : List (Rule Item) → InboundContext → RuleMatchState → Outcome
  | [], _, deferredGroups => ⟨true, deferredGroups⟩
  | rule :: rules, metadata, deferredGroups =>
    let nested := rule.match metadata.resetRuleCache
    if nested.matched then matchAnd rules metadata (deferredGroups ||| nested.deferred)
    else ⟨false, 0⟩

/-- The loop of a logical `or`, with the result and the groups so far. -/
def matchOr : List (Rule Item) → InboundContext → Bool → RuleMatchState → Outcome
  | [], _, matched, deferredGroups => ⟨matched, deferredGroups⟩
  | rule :: rules, metadata, matched, deferredGroups =>
    let nested := rule.match metadata.resetRuleCache
    if nested.matched then
      if nested.deferred == 0 then ⟨true, 0⟩
      else matchOr rules metadata true (deferredGroups ||| nested.deferred)
    else matchOr rules metadata matched deferredGroups

def matchAnyHeadlessRule : RuleSet Item → InboundContext → Bool → RuleMatchState → Outcome
  | [], metadata, matched, deferredGroups =>
    ⟨matched,
      if matched then metadata.deferredIPCIDRMatchGroups ||| deferredGroups
      else metadata.deferredIPCIDRMatchGroups⟩
  | rule :: rules, metadata, matched, deferredGroups =>
    let nested := rule.match metadata.resetRuleMatchCache
    if nested.matched then
      if nested.deferred == 0 then ⟨true, metadata.deferredIPCIDRMatchGroups⟩
      else matchAnyHeadlessRule rules metadata true (deferredGroups ||| nested.deferred)
    else matchAnyHeadlessRule rules metadata matched deferredGroups

/-- The loop of `matchWithOuterGroups` over the sets. `deferred` is the value
in the outer metadata, `nested` the metadata each set is evaluated with. -/
def matchWithOuterGroups : List (RuleSet Item) → InboundContext → RuleGroupMatch →
    RuleMatchState → Bool → RuleMatchState → Outcome
  | [], _, _, deferred, matched, deferredGroups =>
    ⟨matched, if matched then deferred ||| deferredGroups else deferred⟩
  | ruleSet :: setList, nested, outerGroups, deferred, matched, deferredGroups =>
    match mergeableRuleIn ruleSet with
    | some branch =>
      match branch.evaluateForMerge itemMatch nested with
      | some (branchGroups, branchDeferred) =>
        let merged := outerGroups.mergeWith branchGroups
        if merged.done then
          let branchDeferredGroups := branchDeferred &&& ~~~merged.satisfied
          if branchDeferredGroups == 0 then
            ⟨true, deferred &&& ~~~merged.satisfied⟩
          else
            matchWithOuterGroups setList nested outerGroups deferred true
              (deferredGroups ||| branchDeferredGroups)
        else
          matchWithOuterGroups setList nested outerGroups deferred matched
            deferredGroups
      | none =>
        matchWithOuterGroups setList nested outerGroups deferred matched
          deferredGroups
    | none =>
      let independent := matchAnyHeadlessRule ruleSet nested false 0
      if outerGroups.done && independent.matched then
        if independent.deferred == 0 then ⟨true, deferred⟩
        else
          matchWithOuterGroups setList nested outerGroups deferred true
            (deferredGroups ||| independent.deferred)
      else
        matchWithOuterGroups setList nested outerGroups deferred matched
          deferredGroups
end

end Rule

end SingBox.Route
