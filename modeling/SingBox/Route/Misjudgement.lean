import SingBox.Route.Lookup

/-! # Wrong sure answers before a lookup

A rule that is matched before the lookup gives a sure answer, or leaves it to the
response. Two places of the evaluator give a sure answer too early. A destination
address group with domain items that miss is taken as failed although its
destination IP items are still open; and a domain item that matches clears what
an independent rule-set has deferred. Nested inversion turns one kind of error
into the other. `Misjudges` says how a wrong answer arises and how it passes
through the tree, and is shown to miss none.
-/

namespace SingBox.Route

open Adapter DefaultItems

/-- The answer of one child that settles a logical rule. -/
def LogicalMode.decides : LogicalMode → Bool
  | .and => false
  | .or => true

namespace Rule

variable {Item : Type}

section

variable (ruleSetItem : Option (RuleSetItem Item))

/-- The items that are merged with those of a rule. A rule without rule-sets is
merged with none. -/
def Merged (branch : DefaultItems Item) : Prop :=
  match ruleSetItem with
  | none => branch = {}
  | some item => ∃ ruleSet ∈ item.setList, mergeableRuleIn ruleSet = some branch

/-- The members of the rule-sets that are matched on their own. -/
def Independent (rule : Rule Item) : Prop :=
  ∃ item ∈ ruleSetItem, ∃ ruleSet ∈ item.setList, mergeableRuleIn ruleSet = none ∧ rule ∈ ruleSet

/-- The metadata that merged items are matched with. -/
def nested (metadata : InboundContext) : InboundContext :=
  ruleSetItem.elim metadata (·.nestedMetadata metadata)

/-- The metadata that an independent rule is matched with. -/
def memberMetadata (metadata : InboundContext) : InboundContext :=
  (nested ruleSetItem metadata).resetRuleMatchCache

end

variable (itemMatch : Item → InboundContext → Bool)

/-- The groups of a rule, united with those of merged items. -/
def united (own branch : DefaultItems Item) (metadata nested : InboundContext) :
    Requirement Group :=
  (own.requirement itemMatch metadata).unite (branch.requirement itemMatch nested)

/-- The groups of a rule are complete: together with merged items that match, or on
their own with a member of an independent rule-set that matches. -/
def Completes (own : DefaultItems Item) (ruleSetItem : Option (RuleSetItem Item))
    (metadata : InboundContext) : Prop :=
  (∃ branch, Merged ruleSetItem branch ∧
    branch.matchItems itemMatch (nested ruleSetItem metadata) = true ∧
    (united itemMatch own branch metadata (nested ruleSetItem metadata)).Holds) ∨
  ((own.requirement itemMatch metadata).Holds ∧ ∃ rule, Independent ruleSetItem rule ∧
    (rule.match itemMatch (memberMetadata ruleSetItem metadata)).matched = true)

/-- The domain items of the destination group all miss, so that the group is
taken as failed, and a destination IP item that was left out matches the
response. Every other group in use has an item that matches. -/
structure LateHit (own branch : DefaultItems Item)
    (before nestedBefore after nestedAfter : InboundContext) : Prop where
  asked : own.destinationAddressItems ≠ [] ∨ branch.destinationAddressItems ≠ []
  missed : matchAnyItem itemMatch own.destinationAddressItems before = false
  branchMissed : matchAnyItem itemMatch branch.destinationAddressItems nestedBefore = false
  hit : (own.pending before = true ∧
      matchAnyItem itemMatch own.destinationIPCIDRItems after = true) ∨
    (branch.pending nestedBefore = true ∧
      matchAnyItem itemMatch branch.destinationIPCIDRItems nestedAfter = true)
  others : ∀ group, group ≠ .destinationAddress →
    (united itemMatch own branch before nestedBefore).required group = true →
      (united itemMatch own branch before nestedBefore).satisfied group = true

mutual
/-- How the response completes the groups of a default rule late: by a late hit,
alone or together with merged items, or by a member that was refused wrongly. -/
inductive LateAnswer : DefaultItems Item → Option (RuleSetItem Item) → InboundContext →
    InboundContext → Prop
  | merged {own ruleSetItem before after branch}
      (isMerged : Merged ruleSetItem branch)
      (branchItems : branch.matchItems itemMatch (nested ruleSetItem before) = true)
      (late : LateHit itemMatch own branch before (nested ruleSetItem before) after
        (nested ruleSetItem after)) :
      LateAnswer own ruleSetItem before after
  | independent {own ruleSetItem before after rule}
      (late : LateHit itemMatch own {} before before after after)
      (member : Independent ruleSetItem rule)
      (accepted : (rule.match itemMatch (memberMetadata ruleSetItem after)).matched = true) :
      LateAnswer own ruleSetItem before after
  | member {own ruleSetItem before after rule}
      (complete : (own.requirement itemMatch after).Holds)
      (member : Independent ruleSetItem rule)
      (misjudged : Misjudges false rule (memberMetadata ruleSetItem before)
        (memberMetadata ruleSetItem after)) :
      LateAnswer own ruleSetItem before after

/-- The rule gives `answer` as sure before the lookup and the other one with the
response. A wrong answer starts as a late hit, or where a domain item that
matches clears what an independent rule-set has deferred. It reaches a rule from
a member of a rule-set or from a child, if the rest of the rule does not decide
otherwise. -/
inductive Misjudges : Bool → Rule Item → InboundContext → InboundContext → Prop
  | lateAnswer {answer own ruleSetItem invert matchResponseTag before after}
      (refuses : (invert ^^ answer) = false)
      (items : own.matchItems itemMatch before = true)
      (incomplete : ¬ Completes itemMatch own ruleSetItem before)
      (late : LateAnswer own ruleSetItem before after) :
      Misjudges answer (.default own ruleSetItem invert false matchResponseTag) before after
  | clearedDeferral {answer own ruleSetItem invert matchResponseTag before after rule}
      (accepts : (invert ^^ answer) = true)
      (items : own.matchItems itemMatch before = true)
      (complete : (own.requirement itemMatch before).Holds)
      (domain : matchAnyItem itemMatch own.destinationAddressItems before = true)
      (member : Independent ruleSetItem rule)
      (accepted : (rule.match itemMatch (memberMetadata ruleSetItem before)).matched = true)
      (incomplete : ¬ Completes itemMatch own ruleSetItem after) :
      Misjudges answer (.default own ruleSetItem invert false matchResponseTag) before after
  | acceptedMember {answer own ruleSetItem invert matchResponseTag before after rule}
      (accepts : (invert ^^ answer) = true)
      (items : own.matchItems itemMatch before = true)
      (complete : (own.requirement itemMatch before).Holds)
      (settled : own.pending before = false)
      (member : Independent ruleSetItem rule)
      (misjudged : Misjudges true rule (memberMetadata ruleSetItem before)
        (memberMetadata ruleSetItem after))
      (incomplete : ¬ Completes itemMatch own ruleSetItem after) :
      Misjudges answer (.default own ruleSetItem invert false matchResponseTag) before after
  | decidingChild {answer mode rules invert before after rule}
      (decides : (invert ^^ answer) = mode.decides) (member : rule ∈ rules)
      (misjudged : Misjudges (invert ^^ answer) rule before.resetRuleCache after.resetRuleCache)
      (alone : ∀ sibling ∈ rules,
        (sibling.match itemMatch after.resetRuleCache).matched = !(invert ^^ answer)) :
      Misjudges answer (.logical mode rules invert) before after
  | agreeingChild {answer mode rules invert before after rule}
      (agrees : (invert ^^ answer) ≠ mode.decides) (member : rule ∈ rules)
      (misjudged : Misjudges (invert ^^ answer) rule before.resetRuleCache after.resetRuleCache)
      (agreed : ∀ sibling ∈ rules,
        (sibling.match itemMatch before.resetRuleCache).verdict = .ofBool (invert ^^ answer)) :
      Misjudges answer (.logical mode rules invert) before after
end

/-- The rule is sure of `answer` before the lookup, and the response has the other one. -/
def Wrong (answer : Bool) (rule : Rule Item) (before after : InboundContext) : Prop :=
  (rule.match itemMatch before).verdict = .ofBool answer ∧
    (rule.match itemMatch after).matched = !answer

variable {itemMatch} {own branch : DefaultItems Item} {ruleSetItem : Option (RuleSetItem Item)}
  {before after nestedBefore nestedAfter metadata : InboundContext} {answer invert : Bool}
  {matchResponseTag : String} {rule : Rule Item}

/-! ## Groups before and after -/

section

private theorem united_empty (own : DefaultItems Item) (metadata nested : InboundContext) :
    united itemMatch own {} metadata nested = own.requirement itemMatch metadata := by
  simp only [united, Requirement.unite, requirement, Requirement.mk.injEq]
  constructor <;> funext group <;> cases group <;>
    simp [destinationIPCIDRMatchesSource, destinationIPCIDRMatchesDestination, matchAnyItem]

theorem stable_empty : ({} : DefaultItems Item).Stable itemMatch before after :=
  ⟨nofun, nofun⟩

private theorem mergeWith_requirement :
    ((own.groups itemMatch metadata).mergeWith (branch.groups itemMatch nestedBefore)).requirement =
      united itemMatch own branch metadata nestedBefore := by
  rw [RuleGroupMatch.requirement_mergeWith, groups_requirement, groups_requirement]
  rfl

private theorem required_destination (present : own.destinationAddressItems ≠ []) :
    (own.groups itemMatch before).required.has .destinationAddress = true := by
  change (own.groups itemMatch before).requirement.required _ = true
  rw [own.groups_requirement]
  simp [requirement, present]

private theorem satisfied_destination (lookup : Lookup before after) :
    (own.requirement itemMatch before).satisfied .destinationAddress =
      matchAnyItem itemMatch own.destinationAddressItems before := by
  simp [requirement, destinationIPCIDRMatchesDestination, lookup.ignoreBefore]

/-- Pending items are covered when nothing stays deferred: without domain
items they are deferred themselves, and with domain items one has matched. -/
private theorem pending_covered (lookup : Lookup before after) {groups : RuleGroupMatch}
    (holds : groups.requirement.Holds)
    (required : own.destinationAddressItems ≠ [] → groups.required.has .destinationAddress = true)
    (certain : own.deferGroups before &&& ~~~groups.satisfied = 0#8)
    (pending : own.pending before = true) : groups.satisfied.has .destinationAddress = true := by
  by_cases noDomain : own.destinationAddressItems = []
  · simp only [DefaultItems.pending, Bool.and_eq_true, Bool.not_eq_eq_eq_not] at pending
    have deferred : own.deferGroups before = Group.destinationAddress.bit := by
      simp [deferGroups, lookup.ignoreBefore, lookup.freshBefore, pending.1, pending.2, noDomain]
    rwa [deferred, RuleMatchState.bit_andNot_eq_zero_iff] at certain
  · exact holds .destinationAddress (required noDomain)

variable (lookup : Lookup before after) (nestedLookup : Lookup nestedBefore nestedAfter)
  (stable : own.Stable itemMatch before after)
  (branchStable : branch.Stable itemMatch nestedBefore nestedAfter)
include lookup nestedLookup stable branchStable

private theorem united_extend :
    united itemMatch own branch after nestedAfter =
      (united itemMatch own branch before nestedBefore).extend .destinationAddress
        (own.pending before || branch.pending nestedBefore)
        (own.pending before && matchAnyItem itemMatch own.destinationIPCIDRItems after ||
          branch.pending nestedBefore &&
            matchAnyItem itemMatch branch.destinationIPCIDRItems nestedAfter) := by
  rw [united, requirement_extend lookup stable, requirement_extend nestedLookup branchStable,
    Requirement.unite_extend]
  rfl

/-- What the response adds to complete groups is already covered. -/
private theorem united_holds_after (holds : (united itemMatch own branch before nestedBefore).Holds)
    (covered : own.pending before = true ∨ branch.pending nestedBefore = true →
      (united itemMatch own branch before nestedBefore).satisfied .destinationAddress = true) :
    (united itemMatch own branch after nestedAfter).Holds := by
  rw [united_extend lookup nestedLookup stable branchStable]
  exact holds.extend (by simpa using covered)

private theorem lateHit_iff :
    LateHit itemMatch own branch before nestedBefore after nestedAfter ↔
      ¬ (united itemMatch own branch before nestedBefore).Holds ∧
        (united itemMatch own branch after nestedAfter).Holds := by
  have required : (united itemMatch own branch before nestedBefore).required .destinationAddress =
      (!own.destinationAddressItems.isEmpty || !branch.destinationAddressItems.isEmpty) := by
    simp [united, requirement, destinationIPCIDRMatchesDestination, lookup.ignoreBefore,
      nestedLookup.ignoreBefore]
  have satisfied : (united itemMatch own branch before nestedBefore).satisfied .destinationAddress =
      (matchAnyItem itemMatch own.destinationAddressItems before ||
        matchAnyItem itemMatch branch.destinationAddressItems nestedBefore) := by
    rw [united, Requirement.unite_satisfied, satisfied_destination lookup,
      satisfied_destination nestedLookup]
  rw [united_extend lookup nestedLookup stable branchStable, Requirement.extend_late_iff, required,
    satisfied]
  simp only [Bool.or_eq_true, Bool.or_eq_false_iff, Bool.not_eq_true', List.isEmpty_eq_false_iff,
    Bool.and_eq_true]
  constructor
  · rintro ⟨asked, missed, branchMissed, hit, others⟩
    exact ⟨asked, ⟨missed, branchMissed⟩, hit, others⟩
  · rintro ⟨asked, ⟨missed, branchMissed⟩, hit, others⟩
    exact ⟨asked, missed, branchMissed, hit, others⟩

end

/-! ## Default rules -/

private theorem members_matched {item : RuleSetItem Item} (ruleSet : RuleSet Item) :
    (matchAnyHeadlessRule itemMatch ruleSet (item.nestedMetadata metadata) false 0).matched =
      ruleSet.any fun rule =>
        (rule.match itemMatch (memberMetadata (some item) metadata)).matched :=
  matchAnyHeadlessRule_matched _ rfl

private theorem members_verdict {item : RuleSetItem Item} (ruleSet : RuleSet Item) :
    (matchAnyHeadlessRule itemMatch ruleSet (item.nestedMetadata metadata) false 0).verdict =
      .any (ruleSet.map fun rule =>
        (rule.match itemMatch (memberMetadata (some item) metadata)).verdict) :=
  matchAnyHeadlessRule_verdict _ rfl

private theorem completes_none_iff :
    Completes itemMatch own none metadata ↔ (own.requirement itemMatch metadata).Holds := by
  simp [Completes, Merged, Independent, united_empty, matchItems]

private theorem ruleSetsOutcome_matched_iff (deferred : RuleMatchState) :
    (ruleSetsOutcome itemMatch ruleSetItem metadata (own.groups itemMatch metadata)
        deferred).matched = true ↔ Completes itemMatch own ruleSetItem metadata := by
  cases ruleSetItem with
  | none => rw [completes_none_iff, ← own.groups_done_iff, ruleSetsOutcome]
  | some item =>
    simp only [ruleSetsOutcome, matchWithOuterGroups_matched, Bool.false_or, List.any_eq_true]
    constructor
    · rintro ⟨ruleSet, setMember, isMatch⟩
      rw [setMatches] at isMatch
      cases mergeable : mergeableRuleIn ruleSet with
      | some branch =>
        simp only [mergeable, Bool.and_eq_true, mergeWith_done_iff] at isMatch
        exact .inl ⟨branch, ⟨ruleSet, setMember, mergeable⟩, isMatch⟩
      | none =>
        simp only [mergeable, Bool.and_eq_true, groups_done_iff, members_matched,
          List.any_eq_true] at isMatch
        rcases isMatch with ⟨holds, rule, member, isMatch⟩
        exact .inr ⟨holds, rule, ⟨item, rfl, ruleSet, setMember, mergeable, member⟩, isMatch⟩
    · rintro (⟨branch, ⟨ruleSet, setMember, mergeable⟩, isMatch⟩ |
        ⟨holds, rule, ⟨_, ⟨⟩, ruleSet, setMember, mergeable, member⟩, isMatch⟩)
      · refine ⟨ruleSet, setMember, ?_⟩
        simp only [setMatches, mergeable, Bool.and_eq_true, mergeWith_done_iff]
        exact isMatch
      · refine ⟨ruleSet, setMember, ?_⟩
        simp only [setMatches, mergeable, Bool.and_eq_true, groups_done_iff, members_matched,
          List.any_eq_true]
        exact ⟨holds, rule, member, isMatch⟩

/-- One member that matches for sure settles the rule, if nothing of the rule
itself is left to the response. -/
private theorem ruleSetsOutcome_of_sure (complete : (own.requirement itemMatch metadata).Holds)
    (fresh : metadata.deferredIPCIDRMatchGroups = 0#8) (settled : own.pending metadata = false)
    (member : Independent ruleSetItem rule)
    (sure : (rule.match itemMatch (memberMetadata ruleSetItem metadata)).verdict = .yes) :
    ruleSetsOutcome itemMatch ruleSetItem metadata (own.groups itemMatch metadata)
      (own.deferGroups metadata) = ⟨true, 0#8⟩ := by
  rcases member with ⟨item, rfl, ruleSet, setMember, mergeable, member⟩
  have setYes : (matchAnyHeadlessRule itemMatch ruleSet (item.nestedMetadata metadata)
      false 0).verdict = .yes := by
    rw [members_verdict, Verdict.any_eq_yes_iff]
    exact ⟨rule, member, sure⟩
  rw [Outcome.verdict_eq_yes_iff] at setYes
  have nothing : own.deferGroups metadata = 0#8 := by
    simp only [DefaultItems.pending, Bool.and_eq_false_iff, Bool.not_eq_false'] at settled
    rcases settled with isSource | noItem
    · simp [deferGroups, isSource, fresh]
    · simp [deferGroups, noItem, fresh]
  rw [nothing]
  apply matchWithOuterGroups_of_sure _ setMember
  · simp only [setMatches, mergeable, Bool.and_eq_true, groups_done_iff]
    exact ⟨complete, setYes.1⟩
  · simp only [setDeferred, mergeable]
    exact setYes.2

private theorem xor_eq_not_iff (invert value answer : Bool) :
    (invert ^^ value) = !answer ↔ value = !(invert ^^ answer) := by
  cases invert <;> cases value <;> cases answer <;> decide

private theorem default_wrong_iff (lookup : Lookup before after) :
    Wrong itemMatch answer (default own ruleSetItem invert false matchResponseTag) before after ↔
      (ruleSetItem = none → own.isEmpty = false) ∧
        (matchInner itemMatch own ruleSetItem before).verdict = .ofBool (invert ^^ answer) ∧
        (matchInner itemMatch own ruleSetItem after).matched = !(invert ^^ answer) := by
  change (matchDefault _ _ _ _ _).verdict = _ ∧ (matchDefault _ _ _ _ _).matched = _ ↔ _
  rw [matchDefault_matched itemMatch lookup.freshAfter lookup.ignoreAfter,
    matchDefault_eq_matchInner]
  split
  · next isEmpty =>
    rw [Outcome.verdict_yes rfl lookup.freshBefore, isEmpty, Bool.true_or]
    simp only [Bool.and_eq_true, Option.isNone_iff_eq_none] at isEmpty
    cases answer <;> simp [Verdict.ofBool, isEmpty]
  · next notEmpty =>
    rw [invertDefault_verdict, Verdict.invert_eq_ofBool_iff, Bool.eq_false_of_not_eq_true notEmpty,
      Bool.false_or, xor_eq_not_iff]
    have used : ruleSetItem = none → own.isEmpty = false := by simpa using notEmpty
    exact (and_iff_right used).symm

section

variable (stable : own.Stable itemMatch before after)
include stable

private theorem matchInner_no_iff :
    (matchInner itemMatch own ruleSetItem before).verdict = .no ∧
        (matchInner itemMatch own ruleSetItem after).matched = true ↔
      own.matchItems itemMatch before = true ∧ ¬ Completes itemMatch own ruleSetItem before ∧
        Completes itemMatch own ruleSetItem after := by
  rw [Outcome.verdict_eq_no_iff, matchInner_matched, matchInner_matched, ← stable.matchItems,
    ← ruleSetsOutcome_matched_iff (own.deferGroups before),
    ← ruleSetsOutcome_matched_iff (own.deferGroups after)]
  cases own.matchItems itemMatch before <;> simp

private theorem matchInner_yes_iff :
    (matchInner itemMatch own ruleSetItem before).verdict = .yes ∧
        (matchInner itemMatch own ruleSetItem after).matched = false ↔
      own.matchItems itemMatch before = true ∧ Completes itemMatch own ruleSetItem before ∧
        (ruleSetsOutcome itemMatch ruleSetItem before (own.groups itemMatch before)
          (own.deferGroups before)).deferred &&& ~~~(own.groups itemMatch before).satisfied = 0#8 ∧
        ¬ Completes itemMatch own ruleSetItem after := by
  rw [Outcome.verdict_eq_yes_iff, matchInner_matched, matchInner_matched, ← stable.matchItems,
    ← ruleSetsOutcome_matched_iff (own.deferGroups before),
    ← ruleSetsOutcome_matched_iff (own.deferGroups after)]
  cases matchItems : own.matchItems itemMatch before with
  | false => simp
  | true =>
    rw [matchInner, matchInnerWith_of_matchItems _ matchItems]
    dsimp only
    split <;> simp_all

variable (lookup : Lookup before after)
include lookup

private theorem ownLateHit_iff :
    LateHit itemMatch own {} before before after after ↔
      ¬ (own.requirement itemMatch before).Holds ∧ (own.requirement itemMatch after).Holds := by
  rw [lateHit_iff lookup lookup stable stable_empty, united_empty, united_empty]

variable (nestedLookup : Lookup (nested ruleSetItem before) (nested ruleSetItem after))
  (branchStable : ∀ branch, Merged ruleSetItem branch →
    branch.Stable itemMatch (nested ruleSetItem before) (nested ruleSetItem after))
  (members : ∀ rule, Independent ruleSetItem rule → ∀ answer,
    Misjudges itemMatch answer rule (memberMetadata ruleSetItem before)
        (memberMetadata ruleSetItem after) ↔
      Wrong itemMatch answer rule (memberMetadata ruleSetItem before)
        (memberMetadata ruleSetItem after))
include nestedLookup branchStable members

private theorem lateAnswer_iff (incomplete : ¬ Completes itemMatch own ruleSetItem before) :
    LateAnswer itemMatch own ruleSetItem before after ↔
      Completes itemMatch own ruleSetItem after := by
  constructor
  · intro late
    cases late with
    | merged isMerged branchItems late =>
      have branchStable := branchStable _ isMerged
      rw [lateHit_iff lookup nestedLookup stable branchStable] at late
      exact .inl ⟨_, isMerged, branchStable.matchItems ▸ branchItems, late.2⟩
    | independent late member accepted =>
      exact .inr ⟨((ownLateHit_iff stable lookup).mp late).2, _, member, accepted⟩
    | member complete member misjudged =>
      exact .inr ⟨complete, _, member, ((members _ member false).mp misjudged).2⟩
  · rintro (⟨branch, isMerged, branchItems, holds⟩ | ⟨holds, rule, member, isMatch⟩)
    · have branchStable := branchStable branch isMerged
      rw [← branchStable.matchItems] at branchItems
      refine .merged isMerged branchItems ?_
      rw [lateHit_iff lookup nestedLookup stable branchStable]
      exact ⟨fun already => incomplete (.inl ⟨branch, isMerged, branchItems, already⟩), holds⟩
    · by_cases already : (own.requirement itemMatch before).Holds
      · refine .member holds member ((members rule member false).mpr ⟨?_, isMatch⟩)
        rw [Verdict.ofBool, Outcome.verdict_eq_no_iff, Bool.eq_false_iff]
        exact fun matched => incomplete (.inr ⟨already, rule, member, matched⟩)
      · exact .independent ((ownLateHit_iff stable lookup).mpr ⟨already, holds⟩) member isMatch

omit members in
/-- A sure match stands with the response, or it is that of a member and nothing else is open. -/
private theorem completes_or_member_of_sure
    (sure : ruleSetsOutcome itemMatch ruleSetItem before (own.groups itemMatch before)
      (own.deferGroups before) = ⟨true, 0#8⟩) :
    Completes itemMatch own ruleSetItem after ∨
      (own.requirement itemMatch before).Holds ∧ own.deferGroups before = 0#8 ∧
        ∃ rule, Independent ruleSetItem rule ∧
          (rule.match itemMatch (memberMetadata ruleSetItem before)).verdict = .yes := by
  have stands : ∀ branch, Merged ruleSetItem branch →
      branch.matchItems itemMatch (nested ruleSetItem before) = true →
      (united itemMatch own branch before (nested ruleSetItem before)).Holds →
      let satisfied := ((own.groups itemMatch before).mergeWith
        (branch.groups itemMatch (nested ruleSetItem before))).satisfied
      own.deferGroups before &&& ~~~satisfied = 0#8 →
      branch.deferGroups (nested ruleSetItem before) &&& ~~~satisfied = 0#8 →
      Completes itemMatch own ruleSetItem after := by
    intro branch isMerged branchItems holds _ certain branchCertain
    have branchStable := branchStable branch isMerged
    refine .inl ⟨branch, isMerged, branchStable.matchItems ▸ branchItems, ?_⟩
    apply united_holds_after lookup nestedLookup stable branchStable holds
    rw [← mergeWith_requirement] at holds ⊢
    rintro (pending | pending)
    · refine pending_covered lookup holds (fun present => ?_) certain pending
      rw [RuleGroupMatch.mergeWith, RuleMatchState.has_or, required_destination present,
        Bool.true_or]
    · refine pending_covered nestedLookup holds (fun present => ?_) branchCertain pending
      rw [RuleGroupMatch.mergeWith, RuleMatchState.has_or, required_destination present,
        Bool.or_true]
  cases ruleSetItem with
  | none =>
    rw [ruleSetsOutcome, Outcome.mk.injEq, groups_done_iff] at sure
    refine .inl (stands {} rfl rfl (by rw [united_empty]; exact sure.1) ?_ ?_)
    · rw [sure.2, BitVec.zero_and]
    · simp [deferGroups, nested, lookup.freshBefore]
  | some item =>
    rcases exists_sureSet itemMatch (by simp) sure with ⟨ruleSet, setMember, isMatch, isSure, rest⟩
    rw [setMatches] at isMatch
    rw [setDeferred] at isSure
    rw [setRest] at rest
    cases mergeable : mergeableRuleIn ruleSet with
    | some branch =>
      simp only [mergeable, Bool.and_eq_true, mergeWith_done_iff] at isMatch isSure rest
      exact .inl (stands branch ⟨ruleSet, setMember, mergeable⟩ isMatch.1 isMatch.2 rest isSure)
    | none =>
      simp only [mergeable, Bool.and_eq_true, groups_done_iff] at isMatch isSure rest
      have setYes := Outcome.verdict_yes isMatch.2 isSure
      rw [members_verdict, Verdict.any_eq_yes_iff] at setYes
      rcases setYes with ⟨rule, member, isYes⟩
      exact .inr ⟨isMatch.1, rest, rule, ⟨item, rfl, ruleSet, setMember, mergeable, member⟩, isYes⟩

private theorem misjudges_of_accepted (accepts : (invert ^^ answer) = true)
    (items : own.matchItems itemMatch before = true)
    (complete : Completes itemMatch own ruleSetItem before)
    (certain : (ruleSetsOutcome itemMatch ruleSetItem before (own.groups itemMatch before)
      (own.deferGroups before)).deferred &&& ~~~(own.groups itemMatch before).satisfied = 0#8)
    (incomplete : ¬ Completes itemMatch own ruleSetItem after) :
    Misjudges itemMatch answer (default own ruleSetItem invert false matchResponseTag)
      before after := by
  by_cases domain : matchAnyItem itemMatch own.destinationAddressItems before = true
  · rcases complete with ⟨branch, isMerged, branchItems, holds⟩ | ⟨holds, rule, member, accepted⟩
    · have branchStable := branchStable branch isMerged
      refine absurd (.inl ⟨branch, isMerged, branchStable.matchItems ▸ branchItems, ?_⟩) incomplete
      refine united_holds_after lookup nestedLookup stable branchStable holds fun _ => ?_
      rw [united, Requirement.unite_satisfied, satisfied_destination lookup, domain, Bool.true_or]
    · exact .clearedDeferral accepts items holds domain member accepted incomplete
  have unsatisfied : (own.groups itemMatch before).satisfied.has .destinationAddress ≠ true := by
    rwa [← satisfied_destination lookup, ← own.groups_requirement] at domain
  have nothing : (ruleSetsOutcome itemMatch ruleSetItem before (own.groups itemMatch before)
      (own.deferGroups before)).deferred = 0#8 := by
    rcases deferredFor_ruleSets itemMatch own ruleSetItem lookup.freshBefore with
      isZero | ⟨isBit, _⟩
    · exact isZero
    · rw [isBit, RuleMatchState.bit_andNot_eq_zero_iff] at certain
      exact absurd certain unsatisfied
  rw [← ruleSetsOutcome_matched_iff (own.deferGroups before)] at complete
  have sure := congrArg₂ Outcome.mk complete nothing
  rcases (completes_or_member_of_sure stable lookup nestedLookup branchStable sure).resolve_left
    incomplete with ⟨holds, undeferred, rule, member, isYes⟩
  have settled : own.pending before = false := by
    refine Bool.eq_false_iff.mpr fun pending => unsatisfied ?_
    rw [← own.groups_requirement] at holds
    exact pending_covered lookup holds required_destination (by rw [undeferred, BitVec.zero_and])
      pending
  refine .acceptedMember accepts items holds settled member
    ((members rule member true).mpr ⟨isYes, Bool.eq_false_iff.mpr fun matched => ?_⟩) incomplete
  refine incomplete (.inr ⟨?_, rule, member, matched⟩)
  rw [requirement_extend lookup stable]
  exact holds.extend (by simp [settled])

theorem misjudges_default_iff_wrong :
    Misjudges itemMatch answer (default own ruleSetItem invert false matchResponseTag)
        before after ↔
      Wrong itemMatch answer (default own ruleSetItem invert false matchResponseTag)
        before after := by
  rw [default_wrong_iff lookup]
  constructor
  · intro misjudges
    cases misjudges with
    | lateAnswer refuses items incomplete late =>
      refine ⟨?_, ?_⟩
      · rintro rfl
        cases late with
        | merged isMerged _ late =>
          cases isMerged
          have asked : own.destinationAddressItems ≠ [] := by simpa using late.asked
          simp [DefaultItems.isEmpty, asked]
        | independent _ member | member _ member => simp [Independent] at member
      · rw [refuses]
        exact (matchInner_no_iff stable).mpr ⟨items, incomplete,
          (lateAnswer_iff stable lookup nestedLookup branchStable members incomplete).mp late⟩
    | clearedDeferral accepts items complete domain member isMatch incomplete =>
      refine ⟨by rintro rfl; simp [Independent] at member, ?_⟩
      rw [accepts]
      refine (matchInner_yes_iff stable).mpr
        ⟨items, .inr ⟨complete, _, member, isMatch⟩, ?_, incomplete⟩
      rcases deferredFor_ruleSets itemMatch own ruleSetItem lookup.freshBefore with
        isZero | ⟨isBit, _⟩
      · rw [isZero, BitVec.zero_and]
      · rw [isBit, RuleMatchState.bit_andNot_eq_zero_iff]
        rwa [← satisfied_destination lookup, ← own.groups_requirement] at domain
    | acceptedMember accepts items complete settled member misjudged incomplete =>
      refine ⟨by rintro rfl; simp [Independent] at member, ?_⟩
      have wrong := (members _ member true).mp misjudged
      rw [accepts]
      refine (matchInner_yes_iff stable).mpr ⟨items,
        .inr ⟨complete, _, member, (Outcome.verdict_eq_yes_iff.mp wrong.1).1⟩, ?_, incomplete⟩
      rw [ruleSetsOutcome_of_sure complete lookup.freshBefore settled member wrong.1,
        BitVec.zero_and]
  · rintro ⟨_, wrong⟩
    cases inner : (invert ^^ answer) with
    | false =>
      rw [inner] at wrong
      rcases (matchInner_no_iff stable).mp wrong with ⟨items, incomplete, complete⟩
      exact .lateAnswer inner items incomplete
        ((lateAnswer_iff stable lookup nestedLookup branchStable members incomplete).mpr complete)
    | true =>
      rw [inner] at wrong
      rcases (matchInner_yes_iff stable).mp wrong with ⟨items, complete, certain, incomplete⟩
      exact misjudges_of_accepted stable lookup nestedLookup branchStable members inner items
        complete certain incomplete

end

/-! ## Logical rules -/

private theorem logical_wrong_iff (mode : LogicalMode) (rules : List (Rule Item))
    (lookup : Lookup before after) :
    Wrong itemMatch answer (logical mode rules invert) before after ↔
      if (invert ^^ answer) = mode.decides then
        (∃ rule ∈ rules, (rule.match itemMatch before.resetRuleCache).verdict =
          .ofBool (invert ^^ answer)) ∧
        ∀ rule ∈ rules, (rule.match itemMatch after.resetRuleCache).matched = !(invert ^^ answer)
      else
        (∀ rule ∈ rules, (rule.match itemMatch before.resetRuleCache).verdict =
          .ofBool (invert ^^ answer)) ∧
        ∃ rule ∈ rules,
          (rule.match itemMatch after.resetRuleCache).matched = !(invert ^^ answer) := by
  unfold Wrong
  rw [match_logical_matched itemMatch lookup.freshAfter lookup.ignoreAfter, xor_eq_not_iff]
  cases mode <;> rw [«match», invertLogical_verdict _ lookup.freshBefore,
    Verdict.invert_eq_ofBool_iff]
  case and =>
    rw [matchAnd_verdict]
    cases (invert ^^ answer)
    · simp [LogicalMode.decides, Verdict.ofBool, Verdict.all_eq_no_iff]
    · simp [LogicalMode.decides, Verdict.ofBool, Verdict.all_eq_yes_iff]
  case or =>
    rw [matchOr_eq_alternatives, alternatives_verdict, List.map_map]
    cases (invert ^^ answer)
    · simp [LogicalMode.decides, Verdict.ofBool, Verdict.any_eq_no_iff]
    · simp [LogicalMode.decides, Verdict.ofBool, Verdict.any_eq_yes_iff]

theorem misjudges_logical_iff_wrong {mode : LogicalMode} {rules : List (Rule Item)}
    (lookup : Lookup before after)
    (children : ∀ rule ∈ rules, ∀ answer,
      Misjudges itemMatch answer rule before.resetRuleCache after.resetRuleCache ↔
        Wrong itemMatch answer rule before.resetRuleCache after.resetRuleCache) :
    Misjudges itemMatch answer (logical mode rules invert) before after ↔
      Wrong itemMatch answer (logical mode rules invert) before after := by
  rw [logical_wrong_iff mode rules lookup]
  constructor
  · intro misjudges
    cases misjudges with
    | decidingChild decides member misjudged alone =>
      rw [if_pos decides]
      exact ⟨⟨_, member, ((children _ member _).mp misjudged).1⟩, alone⟩
    | agreeingChild agrees member misjudged agreed =>
      rw [if_neg agrees]
      exact ⟨agreed, _, member, ((children _ member _).mp misjudged).2⟩
  · split
    · next decides =>
      rintro ⟨⟨rule, member, sure⟩, alone⟩
      exact .decidingChild decides member
        ((children rule member _).mpr ⟨sure, alone rule member⟩) alone
    · next agrees =>
      rintro ⟨agreed, rule, member, isOther⟩
      exact .agreeingChild agrees member
        ((children rule member _).mpr ⟨agreed rule member, isOther⟩) agreed

end Rule

end SingBox.Route
