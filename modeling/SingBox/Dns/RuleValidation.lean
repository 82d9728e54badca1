import SingBox.Dns.RuleOptions
import SingBox.Foundation.Codec

/-! # Checks of DNS rules

`NewDNSRule` refuses options that do not make a rule. In the non-legacy mode
`validateLegacyDNSModeDisabledRules` checks the list as a whole: which rules
may look at a response, and that every response they look at is evaluated
before. Error texts are those of the source.
-/

namespace SingBox.Dns

open Route List RuleOptions

/-- The text of `E.Cause`. -/
def cause (context err : String) : String := context ++ ": " ++ err

/-- The text of a deprecation note, with its place in the migration guide. -/
def messageWithLink (description migration : String) : String :=
  description ++ " is deprecated in sing-box 1.14.0 and will be removed in sing-box 1.16.0, " ++
    "checkout documentation for migration: https://sing-box.sagernet.org/migration/#" ++ migration

def optionRuleSetIPCIDRAcceptEmpty : String :=
  messageWithLink "Legacy `rule_set_ip_cidr_accept_empty` DNS rule item"
    "migrate-address-filter-fields-to-response-matching"

def optionLegacyDNSAddressFilter : String :=
  messageWithLink "Legacy Address Filter Fields in DNS rules"
    "migrate-address-filter-fields-to-response-matching"

/-! ## Options that make a rule -/

def validateRouteOptions (options : RouteOptions) : Except String Unit :=
  if options.removeClientSubnet && options.clientSubnet.isValid then
    .error "`client_subnet` and `remove_client_subnet` are mutually exclusive"
  else .ok ()

def validateRaceAction : Option RuleAction → Except String Unit
  | some (.route _ true _) => .error "`race` and `speculative` cannot be combined on the same rule"
  | some (.evaluate _ _ _ _) | some (.routeOptions _) => .error "`race` requires a final action"
  | _ => .ok ()

def validateDNSRuleAction (action : Option RuleAction) (race : Bool) : Except String Unit := do
  match action with
  | some (.reject ⟨_, .reply, _⟩) => .error "reject method `reply` is not supported for DNS rules"
  | some (.route _ _ options) | some (.evaluate _ _ _ options) | some (.routeOptions options) =>
    validateRouteOptions options
  | _ => .ok ()
  if race then validateRaceAction action else .ok ()

/-- The server of a route or evaluate action; an unset action is a route. -/
def actionServer : Option RuleAction → Option String
  | none => some ""
  | some (.route server _ _) => some server
  | some (.evaluate server _ _ _) => some server
  | _ => none

def checkActionPlace (checkServer : Bool) (action : Option RuleAction) : Except String Unit :=
  match action with
  | some (.evaluate _ _ _ _) =>
    if checkServer then .ok ()
    else .error "evaluate is only allowed on top-level DNS rules"
  | _ => .ok ()

def checkServerField (checkServer : Bool) (action : Option RuleAction) : Except String Unit :=
  if checkServer && actionServer action == some "" then .error "missing server field"
  else .ok ()

def refuseAcceptEmpty (options : DefaultRuleOptions) : Except String Unit :=
  if options.ruleSetIPCIDRAcceptEmpty then .error optionRuleSetIPCIDRAcceptEmpty else .ok ()

/-- The errors of `NewDefaultDNSRule` in the non-legacy mode. -/
def checkDefaultOptions (options : DefaultRuleOptions) : Except String Unit :=
  if 0 < options.ipVersion ∧ options.ipVersion ≠ 4 ∧ options.ipVersion ≠ 6 then
    .error ("invalid ip version: " ++ toString options.ipVersion)
  else refuseAcceptEmpty options

namespace RuleOptions

mutual
def isValid : RuleOptions → Bool
  | .default options => options.isValid
  | .logical _ rules _ _ _ => !rules.isEmpty && areValid rules

def areValid : List RuleOptions → Bool
  | [] => true
  | rule :: rules => rule.isValid && areValid rules
end

mutual
/-- `validateNoNestedDNSRuleActions` of a nested rule. -/
def refuseActions : RuleOptions → Except String Unit
  | .default options =>
    if options.action.isSome || options.race then
      .error "DNS rule action is not supported in nested rules"
    else .ok ()
  | .logical _ rules _ action race =>
    if action.isSome || race then .error "DNS rule action is not supported in nested rules"
    else refuseActionsIn 0 rules

def refuseActionsIn : Nat → List RuleOptions → Except String Unit
  | _, [] => .ok ()
  | index, rule :: rules => do
    rule.refuseActions.mapError (cause s!"sub rule[{index}]")
    refuseActionsIn (index + 1) rules
end

mutual
/-- The errors of `NewDNSRule`. -/
def check (checkServer : Bool) : RuleOptions → Except String Unit
  | .default options => do
    if options.isValid then .ok () else .error "missing conditions"
    checkActionPlace checkServer options.action
    validateDNSRuleAction options.action options.race
    if options.race && !options.matchResponseEnabled then
      .error "`race` requires `match_response`"
    else .ok ()
    checkServerField checkServer options.action
    checkDefaultOptions options
  | .logical mode rules invert action race => do
    if (logical mode rules invert action race).isValid then .ok ()
    else .error "missing conditions"
    checkActionPlace checkServer action
    validateDNSRuleAction action race
    checkServerField checkServer action
    checkIn 0 rules

/-- The children of a logical rule, built one after another. -/
def checkIn : Nat → List RuleOptions → Except String Unit
  | _, [] => .ok ()
  | index, rule :: rules => do
    rule.refuseActions.mapError (cause s!"sub rule[{index}]")
    (rule.check false).mapError (cause s!"sub rule[{index}]")
    checkIn (index + 1) rules
end

end RuleOptions

/-- `NewDNSRule`. The last check of a logical rule needs its built children. -/
def newDNSRule (lib : SingLib) (sets : RuleSets) (options : RuleOptions) :
    Except String DNSRule := do
  options.check true
  let built := options.build lib sets
  match options with
  | .logical _ _ _ _ true =>
    if matchResponseTags built.rule = [] ∧ matchResponseAnonymous built.rule = false then
      .error "`race` requires `match_response` in sub-rules"
    else .ok built
  | _ => .ok built

variable {lib : SingLib} {options : RuleOptions} {rule : DNSRule} {sets : RuleSets} {index : Nat}
  {rules : List DNSRule}

theorem newDNSRule_eq_build (built : newDNSRule lib sets options = .ok rule) :
    rule = options.build lib sets := by
  rcases bind_eq_ok built with ⟨_, _, built⟩
  dsimp only at built
  split at built
  · split_ifs at built
    cases built
    rfl
  · cases built
    rfl

private theorem matchResponseEnabled_of_checked {checkServer : Bool} {options : DefaultRuleOptions}
    (checked : (default options).check checkServer = .ok ())
    (isRace : options.race = true) : options.matchResponseEnabled = true := by
  rw [check] at checked
  split at checked
  · rcases bind_eq_ok checked with ⟨_, _, checked⟩
    rcases bind_eq_ok checked with ⟨_, _, checked⟩
    rcases bind_eq_ok checked with ⟨_, _, checked⟩
    split at checked
    · cases checked
    · next isBound => simpa [isRace] using isBound
  · cases checked

theorem bound_of_race (built : newDNSRule lib sets options = .ok rule) (isRace : rule.race = true) :
    matchResponseTags rule.rule ≠ [] ∨ matchResponseAnonymous rule.rule = true := by
  have isBuild := newDNSRule_eq_build built
  rw [newDNSRule] at built
  rcases bind_eq_ok built with ⟨_, checked, built⟩
  cases options with
  | default options =>
    subst isBuild
    have isEnabled := matchResponseEnabled_of_checked checked isRace
    change (if options.responseTag = "" then [] else [options.responseTag]) ≠ [] ∨
      (options.matchResponseEnabled && options.responseTag == "") = true
    by_cases isTagged : options.responseTag = ""
    · simp [isTagged, isEnabled]
    · simp [isTagged]
  | logical _ _ _ _ race =>
    have isRace : race = true := by
      rw [isBuild] at isRace
      exact isRace
    subst isRace
    dsimp only at built
    split_ifs at built with isBound
    rw [isBuild]
    by_contra notBound
    rw [not_or, not_not, Bool.not_eq_true] at notBound
    exact isBound notBound

/-- The loop of `buildRules` that makes the rules. -/
def buildRules (lib : SingLib) (sets : RuleSets) :
    Nat → List RuleOptions → Except String (List DNSRule)
  | _, [] => .ok []
  | index, options :: rest => do
    let rule ← (newDNSRule lib sets options).mapError (cause s!"parse dns rule[{index}]")
    let rules ← buildRules lib sets (index + 1) rest
    .ok (rule :: rules)

theorem buildRules_eq_map {options : List RuleOptions}
    (built : buildRules lib sets index options = .ok rules) :
    rules = options.map (build lib sets) := by
  induction options generalizing index rules with
  | nil =>
    cases built
    rfl
  | cons _ _ induction =>
    rcases bind_eq_ok built with ⟨_, isRule, built⟩
    rcases bind_eq_ok built with ⟨_, isLater, ⟨⟩⟩
    rw [newDNSRule_eq_build (mapError_eq_ok isRule), induction isLater, map_cons]

theorem newDNSRule_of_mem {options : List RuleOptions}
    (built : buildRules lib sets index options = .ok rules) (member : rule ∈ rules) :
    ∃ option, newDNSRule lib sets option = .ok rule := by
  induction options generalizing index rules with
  | nil =>
    cases built
    cases member
  | cons option _ induction =>
    rcases bind_eq_ok built with ⟨_, isFirst, built⟩
    rcases bind_eq_ok built with ⟨_, isLater, ⟨⟩⟩
    rcases mem_cons.mp member with rfl | member
    · exact ⟨option, mapError_eq_ok isFirst⟩
    · exact induction isLater member

/-! ## Responses a list of rules uses -/

/-- The fields of `adapter.RuleSetMetadata` that DNS rules look at. -/
structure RuleSetMetadata where
  containsDNSQueryTypeRule : Bool := false
  containsIPCIDRRule : Bool := false
  containsNonIPCIDRRule : Bool := false
  deriving DecidableEq

/-- `lookupDNSRuleSetMetadata`: the overrides come before the loaded sets. -/
def lookupDNSRuleSetMetadata (overrides loaded : String → Option RuleSetMetadata)
    (tag : String) : Except String RuleSetMetadata :=
  match overrides tag, loaded tag with
  | some metadata, _ => .ok metadata
  | none, some metadata => .ok metadata
  | none, none => .error ("rule-set not found: " ++ tag)

structure ResponseUse where
  needsAnonymous : Bool := false
  referencedTags : List String := []
  deriving DecidableEq

def hasResponseMatchFields (options : DefaultRuleOptions) : Bool :=
  options.responseRcode.isSome || !options.responseAnswer.isEmpty ||
    !options.responseNs.isEmpty || !options.responseExtra.isEmpty

def hasAddressFields (options : DefaultRuleOptions) : Bool :=
  options.ipCIDR.isSome || options.ipIsPrivate || options.ipAcceptAny

section

variable (lookup : String → Except String RuleSetMetadata)

/-- Rule-sets of addresses only say nothing before there is a response. -/
def refuseAddressSets : List String → Except String Unit
  | [] => .ok ()
  | tag :: tags => do
    let metadata ← lookup tag
    if metadata.containsIPCIDRRule && !metadata.containsNonIPCIDRRule then
      .error optionLegacyDNSAddressFilter
    else refuseAddressSets tags

def refuseUnboundSets (options : DefaultRuleOptions) : Except String Unit :=
  if options.matchResponseEnabled then .ok () else refuseAddressSets lookup options.ruleSet

def responseUse (options : DefaultRuleOptions) : ResponseUse where
  needsAnonymous := options.matchResponseEnabled && options.responseTag == "" ||
    options.action == some .respond && options.responseTag == ""
  referencedTags :=
    if options.matchResponseEnabled && options.responseTag != "" then [options.responseTag]
    else []

def requireMatchResponse (options : DefaultRuleOptions) : Except String Unit :=
  if (hasResponseMatchFields options || hasAddressFields options) &&
      !options.matchResponseEnabled then
    .error ("Response Match Fields (ip_cidr, ip_is_private, ip_accept_any, response_rcode, " ++
      "response_answer, response_ns, response_extra) require match_response to be enabled")
  else .ok ()

def validateLegacyDNSModeDisabledDefaultRule (options : DefaultRuleOptions) :
    Except String ResponseUse := do
  requireMatchResponse options
  refuseUnboundSets lookup options
  refuseAcceptEmpty options
  .ok (responseUse options)

def respondUse (action : Option RuleAction) (use : ResponseUse) : Except String ResponseUse :=
  if action = some .respond then
    if use.referencedTags = [] then .ok { use with needsAnonymous := true }
    else .error ("respond on a logical rule cannot bind a `match_response` tag from its sub " ++
      "rules; use a non-logical rule")
  else .ok use

mutual
def validateLegacyDNSModeDisabledRuleTree : RuleOptions → Except String ResponseUse
  | .default options => validateLegacyDNSModeDisabledDefaultRule lookup options
  | .logical _ rules _ action _ => do
    let use ← validateSubRules 0 rules
    respondUse action use

def validateSubRules : Nat → List RuleOptions → Except String ResponseUse
  | _, [] => .ok {}
  | index, rule :: rules => do
    let use ← (validateLegacyDNSModeDisabledRuleTree rule).mapError
      (cause s!"sub rule[{index}]")
    let rest ← validateSubRules (index + 1) rules
    .ok ⟨use.needsAnonymous || rest.needsAnonymous, use.referencedTags ++ rest.referencedTags⟩
end

structure ValidationState where
  warnings : List String := []
  seenAnonymousEvaluate : Bool := false
  seenRace : Bool := false
  definedTags : List String := []
  referencedTags : List String := []
  lastAnonymousEvaluate : Option Nat := none
  anonymousReadSinceLast : Bool := false

namespace ValidationState

def noteSpeculative (index : Nat) (rule : RuleOptions) (state : ValidationState) :
    ValidationState :=
  let state :=
    if rule.speculative && !state.seenRace then
      { state with
        warnings := state.warnings ++
          [s!"dns rule[{index}]: `speculative` has no effect without a preceding `race` rule"] }
    else state
  { state with seenRace := state.seenRace || rule.race }

def useAnonymous (index : Nat) (use : ResponseUse) (state : ValidationState) :
    Except String ValidationState :=
  if use.needsAnonymous then
    if state.seenAnonymousEvaluate then .ok { state with anonymousReadSinceLast := true }
    else if state.definedTags = [] then
      .error s!"dns rule[{index}]: response-based matching requires a preceding evaluate action"
    else
      .error (s!"dns rule[{index}]: response-based matching requires a preceding evaluate " ++
        "action without `tag`; use `match_response` with an evaluate tag to reference a tagged " ++
        "result")
  else .ok state

def useTags (index : Nat) : List String → ValidationState → Except String ValidationState
  | [], state => .ok state
  | tag :: tags, state =>
    if tag ∈ state.definedTags then
      useTags index tags { state with referencedTags := state.referencedTags ++ [tag] }
    else .error (s!"dns rule[{index}]: undefined evaluate tag: " ++ tag)

def defineAnonymous (index : Nat) (state : ValidationState) : ValidationState where
  warnings := state.warnings ++
    match state.lastAnonymousEvaluate, state.anonymousReadSinceLast with
    | some last, false =>
      [s!"dns rule[{last}]: evaluated response is overwritten by dns rule[{index}] " ++
        "before any use"]
    | _, _ => []
  seenAnonymousEvaluate := true
  seenRace := state.seenRace
  definedTags := state.definedTags
  referencedTags := state.referencedTags
  lastAnonymousEvaluate := some index
  anonymousReadSinceLast := false

def define (index : Nat) (rule : RuleOptions) (state : ValidationState) :
    Except String ValidationState :=
  match rule.evaluateTag with
  | none => .ok state
  | some tag =>
    if tag = "" then .ok (state.defineAnonymous index)
    else if tag ∈ state.definedTags then
      .error (s!"dns rule[{index}]: duplicate evaluate tag: " ++ tag)
    else .ok { state with definedTags := state.definedTags ++ [tag] }

def visit (index : Nat) (rule : RuleOptions) (state : ValidationState) :
    Except String ValidationState := do
  let use ← (validateLegacyDNSModeDisabledRuleTree lookup rule).mapError
    (cause s!"validate dns rule[{index}]")
  let state := state.noteSpeculative index rule
  let state ← state.useAnonymous index use
  let state ← state.useTags index use.referencedTags
  state.define index rule

def visitAll : Nat → List RuleOptions → ValidationState → Except String ValidationState
  | _, [], state => .ok state
  | index, rule :: rules, state => do
    let state ← state.visit lookup index rule
    visitAll (index + 1) rules state

end ValidationState

/-- `validateLegacyDNSModeDisabledRules`, with the warnings it returns. -/
def validateLegacyDNSModeDisabledRules (rules : List RuleOptions) :
    Except String (List String) := do
  let state ← ValidationState.visitAll lookup 0 rules {}
  .ok (state.warnings ++
    (state.definedTags.filter fun tag => tag ∉ state.referencedTags).map
      ("evaluate tag is never referenced: " ++ ·))

/-! ## What acceptance says -/

variable {lookup} {options : DefaultRuleOptions} {use : ResponseUse} {rules : List RuleOptions}

section

variable (accepted : validateLegacyDNSModeDisabledDefaultRule lookup options = .ok use)
include accepted

theorem noResponseFields_of_accepted (disabled : options.matchResponseEnabled = false) :
    hasResponseMatchFields options = false ∧ hasAddressFields options = false := by
  rcases bind_eq_ok accepted with ⟨_, checked, _⟩
  rw [requireMatchResponse, disabled] at checked
  split_ifs at checked with allowed
  simpa using allowed

theorem responseUse_of_accepted :
    use = responseUse options := by
  rcases bind_eq_ok accepted with ⟨_, _, accepted⟩
  rcases bind_eq_ok accepted with ⟨_, _, accepted⟩
  rcases bind_eq_ok accepted with ⟨_, _, ⟨⟩⟩
  rfl

end

theorem subRule_accepted (accepted : validateSubRules lookup index rules = .ok use) :
    ∀ rule ∈ rules, ∃ subUse,
      validateLegacyDNSModeDisabledRuleTree lookup rule = .ok subUse ∧
        ∀ tag ∈ subUse.referencedTags, tag ∈ use.referencedTags := by
  induction rules generalizing index use with
  | nil => nofun
  | cons _ _ induction =>
    rcases bind_eq_ok accepted with ⟨headUse, headAccepted, accepted⟩
    rcases bind_eq_ok accepted with ⟨_, restAccepted, ⟨⟩⟩
    intro rule member
    rcases mem_cons.mp member with equal | later
    · subst equal
      exact ⟨headUse, mapError_eq_ok headAccepted, fun tag used => mem_append_left _ used⟩
    · rcases induction restAccepted rule later with ⟨subUse, subAccepted, within⟩
      exact ⟨subUse, subAccepted, fun tag used => mem_append_right _ (within tag used)⟩

theorem logical_accepted {mode : LogicalMode} {invert race : Bool}
    {action : Option RuleAction}
    (accepted : validateLegacyDNSModeDisabledRuleTree lookup
      (.logical mode rules invert action race) = .ok use) :
    ∃ subUse, validateSubRules lookup 0 rules = .ok subUse ∧
      use.referencedTags = subUse.referencedTags ∧
      (action = some .respond → use.referencedTags = []) := by
  rcases bind_eq_ok accepted with ⟨subUse, subAccepted, responds⟩
  refine ⟨subUse, subAccepted, ?_⟩
  unfold respondUse at responds
  split at responds
  · split at responds <;> cases responds
    next noTags =>
    exact ⟨rfl, fun _ => noTags⟩
  · next notRespond =>
    cases responds
    exact ⟨rfl, fun isRespond => absurd isRespond notRespond⟩

/-- The tag of a rule that evaluates a named response. -/
def RuleOptions.namedTag (rule : RuleOptions) : Option String :=
  rule.evaluateTag.filter (· ≠ "")

namespace ValidationState

variable {state next : ValidationState} {index : Nat} {rule : RuleOptions}

private theorem useAnonymous_definedTags (accepted : state.useAnonymous index use = .ok next) :
    next.definedTags = state.definedTags := by
  unfold useAnonymous at accepted
  split at accepted
  · split at accepted
    · cases accepted
      rfl
    · split at accepted <;> cases accepted
  · cases accepted
    rfl

private theorem useTags_definedTags {tags : List String}
    (accepted : state.useTags index tags = .ok next) : next.definedTags = state.definedTags := by
  induction tags generalizing state with
  | nil =>
    cases accepted
    rfl
  | cons _ _ induction =>
    unfold useTags at accepted
    split at accepted
    · have same := induction accepted
      exact same
    · cases accepted

private theorem define_definedTags (accepted : state.define index rule = .ok next) :
    next.definedTags = state.definedTags ++ rule.namedTag.toList ∧
      ∀ tag ∈ rule.namedTag, tag ∉ state.definedTags := by
  unfold define at accepted
  unfold namedTag
  cases isTag : rule.evaluateTag with
  | none =>
    rw [isTag] at accepted
    cases accepted
    simp
  | some =>
    rw [isTag] at accepted
    dsimp only at accepted
    split at accepted
    · next isEmpty =>
      cases accepted
      simp [defineAnonymous, isEmpty]
    · next named =>
      split_ifs at accepted with fresh
      cases accepted
      simp [Option.filter, named, fresh]

private theorem visit_accepted (accepted : state.visit lookup index rule = .ok next) :
    (∃ use, validateLegacyDNSModeDisabledRuleTree lookup rule = .ok use) ∧
      next.definedTags = state.definedTags ++ rule.namedTag.toList ∧
      ∀ tag ∈ rule.namedTag, tag ∉ state.definedTags := by
  rcases bind_eq_ok accepted with ⟨use, ruleAccepted, accepted⟩
  rcases bind_eq_ok accepted with ⟨_, anonymousAccepted, accepted⟩
  rcases bind_eq_ok accepted with ⟨afterTags, tagsAccepted, accepted⟩
  have same : afterTags.definedTags = state.definedTags := by
    rw [useTags_definedTags tagsAccepted, useAnonymous_definedTags anonymousAccepted]
    unfold noteSpeculative
    split <;> rfl
  have defined := define_definedTags accepted
  rw [same] at defined
  exact ⟨⟨use, mapError_eq_ok ruleAccepted⟩, defined⟩

private theorem visitAll_accepted {state final : ValidationState}
    (nodup : state.definedTags.Nodup) (accepted : visitAll lookup index rules state = .ok final) :
    (∀ rule ∈ rules, ∃ use, validateLegacyDNSModeDisabledRuleTree lookup rule = .ok use) ∧
      (state.definedTags ++ rules.filterMap namedTag).Nodup := by
  induction rules generalizing index state with
  | nil =>
    refine ⟨nofun, ?_⟩
    simpa using nodup
  | cons head _ induction =>
    rcases bind_eq_ok accepted with ⟨next, visited, rest⟩
    rcases visit_accepted visited with ⟨headAccepted, defined, fresh⟩
    have nextNodup : next.definedTags.Nodup := by
      rw [defined]
      cases isTag : head.namedTag with
      | none => simpa using nodup
      | some tag =>
        have isFresh := fresh tag isTag
        refine List.Nodup.append nodup (nodup_singleton tag) ?_
        simpa using isFresh
    rcases induction nextNodup rest with ⟨restAccepted, restNodup⟩
    refine ⟨?_, ?_⟩
    · intro rule member
      rcases mem_cons.mp member with equal | later
      · subst equal
        exact headAccepted
      · exact restAccepted rule later
    · rw [defined, append_assoc] at restNodup
      cases isTag : head.namedTag with
      | none | some tag =>
        rw [isTag] at restNodup
        simpa [isTag] using restNodup

end ValidationState

/-- What an accepted list guarantees the walk over it. -/
structure AcceptedRules (lookup : String → Except String RuleSetMetadata)
    (rules : List RuleOptions) : Prop where
  tree : ∀ rule ∈ rules, ∃ use, validateLegacyDNSModeDisabledRuleTree lookup rule = .ok use
  distinct : rules.Pairwise fun earlier later =>
    ∀ tag, earlier.namedTag = some tag → later.namedTag ≠ some tag

theorem acceptedRules_of_validate {warnings : List String}
    (validated : validateLegacyDNSModeDisabledRules lookup rules = .ok warnings) :
    AcceptedRules lookup rules := by
  rcases bind_eq_ok validated with ⟨_, visited, _⟩
  rcases ValidationState.visitAll_accepted nodup_nil visited with ⟨tree, nodup⟩
  refine ⟨tree, ?_⟩
  rw [nil_append, List.Nodup, pairwise_filterMap] at nodup
  refine nodup.imp ?_
  intro _ _ different tag isEarlier isLater
  exact different tag isEarlier tag isLater rfl

end

end SingBox.Dns
