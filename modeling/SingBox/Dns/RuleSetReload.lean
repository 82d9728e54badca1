import SingBox.Dns.RuleMode
import SingBox.Foundation.Run
import SingBox.Srs.Options

/-! # Reloads of rule-sets

A rule-set is reloaded in two steps: the router checks the metadata of the new
rules against the metadata of the other sets, and later the rules and their
metadata are committed. The router starts in two steps as well: it resolves the
mode of its rules, and then takes the lock and starts in that mode. The steps of
reloads and of the router interleave.
-/

namespace SingBox.Dns

open Srs Function RuleOptions List Bool

/-! ## Metadata of a rule-set -/

section

variable {lib : Library}

mutual
/-- `HasHeadlessRule` of a rule. -/
def hasHeadlessRule (condition : DefaultHeadlessRule lib → Bool) : HeadlessRule lib → Bool
  | .default options => condition options
  | .logical _ rules _ _ => haveHeadlessRule condition rules

def haveHeadlessRule (condition : DefaultHeadlessRule lib → Bool) :
    List (HeadlessRule lib) → Bool
  | [] => false
  | rule :: rules => hasHeadlessRule condition rule || haveHeadlessRule condition rules
end

def buildRuleSetMetadata (rules : List (HeadlessRule lib)) : RuleSetMetadata where
  containsDNSQueryTypeRule := haveHeadlessRule (fun rule => rule.queryType.isSet) rules
  containsIPCIDRRule := haveHeadlessRule (fun rule => rule.ipCIDR.isSet || rule.ipSet.isSome) rules
  containsNonIPCIDRRule := haveHeadlessRule (fun rule => !rule.isIPOnly) rules

end

/-! ## The router -/

abbrev Loaded := String → Option RuleSetMetadata

def loadedLookup (loaded : Loaded) : String → Except String RuleSetMetadata :=
  lookupDNSRuleSetMetadata (fun _ => none) loaded

def overriddenLookup (loaded : Loaded) (tag : String) (metadata : RuleSetMetadata) :
    String → Except String RuleSetMetadata :=
  lookupDNSRuleSetMetadata (fun other => if other = tag then some metadata else none) loaded

theorem overriddenLookup_eq (loaded : Loaded) (tag : String) (metadata : RuleSetMetadata) :
    overriddenLookup loaded tag metadata =
      loadedLookup (update loaded tag (some metadata)) := by
  funext other
  rw [overriddenLookup, loadedLookup, lookupDNSRuleSetMetadata, lookupDNSRuleSetMetadata]
  by_cases same : other = tag
  · subst same
    rw [if_pos rfl, update_self]
  · rw [if_neg same, update_of_ne same]

/-- A reload that was checked, with what the check saw. -/
structure Reload where
  tag : String
  metadata : RuleSetMetadata
  seen : Loaded
  mode : Option Bool
  closing : Bool

/-- The router and the rule-sets. `mode` is set by the start and says whether it was
in the legacy mode; `resolved` is the mode that was resolved for the start, with
the metadata it was resolved from. -/
structure ReloadState where
  committed : Loaded
  resolved : Option (Bool × Loaded) := none
  mode : Option Bool := none
  closing : Bool := false
  pending : List Reload := []

variable (rules : List RuleOptions)

def validateRuleSetMetadataUpdate (state : ReloadState) (tag : String)
    (metadata : RuleSetMetadata) : Except String Unit :=
  let lookup := overriddenLookup state.committed tag metadata
  if rules.isEmpty then .ok ()
  else if state.closing then .ok ()
  else
    match state.mode with
    | none => do
      let (candidate, _) ← resolveLegacyDNSMode lookup rules
      if !candidate then do
        let _ ← validateLegacyDNSModeDisabledRules lookup rules
        .ok ()
      else .ok ()
    | some true => do
      let (candidate, flags) ← resolveLegacyDNSMode lookup rules
      if !candidate && flags.disabled then do
        let _ ← validateLegacyDNSModeDisabledRules lookup rules
        .error optionLegacyDNSAddressFilter
      else .ok ()
    | some false => do
      let (candidate, _) ← resolveLegacyDNSMode lookup rules
      if candidate then .error optionLegacyDNSAddressFilter
      else do
        let _ ← validateLegacyDNSModeDisabledRules lookup rules
        .ok ()

/-- The part of `buildRules` that depends on the rule-sets. -/
def buildMode (loaded : Loaded) : Except String Bool := do
  let (legacyDNSMode, _) ← resolveLegacyDNSMode (loadedLookup loaded) rules
  if !legacyDNSMode then do
    let _ ← validateLegacyDNSModeDisabledRules (loadedLookup loaded) rules
    .ok legacyDNSMode
  else .ok legacyDNSMode

inductive ReloadAction (lib : Library)
  | validate (tag : String) (newRules : List (HeadlessRule lib))
  | commit (index : Nat)
  | resolve
  | start
  | close

variable {lib : Library}

def ReloadState.next (state : ReloadState) : ReloadAction lib → Option ReloadState
  | .validate tag newRules =>
    let metadata := buildRuleSetMetadata newRules
    match validateRuleSetMetadataUpdate rules state tag metadata with
    | .error _ => some state
    | .ok () =>
      let reload := ⟨tag, metadata, state.committed, state.mode, state.closing⟩
      some { state with pending := state.pending ++ [reload] }
  | .commit index => do
    let reload ← state.pending[index]?
    some { state with
      committed := update state.committed reload.tag (some reload.metadata)
      pending := state.pending.eraseIdx index }
  | .resolve =>
    match state.resolved, buildMode rules state.committed with
    | none, .ok legacyDNSMode =>
      some { state with resolved := some (legacyDNSMode, state.committed) }
    | _, _ => some state
  | .start => do
    let (legacyDNSMode, _) ← state.resolved
    if state.closing then some state else some { state with mode := some legacyDNSMode }
  | .close => some { state with closing := true }

/-! ## What the mode demands of the metadata -/

/-- The committed metadata never lead to the legacy mode, and the rules are accepted
outside of it. -/
def NonLegacy (loaded : Loaded) : Prop :=
  (∀ flags, resolveLegacyDNSMode (loadedLookup loaded) rules ≠ .ok (true, flags)) ∧
    ∃ warnings, validateLegacyDNSModeDisabledRules (loadedLookup loaded) rules = .ok warnings

def NotDisabled (loaded : Loaded) : Prop :=
  ∀ flags, dnsRuleModeRequirements (loadedLookup loaded) rules = .ok flags →
    flags.disabled = false

/-- The mode in which the router was started is consistent with the rule-sets. -/
def ReloadState.Consistent (state : ReloadState) : Prop :=
  (state.mode = some false → NonLegacy rules state.committed) ∧
    (state.mode = some true → NotDisabled rules state.committed)

/-! ## Steps without a race -/

/-- The metadata agree on every rule-set that the rules refer to, but for one. -/
def agreeExcept (tag : String) (loaded seen : Loaded) : Bool :=
  (ruleSetTagsOf rules).all fun other => other == tag || loaded other == seen other

/-- The commit of a reload that was checked in this mode while the router was open.
Outside of the legacy mode no other rule-set has changed since the check. -/
def ReloadState.mayCommit (state : ReloadState) (reload : Reload) : Bool :=
  state.mode.isNone ||
    reload.mode == state.mode && !reload.closing &&
      (state.mode == some true || agreeExcept rules reload.tag state.committed reload.seen)

/-- A start is taken in the mode of the metadata that are committed. -/
def ReloadState.allows (state : ReloadState) : ReloadAction lib → Bool
  | .commit index => state.pending[index]?.all (state.mayCommit rules)
  | .start => state.resolved.all fun resolved =>
    (ruleSetTagsOf rules).all fun tag => state.committed tag == resolved.2 tag
  | _ => true

/-- The steps in which no check is overtaken. -/
def ReloadState.orderly (state : ReloadState) (action : ReloadAction lib) : Option ReloadState :=
  if state.allows rules action then state.next rules action else none

/-! ## What is kept -/

/-- What the mode says of the metadata, one rule-set at a time in the legacy mode. -/
def Fits (legacyDNSMode : Bool) (loaded : Loaded) : Prop :=
  if legacyDNSMode then
    disablesIn rules = false ∧
      ∀ tag ∈ ruleSetTagsOf rules, isQueryTyped (loadedLookup loaded) tag = false
  else NonLegacy rules loaded

variable {rules} {other seen : Loaded} {metadata : RuleSetMetadata} {tag : String}
  {flags : ModeFlags} {legacyDNSMode : Bool} {loaded : Loaded}

theorem Fits.congr (fits : Fits rules legacyDNSMode loaded)
    (same : ∀ tag ∈ ruleSetTagsOf rules, loaded tag = other tag) :
    Fits rules legacyDNSMode other := by
  have agree : AgreeOn (ruleSetTagsOf rules) (loadedLookup loaded) (loadedLookup other) := by
    intro tag member
    rw [loadedLookup, loadedLookup, lookupDNSRuleSetMetadata, lookupDNSRuleSetMetadata,
      same tag member]
  cases legacyDNSMode with
  | true =>
    refine ⟨fits.1, fun tag member => ?_⟩
    have isPlain := fits.2 tag member
    rw [isQueryTyped, agree tag member] at isPlain
    exact isPlain
  | false =>
    have fits : NonLegacy rules loaded := fits
    rw [NonLegacy, resolveLegacyDNSMode_congr agree,
      validateLegacyDNSModeDisabledRules_congr agree] at fits
    exact fits

theorem Fits.update (fits : Fits rules true loaded)
    (checked : Fits rules true (update seen tag (some metadata))) :
    Fits rules true (update loaded tag (some metadata)) := by
  refine ⟨fits.1, fun other member => ?_⟩
  have isOld := fits.2 other member
  have isNew := checked.2 other member
  rw [isQueryTyped, loadedLookup, lookupDNSRuleSetMetadata] at isOld isNew ⊢
  by_cases same : other = tag
  · subst same
    rw [update_self] at isNew ⊢
    exact isNew
  · rw [update_of_ne same]
    exact isOld

/-- A reload keeps the mode in the legacy mode, and otherwise if no other set has
changed since its check. -/
theorem Fits.commit (fits : Fits rules legacyDNSMode loaded)
    (checked : Fits rules legacyDNSMode (Function.update seen tag (some metadata)))
    (isQuiet : legacyDNSMode = true ∨ agreeExcept rules tag loaded seen = true) :
    Fits rules legacyDNSMode (Function.update loaded tag (some metadata)) := by
  rcases isQuiet with rfl | agree
  · exact fits.update checked
  rw [agreeExcept, all_eq_true] at agree
  apply checked.congr
  intro other member
  by_cases same : other = tag
  · subst same
    rw [update_self, update_self]
  have isSame := agree other member
  rw [or_eq_true, beq_iff_eq, beq_iff_eq, or_iff_right same] at isSame
  rw [update_of_ne same, update_of_ne same, isSame]

variable {loaded : Loaded} {state : ReloadState}

theorem fits_of_not_disabled
    (isOk : dnsRuleModeRequirements (loadedLookup loaded) rules = .ok flags)
    (notDisabled : flags.disabled = false) : Fits rules true loaded := by
  rw [disabled_of_requirements isOk, or_eq_false_iff] at notDisabled
  refine ⟨notDisabled.1, ?_⟩
  simpa using notDisabled.2

theorem notDisabled_of_fits (fits : Fits rules true loaded) : NotDisabled rules loaded := by
  intro _ isOk
  rw [disabled_of_requirements isOk, fits.1, Bool.false_or, any_eq_false]
  intro tag member isTyped
  rw [fits.2 tag member] at isTyped
  cases isTyped

/-! ## Checks -/

theorem resolveLegacyDNSMode_eq_ok {lookup : String → Except String RuleSetMetadata}
    (isOk : resolveLegacyDNSMode lookup rules = .ok (legacyDNSMode, flags)) :
    dnsRuleModeRequirements lookup rules = .ok flags ∧
      legacyDNSMode = (!flags.disabled && flags.needed) := by
  rw [resolveLegacyDNSMode] at isOk
  rcases bind_eq_ok isOk with ⟨_, isFlags, isOk⟩
  split at isOk
  · cases isOk
  split at isOk
  · next isDisabled =>
    cases isOk
    exact ⟨isFlags, by rw [isDisabled]; rfl⟩
  · next notDisabled =>
    cases isOk
    rw [not_eq_true] at notDisabled
    exact ⟨isFlags, by rw [notDisabled]; rfl⟩

theorem fits_true_of_resolve
    (isResolved : resolveLegacyDNSMode (loadedLookup loaded) rules = .ok (legacyDNSMode, flags))
    (notDisabled : flags.disabled = false) : Fits rules true loaded :=
  fits_of_not_disabled (resolveLegacyDNSMode_eq_ok isResolved).1 notDisabled

theorem fits_false_of_resolve {warnings : List String}
    (isResolved : resolveLegacyDNSMode (loadedLookup loaded) rules = .ok (false, flags))
    (isAccepted : validateLegacyDNSModeDisabledRules (loadedLookup loaded) rules = .ok warnings) :
    Fits rules false loaded := by
  refine ⟨fun other isLegacy => ?_, warnings, isAccepted⟩
  cases isResolved.symm.trans isLegacy

theorem fits_of_buildMode (isOk : buildMode rules loaded = .ok legacyDNSMode) :
    Fits rules legacyDNSMode loaded := by
  rw [buildMode] at isOk
  rcases bind_eq_ok isOk with ⟨⟨mode, flags⟩, isResolved, isOk⟩
  cases mode with
  | true =>
    cases isOk
    have isLegacy := (resolveLegacyDNSMode_eq_ok isResolved).2
    have notDisabled : flags.disabled = false := by
      cases isDisabled : flags.disabled with
      | false => rfl
      | true =>
        rw [isDisabled] at isLegacy
        cases isLegacy
    exact fits_true_of_resolve isResolved notDisabled
  | false =>
    rcases bind_eq_ok isOk with ⟨_, isAccepted, ⟨⟩⟩
    exact fits_false_of_resolve isResolved isAccepted

theorem fits_nil (legacyDNSMode : Bool) (loaded : Loaded) : Fits [] legacyDNSMode loaded := by
  cases legacyDNSMode with
  | true => exact ⟨rfl, nofun⟩
  | false => exact fits_false_of_resolve rfl rfl

theorem fits_of_validate (isOk : validateRuleSetMetadataUpdate rules state tag metadata = .ok ())
    (isOpen : state.closing = false) (isMode : state.mode = some legacyDNSMode) :
    Fits rules legacyDNSMode (update state.committed tag (some metadata)) := by
  cases isEmpty : rules.isEmpty with
  | true =>
    rw [isEmpty_iff.mp isEmpty]
    exact fits_nil _ _
  | false =>
    rw [validateRuleSetMetadataUpdate, overriddenLookup_eq] at isOk
    rw [isEmpty, isOpen, isMode] at isOk
    cases legacyDNSMode with
    | true =>
      rcases bind_eq_ok isOk with ⟨⟨candidate, flags⟩, isResolved, isOk⟩
      cases isDisabled : flags.disabled with
      | false => exact fits_true_of_resolve isResolved isDisabled
      | true =>
        have isRefused : (!candidate && flags.disabled) = true := by
          rw [(resolveLegacyDNSMode_eq_ok isResolved).2, isDisabled]
          rfl
        dsimp only at isOk
        rw [if_pos isRefused] at isOk
        -- both branches of the second check end in an error
        rcases bind_eq_ok isOk with ⟨_, _, isError⟩
        cases isError
    | false =>
      rcases bind_eq_ok isOk with ⟨⟨candidate, _⟩, isResolved, isOk⟩
      cases candidate with
      | true => cases isOk
      | false =>
        rcases bind_eq_ok isOk with ⟨_, isAccepted, _⟩
        exact fits_false_of_resolve isResolved isAccepted

/-! ## Runs -/

variable (rules)

structure ReloadInvariant (state : ReloadState) : Prop where
  resolved : ∀ legacyDNSMode seen, state.resolved = some (legacyDNSMode, seen) →
    Fits rules legacyDNSMode seen
  started : ∀ legacyDNSMode, state.mode = some legacyDNSMode →
    Fits rules legacyDNSMode state.committed
  pending : ∀ reload ∈ state.pending, reload.closing = false →
    ∀ legacyDNSMode, reload.mode = some legacyDNSMode →
      Fits rules legacyDNSMode (update reload.seen reload.tag (some reload.metadata))

variable {rules}

namespace ReloadInvariant

variable {state next : ReloadState} (invariant : ReloadInvariant rules state)
include invariant

theorem validate {newRules : List (HeadlessRule lib)}
    (isNext : state.next rules (.validate tag newRules) = some next) :
    ReloadInvariant rules next := by
  rw [ReloadState.next] at isNext
  cases isOk : validateRuleSetMetadataUpdate rules state tag (buildRuleSetMetadata newRules) with
  | error =>
    rw [isOk] at isNext
    cases isNext
    exact invariant
  | ok =>
    rw [isOk] at isNext
    cases isNext
    refine ⟨invariant.resolved, invariant.started, ?_⟩
    intro reload member isOpen legacyDNSMode isMode
    rcases mem_append.mp member with isOld | isNew
    · exact invariant.pending reload isOld isOpen legacyDNSMode isMode
    · cases mem_singleton.mp isNew
      exact fits_of_validate isOk isOpen isMode

theorem commit {index : Nat}
    (isAllowed : state.allows rules (.commit index : ReloadAction lib) = true)
    (isNext : state.next rules (.commit index : ReloadAction lib) = some next) :
    ReloadInvariant rules next := by
  rw [ReloadState.next, Option.bind_eq_bind, Option.bind_eq_some_iff] at isNext
  rcases isNext with ⟨reload, isReload, ⟨⟩⟩
  rw [ReloadState.allows, isReload] at isAllowed
  have mayCommit : state.mayCommit rules reload = true := isAllowed
  refine ⟨invariant.resolved, ?_, ?_⟩
  · intro legacyDNSMode isMode
    have isMode : state.mode = some legacyDNSMode := isMode
    have fits := invariant.started legacyDNSMode isMode
    simp only [ReloadState.mayCommit, isMode, Option.isNone_some, Bool.false_or, Bool.and_eq_true,
      beq_iff_eq, not_eq_true'] at mayCommit
    rcases mayCommit with ⟨⟨isReloadMode, isOpen⟩, isQuiet⟩
    have checked := invariant.pending reload (mem_of_getElem? isReload) isOpen legacyDNSMode
      isReloadMode
    apply fits.commit checked
    cases legacyDNSMode with
    | true => exact .inl rfl
    | false => exact .inr isQuiet
  · intro other member
    exact invariant.pending other (mem_of_mem_eraseIdx member)

theorem start (isAllowed : state.allows rules (.start : ReloadAction lib) = true)
    (isNext : state.next rules (.start : ReloadAction lib) = some next) :
    ReloadInvariant rules next := by
  rw [ReloadState.next, Option.bind_eq_bind, Option.bind_eq_some_iff] at isNext
  rcases isNext with ⟨⟨legacyDNSMode, seen⟩, isResolved, isNext⟩
  dsimp only at isNext
  split at isNext
  · cases isNext
    exact invariant
  cases isNext
  refine ⟨invariant.resolved, ?_, invariant.pending⟩
  rintro _ ⟨⟩
  rw [ReloadState.allows, isResolved] at isAllowed
  have isSame : ((ruleSetTagsOf rules).all fun tag =>
    state.committed tag == seen tag) = true := isAllowed
  rw [all_eq_true] at isSame
  apply (invariant.resolved legacyDNSMode seen isResolved).congr
  intro tag member
  exact (beq_iff_eq.mp (isSame tag member)).symm

theorem resolve (isNext : state.next rules (.resolve : ReloadAction lib) = some next) :
    ReloadInvariant rules next := by
  rw [ReloadState.next] at isNext
  split at isNext
  · next isOk =>
    cases isNext
    refine ⟨?_, invariant.started, invariant.pending⟩
    rintro _ _ ⟨⟩
    exact fits_of_buildMode isOk
  · cases isNext
    exact invariant

theorem step {action : ReloadAction lib} (isNext : state.orderly rules action = some next) :
    ReloadInvariant rules next := by
  rw [ReloadState.orderly] at isNext
  split at isNext
  · next isAllowed =>
    cases action with
    | validate => exact invariant.validate isNext
    | commit => exact invariant.commit isAllowed isNext
    | resolve => exact invariant.resolve isNext
    | start => exact invariant.start isAllowed isNext
    | close =>
      cases isNext
      exact { invariant with }
  · cases isNext

end ReloadInvariant

/-- In every run in which no check is overtaken, the mode of the router is consistent
with the rule-sets. -/
theorem consistent_of_orderly {committed : Loaded} {actions : List (ReloadAction lib)}
    {state : ReloadState}
    (run : Run (fun state action next => state.orderly rules action = some next)
      { committed } actions state) : state.Consistent rules := by
  have invariant : ReloadInvariant rules state := by
    apply run.preserves
    · exact ⟨nofun, nofun, nofun⟩
    · exact fun invariant isNext => invariant.step isNext
  constructor
  · exact invariant.started false
  · intro isMode
    exact notDisabled_of_fits (invariant.started true isMode)

/-! ## Samples -/

def routeRules : List RuleOptions :=
  [.default { ruleSet := ["a", "b"], action := some (.route "server" false {}) }]

/-- `query_type: [1]`, `ip_cidr: ["1"]` and `domain: ["a"]`, as rules of a rule-set. -/
def queryTypeRule : HeadlessRule Library.sample := .default { queryType := some [1] }
def ipCIDRRule : HeadlessRule Library.sample := .default { ipCIDR := some [[49]] }
def domainRule : HeadlessRule Library.sample := .default { domain := some [[97]] }

def loadedSets (a b : List (HeadlessRule Library.sample)) : Loaded := fun tag =>
  if tag = "a" then some (buildRuleSetMetadata a)
  else if tag = "b" then some (buildRuleSetMetadata b)
  else none

theorem consistent_of_orderly_reload : ∃ state : ReloadState,
    state.mode = some false ∧ state.committed "a" = some (buildRuleSetMetadata [domainRule]) ∧
      state.Consistent routeRules := by
  have run : Run (fun (state : ReloadState) (action : ReloadAction Library.sample) next =>
      state.orderly routeRules action = some next)
      { committed := loadedSets [queryTypeRule] [domainRule] }
      [.resolve, .start, .validate "a" [domainRule], .commit 0] _ := Run.of_execute rfl
  exact ⟨_, rfl, rfl, consistent_of_orderly run⟩

/-- Two reloads are checked against each other's old metadata: one drops the rule
that disables the legacy mode, the other adds addresses, which need it. And a
reload that was checked before the start disables the mode that was started. -/
theorem reloads_overtaken :
    (∃ state : ReloadState,
      Run (fun (state : ReloadState) (action : ReloadAction Library.sample) next =>
        state.next routeRules action = some next)
        { committed := loadedSets [queryTypeRule] [domainRule] }
        [.resolve, .start, .validate "a" [domainRule], .validate "b" [ipCIDRRule, domainRule],
          .commit 0, .commit 0] state ∧
      state.mode = some false ∧
      (resolveLegacyDNSMode (loadedLookup state.committed) routeRules).toOption.map Prod.fst =
        some true) ∧
    ∃ state : ReloadState,
      Run (fun (state : ReloadState) (action : ReloadAction Library.sample) next =>
        state.next routeRules action = some next)
        { committed := loadedSets [domainRule] [ipCIDRRule, domainRule] }
        [.validate "a" [queryTypeRule], .resolve, .start, .commit 0] state ∧
      state.mode = some true ∧
      (dnsRuleModeRequirements (loadedLookup state.committed) routeRules).toOption.map
        ModeFlags.disabled = some true :=
  ⟨⟨_, Run.of_execute rfl, rfl, rfl⟩, _, Run.of_execute rfl, rfl, rfl⟩

end SingBox.Dns
