import SingBox.Routing.PreMatch

/-! # Pre-matching and matching

The two loops over the rules agree as long as every rule that `PreMatch` goes on
after does the same in both. `Agreeable` says what that takes: the rule is
enabled, route options do not make `matchRule` forget addresses, and a sniff
action that gets to look at packets is not one for ICMP, does not go on with an
earlier fragment and does not take the host name of a QUIC connection from the
cache. Then it only depends on the rule that `PreMatch` decides by.
-/

namespace SingBox.Routing

open Adapter Sniff Router

/-- The sniff action of `matchRule` goes as far as to look at packets. -/
abbrev SniffsPackets (action : SniffAction) (metadata : Context) : Prop :=
  sniffs action metadata action.packetSniffers action.streamSniffers = true

/-- What a rule that matches must be like for the two loops to go on alike. `next`
is the metadata that `PreMatch` goes on with. -/
structure Router.Agreeable (router : Router) (rule : Rule) (metadata next : Context) : Prop where
  enabled : rule.disabled = false
  noAddresses : ∀ options, rule.action = .routeOptions options →
    router.lib.isValid options.overrideAddress → metadata.destinationAddresses = []
  notICMP : ∀ action, rule.action = .sniff action → SniffsPackets action metadata →
    metadata.network ≠ "icmp"
  noFragment : ∀ action, rule.action = .sniff action → SniffsPackets action metadata →
    quicMoreData action metadata = false
  noHost : ∀ action, rule.action = .sniff action → SniffsPackets action metadata →
    next.sniffError = none → next.protocol = "quic" → next.sniffHost = "" →
      router.lookupQUICSniff next.source next.destination = none

/-- Every rule that matches and that `PreMatch` goes on after is agreeable. -/
def Router.AllAgreeable (router : Router) (firstPacket : Bytes) (packetDestination : Socksaddr) :
    List Rule → Context → Prop
  | [], _ => True
  | rule :: rules, metadata =>
    if rule.accepts metadata.toVisible then
      match router.preAct firstPacket packetDestination metadata rule.action with
      | .next next =>
        router.Agreeable rule metadata next ∧
          AllAgreeable router firstPacket packetDestination rules next
      | .decide _ => True
    else AllAgreeable router firstPacket packetDestination rules metadata

/-- A rule that `matchRule` can select: it is enabled, and it is no resolve
action, which `PreMatch` only decides by if it fails. -/
def Rule.Selectable (rule : Rule) : Prop :=
  rule.disabled = false ∧ ∀ action, rule.action ≠ .resolve action

/-! ## The two states -/

/-- The metadata of the two loops: they differ in nothing that `matchRule` reads
again, except for the destination before route options. -/
structure SameView (pre full : Context) : Prop where
  visible : pre.toVisible = full.toVisible
  snifferNames : pre.snifferNames = full.snifferNames
  sniffError : pre.sniffError = full.sniffError
  sniffContext : pre.sniffContext = full.sniffContext

/-- The first packet is still to be read or in the buffers. Of a stream nothing
is read. -/
inductive Fed (firstPacket : Bytes) (network : String) (state : Matching) : Prop
  | stream (reads : List StreamRead) (isTCP : network = "tcp")
      (isInput : state.input = .stream reads)
  | unread (destination : Socksaddr) (reads : List PacketRead)
      (isInput : state.input = .packets (.packet destination firstPacket :: reads))
      (isEmpty : state.packetBuffers = [])
  | buffered (destination : Socksaddr) (reads : List PacketRead)
      (isInput : state.input = .packets reads)
      (isBuffered : state.packetBuffers = [⟨firstPacket, destination⟩])

section

variable {router : Router} {pre full : Context}

section

variable (same : SameView pre full)
include same

theorem SameView.symm : SameView full pre :=
  ⟨same.visible.symm, same.snifferNames.symm, same.sniffError.symm, same.sniffContext.symm⟩

theorem SameView.eq : full = { full with
    toVisible := pre.toVisible, snifferNames := pre.snifferNames, sniffError := pre.sniffError,
    sniffContext := pre.sniffContext } := by
  rw [same.visible, same.snifferNames, same.sniffError, same.sniffContext]

theorem SameView.override (packets : Bool) :
    SameView (router.sniffOverrideDestination true pre)
      (router.sniffOverrideDestination packets full) := by
  rw [same.eq]
  rw [sniffOverrideDestination, sniffOverrideDestination]
  split
  · cases packets with
    | false | true => exact ⟨rfl, rfl, rfl, rfl⟩
  · exact ⟨rfl, rfl, rfl, rfl⟩

theorem SameView.resolve {action : ResolveAction} {resolved : Context}
    (isOk : router.actionResolve pre action = .ok resolved) :
    ∃ other, router.actionResolve full action = .ok other ∧ SameView resolved other := by
  rw [actionResolve] at isOk ⊢
  rw [same.eq]
  cases isLookup : router.lookup pre.toVisible pre.destination.fqdn action
  all_goals
    simp only [isLookup, bind] at isOk ⊢
    split_ifs at isOk ⊢ <;> cases isOk <;> exact ⟨_, rfl, rfl, rfl, rfl, rfl⟩

theorem SameView.routeOptionsOverride (options : RouteOptions) :
    SameView (router.applyRouteOptionsOverride pre options)
      (router.applyRouteOptionsOverride full options) := by
  rw [same.eq]
  rw [applyRouteOptionsOverride, applyRouteOptionsOverride]
  split <;> split <;> split <;> exact ⟨rfl, rfl, rfl, rfl⟩

theorem SameView.routeOptions {options : RouteOptions}
    (noAddresses : router.lib.isValid options.overrideAddress → pre.destinationAddresses = []) :
    SameView (router.applyRouteOptionsOverride pre options)
      (router.applyRouteOptions full options) := by
  rw [applyRouteOptions]
  apply SameView.routeOptionsOverride
  rw [same.eq]
  by_cases isValid : router.lib.isValid options.overrideAddress = true
  · have isCleared : { pre.toVisible with destinationAddresses := [] } = pre.toVisible := by
      rw [← noAddresses isValid]
    rw [if_pos isValid]
    split <;> exact ⟨isCleared.symm, rfl, rfl, rfl⟩
  · rw [if_neg isValid]
    split <;> exact ⟨rfl, rfl, rfl, rfl⟩

theorem SameView.peekWith (sniffers : List AnySniffer) (action : SniffAction) (packet : Bytes) :
    SameView (peekWith sniffers action pre packet)
      (peekWith sniffers action full packet) := by
  rw [same.eq]
  exact ⟨rfl, rfl, rfl, rfl⟩

theorem SameView.sniffs_eq (action : SniffAction) (own other : List AnySniffer) :
    sniffs action pre own other = sniffs action full own other := by
  rw [same.eq]
  rfl

theorem SameView.quicMoreData_eq (action : SniffAction) :
    quicMoreData action pre = quicMoreData action full := by
  rw [same.eq]
  rfl

end

variable {action : SniffAction} {firstPacket : Bytes} {next : Context} {state : Matching}

section

variable (isNext : router.preSniff firstPacket action pre = .next next)
include isNext

theorem preSniff_active (isActive : SniffsPackets action pre) (notICMP : pre.network ≠ "icmp")
    (noFragment : quicMoreData action pre = false) :
    pre.network = "udp" ∧ next = router.peek action pre firstPacket ∧
      needsMore next.sniffError = false := by
  simp only [SniffsPackets, sniffs, Bool.and_eq_true, Bool.not_eq_true', beq_iff_eq] at isActive
  rcases isActive with ⟨⟨⟨notSkipped, isUnknown⟩, notOther⟩, notFailed⟩
  have noError : (pre.snifferNames = action.snifferNames && pre.sniffError.isSome) = false := by
    rw [quicMoreData] at noFragment
    rw [failedBefore] at notFailed
    cases hasNames : decide (pre.snifferNames = action.snifferNames) with
    | false => rfl
    | true =>
      rw [hasNames, Bool.true_and] at noFragment notFailed
      rwa [noFragment, Bool.not_false, Bool.and_true] at notFailed
  rw [Router.peek, noFragment, if_neg Bool.false_ne_true]
  rw [preSniff, if_neg notICMP] at isNext
  split at isNext
  · cases isNext
  next isUDP =>
  rw [not_or, not_not] at isUDP
  rw [notSkipped, isUnknown, notOther, noError] at isNext
  change (if needsMore _ = true then PreStep.decide continueResult else .next _) = _ at isNext
  split_ifs at isNext with needs
  cases isNext
  exact ⟨isUDP.1, rfl, Bool.eq_false_of_not_eq_true needs⟩

theorem preSniff_idle (isIdle : ¬SniffsPackets action pre) : next = pre := by
  rw [preSniff] at isNext
  split_ifs at isNext with _ _ isSkipped isOther isFailed
  case neg =>
    refine absurd ?_ isIdle
    simp_all [sniffs, failedBefore]
  all_goals
    cases isNext
    rfl

end

theorem SameView.peek (same : SameView pre full) (action : SniffAction) (packet : Bytes) :
    SameView (router.peek action pre packet) (router.peek action full packet) := by
  rw [Router.peek, Router.peek, same.quicMoreData_eq]
  split <;> exact same.peekWith _ action packet

theorem addBuffers_idle (state : Matching) :
    state.addBuffers { metadata := state.metadata, input := state.input } = state := by
  simp [Matching.addBuffers]

theorem finishSniff_eq (noHost : next.sniffError = none → next.protocol = "quic" →
      next.sniffHost = "" → router.lookupQUICSniff next.source next.destination = none) :
    router.finishSniff next = next := by
  rw [finishSniff, restoreHost]
  split_ifs with noError isUnnamed
  · rw [noHost (Option.isNone_iff_eq_none.mp noError) isUnnamed.1 isUnnamed.2]
    rfl
  · rfl
  · rfl

theorem actionSniff_first (fed : Fed firstPacket "udp" state)
    (isActive : sniffs action state.metadata action.packetSniffers action.streamSniffers)
    (isDone : needsMore (router.peek action state.metadata firstPacket).sniffError = false)
    (isFinished : router.finishSniff (router.peek action state.metadata firstPacket) =
      router.peek action state.metadata firstPacket) :
    (router.actionSniff action state).fatalErr = none ∧
      (router.actionSniff action state).metadata = router.peek action state.metadata firstPacket ∧
      Fed firstPacket "udp" (state.addBuffers (router.actionSniff action state)) := by
  have isGoingOn :
      ¬needsMore (router.peek action state.metadata firstPacket).sniffError = true := by
    rw [isDone]
    decide
  cases fed with
  | stream reads isTCP isInput => exact absurd isTCP (by decide)
  | unread destination reads isInput isEmpty =>
    have isRead : router.actionSniff action state =
        { metadata := router.peek action state.metadata firstPacket
          input := .packets reads
          packetBuffers := [⟨firstPacket, destination⟩] } := by
      rw [actionSniff, isInput]
      dsimp only
      rw [if_pos isActive, sniffPackets, isEmpty, peekBuffered]
      dsimp only
      rw [readPackets, if_neg isGoingOn, isFinished]
      rfl
    rw [isRead]
    refine ⟨rfl, rfl, .buffered destination reads rfl ?_⟩
    rw [Matching.addBuffers, isEmpty]
    rfl
  | buffered destination reads isInput isBuffered =>
    have isPeeked : router.actionSniff action state =
        { metadata := router.peek action state.metadata firstPacket
          input := .packets reads } := by
      rw [actionSniff, isInput]
      dsimp only
      rw [if_pos isActive, sniffPackets, isBuffered, peekBuffered]
      rw [if_neg isGoingOn]
      dsimp only
      rw [isFinished]
    rw [isPeeked]
    refine ⟨rfl, rfl, .buffered destination reads rfl ?_⟩
    rw [Matching.addBuffers, isBuffered]
    rfl

theorem actionSniff_idle (fed : Fed firstPacket pre.network state)
    (isNext : router.preSniff firstPacket action pre = .next next)
    (isIdle : ¬SniffsPackets action state.metadata) :
    router.actionSniff action state = { metadata := state.metadata, input := state.input } := by
  rw [actionSniff]
  cases fed with
  | stream reads isTCP =>
    rw [preSniff, isTCP] at isNext
    cases isNext
  | unread destination reads isInput | buffered destination reads isInput =>
    rw [isInput]
    exact if_neg isIdle

theorem actionSniff_agrees (same : SameView pre state.metadata)
    (fed : Fed firstPacket pre.network state)
    (isNext : router.preSniff firstPacket action pre = .next next)
    (notICMP : SniffsPackets action pre → pre.network ≠ "icmp")
    (noFragment : SniffsPackets action pre → quicMoreData action pre = false)
    (noHost : SniffsPackets action pre → next.sniffError = none → next.protocol = "quic" →
      next.sniffHost = "" → router.lookupQUICSniff next.source next.destination = none) :
    (router.actionSniff action state).fatalErr = none ∧
      SameView next (state.addBuffers (router.actionSniff action state)).metadata ∧
      Fed firstPacket next.network (state.addBuffers (router.actionSniff action state)) := by
  by_cases isActive : SniffsPackets action pre
  · rcases preSniff_active isNext isActive (notICMP isActive) (noFragment isActive) with
      ⟨isUDP, rfl, isDone⟩
    have samePeek : SameView (router.peek action pre firstPacket)
        (router.peek action state.metadata firstPacket) := same.peek action firstPacket
    have isNetwork : (router.peek action pre firstPacket).network = "udp" := by
      rw [← isUDP, Router.peek]
      split <;> rfl
    have isFinished : router.finishSniff (router.peek action state.metadata firstPacket) =
        router.peek action state.metadata firstPacket := by
      apply finishSniff_eq
      rw [← samePeek.visible, ← samePeek.sniffError]
      exact noHost isActive
    rw [SniffsPackets, same.sniffs_eq] at isActive
    rw [samePeek.sniffError] at isDone
    rw [isUDP] at fed
    rcases actionSniff_first fed isActive isDone isFinished with ⟨noError, isPeek, isFed⟩
    rw [isNetwork]
    refine ⟨noError, ?_, isFed⟩
    rw [Matching.addBuffers, isPeek]
    exact samePeek
  · cases preSniff_idle isNext isActive
    rw [SniffsPackets, same.sniffs_eq] at isActive
    rw [actionSniff_idle fed isNext isActive, addBuffers_idle]
    exact ⟨rfl, same, fed⟩

end

/-! ## One rule -/

def PreMatchAction.Decides (action : PreMatchAction) : Prop :=
  action ∈ [.reject, .drop, .hijackDNS, .flow]

theorem not_decides_continue : ¬PreMatchAction.continue.Decides := by
  rw [PreMatchAction.Decides]
  decide

theorem not_decides_bypass : ¬PreMatchAction.bypass.Decides := by
  rw [PreMatchAction.Decides]
  decide

section

variable {router : Router} {firstPacket : Bytes} {packetDestination : Socksaddr}

theorem selectPreMatchOutbound_leaf (metadata : Context) (depth : Nat) (tag : String)
    (networks : List String) :
    router.selectPreMatchOutbound metadata (depth + 1) (.leaf tag networks .pass) = none := by
  rw [selectPreMatchOutbound]
  · exact ite_self none
  · nofun

theorem selectPreMatchOutbound_pass {outbound : Outbound} (isPass : outbound.isPass)
    (metadata : Context) : router.selectPreMatchOutbound metadata 9 outbound = none := by
  rw [Outbound.isPass.eq_def] at isPass
  split at isPass
  · exact selectPreMatchOutbound_leaf metadata 8 _ _
  · rw [selectPreMatchOutbound]
    exact selectPreMatchOutbound_leaf metadata 7 _ _
  · cases isPass

theorem preMatchFlow_passes {tag : String} (passes : router.passes tag) (metadata : Context) :
    router.preMatchFlow metadata packetDestination tag = continueResult := by
  rw [Router.passes] at passes
  cases isOutbound : router.outbound tag with
  | none =>
    rw [isOutbound] at passes
    cases passes
  | some =>
    rw [isOutbound] at passes
    have isNamed : tag ≠ "" := by
      rintro rfl
      cases isOutbound.symm.trans router.outbound_unnamed
    rw [preMatchFlow, if_neg isNamed, isOutbound]
    dsimp only
    rw [selectPreMatchOutbound_pass passes]

variable {state : Matching} {action : ResolveAction} {metadata pre : Context}
  {result : PreMatchResult}

theorem Fed.withMetadata {network : String} (fed : Fed firstPacket network state)
    (metadata : Context) : Fed firstPacket network { state with metadata } := by
  cases fed with
  | stream reads isTCP isInput => exact .stream reads isTCP isInput
  | unread destination reads isInput isEmpty => exact .unread destination reads isInput isEmpty
  | buffered destination reads isInput isBuffered =>
    exact .buffered destination reads isInput isBuffered

theorem override_network (packets : Bool) (metadata : Context) :
    (router.sniffOverrideDestination packets metadata).network = metadata.network := by
  rw [sniffOverrideDestination]
  split
  · cases packets with
    | false | true => rfl
  · rfl

theorem routeOptions_network (metadata : Context) (options : RouteOptions) :
    (router.applyRouteOptionsOverride metadata options).network = metadata.network := by
  rw [applyRouteOptionsOverride]
  split <;> split <;> split <;> rfl

theorem resolve_network {resolved : Context}
    (isOk : router.actionResolve metadata action = .ok resolved) :
    resolved.network = metadata.network := by
  rw [actionResolve] at isOk
  cases isLookup : router.lookup metadata.toVisible metadata.destination.fqdn action
  all_goals
    simp only [isLookup, bind] at isOk
    split_ifs at isOk <;> cases isOk <;> rfl

/-- A rule that `PreMatch` goes on after: `matchRule` goes on as well, and sees the
same metadata. -/
theorem preAct_next {rule : Rule} {next : Context} (agreeable : router.Agreeable rule pre next)
    (same : SameView pre state.metadata) (fed : Fed firstPacket pre.network state)
    (isNext : router.preAct firstPacket packetDestination pre rule.action = .next next) :
    ∃ after, router.act rule.action state = .next after ∧ SameView next after.metadata ∧
      Fed firstPacket next.network after := by
  cases isAction : rule.action with
  | sniff action =>
    rw [isAction] at isNext
    rcases actionSniff_agrees same fed isNext (agreeable.notICMP action isAction)
      (agreeable.noFragment action isAction) (agreeable.noHost action isAction) with
      ⟨noError, isSame, isFed⟩
    refine ⟨state.addBuffers (router.actionSniff action state), ?_, isSame, isFed⟩
    rw [act, noError]
  | sniffOverrideDestination =>
    have isHost : pre.sniffHost = state.metadata.sniffHost :=
      congrArg (fun visible => visible.sniffHost) same.visible
    rw [isAction, preAct] at isNext
    rw [act, ← isHost]
    split at isNext
    · next isEmpty =>
      cases isNext
      rw [if_pos isEmpty]
      exact ⟨state, rfl, same, fed⟩
    · next notEmpty =>
      cases isNext
      rw [if_neg notEmpty, override_network]
      exact ⟨_, rfl, same.override _, fed.withMetadata _⟩
  | routeOptions options =>
    rw [isAction] at isNext
    cases isNext
    rw [routeOptions_network]
    exact ⟨_, rfl, same.routeOptions (agreeable.noAddresses options isAction), fed.withMetadata _⟩
  | resolve action =>
    rw [isAction, preAct] at isNext
    cases isOk : router.actionResolve pre action with
    | error =>
      rw [isOk] at isNext
      cases isNext
    | ok =>
      rw [isOk] at isNext
      cases isNext
      rcases same.resolve isOk with ⟨_, isOther, isSame⟩
      rw [act, isOther, resolve_network isOk]
      exact ⟨_, rfl, isSame, fed.withMetadata _⟩
  | route outbound options | direct =>
    rw [isAction] at isNext
    cases isNext
  | bypass =>
    rw [isAction, preAct] at isNext
    split at isNext
    · split at isNext
      all_goals cases isNext
    · cases isNext
  | _ =>
    rw [isAction, preAct] at isNext
    split at isNext
    all_goals cases isNext

theorem preSniff_undecided {action : SniffAction}
    (isDecided : router.preSniff firstPacket action metadata = .decide result) :
    result = continueResult := by
  rw [preSniff] at isDecided
  dsimp only at isDecided
  split_ifs at isDecided
  all_goals
    cases isDecided
    rfl

theorem preAct_decides {action : RuleAction}
    (isDecided : router.preAct firstPacket packetDestination pre action = .decide result)
    (decides : result.action.Decides) (notResolve : ∀ resolve, action ≠ .resolve resolve)
    (state : Matching) : ∃ after, router.act action state = .select after := by
  cases action with
  | sniff action =>
    rw [preSniff_undecided isDecided] at decides
    exact absurd decides not_decides_continue
  | sniffOverrideDestination =>
    rw [preAct] at isDecided
    split at isDecided
    all_goals cases isDecided
  | routeOptions options => cases isDecided
  | resolve action => exact absurd rfl (notResolve action)
  | route outbound options =>
    cases isDecided
    rw [act]
    split
    · next passes =>
      rw [preMatchFlow_passes passes] at decides
      exact absurd decides not_decides_continue
    · exact ⟨_, rfl⟩
  | bypass =>
    rw [preAct] at isDecided
    rw [act]
    split at isDecided
    · split at isDecided
      · cases isDecided
        exact absurd decides not_decides_continue
      · cases isDecided
        exact absurd decides not_decides_bypass
    · next isNamed =>
      rw [if_neg isNamed]
      exact ⟨_, rfl⟩
  | direct =>
    cases isDecided
    exact absurd decides not_decides_continue
  | _ => exact ⟨state, rfl⟩

theorem preAct_resolve (same : SameView pre state.metadata)
    (isDecided : router.preAct firstPacket packetDestination pre (.resolve action) =
      .decide result) : ∃ err, router.act (.resolve action) state = .fatal err state := by
  rw [act]
  cases isOk : router.actionResolve state.metadata action with
  | error err => exact ⟨err, rfl⟩
  | ok =>
    rcases same.symm.resolve isOk with ⟨_, isOther, _⟩
    rw [preAct, isOther] at isDecided
    cases isDecided

end

/-! ## All rules -/

section

variable {router : Router} {firstPacket : Bytes} {packetDestination : Socksaddr} {index : Nat}
  {rules : List Rule} {state : Matching} {pre : Context}

theorem matchRules_selected {selected : Nat}
    (isSelected : (router.matchRules rules index state).selected = some selected) :
    index ≤ selected := by
  induction rules generalizing index state with
  | nil => cases isSelected
  | cons rule _ induction =>
    rw [matchRules] at isSelected
    cases isStep : router.ruleStep rule state with
    | next next =>
      rw [isStep] at isSelected
      exact Nat.le_of_succ_le (induction isSelected)
    | select next =>
      rw [isStep] at isSelected
      cases isSelected
      exact Nat.le_refl _
    | fatal =>
      rw [isStep] at isSelected
      cases isSelected

variable (same : SameView pre state.metadata)
include same

/-- The rule that `PreMatch` decides by, in `matchRule`. -/
theorem matchRules_decided_iff {rule : Rule} {result : PreMatchResult}
    (isAccepted : rule.accepts pre.toVisible = true)
    (isDecided : router.preAct firstPacket packetDestination pre rule.action = .decide result)
    (decides : result.action.Decides) :
    (router.matchRules (rule :: rules) index state).selected = some index ∧
        (router.matchRules (rule :: rules) index state).fatalErr = none ↔ rule.Selectable := by
  have isStep : router.ruleStep rule state =
      if rule.disabled then .next state else router.act rule.action state := by
    rw [ruleStep, ← same.visible, isAccepted, Bool.not_true, Bool.or_false]
  rw [matchRules, isStep]
  cases isDisabled : rule.disabled with
  | true =>
    rw [if_pos rfl]
    constructor
    · intro isSelected
      have isLater := matchRules_selected isSelected.1
      omega
    · intro isSelectable
      cases isDisabled.symm.trans isSelectable.1
  | false =>
    rw [if_neg Bool.false_ne_true]
    by_cases isResolve : ∃ action, rule.action = .resolve action
    · rcases isResolve with ⟨action, isAction⟩
      rw [isAction] at isDecided ⊢
      rcases preAct_resolve same isDecided with ⟨_, isFatal⟩
      rw [isFatal]
      constructor
      · intro isSelected
        cases isSelected.1
      · intro isSelectable
        exact absurd isAction (isSelectable.2 action)
    · have notResolve : ∀ action, rule.action ≠ .resolve action :=
        fun action isAction => isResolve ⟨action, isAction⟩
      rcases preAct_decides isDecided decides notResolve state with ⟨_, isSelect⟩
      rw [isSelect]
      exact ⟨fun _ => ⟨isDisabled, notResolve⟩, fun _ => ⟨rfl, rfl⟩⟩

theorem preMatchRules_agrees_iff (fed : Fed firstPacket pre.network state)
    (agreeable : router.AllAgreeable firstPacket packetDestination rules pre)
    (decides : (router.preMatchRules firstPacket packetDestination rules index
      pre).result.action.Decides) :
    (router.matchRules rules index state).selected =
        (router.preMatchRules firstPacket packetDestination rules index pre).rule.map Prod.fst ∧
      (router.matchRules rules index state).fatalErr = none ↔
    ∀ place rule, (router.preMatchRules firstPacket packetDestination rules index pre).rule =
      some (place, rule) → rule.Selectable := by
  induction rules generalizing index pre state with
  | nil =>
    refine ⟨fun _ place rule isRule => ?_, fun _ => ⟨rfl, rfl⟩⟩
    cases isRule
  | cons rule _ induction =>
    rw [Router.AllAgreeable] at agreeable
    rw [preMatchRules] at decides ⊢
    by_cases isAccepted : rule.accepts pre.toVisible = true
    · rw [if_pos isAccepted] at agreeable decides ⊢
      cases isStep : router.preAct firstPacket packetDestination pre rule.action with
      | next next =>
        rw [isStep] at agreeable decides
        rcases agreeable with ⟨isAgreeable, areAgreeable⟩
        rcases preAct_next isAgreeable same fed isStep with ⟨after, isAfter, isSame, isFed⟩
        have isNext : router.ruleStep rule state = .next after := by
          rw [ruleStep, ← same.visible, isAccepted, isAgreeable.enabled]
          exact isAfter
        rw [matchRules, isNext]
        exact induction isSame isFed areAgreeable decides
      | decide =>
        rw [isStep] at decides
        apply (matchRules_decided_iff same isAccepted isStep decides).trans
        constructor
        · rintro isSelectable _ _ ⟨⟩
          exact isSelectable
        · intro isSelectable
          exact isSelectable index rule rfl
    · rw [if_neg isAccepted] at agreeable decides ⊢
      have isNext : router.ruleStep rule state = .next state := by
        rw [Bool.not_eq_true] at isAccepted
        rw [ruleStep, ← same.visible, isAccepted, Bool.not_false, Bool.or_true]
        rfl
      rw [matchRules, isNext]
      exact induction same fed agreeable decides

end

variable {router : Router} {metadata : Context}

theorem prepare_network {prepared : Context}
    (isOk : router.prepareMatchMetadata metadata = .ok prepared) :
    prepared.network = metadata.network := by
  have isVersion : ∀ mapped, (router.setIPVersion mapped).network = mapped.network := by
    intro mapped
    rw [setIPVersion]
    split_ifs <;> rfl
  have isReverse : ∀ mapped, (router.mapReverse mapped).network = mapped.network := by
    intro mapped
    rw [mapReverse]
    split <;> rfl
  have isFound : (router.resolveNeighbor (router.searchProcessInfo metadata)).network =
      metadata.network := by
    rw [resolveNeighbor, searchProcessInfo]
    split <;> split <;> rfl
  rw [prepareMatchMetadata] at isOk
  rw [← isFound]
  generalize router.resolveNeighbor (router.searchProcessInfo metadata) = found at isOk ⊢
  cases isMapped : router.mapFakeIP found with
  | error =>
    rw [isMapped] at isOk
    cases isOk
  | ok =>
    rw [isMapped] at isOk
    cases isOk
    rw [isVersion]
    rw [mapFakeIP] at isMapped
    split at isMapped
    · cases isMapped
      exact isReverse found
    split at isMapped
    · split at isMapped
      · cases isMapped
      · split at isMapped <;> cases isMapped <;> rfl
    · cases isMapped
      exact isReverse found

def sniffDNS : Rule where
  accepts _ := true
  action := .sniff
    { snifferNames := ["dns"]
      packetSniffers :=
        [fun sniffed _ => { err := none, metadata := { sniffed with protocol := "dns" } }] }

def rejectRule : Rule where
  accepts visible := visible.protocol == "dns"
  action := .reject .default false

def disabledReject : Rule := { rejectRule with accepts _ := true, disabled := true }

end SingBox.Routing
