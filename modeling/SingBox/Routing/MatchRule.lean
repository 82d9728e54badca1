import SingBox.Routing.Sniffing

/-! # The loop over the rules

`matchRule` goes through the rules until one of them selects where the
connection goes. The actions of the rules before it change the metadata and may
read from the connection.
-/

namespace SingBox.Routing

open Adapter Sniff

/-- What a rule does to the loop. -/
inductive Step
  | next (state : Matching)
  | select (state : Matching)
  | fatal (err : Err) (state : Matching)

namespace Step

def state : Step → Matching
  | .next state | .select state | .fatal _ state => state

end Step

def Matching.addBuffers (state : Matching) (result : SniffResult) : Matching where
  metadata := result.metadata
  input := result.input
  buffers := state.buffers ++ result.buffer.toList
  packetBuffers :=
    if result.buffer.isSome then state.packetBuffers
    else state.packetBuffers ++ result.packetBuffers

def Input.isPackets : Input → Bool
  | .stream _ => false
  | .packets _ => true

namespace Router

variable (router : Router)

/-- The options of a rule, which `matchRule` applies before anything else. -/
def applyRouteOptions (metadata : Context) (options : RouteOptions) : Context :=
  let metadata :=
    if (router.lib.isValid options.overrideAddress || 0 < options.overridePort) &&
        !router.lib.isValid metadata.routeOriginalDestination then
      { metadata with routeOriginalDestination := metadata.destination }
    else metadata
  let metadata :=
    if router.lib.isValid options.overrideAddress then { metadata with destinationAddresses := [] }
    else metadata
  router.applyRouteOptionsOverride metadata options

/-- The outbound of a route action passes the connection on to the next rule. -/
def passes (outbound : String) : Bool := (router.outbound outbound).any Outbound.isPass

def act (action : RuleAction) (state : Matching) : Step :=
  match action with
  | .route outbound options =>
    if router.passes outbound then .next state
    else .select { state with metadata := router.applyRouteOptions state.metadata options }
  | .routeOptions options =>
    .next { state with metadata := router.applyRouteOptions state.metadata options }
  | .bypass outbound options =>
    if outbound = "" then .next state
    else .select { state with metadata := router.applyRouteOptions state.metadata options }
  | .direct => .next state
  | .reject _ _ => .select state
  | .hijackDNS => .select state
  | .sniff action =>
    let result := router.actionSniff action state
    match result.fatalErr with
    | some err => .fatal err (state.addBuffers result)
    | none => .next (state.addBuffers result)
  | .sniffOverrideDestination =>
    if state.metadata.sniffHost = "" then .next state
    else
      .next
        { state with
          metadata := router.sniffOverrideDestination state.input.isPackets state.metadata }
  | .resolve action =>
    match router.actionResolve state.metadata action with
    | .error err => .fatal err state
    | .ok metadata => .next { state with metadata }

def ruleStep (rule : Rule) (state : Matching) : Step :=
  if rule.disabled || !rule.accepts state.metadata.toVisible then .next state
  else router.act rule.action state

end Router

structure Matched where
  selected : Option Nat
  state : Matching
  fatalErr : Option Err

namespace Router

variable (router : Router)

/-- The loop from a rule on. -/
def matchRules : List Rule → Nat → Matching → Matched
  | [], _, state => { selected := none, state, fatalErr := none }
  | rule :: rules, index, state =>
    match router.ruleStep rule state with
    | .next state => matchRules rules (index + 1) state
    | .select state => { selected := some index, state, fatalErr := none }
    | .fatal err state => { selected := none, state, fatalErr := some err }

def matchRule (metadata : Context) (input : Input) : Matched :=
  match router.prepareMatchMetadata metadata with
  | .error err => { selected := none, state := { metadata, input }, fatalErr := some err }
  | .ok metadata => router.matchRules router.rules 0 { metadata, input }

end Router

def Rule.sniffing (rule : Rule) (metadata : Context) : Option SniffAction :=
  if rule.disabled || !rule.accepts metadata.toVisible then none
  else
    match rule.action with
    | .sniff action => some action
    | _ => none

/-! ## Runs -/

section

variable {router : Router} {state : Matching} {rule : Rule}

theorem ruleStep_of_none (isNone : rule.sniffing state.metadata = none) :
    ∃ metadata, (router.ruleStep rule state).state = { state with metadata } := by
  rw [Rule.sniffing] at isNone
  rw [Router.ruleStep]
  split
  · exact ⟨state.metadata, rfl⟩
  next isActive =>
  rw [if_neg isActive] at isNone
  cases isAction : rule.action with
  | routeOptions => exact ⟨_, rfl⟩
  | direct | reject method flooded | hijackDNS => exact ⟨state.metadata, rfl⟩
  | sniff action =>
    rw [isAction] at isNone
    cases isNone
  | resolve action =>
    rw [Router.act]
    cases router.actionResolve state.metadata action with
    | error => exact ⟨state.metadata, rfl⟩
    | ok metadata => exact ⟨metadata, rfl⟩
  | _ =>
    rw [Router.act]
    split
    · exact ⟨state.metadata, rfl⟩
    · exact ⟨_, rfl⟩

theorem ruleStep_of_some {action : SniffAction}
    (isSome : rule.sniffing state.metadata = some action) :
    (router.ruleStep rule state).state = state.addBuffers (router.actionSniff action state) := by
  rw [Rule.sniffing] at isSome
  split at isSome
  · cases isSome
  next isActive =>
  rw [Router.ruleStep, if_neg isActive]
  cases isAction : rule.action with
  | sniff =>
    rw [isAction] at isSome
    cases isSome
    rw [Router.act]
    cases (router.actionSniff action state).fatalErr <;> rfl
  | _ =>
    rw [isAction] at isSome
    cases isSome

theorem matchRules_invariant {Invariant : Matching → Prop}
    (step : ∀ rule state, Invariant state → Invariant (router.ruleStep rule state).state)
    {rules : List Rule} {index : Nat} (holds : Invariant state) :
    Invariant (router.matchRules rules index state).state := by
  induction rules generalizing index state with
  | nil => exact holds
  | cons rule _ induction =>
    have isNext := step rule state holds
    rw [Router.matchRules]
    cases isStep : router.ruleStep rule state with
    | next =>
      rw [isStep] at isNext
      exact induction isNext
    | _ =>
      rw [isStep] at isNext
      exact isNext

end

end SingBox.Routing
