import SingBox.Dns.WalkProgress
import SingBox.Dns.WalkRefinement

/-! # Timing of the evaluated exchanges

For an accepted list of rules without `race`, the order in which the exchanges
complete does not matter as long as no bound future completes between its
settling and the check that it is resolved. The walk ends in every order.
-/

namespace SingBox.Dns

open Adapter Route List

variable {router : Router}

theorem calm_walk_sequential {lookup : String → Except String RuleSetMetadata} {sets : RuleSets}
    {options : List RuleOptions} {warnings : List String}
    (accepted : validateLegacyDNSModeDisabledRules lookup options = .ok warnings)
    (raceless : ∀ rule ∈ options, rule.race = false)
    (built : buildRules router.lib sets 0 options = .ok router.rules)
    {query : Query} {start : Exchange} (starts : Starts query start) :
    (∀ {actions exchange result},
      Run (fun exchange action after =>
        exchange.next router action = some after ∧ exchange.Calm action) start actions exchange →
      exchange.position = .returned result → Sequential.Returns router query result) ∧
    Terminates (fun exchange action after => exchange.next router action = some after) start ∧
    ∀ {actions exchange},
      Run (fun exchange action after => exchange.next router action = some after) start actions
        exchange →
      (∀ action, exchange.next router action = none) →
      ∃ result, exchange.position = .returned result := by
  have orderly : Orderly router :=
    orderly_of_accepted (acceptedRules_of_validate accepted) raceless (buildRules_eq_map built)
  refine ⟨?_, walk_terminates orderly starts, ?_⟩
  · intro actions exchange _ run returned
    exact returns_of_calm_run orderly starts run returned
  · intro _ exchange run stuck
    have proper : Proper router exchange :=
      run.preserves starts.proper fun proper taken => (progresses_next proper orderly taken).proper
    exact returned_of_stuck proper stuck

/-! ## Two rules and the exchange between them -/

def sampleOptions : List RuleOptions :=
  [.default { action := some (.evaluate "up" "a" false {}) },
    .default
      { matchResponse := some ⟨true, "a", fun _ => rfl⟩
        action := some .respond }]

def sampleLookup : String → Except String RuleSetMetadata :=
  lookupDNSRuleSetMetadata (fun _ => none) fun _ => none

def sampleSets : RuleSets where
  ruleSet _ := []
  headless _ _ member := by cases member

def sampleRouter : Router where
  lib := .sample
  names := .sample
  rules := sampleOptions.map (RuleOptions.build .sample sampleSets)
  disabled _ := false
  transport server := some ⟨server, false⟩
  defaultTransport := ⟨"default", false⟩
  defaultDomainStrategy := .asIS
  defaultRejectRcode := -1
  closing := false
  exchange launch _ _ _ := { response := some { id := BitVec.ofNat 16 launch } }

def sampleQuery : Query where
  message := { question := [⟨Bytes.ofString "a.", typeA, 1⟩] }
  question := ⟨Bytes.ofString "a.", typeA, 1⟩
  isQuestion := rfl
  metadata := {}
  options := {}
  allowFakeIP := false

def Exchange.calmNext (router : Router) (exchange : Exchange) : WalkAction → Option Exchange
  | .complete future => if exchange.overlooked future then none else exchange.complete future
  | action => exchange.next router action

theorem Exchange.calm_of_calmNext {exchange after : Exchange} {action : WalkAction}
    (taken : exchange.calmNext router action = some after) :
    exchange.next router action = some after ∧ exchange.Calm action := by
  cases action with
  | complete =>
    rw [calmNext] at taken
    split_ifs at taken with notOverlooked
    refine ⟨taken, ?_⟩
    rintro _ ⟨⟩
    exact Bool.eq_false_iff.mpr notOverlooked
  | _ => exact ⟨taken, nofun⟩

def waitingActions : List WalkAction :=
  replicate 11 .walk ++ [.complete 0, .send 0] ++ replicate 12 .walk

/-- The exchange completes when the walk has settled it and has not checked it. -/
def overlookedActions : List WalkAction :=
  replicate 5 .walk ++ [.complete 0] ++ replicate 10 .walk

theorem calm_walk_sequential_sample :
    ∃ exchange, Run (fun exchange action after =>
        exchange.next sampleRouter action = some after ∧ exchange.Calm action)
        (exchangeWithRules sampleQuery) waitingActions exchange ∧
      exchange.position = .returned { response := some {}, transport := some ⟨"up", false⟩ } ∧
      Sequential.Returns sampleRouter sampleQuery
        { response := some {}, transport := some ⟨"up", false⟩ } := by
  have run : ∃ exchange, Run (fun exchange action after =>
        exchange.calmNext sampleRouter action = some after)
        (exchangeWithRules sampleQuery) waitingActions exchange ∧
      exchange.position = .returned { response := some {}, transport := some ⟨"up", false⟩ } :=
    ⟨_, Run.of_execute rfl, rfl⟩
  rcases run with ⟨exchange, run, returned⟩
  have calmRun := run.mono Exchange.calm_of_calmNext
  have accepted : validateLegacyDNSModeDisabledRules sampleLookup sampleOptions = .ok [] := rfl
  have built : buildRules sampleRouter.lib sampleSets 0 sampleOptions = .ok sampleRouter.rules :=
    rfl
  have starts : Starts sampleQuery (exchangeWithRules sampleQuery) := .sync
  have sequential := calm_walk_sequential accepted (by decide) built starts
  exact ⟨exchange, calmRun, returned, sequential.1 calmRun returned⟩

theorem overlooked_walk_diverges :
    validateLegacyDNSModeDisabledRules sampleLookup sampleOptions = .ok [] ∧
      (∀ rule ∈ sampleOptions, rule.race = false) ∧
      buildRules sampleRouter.lib sampleSets 0 sampleOptions = .ok sampleRouter.rules ∧
      (∃ exchange, Run (fun exchange action after =>
          exchange.next sampleRouter action = some after)
          (exchangeWithRules sampleQuery) overlookedActions exchange ∧
        exchange.position =
          .returned { response := some { id := 1 }, transport := some ⟨"default", false⟩ }) ∧
      ¬ Sequential.Returns sampleRouter sampleQuery
        { response := some { id := 1 }, transport := some ⟨"default", false⟩ } := by
  refine ⟨rfl, by decide, rfl, ⟨_, Run.of_execute rfl, rfl⟩, ?_⟩
  intro returns
  have reference : Sequential.Returns sampleRouter sampleQuery
      { response := some {}, transport := some ⟨"up", false⟩ } := ⟨2, rfl⟩
  have same := returns.unique reference
  exact absurd same (by decide)

end SingBox.Dns
