import SingBox.Foundation.Netip
import SingBox.Foundation.Run

/-! # Refreshing the bypass policy

`refreshBypassRuleSetsLocked` of an inbound with a cgroup backend and a
shared-network backend. Whether a call of a backend fails is part of the input,
and a call that fails changes nothing in its backend.
-/

namespace SingBox.Ebpf.BypassRefresh

open Netip

/-- `BypassCIDRPolicy`. -/
structure Policy where
  ipv4 : List Prefix := []
  ipv6 : List Prefix := []

/-- The bypass state of `CgroupBackend`; a family may have no map. -/
structure CgroupBackend where
  hasIPv4 : Bool
  hasIPv6 : Bool
  bypassCIDR : Policy := {}

/-- The bypass state of `SharedNetworkBackend`, with its policy-presence flags. -/
structure SharedBackend where
  bypassIPv4Count : Nat := 0
  bypassIPv6Count : Nat := 0
  flagBypassIPv4 : Bool := false
  flagBypassIPv6 : Bool := false
  deriving DecidableEq

structure Inbound where
  bypassRuleSetPolicy : Policy := {}
  bypassRuleSetDirty : Bool := false
  backend : CgroupBackend
  sharedBackend : SharedBackend := {}

/-- What a backend without a map for a family holds of a policy. -/
def CgroupBackend.restrict (backend : CgroupBackend) (policy : Policy) : Policy where
  ipv4 := if backend.hasIPv4 then policy.ipv4 else []
  ipv6 := if backend.hasIPv6 then policy.ipv6 else []

def CgroupBackend.updateCompiledBypassCIDR (backend : CgroupBackend) (policy : Policy) :
    CgroupBackend :=
  { backend with bypassCIDR := backend.restrict policy }

/-- `SetBypassCIDRState` with `updatePolicyFlagsLocked`. -/
def setBypassCIDRState (ipv4Count ipv6Count : Nat) : SharedBackend where
  bypassIPv4Count := ipv4Count
  bypassIPv6Count := ipv6Count
  flagBypassIPv4 := ipv4Count ≠ 0
  flagBypassIPv6 := ipv6Count ≠ 0

/-- An update of the rule-sets with the compiled policy, if it can be compiled, or
of the interfaces, and which calls of the backends fail. -/
structure Update where
  ruleSets : Option (Option Policy)
  hostAddressesFail : Bool := false
  cgroupFails : Bool := false
  sharedFails : Bool := false

def Inbound.updateBackends (inbound : Inbound) (update : Update) : Inbound :=
  if update.hostAddressesFail || !inbound.bypassRuleSetDirty || update.cgroupFails then inbound
  else
    let backend := inbound.backend.updateCompiledBypassCIDR inbound.bypassRuleSetPolicy
    { inbound with
      bypassRuleSetDirty := false
      backend := backend
      sharedBackend :=
        if update.sharedFails then inbound.sharedBackend
        else setBypassCIDRState backend.bypassCIDR.ipv4.length backend.bypassCIDR.ipv6.length }

def Inbound.refreshBypassRuleSets (inbound : Inbound) (update : Update) : Inbound :=
  match update.ruleSets with
  | none => inbound.updateBackends update
  | some none => inbound
  | some (some policy) =>
    { inbound with
      bypassRuleSetPolicy := policy
      bypassRuleSetDirty := true }.updateBackends update

/-- Both backends have the last compiled policy, unless it is marked as dirty. -/
def Inbound.Remembered (inbound : Inbound) : Prop :=
  inbound.bypassRuleSetDirty = false →
    inbound.backend.bypassCIDR = inbound.backend.restrict inbound.bypassRuleSetPolicy ∧
    inbound.sharedBackend = setBypassCIDRState inbound.backend.bypassCIDR.ipv4.length
      inbound.backend.bypassCIDR.ipv6.length

variable {inbound : Inbound}

theorem Inbound.Remembered.updateBackends (remembered : inbound.Remembered) {update : Update}
    (works : update.sharedFails = false) :
    (inbound.updateBackends update).Remembered := by
  rw [Inbound.updateBackends]
  split
  · exact remembered
  intro _
  rw [works]
  exact ⟨rfl, rfl⟩

def Inbound.new (hasIPv4 hasIPv6 : Bool) : Inbound where
  backend := { hasIPv4 := hasIPv4, hasIPv6 := hasIPv6 }

def Inbound.Step (inbound : Inbound) (update : Update) (after : Inbound) : Prop :=
  after = inbound.refreshBypassRuleSets update

def Inbound.CalmStep (inbound : Inbound) (update : Update) (after : Inbound) : Prop :=
  update.sharedFails = false ∧ inbound.Step update after

/-- As long as no call of `SetBypassCIDRState` fails, a policy that a backend does
not have is marked as dirty. -/
theorem remembered_of_run {hasIPv4 hasIPv6 : Bool} {updates : List Update} {inbound : Inbound}
    (run : Run Inbound.CalmStep (.new hasIPv4 hasIPv6) updates inbound) : inbound.Remembered := by
  apply run.preserves
  · intro _
    cases hasIPv4 <;> cases hasIPv6 <;> exact ⟨rfl, rfl⟩
  · rintro _ _ _ remembered ⟨works, rfl⟩
    rw [Inbound.refreshBypassRuleSets]
    split
    · exact remembered.updateBackends works
    · exact remembered
    · refine Inbound.Remembered.updateBackends (fun isClean => ?_) works
      cases isClean

def oneCIDR : Policy := { ipv4 := [.from (.v4 0x0a000000) 8] }

theorem remembered_of_run_retried :
    ∃ inbound, Run Inbound.CalmStep (.new true true)
        [{ ruleSets := some (some oneCIDR), cgroupFails := true }, { ruleSets := none }] inbound ∧
      inbound.bypassRuleSetDirty = false ∧ inbound.Remembered := by
  have run : Run Inbound.CalmStep (.new true true) ([] ++
      [{ ruleSets := some (some oneCIDR), cgroupFails := true }] ++ [{ ruleSets := none }]) _ :=
    .extend (.extend .start ⟨rfl, rfl⟩) ⟨rfl, rfl⟩
  exact ⟨_, run, rfl, remembered_of_run run⟩

/-- The shared backend keeps saying that there is no policy. -/
theorem refresh_forgotten :
    ∃ inbound, Run Inbound.Step (.new true true)
        [{ ruleSets := some (some oneCIDR), sharedFails := true }, { ruleSets := none }] inbound ∧
      inbound.bypassRuleSetDirty = false ∧ inbound.backend.bypassCIDR.ipv4.length = 1 ∧
      inbound.sharedBackend = {} :=
  ⟨_, .extend (.extend .start rfl) rfl, rfl, rfl, rfl⟩

end SingBox.Ebpf.BypassRefresh
