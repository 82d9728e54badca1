import Mathlib.Data.List.MinMax

/-! # Selection of a URL test group

`URLTestGroup.Select` goes through the outbounds once, for the fallback mode and
for the mode of the lowest delay alike. It starts from the outbound that is
selected already, and a delay of zero counts as none.
-/

namespace SingBox.Group

open List Option

/-- An outbound; the history of a group is the one of its current member. -/
structure Outbound where
  tag : String
  realTag : String
  network : List String
  deriving DecidableEq

abbrev Tested := Outbound × BitVec 16

structure URLTestFallback where
  enabled : Bool
  maxDelay : BitVec 16

structure URLTestGroup where
  outbounds : List Outbound
  history : String → Option (BitVec 16)
  tolerance : BitVec 16
  selectedOutboundTCP : Option Outbound
  selectedOutboundUDP : Option Outbound
  fallback : URLTestFallback

/-- The variables of the loop; a delay of zero means that there is none. -/
structure Search where
  minDelay : BitVec 16 := 0
  minOutbound : Option Outbound := none
  ignoreDelay : BitVec 16 := 0
  ignoreOutbound : Option Outbound := none

namespace Search

def take (found : Search) (result : Tested) : Search :=
  { found with minDelay := result.2, minOutbound := result.1 }

/-- An outbound that is too slow is kept if it is the fastest of these. -/
def ignore (found : Search) (result : Tested) : Search :=
  if found.ignoreDelay = 0#16 ∨ result.2 < found.ignoreDelay then
    { found with ignoreDelay := result.2, ignoreOutbound := result.1 }
  else found

end Search

namespace URLTestGroup

variable (group : URLTestGroup) (network : String)

def loadHistory (outbound : Outbound) : Option Tested :=
  (group.history outbound.realTag).map (outbound, ·)

def selectedOutbound : Option Outbound :=
  if network = "tcp" then group.selectedOutboundTCP
  else if network = "udp" then group.selectedOutboundUDP
  else none

/-- The selected outbound, if it has a result. -/
def seed : Option Tested := (group.selectedOutbound network).bind group.loadHistory

def tested : List Tested :=
  (group.outbounds.filter fun detour => network ∈ detour.network).filterMap group.loadHistory

def eliminates (result : Tested) : Bool :=
  group.fallback.enabled && 0 < group.fallback.maxDelay && group.fallback.maxDelay < result.2

def search : List Tested → Search → Search
  | [], found => found
  | result :: results, found =>
    if group.eliminates result then search results (found.ignore result)
    else if group.fallback.enabled then
      if result.2 = 0#16 then search results (found.take result) else found.take result
    else if found.minDelay = 0#16 ∨ result.2 + group.tolerance < found.minDelay then
      search results (found.take result)
    else search results found

/-- The loop of `Select`, from the selected outbound on. -/
def searched : Search :=
  group.search (group.tested network) (((group.seed network).map (Search.take {})).getD {})

/-- `Select`: the outbound, and whether it has a result. -/
def select : Option Outbound × Bool :=
  match (group.searched network).minOutbound, (group.searched network).ignoreOutbound with
  | some outbound, _ | none, some outbound => (outbound, true)
  | none, none => (group.outbounds.find? fun detour => network ∈ detour.network, false)

/-! ## The documented choice -/

def accepted : List Tested := (group.tested network).filter fun result => !group.eliminates result

def eliminated : List Tested := (group.tested network).filter group.eliminates

/-- What is to be chosen if no outbound is accepted. -/
def LastResort (outbound : Option Outbound) : Prop :=
  if group.eliminated network = [] then
    outbound = group.outbounds.find? fun detour => network ∈ detour.network
  else
    ∃ lowest ∈ group.eliminated network, outbound = some lowest.1 ∧
      ∀ other ∈ group.eliminated network, lowest.2 ≤ other.2

def Documented (outbound : Option Outbound) : Prop :=
  match group.accepted network with
  | first :: _ => outbound = some first.1
  | [] => group.LastResort network outbound

/-- The first accepted outbound has a delay other than zero, or all of them have
the delay zero and it is also the last. If none is accepted, the selected
outbound has no result or is the right one. -/
def Regular : Prop :=
  match group.accepted network with
  | first :: others =>
    first.2 = 0#16 → (∀ other ∈ others, other.2 = 0#16) ∧ (others.getLastD first).1 = first.1
  | [] => ∀ seed ∈ group.seed network, group.LastResort network (some seed.1)

/-! ## The loop -/

variable {group network} {results : List Tested} {found : Search}

/-- Which of the accepted outbounds is taken in the end. -/
def pick : List Tested → Option Outbound → Option Outbound
  | [], last => last
  | result :: results, _ => if result.2 = 0#16 then pick results result.1 else result.1

theorem search_minOutbound (isEnabled : group.fallback.enabled = true) :
    (group.search results found).minOutbound =
      pick (results.filter fun result => !group.eliminates result) found.minOutbound := by
  induction results generalizing found with
  | nil => rfl
  | cons result _ induction =>
    rw [search]
    cases isEliminated : group.eliminates result with
    | true =>
      have sameMin : (found.ignore result).minOutbound = found.minOutbound := by
        rw [Search.ignore]
        split <;> rfl
      simp [isEliminated, induction, sameMin]
    | false =>
      rw [filter_cons_of_pos (by simp [isEliminated]), pick]
      simp only [isEnabled, Bool.false_eq_true, if_false, if_true]
      split
      · exact induction
      · rfl

theorem pick_or_eq_iff {last : Tested} {target : Outbound} {other : Option Outbound}
    (areTested : ∀ result ∈ results, result.1 = target → result.2 = 0#16) :
    (pick results last.1).or other = target ↔
      (∀ result ∈ results, result.2 = 0#16) ∧ (results.getLastD last).1 = target := by
  induction results generalizing last with
  | nil => simp [pick]
  | cons _ _ induction =>
    rcases forall_mem_cons.mp areTested with ⟨isTested, areTested⟩
    rw [pick, forall_mem_cons, getLastD_cons]
    split
    · next isZero => simp [induction areTested, isZero]
    · next notZero => simp [notZero, mt isTested notZero]

theorem search_ignoreOutbound (areEliminated : ∀ result ∈ results, group.eliminates result = true)
    {kept : Option Tested} (notZero : ∀ result ∈ kept, result.2 ≠ 0#16)
    (isOutbound : found.ignoreOutbound = kept.map Prod.fst)
    (isDelay : found.ignoreDelay = (kept.map Prod.snd).getD 0#16) :
    (group.search results found).ignoreOutbound =
      (results.foldl (argAux fun result other => result.2.toNat < other.2.toNat) kept).map
        Prod.fst := by
  induction results generalizing found kept with
  | nil => exact isOutbound
  | cons result _ induction =>
    rcases forall_mem_cons.mp areEliminated with ⟨isEliminated, areEliminated⟩
    have isPositive : result.2 ≠ 0#16 := by
      intro isZero
      simp [eliminates, isZero] at isEliminated
    rw [search, if_pos isEliminated, foldl_cons]
    have isNew : ∀ other ∈ some result, other.2 ≠ 0#16 := by simpa using isPositive
    rw [Search.ignore, isDelay]
    cases kept with
    | none => exact induction areEliminated isNew rfl rfl
    | some other =>
      simp only [argAux, map_some, getD_some, notZero other rfl, false_or,
        BitVec.lt_def]
      split
      · exact induction areEliminated isNew rfl rfl
      · exact induction areEliminated notZero isOutbound isDelay

theorem select_fst :
    (group.select network).1 =
      (group.searched network).minOutbound.or ((group.searched network).ignoreOutbound.or
        (group.outbounds.find? fun detour => network ∈ detour.network)) := by
  rw [select]
  split <;> simp [*]

theorem searched_minOutbound (isEnabled : group.fallback.enabled = true) :
    (group.searched network).minOutbound =
      pick (group.accepted network) ((group.seed network).map Prod.fst) := by
  rw [searched, search_minOutbound isEnabled]
  cases group.seed network <;> rfl

theorem lastResort_of_none (noneAccepted : group.accepted network = [])
    (noSeed : group.seed network = none) :
    group.LastResort network ((group.searched network).ignoreOutbound.or
      (group.outbounds.find? fun detour => network ∈ detour.network)) := by
  have areEliminated : ∀ result ∈ group.tested network, group.eliminates result = true := by
    simpa [accepted, filter_eq_nil_iff] using noneAccepted
  have isEliminated : group.eliminated network = group.tested network :=
    filter_eq_self.mpr areEliminated
  rw [LastResort, isEliminated, searched, noSeed]
  have noneKept : ∀ result ∈ (none : Option Tested), result.2 ≠ 0#16 := by simp
  have isKept : (group.search (group.tested network) {}).ignoreOutbound = _ :=
    search_ignoreOutbound areEliminated noneKept rfl rfl
  rw [map_none, getD_none, isKept]
  split
  · next isEmpty => simp [isEmpty]
  next notEmpty =>
  cases isLowest : (group.tested network).argmin fun result => result.2.toNat with
  | none => exact absurd (argmin_eq_none.mp isLowest) notEmpty
  | some lowest =>
    refine ⟨lowest, argmin_mem isLowest, ?_, fun other member => le_of_mem_argmin member isLowest⟩
    rw [argmin] at isLowest
    simp [isLowest]

theorem loadHistory_fst {outbound : Outbound} {result : Tested}
    (isLoaded : group.loadHistory outbound = some result) :
    group.loadHistory result.1 = some result := by
  rcases map_eq_some_iff.mp isLoaded with ⟨_, -, rfl⟩
  exact isLoaded

/-- With the fallback enabled the choice is the documented one exactly in the
regular case. -/
theorem select_documented_iff (isEnabled : group.fallback.enabled = true) :
    group.Documented network (group.select network).1 ↔ group.Regular network := by
  rw [select_fst, searched_minOutbound isEnabled, Documented, Regular]
  cases isAccepted : group.accepted network with
  | nil =>
    cases isSeed : group.seed network with
    | none => simpa [pick] using lastResort_of_none isAccepted isSeed
    | some => simp [pick]
  | cons first others =>
    have areTested : ∀ result ∈ first :: others,
        group.history result.1.realTag = some result.2 := by
      intro result member
      rw [← isAccepted] at member
      rcases mem_filterMap.mp (mem_of_mem_filter member) with ⟨_, -, isLoaded⟩
      rcases map_eq_some_iff.mp isLoaded with ⟨_, isDelay, rfl⟩
      exact isDelay
    rcases forall_mem_cons.mp areTested with ⟨isTested, areTested⟩
    dsimp only
    rw [pick]
    split
    · next isZero =>
      rw [pick_or_eq_iff, iff_true_intro isZero, true_imp_iff]
      intro result member sameOutbound
      have isDelay := areTested result member
      rw [sameOutbound, isTested] at isDelay
      rw [← some.inj isDelay, isZero]
    · next notZero => simp [notZero]

def sample (delay : BitVec 16) : URLTestGroup where
  outbounds := [⟨"a", "a", ["tcp"]⟩, ⟨"b", "b", ["tcp"]⟩]
  history tag := if tag = "a" then delay else some 100
  tolerance := 50
  selectedOutboundTCP := none
  selectedOutboundUDP := none
  fallback := ⟨true, 0⟩

theorem select_documented_fast : (sample 20).Documented "tcp" ((sample 20).select "tcp").1 :=
  (select_documented_iff rfl).mpr fun isZero => absurd isZero (by decide)

/-- An outbound with the delay zero is passed over. -/
theorem select_zero_delay : ¬(sample 0).Documented "tcp" ((sample 0).select "tcp").1 := by
  intro isFirst
  exact absurd (show some (⟨"b", "b", ["tcp"]⟩ : Outbound) = some ⟨"a", "a", ["tcp"]⟩ from isFirst)
    (by decide)

/-! ## The lowest delay -/

variable (group network) in
/-- A delay within the tolerance of all candidates, as integers. -/
def Tolerable (delay : BitVec 16) : Prop :=
  ∀ other ∈ group.tested network, delay.toNat ≤ other.2.toNat + group.tolerance.toNat

/-- The comparisons of the loop are those of integers: where another outbound is
held, its delay is not the one that means none, and the sum does not wrap around
to below it. The first candidate is taken without a comparison. -/
def Compared (group : URLTestGroup) : List Tested → Option Tested → Prop
  | [], _ => True
  | result :: results, none => Compared group results result
  | result :: results, some best =>
    let sum := result.2.toNat + group.tolerance.toNat
    (result ≠ best → best.2 ≠ 0#16 ∧ (sum < 65536 ∨ best.2.toNat + 65536 ≤ sum)) ∧
      Compared group results (if sum < best.2.toNat then result else best)

section

variable (notEnabled : group.fallback.enabled = false)
include notEnabled

theorem search_lowest {best : Tested} (compared : group.Compared results best)
    (isDelay : found.minDelay = best.2) (isOutbound : found.minOutbound = some best.1) :
    ∃ lowest : Tested, (group.search results found).minOutbound = some lowest.1 ∧
      (lowest = best ∨ lowest ∈ results) ∧ lowest.2.toNat ≤ best.2.toNat ∧
      (∀ other ∈ results, lowest.2.toNat ≤ other.2.toNat + group.tolerance.toNat) ∧
      ((∀ other ∈ results, best.2.toNat ≤ other.2.toNat + group.tolerance.toNat) →
        lowest = best) := by
  induction results generalizing found best with
  | nil => exact ⟨best, isOutbound, .inl rfl, Nat.le_refl _, by simp, fun _ => rfl⟩
  | cons result results induction =>
    rcases compared with ⟨isCompared, compared⟩
    simp only [search, eliminates, notEnabled, Bool.false_and, Bool.false_eq_true, if_false,
      isDelay, forall_mem_cons]
    by_cases isLower : result.2.toNat + group.tolerance.toNat < best.2.toNat
    · have isSum : (result.2 + group.tolerance).toNat = result.2.toNat + group.tolerance.toNat :=
        BitVec.toNat_add_of_lt (isLower.trans best.2.isLt)
      rw [if_pos isLower] at compared
      rw [if_pos (.inr (by rwa [BitVec.lt_def, isSum]))]
      rcases @induction (found.take result) result compared rfl rfl with
        ⟨lowest, isLowest, member, atMost, within, -⟩
      refine ⟨lowest, isLowest, .inr ?_, by omega, ⟨by omega, within⟩, by omega⟩
      exact member.elim (· ▸ mem_cons_self) (mem_cons_of_mem _)
    · -- the outbound that is held may only be replaced by itself
      have isKept : ∃ after : Search, after.minDelay = best.2 ∧ after.minOutbound = some best.1 ∧
          (if best.2 = 0#16 ∨ result.2 + group.tolerance < best.2 then
            group.search results (found.take result) else group.search results found) =
          group.search results after := by
        split
        · next isTaken =>
          have isBest : result = best := by
            by_contra isOther
            rcases isCompared isOther with ⟨notZero, fits⟩
            have wraps := isTaken.resolve_left notZero
            rw [BitVec.lt_def, BitVec.toNat_add] at wraps
            omega
          exact ⟨found.take result, by rw [isBest]; rfl, by rw [isBest]; rfl, rfl⟩
        · exact ⟨found, isDelay, isOutbound, rfl⟩
      rcases isKept with ⟨after, isDelay, isOutbound, isSearched⟩
      rw [if_neg isLower] at compared
      rw [isSearched]
      rcases induction compared isDelay isOutbound with
        ⟨lowest, isLowest, member, atMost, within, keeps⟩
      exact ⟨lowest, isLowest, member.imp_right (mem_cons_of_mem _), atMost, ⟨by omega, within⟩,
        fun tolerable => keeps tolerable.2⟩

/-- Without the fallback the choice is within the tolerance, and the selected
outbound is kept if it is. -/
theorem select_tolerable (compared : group.Compared (group.tested network) (group.seed network))
    (isTested : group.tested network ≠ []) :
    (∃ result : Tested, group.select network = (some result.1, true) ∧
        group.loadHistory result.1 = some result ∧ group.Tolerable network result.2) ∧
      ∀ seed ∈ group.seed network, group.Tolerable network seed.2 →
        group.select network = (some seed.1, true) := by
  have isSelected : ∀ {result : Tested}, (group.searched network).minOutbound = some result.1 →
      group.select network = (some result.1, true) := by
    intro result isFound
    rw [select, isFound]
  have areLoaded : ∀ result ∈ group.tested network, group.loadHistory result.1 = some result := by
    intro result member
    rcases mem_filterMap.mp member with ⟨_, -, isLoaded⟩
    exact loadHistory_fst isLoaded
  rw [searched] at isSelected
  cases isSeed : group.seed network with
  | some seed =>
    rw [isSeed] at isSelected compared
    rcases @search_lowest group _ (Search.take {} seed) notEnabled seed compared rfl rfl with
      ⟨lowest, isLowest, member, -, within, keeps⟩
    refine ⟨⟨lowest, isSelected isLowest, ?_, within⟩, ?_⟩
    · rcases member with rfl | member
      · rcases Option.bind_eq_some_iff.mp isSeed with ⟨_, -, isLoaded⟩
        exact loadHistory_fst isLoaded
      · exact areLoaded lowest member
    · rintro _ ⟨⟩ tolerable
      rw [← keeps tolerable]
      exact isSelected isLowest
  | none =>
    obtain ⟨first, others, isCons⟩ := exists_cons_of_ne_nil isTested
    rw [isSeed, isCons] at isSelected compared
    rw [isCons, forall_mem_cons] at areLoaded
    rcases @search_lowest group _ (Search.take {} first) notEnabled first compared rfl rfl with
      ⟨lowest, isLowest, member, atMost, within, -⟩
    refine ⟨⟨lowest, isSelected ?_, ?_, ?_⟩, nofun⟩
    · simpa [search, eliminates, notEnabled] using isLowest
    · exact member.elim (· ▸ areLoaded.1) (areLoaded.2 lowest)
    · rw [Tolerable, isCons, forall_mem_cons]
      exact ⟨by omega, within⟩

end

/-- The slow outbound comes first: nothing is added to its delay. -/
def slowFirst : URLTestGroup := { sample 65500 with fallback := ⟨false, 0⟩ }

theorem select_tolerable_slowFirst :
    ∃ result : Tested, slowFirst.select "tcp" = (some result.1, true) ∧
      slowFirst.loadHistory result.1 = some result ∧ slowFirst.Tolerable "tcp" result.2 := by
  have compared : slowFirst.Compared (slowFirst.tested "tcp") none := ⟨fun _ => by decide, trivial⟩
  exact (select_tolerable rfl compared (by decide)).1

def tolerant (slow : BitVec 16) : URLTestGroup :=
  { sample slow with
    outbounds := [⟨"b", "b", ["tcp"]⟩, ⟨"a", "a", ["tcp"]⟩], fallback := ⟨false, 0⟩ }

/-- The sum of the delay and the tolerance is less than the tolerance. -/
theorem select_wrapped_sum :
    (tolerant 65500).select "tcp" = (some ⟨"a", "a", ["tcp"]⟩, true) ∧
      (tolerant 65500).history "a" = some 65500 ∧ (tolerant 65500).history "b" = some 100 ∧
      ¬ (tolerant 65500).Tolerable "tcp" 65500 :=
  ⟨by decide, rfl, rfl, by unfold Tolerable; decide⟩

end URLTestGroup

end SingBox.Group
