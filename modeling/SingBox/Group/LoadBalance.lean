import Mathlib.Data.List.Rotate

/-! # Round-robin load balancing

A selection takes the first alive outbound at or after an index, modulo the
length of the list. Read from the index on, the alive entries of the list are a
queue: a selection returns its head, and one that touches moves it to the end.
-/

namespace SingBox.Group

open List

variable {Outbound : Type}

/-- The variables that selections share. -/
structure RoundRobin where
  idx : Nat := 0
  fallbackIdx : BitVec 32 := 0

structure Selection (Outbound : Type) where
  touch : Bool
  matcher : Option (Outbound → Bool) := none

namespace RoundRobin

variable (outbounds : List Outbound) (alive : Outbound → Bool)

/-- `nextFallback`, for a list without alive outbounds. -/
def nextFallback (state : RoundRobin) (selection : Selection Outbound) :
    Option Outbound × RoundRobin :=
  let nextIndex := state.fallbackIdx + 1
  match outbounds[nextIndex.toNat % outbounds.length]? with
  | none => (none, state)
  | some outbound =>
    if selection.matcher.any (!· outbound) then (none, state)
    else if selection.matcher.isNone || selection.touch then
      (outbound, { state with fallbackIdx := nextIndex })
    else (outbound, state)

/-- The loop of `strategyRoundRobin`: the first alive outbound, and `i` behind it. -/
def scan (idx : Nat) : Option (Nat × Outbound) :=
  let proxy (i : Nat) := outbounds[(idx + i) % outbounds.length]?
  ((range outbounds.length).find? fun i => (proxy i).any alive).bind fun i =>
    (proxy i).map (i + 1, ·)

/-- The function that `strategyRoundRobin` returns. -/
def strategyRoundRobin (state : RoundRobin) (selection : Selection Outbound) :
    Option Outbound × RoundRobin :=
  match scan outbounds alive state.idx with
  | none => nextFallback outbounds state selection
  | some (i, proxy) =>
    if selection.matcher.any (!· proxy) then (none, state)
    else if selection.touch then
      (proxy, { state with idx := (state.idx + i) % outbounds.length })
    else (proxy, state)

/-- The results of the touching ones of several selections. -/
def touched : RoundRobin → List (Selection Outbound) → List (Option Outbound)
  | _, [] => []
  | state, selection :: selections =>
    let (result, after) := strategyRoundRobin outbounds alive state selection
    if selection.touch then result :: touched after selections else touched after selections

/-- The alive entries, from the index on. -/
def queue (idx : Nat) : List Outbound := (outbounds.rotate idx).filter alive

variable {outbounds alive} {state : RoundRobin} {others : List Outbound} {first : Outbound}

theorem scan_of_queue {idx : Nat} (isQueue : queue outbounds alive idx = first :: others) :
    ∃ i, scan outbounds alive idx = some (i, first) ∧
      queue outbounds alive ((idx + i) % outbounds.length) = others ++ [first] := by
  obtain ⟨dead, rest, isRotated, areDead, isAlive, rfl⟩ := filter_eq_cons_iff.mp isQueue
  have isLength : outbounds.length = dead.length + (rest.length + 1) := by
    rw [← length_rotate outbounds idx, isRotated, length_append, length_cons]
  have isEntry : ∀ i < outbounds.length,
      outbounds[(idx + i) % outbounds.length]? = (dead ++ first :: rest)[i]? := by
    intro i inside
    rw [← isRotated, getElem?_rotate inside, Nat.add_comm]
  have isFirst : outbounds[(idx + dead.length) % outbounds.length]? = some first := by
    rw [isEntry _ (by omega)]
    simp
  refine ⟨dead.length + 1, ?_, ?_⟩
  · have isFound : ((range outbounds.length).find? fun i =>
        outbounds[(idx + i) % outbounds.length]?.any alive) = some dead.length := by
      rw [find?_range_eq_some]
      refine ⟨by simp [isFirst, isAlive], mem_range.mpr (by omega), fun j before => ?_⟩
      rw [isEntry j (by omega), getElem?_append_left before, getElem?_eq_getElem before]
      simp [areDead _ (getElem_mem before)]
    rw [scan, isFound, Option.bind_some]
    exact congrArg (Option.map _) isFirst
  · have isNext := rotate_append_length_eq (dead ++ [first]) rest
    rw [append_assoc, singleton_append, length_append, length_singleton] at isNext
    rw [queue, rotate_mod, ← rotate_rotate, isRotated, isNext]
    simp [filter_eq_nil_iff.mpr areDead, isAlive]

section

variable {selections : List (Selection Outbound)}
  (accepted : ∀ selection ∈ selections, ∀ matcher ∈ selection.matcher, ∀ outbound ∈ outbounds,
    matcher outbound = true)
include accepted

theorem exists_strategyRoundRobin (isSome : queue outbounds alive state.idx ≠ [])
    {selection : Selection Outbound} (member : selection ∈ selections) :
    ∃ first others after, queue outbounds alive state.idx = first :: others ∧
      strategyRoundRobin outbounds alive state selection = (some first, after) ∧
      (selection.touch = false → after = state) ∧
      queue outbounds alive after.idx =
        if selection.touch then others ++ [first] else first :: others := by
  obtain ⟨first, others, isQueue⟩ := exists_cons_of_ne_nil isSome
  rcases scan_of_queue isQueue with ⟨i, isScanned, isNext⟩
  have isFirst : first ∈ queue outbounds alive state.idx := isQueue ▸ mem_cons_self
  have isOutbound : first ∈ outbounds := mem_rotate.mp (mem_of_mem_filter isFirst)
  have notRejected : ¬ selection.matcher.any (!· first) = true := by
    cases isMatcher : selection.matcher with
    | none => simp
    | some matcher => simp [accepted selection member matcher isMatcher first isOutbound]
  rw [strategyRoundRobin, isScanned]
  dsimp only
  rw [if_neg notRejected]
  split
  · next touches => exact ⟨first, others, _, isQueue, rfl, by simp [touches], isNext⟩
  · exact ⟨first, others, _, isQueue, rfl, fun _ => rfl, isQueue⟩

theorem touched_eq (isSome : queue outbounds alive state.idx ≠ [])
    (enough : selections.countP (·.touch) ≤ (queue outbounds alive state.idx).length) :
    touched outbounds alive state selections =
      ((queue outbounds alive state.idx).take (selections.countP (·.touch))).map some := by
  induction selections generalizing state with
  | nil => rfl
  | cons selection selections induction =>
    rcases exists_strategyRoundRobin accepted isSome mem_cons_self with
      ⟨first, others, after, isQueue, isSelected, -, isNext⟩
    have accepted := (forall_mem_cons.mp accepted).2
    rw [touched, isSelected]
    rw [isQueue, countP_cons] at enough
    dsimp only
    split at isNext
    · next touches =>
      rw [if_pos touches] at enough ⊢
      rw [length_cons] at enough
      rw [induction accepted (by simp [isNext]) (by simp [isNext]; omega), isNext, isQueue,
        countP_cons_of_pos touches, take_succ_cons, map_cons, take_append_of_le_length (by omega)]
    · next notTouched =>
      rw [if_neg notTouched] at enough ⊢
      rw [induction accepted (by simp [isNext]) (by rw [isNext]; exact enough), isNext, isQueue,
        countP_cons_of_neg notTouched]

/-- As many touching selections as there are alive entries return each of them
once, in the order of the list from the index on. Selections that do not touch may
come in between: whatever the index is, each returns an alive outbound and changes
nothing. -/
theorem touched_fair (isAlive : ∃ outbound ∈ outbounds, alive outbound = true)
    (isRound : selections.countP (·.touch) = (outbounds.filter alive).length) :
    (queue outbounds alive state.idx).Perm (outbounds.filter alive) ∧
    touched outbounds alive state selections = (queue outbounds alive state.idx).map some ∧
    ∀ selection ∈ selections, selection.touch = false → ∀ state,
      ∃ outbound ∈ outbounds.filter alive,
        strategyRoundRobin outbounds alive state selection = (some outbound, state) := by
  have isOrder (idx : Nat) : (queue outbounds alive idx).Perm (outbounds.filter alive) :=
    (rotate_perm outbounds idx).filter alive
  have isSome (idx : Nat) : queue outbounds alive idx ≠ [] := by
    rcases isAlive with ⟨outbound, member, isAlive⟩
    exact ne_nil_of_mem ((isOrder idx).mem_iff.mpr (mem_filter.mpr ⟨member, isAlive⟩))
  refine ⟨isOrder state.idx, ?_, fun selection member notTouched state => ?_⟩
  · rw [touched_eq accepted (isSome state.idx) (by rw [isRound, (isOrder state.idx).length_eq]),
      isRound, ← (isOrder state.idx).length_eq, take_length]
  · rcases exists_strategyRoundRobin accepted (isSome state.idx) member with
      ⟨first, others, after, isQueue, isSelected, isSame, -⟩
    rw [isSame notTouched] at isSelected
    exact ⟨first, (isOrder state.idx).mem_iff.mp (isQueue ▸ mem_cons_self), isSelected⟩

end

theorem touched_fair_skipping :
    touched [0, 1, 2] (· != 1) ⟨2, 0⟩ [⟨true, none⟩, ⟨false, none⟩, ⟨true, none⟩] =
      [some 2, some 0] :=
  (touched_fair (by simp) ⟨0, by simp⟩ rfl).2.1

/-- An outbound that is listed twice is returned twice before another one. -/
theorem touched_listed_twice :
    touched [0, 0, 1] (fun _ => true) {} [⟨true, none⟩, ⟨true, none⟩] = [some 0, some 0] :=
  rfl

end RoundRobin

end SingBox.Group
