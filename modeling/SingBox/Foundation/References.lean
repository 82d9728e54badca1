import Mathlib.Data.List.Nodup

/-! # Reference counts

A count for each key. Keys without an entry have the count zero, so that a map
whose entries are deleted with their last reference is a function to numbers.
-/

namespace SingBox.References

open Function List

variable {Key : Type u} [DecidableEq Key] {references : Key → Nat} {key other : Key}

def retain (references : Key → Nat) (key : Key) : Key → Nat :=
  update references key (references key + 1)

/-- Gives a reference back, and says whether it was the last one. -/
def release (references : Key → Nat) (key : Key) : Bool × (Key → Nat) :=
  match references key with
  | 0 => (false, references)
  | 1 => (true, update references key 0)
  | count + 2 => (false, update references key (count + 1))

@[simp] theorem retain_self : retain references key key = references key + 1 :=
  update_self ..

theorem retain_of_ne (different : other ≠ key) : retain references key other = references other :=
  update_of_ne different ..

theorem retain_apply (references : Key → Nat) (key other : Key) :
    retain references key other = references other + if other = key then 1 else 0 := by
  by_cases same : other = key
  · simp [same]
  · simp [same, retain_of_ne same]

theorem release_apply (references : Key → Nat) (key other : Key) :
    (release references key).2 other = references other - if other = key then 1 else 0 := by
  rw [release]
  by_cases same : other = key
  · split <;> simp_all
  · split <;> simp [same]

theorem release_isLast (references : Key → Nat) (key : Key) :
    (release references key).1 = decide (references key = 1) := by
  rw [release]
  split <;> simp [*]

theorem release_last (isLast : references key = 1) :
    release references key = (true, update references key 0) := by
  rw [release, isLast]

theorem release_retain (references : Key → Nat) (key : Key) :
    (release (retain references key) key).2 = references := by
  funext other
  rw [release_apply, retain_apply]
  split <;> omega

section

variable {Thing : Type v} (keyOf : Thing → Key)

/-- Gives back the reference of each thing, and collects the things whose
reference was the last one. -/
def releaseEach (references : Key → Nat) : List Thing → List Thing × (Key → Nat)
  | [] => ([], references)
  | thing :: things =>
    let (isLast, references) := release references (keyOf thing)
    let (released, references) := releaseEach references things
    (if isLast then thing :: released else released, references)

theorem releaseEach_apply (references : Key → Nat) (things : List Thing) (key : Key) :
    (releaseEach keyOf references things).2 key =
      references key - (things.map keyOf).count key := by
  induction things generalizing references with
  | nil => rfl
  | cons thing things induction =>
    simp only [releaseEach, induction, release_apply, map_cons, count_cons]
    grind

/-- A key is collected once if its things had all of its references. -/
theorem count_releaseEach (references : Key → Nat) (things : List Thing) (key : Key) :
    ((releaseEach keyOf references things).1.map keyOf).count key =
      if 0 < references key ∧ references key ≤ (things.map keyOf).count key then 1 else 0 := by
  induction things generalizing references with
  | nil =>
    rw [if_neg (by simp; omega)]
    rfl
  | cons thing things induction =>
    have step := induction (release references (keyOf thing)).2
    rw [release_apply] at step
    simp only [releaseEach, release_isLast, decide_eq_true_eq, map_cons, count_cons,
      beq_iff_eq]
    by_cases same : keyOf thing = key
    · subst same
      rw [if_pos rfl] at step ⊢
      split
      · next isLast =>
        simp [step, isLast]
      · rw [step]
        grind
    · rw [if_neg (Ne.symm same)] at step
      rw [if_neg same, Nat.add_zero, ← Nat.sub_zero (references key), ← step]
      split
      · rw [map_cons, count_cons_of_ne same]
      · rfl

/-- Where each thing has the only reference of its key, all of them are
collected and no reference of theirs is left. -/
theorem releaseEach_of_single {things : List Thing} (distinct : (things.map keyOf).Nodup)
    (single : ∀ thing ∈ things, references (keyOf thing) = 1) :
    releaseEach keyOf references things =
      (things, fun key => if key ∈ things.map keyOf then 0 else references key) := by
  induction things generalizing references with
  | nil => simp [releaseEach]
  | cons thing things induction =>
    rw [map_cons, nodup_cons] at distinct
    have isLast := single thing (mem_cons_self ..)
    have others : ∀ other ∈ things,
        update references (keyOf thing) 0 (keyOf other) = 1 := by
      intro other member
      have different : keyOf other ≠ keyOf thing := by
        intro same
        exact distinct.1 (same ▸ mem_map_of_mem member)
      rw [update_of_ne different]
      exact single other (mem_cons_of_mem _ member)
    rw [releaseEach, release_last isLast]
    simp only [induction distinct.2 others, if_true, Prod.mk.injEq, true_and]
    funext key
    by_cases same : key = keyOf thing <;> simp [same]

end

end SingBox.References
