import Mathlib.Data.List.AList
import Mathlib.Algebra.BigOperators.Group.List.Basic
import Mathlib.Algebra.Ring.Nat

/-! # Finite maps and sums over their entries

A finite map is an association list with distinct keys. The sum of a weight over
the entries changes by the weight of what was stored and by the weight of what
has been stored instead.
-/

namespace SingBox

open List

abbrev FiniteMap (Key : Type u) (Value : Type v) := AList fun _ : Key => Value

namespace FiniteMap

variable {Key : Type u} {Value : Type v} (weight : Key → Value → Nat)

def total (map : FiniteMap Key Value) : Nat :=
  (map.entries.map fun entry => weight entry.1 entry.2).sum

@[simp] theorem total_empty : total weight (∅ : FiniteMap Key Value) = 0 :=
  rfl

variable [DecidableEq Key] {map : FiniteMap Key Value} {key other : Key} {value found : Value}

theorem mem_entries_iff : ⟨key, value⟩ ∈ map.entries ↔ map.lookup key = some value :=
  AList.mem_lookup_iff.symm

theorem lookup_insert :
    (map.insert key value).lookup other = if other = key then some value else map.lookup other := by
  split
  · next same => rw [same, AList.lookup_insert]
  · next different => exact AList.lookup_insert_ne different

theorem lookup_erase :
    (map.erase key).lookup other = if other = key then none else map.lookup other := by
  split
  · next same => rw [same, AList.lookup_erase]
  · next different => exact AList.lookup_erase_ne different

theorem lookup_insert_cases (isFound : (map.insert key value).lookup other = some found) :
    other = key ∧ found = value ∨ other ≠ key ∧ map.lookup other = some found := by
  rw [lookup_insert] at isFound
  split at isFound
  · next same => exact .inl ⟨same, (Option.some.inj isFound).symm⟩
  · next different => exact .inr ⟨different, isFound⟩

theorem lookup_erase_cases (isFound : (map.erase key).lookup other = some found) :
    other ≠ key ∧ map.lookup other = some found := by
  rw [lookup_erase] at isFound
  split_ifs at isFound with different
  exact ⟨different, isFound⟩

private theorem sum_kerase (key : Key) (entries : List (Sigma fun _ : Key => Value)) :
    ((entries.kerase key).map fun entry => weight entry.1 entry.2).sum +
        ((entries.dlookup key).map (weight key)).getD 0 =
      (entries.map fun entry => weight entry.1 entry.2).sum := by
  induction entries with
  | nil => rfl
  | cons entry entries induction =>
    rcases entry with ⟨first, value⟩
    by_cases same : key = first
    · subst same
      have isErased : (⟨key, value⟩ :: entries).kerase key = entries := kerase_cons_eq rfl
      rw [isErased, dlookup_cons_eq]
      simp [Nat.add_comm]
    · rw [kerase_cons_ne same, dlookup_cons_ne _ _ same]
      simp only [map_cons, sum_cons]
      omega

theorem total_erase (map : FiniteMap Key Value) (key : Key) :
    total weight (map.erase key) + ((map.lookup key).map (weight key)).getD 0 =
      total weight map :=
  sum_kerase weight key map.entries

theorem total_insert_eq (map : FiniteMap Key Value) (key : Key) (value : Value) :
    total weight (map.insert key value) = weight key value + total weight (map.erase key) := by
  rw [total, AList.entries_insert, map_cons, sum_cons]
  rfl

theorem total_insert (map : FiniteMap Key Value) (key : Key) (value : Value) :
    total weight (map.insert key value) + ((map.lookup key).map (weight key)).getD 0 =
      total weight map + weight key value := by
  have erased := total_erase weight map key
  rw [total_insert_eq]
  omega

variable {weight}

theorem total_eq_zero (zero : ∀ {key value}, map.lookup key = some value → weight key value = 0) :
    total weight map = 0 := by
  apply sum_eq_zero
  intro _ member
  rcases mem_map.mp member with ⟨⟨_, _⟩, isEntry, rfl⟩
  exact zero (mem_entries_iff.mp isEntry)

/-- Only the entry of one key counts. -/
theorem total_of_single (key : Key) (others : ∀ {other value}, map.lookup other = some value →
      other ≠ key → weight other value = 0) :
    total weight map = ((map.lookup key).map (weight key)).getD 0 := by
  rw [← total_erase weight map key, Nat.add_eq_right]
  apply total_eq_zero
  intro _ _ isFound
  rcases lookup_erase_cases isFound with ⟨different, isFound⟩
  exact others isFound different

end FiniteMap

end SingBox
