import Mathlib.Data.List.Count

/-! # Maps and lists with one changed entry

What holds of all entries of a map and of a new entry holds of all entries of
the map with the new entry. An entry of a changed list is the new one or an
old one, and the change shows in a count only as far as the entry counts.
-/

namespace SingBox

open List Function

theorem forall_update {Key : Type u} {Value : Type v} [DecidableEq Key]
    {entries : Key → Option Value} {key : Key} {new : Option Value} {holds : Key → Value → Prop}
    (others : ∀ other value, entries other = some value → holds other value)
    (isNew : ∀ value, new = some value → holds key value) (other : Key) (value : Value)
    (found : update entries key new other = some value) : holds other value := by
  by_cases same : other = key
  · subst same
    rw [update_self] at found
    exact isNew value found
  · rw [update_of_ne same] at found
    exact others other value found

section

variable {Value : Type u} {entries : List Value} {position index : Nat} {old new found : Value}

theorem index_lt (isFound : entries[index]? = some found) : index < entries.length :=
  (List.getElem?_eq_some_iff.mp isFound).1

theorem getElem?_set_cases (isFound : (entries.set position new)[index]? = some found) :
    index = position ∧ found = new ∨ index ≠ position ∧ entries[index]? = some found := by
  by_cases same : index = position
  · subst same
    rcases List.getElem?_eq_some_iff.mp isFound with ⟨_, isFound⟩
    rw [getElem_set_self] at isFound
    exact .inl ⟨rfl, isFound.symm⟩
  · rw [getElem?_set_ne (Ne.symm same)] at isFound
    exact .inr ⟨same, isFound⟩

theorem eq_or_mem_set (new : Value) (isOld : entries[position]? = some old)
    (member : found ∈ entries) : found = old ∨ found ∈ entries.set position new := by
  rcases mem_iff_getElem?.mp member with ⟨index, isFound⟩
  by_cases same : index = position
  · subst same
    exact .inl (Option.some.inj (isFound.symm.trans isOld))
  apply Or.inr
  apply mem_of_getElem?
  rw [getElem?_set_ne (Ne.symm same)]
  exact isFound

theorem mem_set_self (new : Value) (isOld : entries[position]? = some old) :
    new ∈ entries.set position new := by
  rcases List.getElem?_eq_some_iff.mp isOld with ⟨fits, -⟩
  exact mem_set fits new

theorem mem_set_append_cases {others : List Value}
    (member : found ∈ entries.set position new ++ others) :
    found ∈ entries ∨ found = new ∨ found ∈ others := by
  rcases mem_append.mp member with member | isOther
  · exact (mem_or_eq_of_mem_set member).imp_right .inl
  · exact .inr (.inr isOther)

theorem set_concat (entries : List Value) (old new : Value) :
    (entries ++ [old]).set entries.length new = entries ++ [new] := by
  simp

theorem getElem?_concat_cases (isFound : (entries ++ [new])[index]? = some found) :
    entries[index]? = some found ∨ index = entries.length ∧ found = new := by
  rw [getElem?_append] at isFound
  split at isFound
  · exact .inl isFound
  rw [getElem?_singleton] at isFound
  split at isFound
  · exact .inr ⟨by omega, (Option.some.inj isFound).symm⟩
  · cases isFound

theorem any_getElem?_concat {is : Value → Bool} (isNot : is new = false) (index : Nat) :
    (entries ++ [new])[index]?.any is = entries[index]?.any is := by
  rw [getElem?_append]
  split
  · rfl
  next notBefore =>
  rw [getElem?_eq_none (Nat.le_of_not_lt notBefore), getElem?_singleton]
  split
  · exact isNot
  · rfl

theorem any_getElem?_set (is : Value → Bool) (new : Value) (isOld : entries[position]? = some old)
    (same : is new = is old) (index : Nat) :
    (entries.set position new)[index]?.any is = entries[index]?.any is := by
  by_cases isHere : index = position
  · subst isHere
    rw [getElem?_set_self (index_lt isOld), isOld]
    exact same
  · rw [getElem?_set_ne (Ne.symm isHere)]

theorem countP_set_add (new : Value) (counted : Value → Bool)
    (isOld : entries[position]? = some old) :
    (entries.set position new).countP counted + (counted old).toNat =
      entries.countP counted + (counted new).toNat := by
  induction entries generalizing position with
  | nil => cases isOld
  | cons first rest induction =>
    cases position with
    | zero =>
      cases isOld
      simp only [set_cons_zero, countP_cons]
      cases counted old <;> cases counted new <;> simp
    | succ position =>
      have step := induction isOld
      simp only [set_cons_succ, countP_cons]
      omega

theorem countP_set_unchanged (new : Value) (counted : Value → Bool)
    (isOld : entries[position]? = some old) (same : counted new = counted old) :
    (entries.set position new).countP counted = entries.countP counted := by
  have change := countP_set_add new counted isOld
  rw [same] at change
  omega

theorem countP_set_removed (new : Value) (counted : Value → Bool)
    (isOld : entries[position]? = some old) (before : counted old = true)
    (after : counted new = false) :
    (entries.set position new).countP counted + 1 = entries.countP counted := by
  have change := countP_set_add new counted isOld
  rw [before, after] at change
  exact change

end

end SingBox
