import Mathlib.Data.Nat.Digits.Lemmas
import SingBox.Foundation.Bytes

/-! # Numerals and separated fields

`strconv.FormatUint` and the two ways in which the program builds a text from
parts: fields joined by a separator that none of them contains, and a part
followed by a byte that cannot occur in it. Both can be taken apart again.
-/

namespace SingBox.Text

open List Nat

/-! ## Numerals -/

/-- The characters `0` to `9` and `a` to `z`. -/
def digit (value : Nat) : BitVec 8 :=
  BitVec.ofNat 8 (if value < 10 then 48 + value else 87 + value)

def digitValue (byte : BitVec 8) : Nat :=
  if byte.toNat < 58 then byte.toNat - 48 else byte.toNat - 87

def IsDigit (byte : BitVec 8) : Prop :=
  48 ≤ byte.toNat ∧ byte.toNat ≤ 57 ∨ 97 ≤ byte.toNat ∧ byte.toNat ≤ 122

instance (byte : BitVec 8) : Decidable (IsDigit byte) :=
  inferInstanceAs (Decidable (_ ∨ _))

/-- `strconv.FormatUint` for a base up to 36. -/
def formatUint (value base : Nat) : Bytes :=
  if value = 0 then [digit 0] else (digits base value).reverse.map digit

variable {value : Nat}

theorem digit_toNat (small : value < 36) :
    (digit value).toNat = if value < 10 then 48 + value else 87 + value := by
  rw [digit, BitVec.toNat_ofNat]
  split <;> omega

theorem isDigit_digit (small : value < 36) : IsDigit (digit value) := by
  rw [IsDigit, digit_toNat small]
  split <;> omega

theorem digitValue_digit (small : value < 36) : digitValue (digit value) = value := by
  rw [digitValue, digit_toNat small]
  split <;> split <;> omega

theorem formatUint_ne_nil (value base : Nat) : formatUint value base ≠ [] := by
  rw [formatUint]
  split
  · exact cons_ne_nil _ _
  · next notZero => simp [digits_ne_nil_iff_ne_zero.mpr notZero]

section

variable {base : Nat} (large : 1 < base) (small : base ≤ 36)
include large small

theorem isDigit_of_mem_formatUint {byte : BitVec 8}
    (member : byte ∈ formatUint value base) : IsDigit byte := by
  rw [formatUint] at member
  split at member
  · rw [mem_singleton.mp member]
    exact isDigit_digit (by omega)
  rcases mem_map.mp member with ⟨number, isNumber, isByte⟩
  rw [← isByte]
  have bound := digits_lt_base large (mem_reverse.mp isNumber)
  exact isDigit_digit (by omega)

theorem ofDigits_formatUint (value : Nat) :
    ofDigits base ((formatUint value base).reverse.map digitValue) = value := by
  have readBack : (digits base value).map (digitValue ∘ digit) = digits base value := by
    rw [map_congr_left, map_id]
    intro number member
    have bound := digits_lt_base large member
    exact digitValue_digit (by omega)
  rw [formatUint]
  split
  · next isZero => simp [isZero, digitValue_digit]
  · rw [← map_reverse, reverse_reverse, map_map, readBack, ofDigits_digits]

theorem formatUint_injective {left right : Nat}
    (equal : formatUint left base = formatUint right base) : left = right := by
  rw [← ofDigits_formatUint large small left, equal, ofDigits_formatUint large small right]

end

/-! ## Fields -/

variable {α : Type u} {left right : List (List α)} {separator : α}

theorem intercalate_injective [DecidableEq α] (leftClean : ∀ field ∈ left, separator ∉ field)
    (rightClean : ∀ field ∈ right, separator ∉ field) (leftSome : left ≠ [])
    (rightSome : right ≠ [])
    (equal : [separator].intercalate left = [separator].intercalate right) : left = right := by
  rw [← splitOn_intercalate separator leftClean leftSome, equal,
    splitOn_intercalate separator rightClean rightSome]

theorem mem_of_mem_intercalate {element : α} {fields : List (List α)}
    (member : element ∈ [separator].intercalate fields) :
    element = separator ∨ ∃ field ∈ fields, element ∈ field := by
  induction fields with
  | nil => simp at member
  | cons first rest induction =>
    cases rest with
    | nil =>
      right
      exact ⟨first, mem_singleton_self first, by simpa using member⟩
    | cons =>
      rw [intercalate_cons_cons, mem_append, mem_append] at member
      rcases member with (inFirst | isSeparator) | inRest
      · exact .inr ⟨first, mem_cons_self, inFirst⟩
      · exact .inl (mem_singleton.mp isSeparator)
      rcases induction inRest with isSeparator | ⟨field, isField, inField⟩
      · exact .inl isSeparator
      · exact .inr ⟨field, mem_cons_of_mem _ isField, inField⟩

theorem intercalate_append {separator : List α} (leftSome : left ≠ []) (rightSome : right ≠ []) :
    separator.intercalate (left ++ right) =
      separator.intercalate left ++ separator ++ separator.intercalate right := by
  induction left with
  | nil => exact absurd rfl leftSome
  | cons _ left induction =>
    cases left with
    | nil =>
      cases right with
      | nil => exact absurd rfl rightSome
      | cons second => simp
    | cons second left =>
      have rest := induction (cons_ne_nil second left)
      simp only [cons_append, intercalate_cons_cons] at rest ⊢
      rw [rest]
      simp only [append_assoc]

/-- A text splits in one way only into a part that satisfies `allowed` and a
rest that is empty or starts with something else. -/
theorem append_injective {allowed : α → Bool} {left right leftRest rightRest : List α}
    (leftAllowed : ∀ element ∈ left, allowed element)
    (rightAllowed : ∀ element ∈ right, allowed element)
    (leftEnds : ∀ element ∈ leftRest.head?, allowed element = false)
    (rightEnds : ∀ element ∈ rightRest.head?, allowed element = false)
    (equal : left ++ leftRest = right ++ rightRest) : left = right ∧ leftRest = rightRest := by
  have stops : ∀ {part rest : List α}, (∀ element ∈ part, allowed element) →
      (∀ element ∈ rest.head?, allowed element = false) →
      (part ++ rest).takeWhile allowed = part := by
    intro _ rest isAllowed ends
    rw [takeWhile_append_of_pos isAllowed]
    cases rest with
    | nil => simp
    | cons first => simp [ends first rfl]
  have same : left = right := by
    rw [← stops leftAllowed leftEnds, equal, stops rightAllowed rightEnds]
  rw [same] at equal
  exact ⟨same, append_cancel_left equal⟩

end SingBox.Text
