/-
This file says what the digits of a number are: where they begin, how many there are, and
what a reader makes of them. A reader takes a run of digits whole if no digit stands
behind it. Digits that are padded to a width keep it as long as the number fits, and are
read as the number.
-/

import Mathlib.Algebra.Order.Ring.Nat
import TableGateway.Number.Numeral

namespace TableGateway.Number

/-! ### The digits of a number -/

theorem digits_zero : digits 0 = ['0'] := by
  unfold digits
  rfl

/-- The digits of a number start with a digit, which is a zero for zero alone. -/
theorem exists_digits (value : Nat) :
    ∃ first more, digits value = first :: more ∧ isDigit first = true ∧
      (first = '0' → value = 0) := by
  fun_induction digits value with
  | case1 value small =>
    refine ⟨_, _, rfl, isDigit_digitChar value small, fun zero => ?_⟩
    have code := congrArg Char.toNat zero
    rw [toNat_digitChar value small, show '0'.toNat = 48 from rfl] at code
    omega
  | case2 value large inductionHypothesis =>
    obtain ⟨first, more, shape, digit, onlyZero⟩ := inductionHypothesis
    refine ⟨first, more ++ [digitChar (value % 10)], by rw [shape]; rfl, digit, fun zero => ?_⟩
    have none := onlyZero zero
    omega

theorem lt_pow_length_digits (value : Nat) : value < 10 ^ (digits value).length := by
  fun_induction digits value with
  | case1 value small => exact small
  | case2 value large inductionHypothesis =>
    rw [List.length_append, List.length_singleton, Nat.pow_succ]
    omega

theorem pow_length_digits_le {value : Nat} (some : 0 < value) :
    10 ^ ((digits value).length - 1) ≤ value := by
  fun_induction digits value with
  | case1 value small => exact some
  | case2 value large inductionHypothesis =>
    have front := inductionHypothesis (by omega)
    have length : (digits (value / 10)).length - 1 + 1 = (digits (value / 10)).length :=
      Nat.sub_add_cancel (List.length_pos_iff.mpr (digits_ne_nil _))
    rw [List.length_append, List.length_singleton, Nat.add_sub_cancel, ← length, Nat.pow_succ]
    omega

/-! ### Runs of digits -/

theorem digitValue?_of_isDigit {character : Char} (digit : isDigit character = true) :
    digitValue? character = some (character.toNat - 48) :=
  if_pos digit

theorem spanSign_of_isDigit {first : Char} (digit : isDigit first = true) (more : List Char) :
    spanSign (first :: more) = (false, first :: more) := by
  rw [spanSign] <;>
    · rintro other same
      cases (List.cons.inj same).1
      cases digit

/-- A run of digits is taken whole if no digit stands behind it. -/
theorem spanDigits_append {run rest : List Char}
    (digital : ∀ character ∈ run, isDigit character = true)
    (stops : ∀ first ∈ rest.head?, isDigit first = false) :
    spanDigits (run ++ rest) = (run, rest) := by
  have behind : rest.takeWhile isDigit = [] ∧ rest.dropWhile isDigit = rest := by
    cases rest with
    | nil => exact ⟨rfl, rfl⟩
    | cons first more =>
      have noDigit := stops first rfl
      simp [noDigit]
  rw [spanDigits, List.takeWhile_append_of_pos digital, List.dropWhile_append_of_pos digital,
    behind.1, behind.2, List.append_nil]

/-! ### Padded digits -/

/-- One more place shows the last digit behind the others. -/
theorem padded_succ {width : Nat} (some : 0 < width) (value : Nat) :
    padded (width + 1) value = padded width (value / 10) ++ [digitChar (value % 10)] := by
  by_cases small : value < 10
  · have zeros : List.replicate width '0' = List.replicate (width - 1) '0' ++ ['0'] := by
      rw [← List.replicate_succ', Nat.sub_add_cancel some]
    have single : digits value = [digitChar value] := by rw [digits, if_pos small]
    rw [padded, padded, single, Nat.div_eq_of_lt small, Nat.mod_eq_of_lt small, digits_zero]
    simp only [List.length_singleton, Nat.add_sub_cancel, zeros]
  · have last : digits value = digits (value / 10) ++ [digitChar (value % 10)] := by
      rw [digits, if_neg small]
    rw [padded, padded, last, List.length_append, List.length_singleton, Nat.add_sub_add_right,
      List.append_assoc]

theorem length_padded {width value : Nat} (some : 0 < width) (fits : value < 10 ^ width) :
    (padded width value).length = width := by
  induction width, some using Nat.le_induction generalizing value with
  | base =>
    have small : value < 10 := fits
    have single : digits value = [digitChar value] := by rw [digits, if_pos small]
    simp [padded, single]
  | succ width some inductionHypothesis =>
    rw [padded_succ some, List.length_append, inductionHypothesis (by omega)]
    rfl

theorem padded_ne_nil (width value : Nat) : padded width value ≠ [] :=
  List.append_ne_nil_of_right_ne_nil _ (digits_ne_nil value)

theorem isDigit_of_mem_zeros (count : Nat) :
    ∀ character ∈ List.replicate count '0', isDigit character = true := by
  intro character member
  rw [List.eq_of_mem_replicate member]
  rfl

theorem isDigit_of_mem_padded (width value : Nat) :
    ∀ character ∈ padded width value, isDigit character = true := by
  intro character member
  rcases List.mem_append.mp member with zero | digit
  · exact isDigit_of_mem_zeros _ character zero
  · exact isDigit_of_mem_digits value character digit

theorem valueOf_padded (width value : Nat) : valueOf (padded width value) = value := by
  have zeros (count : Nat) : valueFrom 0 (List.replicate count '0') = 0 := by
    induction count with
    | zero => rfl
    | succ count inductionHypothesis => exact inductionHypothesis
  rw [padded, valueOf, valueFrom_append, zeros]
  exact valueOf_digits value

end TableGateway.Number
