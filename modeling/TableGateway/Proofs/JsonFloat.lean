/-
This file shows that a JSON reader takes the texts of finite numbers. It takes a numeral
with a fraction or an exponent part by part, up to what ends a value, as a floating-point
number.
-/

import TableGateway.Proofs.FloatText
import TableGateway.Proofs.JsonNumber

namespace TableGateway.Json

open Number Binary64

/-! ### The parts of a numeral -/

theorem takeFraction_append {fraction rest : List Char} (some : fraction ≠ [])
    (digital : ∀ character ∈ fraction, isDigit character = true)
    (stops : ∀ first ∈ rest.head?, isDigit first = false) :
    takeFraction ('.' :: (fraction ++ rest)) = .some (fraction, rest) := by
  rw [takeFraction, spanFraction, spanDigits_append digital stops]
  exact if_neg fun none => some (List.isEmpty_iff.mp none)

theorem isDigit_head_exponentText (exponent : Int) (rest : List Char) :
    ∀ first ∈ (exponentText exponent ++ rest).head?, isDigit first = false := by
  intro first member
  cases member
  rfl

theorem takeFraction_exponentText (exponent : Int) (rest : List Char) :
    takeFraction (exponentText exponent ++ rest) = none :=
  rfl

/-- The exponent of a numeral is taken whole. -/
theorem spanExponent_exponentText (exponent : Int) {rest : List Char}
    (closed : closes rest = true) :
    spanExponent (exponentText exponent ++ rest) = some (exponent, rest) := by
  have taken := spanDigits_append (isDigit_of_mem_padded 2 exponent.natAbs)
    (isDigit_head_of_closes closed)
  have some : (padded 2 exponent.natAbs).isEmpty = false :=
    List.isEmpty_eq_false_iff.mpr (padded_ne_nil 2 exponent.natAbs)
  by_cases negative : exponent < 0 <;>
    simp [exponentText, negative, spanExponent, spanSign, taken, some, valueOf_padded,
      -Nat.cast_natAbs] <;> omega

/-- A sign, the digits in front, and behind them a fraction, an exponent or both make a number. -/
theorem readNumber_of_parts (negative : Bool) {characters whole behind fraction rest : List Char}
    {exponent : Int} (noSign : ∀ other, characters ≠ '-' :: other)
    (front : takeWhole characters = some (whole, behind))
    (back :
      (takeFraction behind = some (fraction, rest) ∧ spanExponent rest = none ∧ exponent = 0) ∨
      ∃ middle, ((takeFraction behind = none ∧ middle = behind ∧ fraction = []) ∨
        takeFraction behind = some (fraction, middle)) ∧
        spanExponent middle = some (exponent, rest)) :
    readNumber ((if negative then ['-'] else []) ++ characters) =
      .ok (.float (.ofDecimal negative (valueOf (whole ++ fraction)) (exponent - fraction.length)),
        rest) := by
  have unsigned : (if false = true then ['-'] else []) ++ characters = characters := rfl
  rcases back with ⟨taken, noExponent, rfl⟩ |
    ⟨middle, ⟨noFraction, rfl, rfl⟩ | taken, spanned⟩ <;>
  cases negative with
  | false =>
    rw [unsigned, readNumber]
    · simp [*]
    · exact noSign
  | true => simp [readNumber, *]

theorem noSign_of_isDigit {first : Char} (digit : isDigit first = true) (more other : List Char) :
    first :: more ≠ '-' :: other := by
  intro same
  rw [(List.cons.inj same).1] at digit
  cases digit

theorem isDigit_head_point (rest : List Char) :
    ∀ first ∈ ('.' :: rest).head?, isDigit first = false := by
  intro first member
  cases member
  rfl

/-- A reader that arrives at a numeral takes it as a number, with the sign in front of it. -/
theorem readNumber_of_isNumeral {text : List Char} (numeral : IsNumeral text) (negative : Bool) :
    ∃ number, ∀ rest, closes rest = true →
      readNumber ((if negative then ['-'] else []) ++ (text ++ rest)) =
        .ok (.float number, rest) := by
  cases numeral with
  | @positional first more fraction digit digital zero some digital' =>
    refine ⟨.ofDecimal negative (valueOf (first :: more ++ fraction)) (0 - fraction.length),
      fun rest closed => ?_⟩
    have front := takeWhole_append (List.forall_mem_cons.mpr ⟨digit, digital⟩) zero
      (isDigit_head_point (fraction ++ rest))
    have back := takeFraction_append some digital' (isDigit_head_of_closes closed)
    rw [List.append_assoc]
    exact readNumber_of_parts negative (noSign_of_isDigit digit _) front
      (.inl ⟨back, (takeFraction_of_closes closed).2, rfl⟩)
  | @scientific first fraction digit digital exponent =>
    have single : ∀ character ∈ [first], isDigit character = true :=
      List.forall_mem_singleton.mpr digit
    refine ⟨.ofDecimal negative (valueOf ([first] ++ fraction)) (exponent - fraction.length),
      fun rest closed => ?_⟩
    have spanned := spanExponent_exponentText exponent closed
    have stops := isDigit_head_exponentText exponent rest
    by_cases none : fraction = []
    · subst none
      have front := takeWhole_append single (fun _ => rfl) stops
      exact readNumber_of_parts negative (noSign_of_isDigit digit _) front
        (.inr ⟨_, .inl ⟨takeFraction_exponentText exponent rest, rfl, rfl⟩, spanned⟩)
    · have some : fraction.isEmpty = false := List.isEmpty_eq_false_iff.mpr none
      have front := takeWhole_append single (fun _ => rfl)
        (isDigit_head_point (fraction ++ (exponentText exponent ++ rest)))
      have middle := takeFraction_append none digital stops
      rw [some, List.append_assoc, List.cons_append]
      exact readNumber_of_parts negative (noSign_of_isDigit digit _) front
        (.inr ⟨_, .inr middle, spanned⟩)

end TableGateway.Json
