/-
This file says how finite numbers look as texts. The search for the fewest digits always
ends with a hit that is not zero: eighteen digits place the next point of the grid within
the upper half of the rounding. So the digits begin with one that is not zero, however many
zeros are dropped behind them, and each layout of them is a numeral with a fraction or an
exponent.
-/

import Mathlib.Algebra.Order.Field.Power
import Mathlib.Algebra.Order.Ring.Rat
import Mathlib.Tactic.FieldSimp
import Mathlib.Tactic.Linarith
import Mathlib.Tactic.Positivity
import Mathlib.Tactic.Ring
import TableGateway.Proofs.DigitRuns

namespace TableGateway.Number.Binary64

/-- The significand of a finite number has no more than 53 bits. -/
def IsProper : Binary64 → Prop
  | .finite _ significand _ => significand < powerOfTwo 53
  | _ => True

/-! ### Ratios as rational numbers -/

/-- A ratio stands for a rational number. -/
structure StandsFor (ratio : Nat × Nat) (number : ℚ) : Prop where
  below : 0 < ratio.2
  eq : (ratio.1 : ℚ) = number * ratio.2

namespace StandsFor

variable {first second : Nat × Nat} {number number' : ℚ}

theorem lt (stands : StandsFor first number) (stands' : StandsFor second number')
    (less : number < number') : first.1 * second.2 < second.1 * first.2 := by
  have below : (0 : ℚ) < first.2 * second.2 := by
    have := stands.below
    have := stands'.below
    positivity
  have scaled : (first.1 * second.2 : ℚ) < second.1 * first.2 := by
    rw [stands.eq, stands'.eq]
    linarith [mul_lt_mul_of_pos_right less below]
  exact_mod_cast scaled

theorem pos (stands : StandsFor first number) (some : 0 < number) : 0 < first.1 := by
  have below : (0 : ℚ) < first.2 := by exact_mod_cast stands.below
  have positive : (0 : ℚ) < first.1 := by
    rw [stands.eq]
    exact mul_pos some below
  exact_mod_cast positive

end StandsFor

theorem standsFor_magnitude (significand : Nat) (exponent : Int) :
    StandsFor (magnitude significand exponent) (significand * 2 ^ exponent) := by
  cases exponent with
  | ofNat up => exact ⟨Nat.one_pos, by simp [magnitude, powerOfTwo]⟩
  | negSucc down =>
    refine ⟨Nat.pow_pos (by decide), ?_⟩
    simp [magnitude, powerOfTwo, zpow_negSucc]

section Scaling

variable {numerator denominator : Nat} {number : ℚ}

theorem StandsFor.mul (stands : StandsFor (numerator, denominator) number) (factor : Nat) :
    StandsFor (numerator * factor, denominator) (number * factor) := by
  refine ⟨stands.below, ?_⟩
  have eq : (numerator : ℚ) = number * denominator := stands.eq
  push_cast
  rw [eq]
  ring

theorem StandsFor.div (stands : StandsFor (numerator, denominator) number) {factor : Nat}
    (some : 0 < factor) : StandsFor (numerator, denominator * factor) (number / factor) := by
  refine ⟨Nat.mul_pos stands.below some, ?_⟩
  have eq : (numerator : ℚ) = number * denominator := stands.eq
  have positive : (0 : ℚ) < factor := by exact_mod_cast some
  push_cast
  rw [eq]
  field_simp

theorem standsFor_scaleDecimal (stands : StandsFor (numerator, denominator) number)
    (exponent : Int) :
    StandsFor (scaleDecimal numerator denominator exponent) (number / 10 ^ exponent) := by
  cases exponent with
  | ofNat up =>
    have power : (10 : ℚ) ^ Int.ofNat up = (powerOfTen up : Nat) := by simp [powerOfTen]
    rw [power]
    exact stands.div (Nat.pow_pos (by decide))
  | negSucc down =>
    have power : number / (10 : ℚ) ^ Int.negSucc down = number * (powerOfTen (down + 1) : Nat) := by
      simp [powerOfTen, zpow_negSucc]
    rw [power]
    exact stands.mul _

theorem standsFor_scaleDown (stands : StandsFor (numerator, denominator) number)
    (exponent : Int) :
    StandsFor (scaleDown numerator denominator exponent) (number / 2 ^ exponent) := by
  cases exponent with
  | ofNat up =>
    have power : (2 : ℚ) ^ Int.ofNat up = (powerOfTwo up : Nat) := by simp [powerOfTwo]
    rw [power]
    exact stands.div (Nat.pow_pos (by decide))
  | negSucc down =>
    have power : number / (2 : ℚ) ^ Int.negSucc down = number * (powerOfTwo (down + 1) : Nat) := by
      simp [powerOfTwo, zpow_negSucc]
    rw [power]
    exact stands.mul _

end Scaling

/-! ### The significand of a rounded ratio -/

theorem roundHalfEven_le (numerator denominator : Nat) :
    roundHalfEven numerator denominator ≤ numerator / denominator + 1 := by
  unfold roundHalfEven
  extract_lets quotient twice
  repeat' split
  all_goals omega

/-- A ratio is less than the power of two that the lengths of its two numbers tell. -/
theorem ratio_lt {numerator denominator : Nat} (below : 0 < denominator) :
    (numerator / denominator : ℚ) <
      2 ^ ((numerator.log2 : Int) - denominator.log2 - 52 + 53) := by
  have under : (numerator : ℚ) < 2 ^ (numerator.log2 + 1) := by exact_mod_cast Nat.lt_log2_self
  have least : (2 : ℚ) ^ denominator.log2 ≤ denominator := by
    exact_mod_cast Nat.log2_self_le (Nat.ne_of_gt below)
  have split : (2 : ℚ) ^ ((numerator.log2 : Int) - denominator.log2 - 52 + 53) *
      2 ^ denominator.log2 = 2 ^ (numerator.log2 + 1) := by
    rw [← zpow_natCast, ← zpow_natCast, ← zpow_add₀ (by decide)]
    congr 1
    push_cast
    ring
  rw [div_lt_iff₀ (by exact_mod_cast below)]
  calc (numerator : ℚ) < 2 ^ (numerator.log2 + 1) := under
    _ = _ := split.symm
    _ ≤ _ := mul_le_mul_of_nonneg_left least (by positivity)

section Rounded

variable {numerator denominator : Nat}

/-- Whether a ratio counted in units of a power of two comes to less than another power of two. -/
theorem scaleDown_div_lt_iff (below : 0 < denominator) (exponent : Int) (bits : Nat) :
    (scaleDown numerator denominator exponent).1 / (scaleDown numerator denominator exponent).2 <
        2 ^ bits ↔ (numerator / denominator : ℚ) < 2 ^ (exponent + bits) := by
  have positive : (0 : ℚ) < denominator := by exact_mod_cast below
  have whole : StandsFor (numerator, denominator) (numerator / denominator : ℚ) :=
    ⟨below, (div_mul_cancel₀ _ positive.ne').symm⟩
  have stands := standsFor_scaleDown whole exponent
  have unit : (0 : ℚ) < (scaleDown numerator denominator exponent).2 := by
    exact_mod_cast stands.below
  rw [Nat.div_lt_iff_lt_mul stands.below, ← @Nat.cast_lt ℚ]
  push_cast
  rw [stands.eq, mul_lt_mul_iff_left₀ unit, div_lt_iff₀ (by positivity), ← zpow_natCast,
    ← zpow_add₀ (by decide), add_comm]

theorem isProper_of_lt (negative : Bool) {significand : Nat} (few : significand < powerOfTwo 53)
    (exponent : Int) :
    IsProper (if greatestExponent < exponent then .infinity negative
      else .finite negative significand exponent) := by
  split
  · trivial
  · exact few

/-- The exponent that a ratio is rounded at leaves no more than 53 bits. -/
theorem ratio_lt_chosen (below : 0 < denominator) {guess : Int}
    (first : (numerator / denominator : ℚ) < 2 ^ (guess + 53)) :
    (numerator / denominator : ℚ) < 2 ^ (max (if (scaleDown numerator denominator guess).1 /
      (scaleDown numerator denominator guess).2 < powerOfTwo 52 then guess - 1 else guess)
        leastExponent + 53) := by
  split
  · rename_i small
    have half := (scaleDown_div_lt_iff below guess 52).mp small
    exact half.trans_le (zpow_le_zpow_right₀ (by decide) (by omega))
  · exact first.trans_le (zpow_le_zpow_right₀ (by decide) (by omega))

/-- The nearest number to a ratio has a significand of no more than 53 bits. -/
theorem isProper_ofRatio (negative : Bool) (below : 0 < denominator) :
    (ofRatio negative numerator denominator).IsProper := by
  unfold ofRatio
  split
  · exact Nat.pow_pos (by decide)
  · extract_lets guess
    dsimp only
    have first : (numerator / denominator : ℚ) < 2 ^ (guess + 53) := ratio_lt below
    have fits := (scaleDown_div_lt_iff below _ 53).mpr (ratio_lt_chosen below first)
    have few : roundHalfEven _ _ ≤ powerOfTwo 53 := (roundHalfEven_le _ _).trans fits
    generalize roundHalfEven _ _ = rounded at few ⊢
    by_cases full : rounded = powerOfTwo 53
    · rw [if_pos full]
      exact isProper_of_lt negative (Nat.pow_lt_pow_right (by decide) (by decide)) _
    · rw [if_neg full]
      exact isProper_of_lt negative (Nat.lt_of_le_of_ne few full) _

theorem isProper_ofInt (value : Int) : (ofInt value).IsProper :=
  isProper_ofRatio _ Nat.one_pos

theorem isProper_ofDecimal (negative : Bool) (coefficient : Nat) (exponent : Int) :
    (ofDecimal negative coefficient exponent).IsProper := by
  have zero : (Binary64.zero negative).IsProper := Nat.pow_pos (by decide)
  unfold ofDecimal
  split
  · exact zero
  · extract_lets magnitude
    split
    · trivial
    · split
      · exact zero
      · cases exponent with
        | ofNat up => exact isProper_ofRatio negative Nat.one_pos
        | negSucc down => exact isProper_ofRatio negative (Nat.pow_pos (by decide))

end Rounded

/-! ### The rounding of a number -/

/-- The ratio of digits that are counted in steps of a power of ten. -/
def candidateRatio (candidate : Nat) (step : Int) : Nat × Nat :=
  match step with
  | .ofNat up => (candidate * powerOfTen up, 1)
  | .negSucc down => (candidate, powerOfTen (down + 1))

theorem standsFor_candidateRatio (candidate : Nat) (step : Int) :
    StandsFor (candidateRatio candidate step) (candidate * 10 ^ step) := by
  cases step with
  | ofNat up => exact ⟨Nat.one_pos, by simp [candidateRatio, powerOfTen]⟩
  | negSucc down =>
    refine ⟨Nat.pow_pos (by decide), ?_⟩
    simp [candidateRatio, powerOfTen, zpow_negSucc]

theorem Rounding.holds_eq (range : Rounding) (exponent : Int) (candidate : Nat) (step : Int) :
    range.holds exponent candidate step =
      let low := magnitude range.low (exponent - 2)
      let high := magnitude range.high (exponent - 2)
      let value := candidateRatio candidate step
      if range.closed then low.1 * value.2 ≤ value.1 * low.2 && value.1 * high.2 ≤ high.1 * value.2
      else low.1 * value.2 < value.1 * low.2 && value.1 * high.2 < high.1 * value.2 := by
  cases step <;> rfl

/-- Digits hold that stand for a number strictly between the ends of a rounding. -/
theorem Rounding.holds_of_between {range : Rounding} {exponent step : Int} {candidate : Nat}
    (above : (range.low : ℚ) * 2 ^ (exponent - 2) < candidate * 10 ^ step)
    (below : (candidate : ℚ) * 10 ^ step < range.high * 2 ^ (exponent - 2)) :
    range.holds exponent candidate step = true := by
  have value := standsFor_candidateRatio candidate step
  have low := (standsFor_magnitude range.low (exponent - 2)).lt value above
  have high := value.lt (standsFor_magnitude range.high (exponent - 2)) below
  rw [holds_eq]
  split
  · simp [low.le, high.le]
  · simp [low, high]

/-- No rounding of a number that is not zero holds zero. -/
theorem Rounding.pos_of_holds {range : Rounding} {exponent step : Int} {candidate : Nat}
    (some : 0 < range.low) (holds : range.holds exponent candidate step = true) :
    0 < candidate := by
  refine Nat.pos_of_ne_zero ?_
  rintro rfl
  have zero : (candidateRatio 0 step).1 = 0 := by
    cases step
    · exact Nat.zero_mul _
    · rfl
  have low : 0 < (magnitude range.low (exponent - 2)).1 * (candidateRatio 0 step).2 := by
    refine Nat.mul_pos ((standsFor_magnitude range.low (exponent - 2)).pos ?_)
      (standsFor_candidateRatio 0 step).below
    have positive : (0 : ℚ) < range.low := by exact_mod_cast some
    positivity
  rw [holds_eq] at holds
  simp only [zero, Nat.zero_mul] at holds
  split at holds
  · exact absurd (of_decide_eq_true ((Bool.and_eq_true _ _).mp holds).1) (Nat.not_le.mpr low)
  · exact absurd (of_decide_eq_true ((Bool.and_eq_true _ _).mp holds).1) (Nat.not_lt_zero _)

/-! ### The search for the fewest digits -/

variable {significand : Nat} {exponent position : Int}

theorem low_rounding_pos (some : 0 < significand) (exponent : Int) :
    0 < (rounding significand exponent).low := by
  rw [rounding]
  dsimp only
  split <;> omega

/-- What is found on a grid is not zero. -/
theorem pos_of_onGrid (some : 0 < significand) {count found : Nat}
    (hit : onGrid significand exponent position count = .some found) : 0 < found := by
  have low := low_rounding_pos some exponent
  unfold onGrid at hit
  simp only at hit
  split at hit
  · rename_i both
    have below := Rounding.pos_of_holds low ((Bool.and_eq_true _ _).mp both).1
    have same := Option.some.inj hit
    split at same
    · omega
    · split at same
      · omega
      · split at same <;> omega
  · split at hit
    · rename_i lowHolds
      have below := Rounding.pos_of_holds low lowHolds
      cases hit
      exact below
    · split at hit
      · cases hit
        exact Nat.succ_pos _
      · cases hit

/-- The search ends with a number that is not zero, if the last of its grids has a hit. -/
theorem firstGrid_pos (some : 0 < significand) {fuel count : Nat}
    (hits : onGrid significand exponent position (count + fuel) ≠ none) :
    0 < (firstGrid significand exponent position fuel count).1 := by
  induction fuel generalizing count with
  | zero =>
    obtain ⟨found, hit⟩ := Option.ne_none_iff_exists'.mp hits
    rw [Nat.add_zero] at hit
    rw [firstGrid, hit]
    exact pos_of_onGrid some hit
  | succ fuel inductionHypothesis =>
    rw [firstGrid]
    split
    · exact pos_of_onGrid some ‹_›
    · exact inductionHypothesis (by rwa [Nat.add_right_comm])

theorem digitCount_of_pos {value : Nat} (some : 0 < value) :
    digitCount value = (digits value).length :=
  if_neg (Nat.ne_of_gt some)

/-- A ratio reaches the power of ten that its position tells. -/
theorem pow_pointPosition_le {numerator denominator : Nat} (some : 0 < numerator)
    (below : 0 < denominator) :
    (10 : ℚ) ^ (pointPosition numerator denominator - 1) * denominator ≤ numerator := by
  rw [pointPosition]
  split
  · rename_i large
    have positive : 0 < numerator / denominator := Nat.div_pos large below
    have length : 0 < (digits (numerator / denominator)).length :=
      List.length_pos_iff.mpr (digits_ne_nil _)
    have bound : 10 ^ ((digits (numerator / denominator)).length - 1) * denominator ≤ numerator :=
      (Nat.mul_le_mul_right denominator (pow_length_digits_le positive)).trans
        (Nat.div_mul_le_self numerator denominator)
    have power : ((digits (numerator / denominator)).length : Int) - 1 =
        ((digits (numerator / denominator)).length - 1 : Nat) := by omega
    rw [digitCount_of_pos positive, power, zpow_natCast]
    exact_mod_cast bound
  · rename_i small
    have whole := Nat.div_add_mod (denominator + numerator - 1) numerator
    have remainder := Nat.mod_lt (denominator + numerator - 1) some
    generalize (denominator + numerator - 1) / numerator = above at *
    have reaches : denominator ≤ numerator * above := by omega
    have two : 1 < above := by
      by_contra one
      have single : numerator * above ≤ numerator * 1 := Nat.mul_le_mul_left _ (Nat.not_lt.mp one)
      omega
    have length := lt_pow_length_digits (above - 1)
    have bound : denominator ≤ numerator * 10 ^ (digits (above - 1)).length :=
      reaches.trans (Nat.mul_le_mul_left _ (by omega))
    have scaled : (denominator : ℚ) ≤ numerator * 10 ^ (digits (above - 1)).length := by
      exact_mod_cast bound
    dsimp only
    rw [digitCount_of_pos (by omega), sub_right_comm, sub_self, zero_sub, zpow_neg, zpow_natCast,
      inv_mul_le_iff₀ (by positivity)]
    linarith

/-- The point of a grid behind a number, where a ratio in steps of the grid is rounded down. -/
theorem between_div {ratio : Nat × Nat} {number step : ℚ} (positive : 0 < step)
    (stands : StandsFor ratio (number / step)) :
    number < ((ratio.1 / ratio.2 + 1 : Nat) : ℚ) * step ∧
      ((ratio.1 / ratio.2 + 1 : Nat) : ℚ) * step ≤ number + step := by
  have below : (0 : ℚ) < ratio.2 := by exact_mod_cast stands.below
  have floor : ((ratio.1 / ratio.2 : Nat) : ℚ) * ratio.2 ≤ ratio.1 := by
    exact_mod_cast Nat.div_mul_le_self ratio.1 ratio.2
  have ceiling : (ratio.1 : ℚ) < ((ratio.1 / ratio.2 : Nat) + 1) * ratio.2 := by
    exact_mod_cast (Nat.div_lt_iff_lt_mul stands.below).mp (Nat.lt_succ_self (ratio.1 / ratio.2))
  rw [stands.eq] at floor ceiling
  have under := le_of_mul_le_mul_right floor below
  have upper := lt_of_mul_lt_mul_right ceiling below.le
  rw [le_div_iff₀ positive] at under
  rw [div_lt_iff₀ positive] at upper
  push_cast
  constructor <;> linarith

/-- Digits hold that stand for little more than a number: by a step that is no more than its
`10 ^ 17`th part, and so less than half of its last place. -/
theorem holds_of_fine (proper : significand < powerOfTwo 53) {candidate : Nat} {step : Int}
    (above : (significand : ℚ) * 2 ^ exponent < candidate * 10 ^ step)
    (next : (candidate : ℚ) * 10 ^ step ≤ significand * 2 ^ exponent + 10 ^ step)
    (fine : (10 : ℚ) ^ 17 * 10 ^ step ≤ significand * 2 ^ exponent) :
    (rounding significand exponent).holds exponent candidate step = true := by
  have small : (significand : ℚ) < 2 ^ 53 := by exact_mod_cast proper
  have quarter : (2 : ℚ) ^ exponent = 4 * 2 ^ (exponent - 2) := by
    rw [zpow_sub₀ (by decide)]
    norm_num
    ring
  have unit : (0 : ℚ) < 2 ^ (exponent - 2) := by positivity
  rw [quarter] at above next fine
  refine Rounding.holds_of_between ?_ ?_
  · have low : ((rounding significand exponent).low : ℚ) ≤ 4 * significand := by
      have ends : (rounding significand exponent).low ≤ 4 * significand := by
        rw [rounding]
        dsimp only
        split <;> omega
      exact_mod_cast ends
    have scaled := mul_le_mul_of_nonneg_right low unit.le
    linarith
  · have high : ((rounding significand exponent).high : ℚ) = 4 * significand + 2 := by
      rw [rounding]
      push_cast
      rfl
    have scaled := mul_lt_mul_of_pos_right small unit
    rw [high]
    norm_num at scaled fine
    linarith

/-- There is a hit on a grid if the point behind the number is one. -/
theorem onGrid_ne_none {count : Nat} {ratio : Nat × Nat}
    (scaled : scaleDecimal (magnitude significand exponent).1 (magnitude significand exponent).2
      (position - count) = ratio)
    (holds : (rounding significand exponent).holds exponent (ratio.1 / ratio.2 + 1)
      (position - count) = true) :
    onGrid significand exponent position count ≠ none := by
  subst scaled
  rw [onGrid]
  dsimp only
  rw [holds]
  split
  · simp
  · split <;> simp

/-- The grid with eighteen digits has a hit: a step of it is small against the number. -/
theorem onGrid_eighteen (some : 0 < significand) (proper : significand < powerOfTwo 53)
    (exponent : Int) :
    onGrid significand exponent (pointPosition (magnitude significand exponent).1
      (magnitude significand exponent).2) 18 ≠ none := by
  have stands := standsFor_magnitude significand exponent
  have positive : (0 : ℚ) < significand := by exact_mod_cast some
  have below : (0 : ℚ) < (magnitude significand exponent).2 := by exact_mod_cast stands.below
  have reached := pow_pointPosition_le (stands.pos (by positivity)) stands.below
  generalize pointPosition _ _ = position at reached ⊢
  rw [stands.eq] at reached
  have step : (10 : ℚ) ^ (position - 1) = 10 ^ 17 * 10 ^ (position - 18) := by
    rw [← zpow_natCast, ← zpow_add₀ (by decide)]
    congr 1
    omega
  have fine := le_of_mul_le_mul_right reached below
  rw [step] at fine
  have counted := standsFor_scaleDecimal stands (position - 18)
  obtain ⟨above, next⟩ := between_div (by positivity) counted
  exact onGrid_ne_none rfl (holds_of_fine proper above next fine)

/-- The fewest digits of a number that is not zero are no zeros. -/
theorem shortest_pos (some : 0 < significand) (proper : significand < powerOfTwo 53)
    (exponent : Int) : 0 < (shortest significand exponent).1 :=
  firstGrid_pos some (onGrid_eighteen some proper exponent)

/-! ### Layouts -/

/-- A numeral with a fraction or an exponent. Zeros do not stand in front, and a digit stands on
both sides of a point. -/
inductive IsNumeral : List Char → Prop where
  | positional {first : Char} {more fraction : List Char} (digit : isDigit first = true)
      (digital : ∀ character ∈ more, isDigit character = true) (zero : first = '0' → more = [])
      (some : fraction ≠ []) (digital' : ∀ character ∈ fraction, isDigit character = true) :
      IsNumeral (first :: more ++ '.' :: fraction)
  | scientific {first : Char} {fraction : List Char} (digit : isDigit first = true)
      (digital : ∀ character ∈ fraction, isDigit character = true) (exponent : Int) :
      IsNumeral
        (first :: (if fraction.isEmpty then [] else '.' :: fraction) ++ exponentText exponent)

/-- A numeral begins with a digit. -/
theorem IsNumeral.exists_head {text : List Char} (numeral : IsNumeral text) :
    ∃ first more, text = first :: more ∧ isDigit first = true := by
  cases numeral with
  | positional digit => exact ⟨_, _, rfl, digit⟩
  | scientific digit => exact ⟨_, _, rfl, digit⟩

/-- Digits that do not begin with a zero are laid out as a numeral. -/
theorem isNumeral_layout {first : Char} {more : List Char} (digit : isDigit first = true)
    (digital : ∀ character ∈ more, isDigit character = true) (noZero : first ≠ '0')
    (exponent : Int) : IsNumeral (layout (first :: more) exponent) := by
  have run : ∀ character ∈ first :: more, isDigit character = true :=
    List.forall_mem_cons.mpr ⟨digit, digital⟩
  unfold layout
  split
  · split
    · refine @IsNumeral.positional '0' [] _ rfl (by simp) (fun _ => rfl) (by simp)
        fun character member => ?_
      rcases List.mem_append.mp member with zero | later
      · exact isDigit_of_mem_zeros _ character zero
      · exact run character later
    · extract_lets whole fraction
      rw [List.take_succ_cons, List.cons_append]
      refine .positional digit (fun character member => ?_) (fun zero => absurd zero noZero) ?_ ?_
      · rcases List.mem_append.mp member with early | zero
        · exact digital character (List.mem_of_mem_take early)
        · exact isDigit_of_mem_zeros _ character zero
      · split
        · simp
        · exact fun none => absurd (List.isEmpty_iff.mpr none) ‹_›
      · split
        · exact isDigit_of_mem_zeros 1
        · exact fun character member => run character (List.mem_of_mem_drop member)
  · exact .scientific digit digital exponent

/-- Zeros are dropped from the end only, so a first digit that is none of them stays. -/
theorem exists_dropTrailingZeros {first : Char} (noZero : first ≠ '0') (more : List Char) :
    ∃ kept, (dropTrailingZeros (first :: more)).1 = first :: kept ∧
      ∀ character ∈ kept, character ∈ more := by
  have none : [first].takeWhile (· == '0') = [] := by simp [noZero]
  have zeros : ((first :: more).reverse.takeWhile (· == '0')).length ≤ more.length := by
    rw [List.reverse_cons, List.takeWhile_append, none, List.append_nil]
    split
    · exact (List.length_reverse).le
    · exact (List.takeWhile_prefix _).length_le.trans_eq List.length_reverse
  refine ⟨more.take (more.length - ((first :: more).reverse.takeWhile (· == '0')).length), ?_,
    fun character member => List.mem_of_mem_take member⟩
  rw [dropTrailingZeros]
  dsimp only
  rw [List.length_cons, Nat.succ_sub zeros, List.take_succ_cons]

/-- The text of a number that is proper is a numeral. -/
theorem isNumeral_magnitudeText (proper : significand < powerOfTwo 53) (exponent : Int) :
    IsNumeral (magnitudeText significand exponent) := by
  unfold magnitudeText
  split
  · exact @IsNumeral.positional '0' [] _ rfl (by simp) (fun _ => rfl) (by simp)
      (isDigit_of_mem_zeros 1)
  · rename_i some
    have positive := shortest_pos (Nat.pos_of_ne_zero some) proper exponent
    generalize shortest significand exponent = found at positive ⊢
    obtain ⟨value, last⟩ := found
    obtain ⟨first, more, shape, digit, zero⟩ := exists_digits value
    have noZero : first ≠ '0' := fun same => Nat.ne_of_gt positive (zero same)
    have digital : ∀ character ∈ first :: more, isDigit character = true := by
      rw [← shape]
      exact isDigit_of_mem_digits value
    obtain ⟨kept, dropped, within⟩ := exists_dropTrailingZeros noZero more
    dsimp only
    rw [shape, dropped]
    exact isNumeral_layout digit
      (fun character member => digital character (List.mem_cons_of_mem _ (within character member)))
      noZero _

end TableGateway.Number.Binary64
