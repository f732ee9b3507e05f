import BoundQuery.Number.Shortest
import BoundQuery.Proofs.PlainNumeral
import BoundQuery.Proofs.RoundedThousandfold

/-!
# The interval that rounds to a double

The numbers nearer to a double than to any other lie between the midpoints to its two
neighbours. At a midpoint the tie goes to the even significand, so an even double has the ends
of its interval and an odd one has not. Just above a power of two the lower neighbour is half
as far away as the upper one, and a number below the power is rounded on a grid that is twice
as fine and ends in the power.

The main statements say that a candidate of the search is taken when its value lies in the
interval, and that every decimal with a value in the interval is read as the double.
-/

namespace BoundQuery

namespace Double

/-! ## The interval -/

section Interval

variable (double : Double)

theorem gapBelow_bounds : 0 < gapBelow double ∧ gapBelow double ≤ 2 := by
  unfold gapBelow
  split <;> decide

/-- A number in units of the last place of a double. -/
def steps (value : ℚ) : ℚ :=
  value * 2 ^ (-double.exponent)

/-- A number lies between the midpoints to the neighbours of a double. It may be a midpoint
itself when the significand is even. -/
structure Holds (value : ℚ) : Prop where
  low : 4 * (double.significand : ℚ) - gapBelow double ≤ 4 * double.steps value
  high : 4 * double.steps value ≤ 4 * double.significand + 2
  inside : double.significand % 2 = 1 →
    4 * (double.significand : ℚ) - gapBelow double < 4 * double.steps value ∧
      4 * double.steps value < 4 * double.significand + 2

/-- What a quarter of a unit of the last place is on the common scale of the comparisons. -/
def commonScale (exponent : Int) : Nat :=
  twoTo (double.exponent - 2).toNat * tenTo (-exponent).toNat

theorem commonScale_pos (exponent : Int) : 0 < double.commonScale exponent :=
  Nat.mul_pos (twoTo_pos _) (tenTo_pos _)

theorem binarySide_eq (exponent : Int) (quarters : Nat) :
    binarySide double exponent quarters = quarters * double.commonScale exponent :=
  Nat.mul_assoc _ _ _

theorem cast_decimalSide (decimal : ScaledDecimal) :
    (decimalSide double decimal.exponent decimal.coefficient : ℚ) =
      4 * double.steps decimal.value * double.commonScale decimal.exponent := by
  have powers : (twoTo (2 - double.exponent).toNat : ℚ) =
      4 * 2 ^ (-double.exponent) * twoTo (double.exponent - 2).toNat := by
    have split : 4 * (2 : ℚ) ^ (-double.exponent) = 2 ^ (2 - double.exponent) := by
      rw [sub_eq_add_neg, zpow_add₀ (by decide)]
      norm_num
    have scales : (twoTo (double.exponent - 2).toNat : ℚ) ≠ 0 := by
      exact_mod_cast (twoTo_pos _).ne'
    rw [split, zpow_eq_quotient, Int.neg_sub, div_mul_cancel₀ _ scales]
  rw [decimalSide, Nat.cast_mul, Nat.cast_mul, ← decimal.value_scaled, powers, steps,
    commonScale, Nat.cast_mul]
  ring

/-- A candidate of the search is taken when its value lies in the interval. -/
theorem roundsTo_iff (positive : 0 < double.significand) (decimal : ScaledDecimal) :
    roundsTo double decimal = true ↔ double.Holds decimal.value := by
  have gap := double.gapBelow_bounds
  have scale : (0 : ℚ) < double.commonScale decimal.exponent := by
    exact_mod_cast double.commonScale_pos _
  have point := double.cast_decimalSide decimal
  have lower : ((4 * double.significand - gapBelow double : Nat) : ℚ) =
      4 * double.significand - gapBelow double := by
    rw [Nat.cast_sub (by omega), Nat.cast_mul, Nat.cast_ofNat]
  have upper : ((4 * double.significand + 2 : Nat) : ℚ) = 4 * double.significand + 2 := by
    norm_num
  unfold roundsTo
  dsimp only
  rw [binarySide_eq, binarySide_eq]
  by_cases even : double.significand % 2 = 0
  · rw [if_pos even, Bool.and_eq_true, decide_eq_true_iff, decide_eq_true_iff,
      ← Nat.cast_le (α := ℚ), ← Nat.cast_le (α := ℚ), point, Nat.cast_mul, Nat.cast_mul,
      mul_le_mul_iff_of_pos_right scale, mul_le_mul_iff_of_pos_right scale, lower, upper]
    exact ⟨fun ends => ⟨ends.1, ends.2, fun odd => by omega⟩,
      fun holds => ⟨holds.low, holds.high⟩⟩
  · rw [if_neg even, Bool.and_eq_true, decide_eq_true_iff, decide_eq_true_iff,
      ← Nat.cast_lt (α := ℚ), ← Nat.cast_lt (α := ℚ), point, Nat.cast_mul, Nat.cast_mul,
      mul_lt_mul_iff_of_pos_right scale, mul_lt_mul_iff_of_pos_right scale, lower, upper]
    exact ⟨fun ends => ⟨ends.1.le, ends.2.le, fun _ => ends⟩,
      fun holds => holds.inside (by omega)⟩

end Interval

/-! ## Rounding to a given number of steps -/

section Grid

variable {dividend divisor count : Nat}

theorem roundedQuotient_eq
    (positive : 0 < divisor) (low : 2 * count * divisor ≤ 2 * dividend + divisor)
    (high : 2 * dividend ≤ (2 * count + 1) * divisor)
    (inside : count % 2 = 1 →
      2 * count * divisor < 2 * dividend + divisor ∧ 2 * dividend < (2 * count + 1) * divisor) :
    roundedQuotient dividend divisor = count := by
  have split := Nat.div_add_mod dividend divisor
  have small := Nat.mod_lt dividend positive
  have even : 2 * count * divisor = 2 * (divisor * count) := by ring
  have next : (2 * count + 1) * divisor = 2 * (divisor * count) + divisor := by ring
  rw [even] at low inside
  rw [next] at high inside
  unfold roundedQuotient
  dsimp only
  generalize dividend / divisor = quotient at *
  generalize dividend % divisor = rest at *
  have notBelow : quotient ≤ count := by
    by_contra below
    have products := Nat.mul_le_mul_left divisor (Nat.succ_le_of_lt (Nat.not_le.mp below))
    rw [Nat.mul_succ] at products
    omega
  have notAbove : count ≤ quotient + 1 := by
    by_contra above
    have products := Nat.mul_le_mul_left divisor (Nat.succ_le_of_lt (Nat.not_le.mp above))
    rw [Nat.mul_succ, Nat.mul_succ] at products
    omega
  rcases Nat.eq_or_lt_of_le notBelow with rfl | above
  · rw [if_neg]
    omega
  · obtain rfl : count = quotient + 1 := by omega
    rw [Nat.mul_add, Nat.mul_one] at low inside
    rw [if_pos]
    omega

theorem gridSteps_eq
    (divides : 0 < divisor) (low : 2 * (count : ℚ) ≤ 2 * scaled dividend divisor + 1)
    (high : 2 * scaled dividend divisor ≤ 2 * count + 1)
    (inside : count % 2 = 1 → 2 * (count : ℚ) < 2 * scaled dividend divisor + 1 ∧
      2 * scaled dividend divisor < 2 * count + 1) :
    gridSteps dividend divisor = count := by
  have whole : 0 < divisor * twoTo (gridExponent dividend divisor).toNat :=
    Nat.mul_pos divides (twoTo_pos _)
  rw [scaled_eq_quotient] at low high inside
  rw [gridSteps]
  generalize dividend * twoTo (-gridExponent dividend divisor).toNat = upper at *
  generalize divisor * twoTo (gridExponent dividend divisor).toNat = lower at *
  have castWhole : (0 : ℚ) < lower := by exact_mod_cast whole
  rw [← mul_div_assoc, ← sub_le_iff_le_add, le_div_iff₀ castWhole, sub_mul, one_mul,
    sub_le_iff_le_add] at low
  rw [← mul_div_assoc, div_le_iff₀ castWhole] at high
  apply roundedQuotient_eq whole
  · exact_mod_cast low
  · exact_mod_cast high
  · intro odd
    obtain ⟨strictLow, strictHigh⟩ := inside odd
    rw [← mul_div_assoc, ← sub_lt_iff_lt_add, lt_div_iff₀ castWhole, sub_mul, one_mul,
      sub_lt_iff_lt_add] at strictLow
    rw [← mul_div_assoc, div_lt_iff₀ castWhole] at strictHigh
    exact ⟨by exact_mod_cast strictLow, by exact_mod_cast strictHigh⟩

end Grid

/-! ## Numbers in the interval -/

section Holds

variable {double : Double} {value : ℚ}

theorem value_eq_steps (double : Double) (value : ℚ) :
    value = double.steps value * 2 ^ double.exponent := by
  rw [steps, mul_assoc, ← zpow_add₀ (by decide), neg_add_cancel, zpow_zero, mul_one]

theorem Holds.steps_lt (holds : double.Holds value) : double.steps value < 2 ^ (53 : Int) := by
  have bound : (double.significand : ℚ) + 1 ≤ 2 ^ (53 : Int) := by
    exact_mod_cast double.significand_lt
  have high := holds.high
  linarith

theorem Holds.half_le_steps (holds : double.Holds value) (positive : 0 < double.significand) :
    1 / 2 ≤ double.steps value := by
  have one : (1 : ℚ) ≤ double.significand := by exact_mod_cast positive
  have gap : (gapBelow double : ℚ) ≤ 2 := by exact_mod_cast double.gapBelow_bounds.2
  have low := holds.low
  linarith

theorem exponent_ge (double : Double) : -1074 ≤ double.exponent := by
  unfold Double.exponent
  omega

/-- The significand of a power of two, above which the doubles are less dense. -/
theorem significand_eq_of_steps_lt
    (holds : double.Holds value) (above : -1074 < double.exponent)
    (less : double.steps value < 2 ^ (52 : Int)) :
    double.significand = twoTo 52 ∧ gapBelow double = 1 := by
  have biased : 1 < double.biased.val := by
    unfold Double.exponent at above
    omega
  have large := double.le_significand_of_normal (by omega)
  have gap : (gapBelow double : ℚ) ≤ 2 := by exact_mod_cast double.gapBelow_bounds.2
  have low := holds.low
  have small : (double.significand : ℚ) < 2 ^ (52 : Int) + 1 := by linarith
  have same : double.significand = twoTo 52 := by
    have bound : double.significand < twoTo 52 + 1 := by exact_mod_cast small
    omega
  have fraction : double.fraction.val = 0 := by
    rw [significand, if_neg (by omega)] at same
    omega
  exact ⟨same, by rw [gapBelow, if_pos ⟨fraction, biased⟩]⟩

section Quotient

variable {dividend divisor : Nat}

/-- The interval lies in the binade of the double, except that what is below a power of two
lies in the binade beneath. -/
theorem gridExponent_of_holds
    (dividendPositive : 0 < dividend) (divides : 0 < divisor)
    (holds : double.Holds (dividend / divisor)) :
    gridExponent dividend divisor = double.exponent ∨
      gridExponent dividend divisor = double.exponent - 1 ∧ -1074 < double.exponent ∧
        double.steps (dividend / divisor) < 2 ^ (52 : Int) := by
  have bottom := double.exponent_ge
  have unit := zpow_two_pos double.exponent
  have shifted (power : Int) :
      (2 : ℚ) ^ (power + double.exponent) = 2 ^ power * 2 ^ double.exponent :=
    zpow_add₀ (by decide) _ _
  obtain ⟨below, above⟩ := binaryOrder_bounds dividendPositive divides
  rw [double.value_eq_steps (dividend / divisor)] at below above
  have order : binaryOrder dividend divisor < 53 + double.exponent := by
    apply lt_of_zpow_two_lt
    rw [shifted]
    exact below.trans_lt (mul_lt_mul_of_pos_right holds.steps_lt unit)
  unfold gridExponent
  rcases le_or_gt (52 + double.exponent) (binaryOrder dividend divisor) with full | short
  · exact Or.inl (by omega)
  · rcases Int.lt_or_eq_of_le bottom with normal | lowest
    · have less : double.steps (dividend / divisor) < 2 ^ (52 : Int) := by
        refine lt_of_mul_lt_mul_right ?_ unit.le
        rw [← shifted]
        exact above.trans_le (zpow_two_mono (by omega))
      obtain ⟨power, gap⟩ := significand_eq_of_steps_lt holds normal less
      have near : (2 : ℚ) ^ (51 : Int) ≤ double.steps (dividend / divisor) := by
        have low := holds.low
        rw [power, gap, cast_twoTo] at low
        norm_num at low ⊢
        linarith
      have next : 51 + double.exponent < binaryOrder dividend divisor + 1 := by
        apply lt_of_zpow_two_lt
        rw [shifted]
        exact (mul_le_mul_of_nonneg_right near unit.le).trans_lt above
      exact Or.inr ⟨by omega, normal, less⟩
    · exact Or.inl (by omega)

/-- On the grid of the double, or on the finer one beneath a power of two, a number in the
interval is rounded to the double. -/
theorem nearestFields_of_holds
    (dividendPositive : 0 < dividend) (divides : 0 < divisor)
    (holds : double.Holds (dividend / divisor)) :
    nearestFields dividend divisor =
      (double.exponent + 1074).toNat * twoTo 52 + double.significand := by
  have gap : (gapBelow double : ℚ) ≤ 2 := by exact_mod_cast double.gapBelow_bounds.2
  obtain ⟨low, high, inside⟩ := holds
  unfold nearestFields
  rcases gridExponent_of_holds dividendPositive divides ⟨low, high, inside⟩ with
    level | ⟨finer, normal, less⟩
  · have same : scaled dividend divisor = double.steps (dividend / divisor) := by
      rw [scaled, level, steps]
    have count : gridSteps dividend divisor = double.significand := by
      apply gridSteps_eq divides
      · rw [same]
        linarith
      · rw [same]
        linarith
      · intro odd
        rw [same]
        constructor <;> linarith [inside odd]
    rw [level, count]
  · have twice : scaled dividend divisor = 2 * double.steps (dividend / divisor) := by
      rw [scaled, finer, steps, neg_sub, sub_eq_add_neg, zpow_add₀ (by decide), zpow_one]
      ring
    obtain ⟨power, single⟩ := significand_eq_of_steps_lt ⟨low, high, inside⟩ normal less
    rw [power, single, cast_twoTo] at low
    have count : gridSteps dividend divisor = twoTo 53 := by
      apply gridSteps_eq divides
      · rw [twice, cast_twoTo]
        norm_num at low ⊢
        linarith
      · rw [twice, cast_twoTo]
        norm_num at less ⊢
        linarith
      · intro odd
        exact absurd odd (by decide)
    have height : (double.exponent + 1074).toNat = (double.exponent - 1 + 1074).toNat + 1 := by
      omega
    have full : twoTo 53 = twoTo 52 + twoTo 52 := rfl
    rw [finer, count, power, height, full]
    ring

/-- The exponent and the fraction of a finite double, read as one number, count the doubles
from zero on. -/
theorem ofFields_significand (finite : double.isFinite = true) :
    ofFields double.negative
        ((double.exponent + 1074).toNat * twoTo 52 + double.significand) = double := by
  have regular : double.biased.val < 2047 := of_decide_eq_true finite
  have fraction := double.fraction.isLt
  have hidden : twoTo 52 = 4503599627370496 := rfl
  have fields : (double.exponent + 1074).toNat * twoTo 52 + double.significand =
      double.biased.val * 4503599627370496 + double.fraction.val := by
    unfold Double.exponent significand
    rw [hidden]
    split <;> omega
  have biased : (double.biased.val * 4503599627370496 + double.fraction.val) /
      twoTo 52 % 2048 = double.biased.val := by
    rw [hidden]
    omega
  have rest : (double.biased.val * 4503599627370496 + double.fraction.val) %
      4503599627370496 = double.fraction.val := by omega
  have small : double.biased.val * 4503599627370496 + double.fraction.val <
      2047 * twoTo 52 := by
    rw [hidden]
    omega
  rw [fields, ofFields, if_pos small]
  exact congrArg₂ (Double.mk double.negative) (Fin.ext biased) (Fin.ext rest)

theorem nearest_of_holds
    (finite : double.isFinite = true) (dividendPositive : 0 < dividend)
    (divides : 0 < divisor) (holds : double.Holds (dividend / divisor)) :
    nearest double.negative dividend divisor = double :=
  calc nearest double.negative dividend divisor
      = ofFields double.negative (nearestFields dividend divisor) :=
        if_neg dividendPositive.ne'
    _ = double := by
        rw [nearestFields_of_holds dividendPositive divides holds, ofFields_significand finite]

end Quotient

end Holds

end Double

end BoundQuery
