import BoundQuery.Number.Double
import Mathlib.Algebra.Order.Field.Basic
import Mathlib.Algebra.Order.Field.Power
import Mathlib.Tactic.Linarith

/-!
# The thousandfold of a double

A thousand times a double is rounded once, to the nearest double. Rounding leaves a product
of one or more at one or more, since one is a double. A product below one it could lift to
one only within half a step of the grid beneath one. No double has such a product: those
whose thousandfold lies between one half and one are multiples of a power of two, and a
thousand times such a multiple misses one by more than half a step.

The main statement says that the thousandfold has a positive integer part exactly when the
double is at least one thousandth.
-/

namespace BoundQuery

/-! ## Powers of two with a sign in the exponent -/

theorem cast_twoTo (power : Nat) : ((twoTo power : Nat) : ℚ) = 2 ^ power := by
  rw [show twoTo power = 2 ^ power from rfl, Nat.cast_pow, Nat.cast_ofNat]

theorem zpow_eq_quotient (exponent : Int) :
    (2 : ℚ) ^ exponent = (twoTo exponent.toNat : ℚ) / (twoTo (-exponent).toNat : ℚ) := by
  rw [cast_twoTo, cast_twoTo]
  rcases Int.le_total 0 exponent with upward | downward
  · obtain ⟨power, rfl⟩ := Int.eq_ofNat_of_zero_le upward
    simp
  · obtain ⟨power, same⟩ := Int.eq_ofNat_of_zero_le (Int.neg_nonneg_of_nonpos downward)
    obtain rfl : exponent = -(power : Int) := by omega
    simp

theorem zpow_two_pos (exponent : Int) : (0 : ℚ) < 2 ^ exponent :=
  zpow_pos (by decide) exponent

theorem zpow_two_mono {low high : Int} (order : low ≤ high) : (2 : ℚ) ^ low ≤ 2 ^ high :=
  zpow_le_zpow_right₀ (by decide) order

theorem lt_of_zpow_two_lt {low high : Int} (order : (2 : ℚ) ^ low < 2 ^ high) : low < high :=
  (zpow_lt_zpow_iff_right₀ (by decide)).mp order

namespace Double

/-! ## Magnitudes -/

/-- The magnitude of a finite double. -/
def magnitude (double : Double) : ℚ :=
  double.numerator / double.denominator

section Magnitude

variable (double : Double)

theorem magnitude_eq : double.magnitude = double.significand * 2 ^ double.exponent := by
  rw [magnitude, numerator, denominator, zpow_eq_quotient, Nat.cast_mul, mul_div_assoc]

theorem denominator_pos : 0 < double.denominator :=
  twoTo_pos _

theorem significand_lt : double.significand < twoTo 53 := by
  have fraction := double.fraction.isLt
  have hidden : twoTo 52 = 4503599627370496 := rfl
  have full : twoTo 53 = 9007199254740992 := rfl
  unfold significand
  split <;> omega

/-- The significand of a normal double has the hidden bit. -/
theorem le_significand_of_normal (normal : double.biased.val ≠ 0) :
    twoTo 52 ≤ double.significand := by
  rw [significand, if_neg normal]
  exact Nat.le_add_right _ _

/-- A magnitude is one or more from the biased exponent of one on. -/
theorem one_le_magnitude_iff : 1 ≤ double.magnitude ↔ 1023 ≤ double.biased.val := by
  rw [magnitude_eq]
  constructor
  · intro large
    by_contra small
    have bounded : (double.significand : ℚ) < 2 ^ (53 : Int) := by
      exact_mod_cast double.significand_lt
    have exponent : (2 : ℚ) ^ double.exponent ≤ 2 ^ (-53 : Int) := by
      apply zpow_two_mono
      unfold Double.exponent
      omega
    have product : double.significand * (2 : ℚ) ^ double.exponent < 1 :=
      calc double.significand * (2 : ℚ) ^ double.exponent
          < 2 ^ (53 : Int) * 2 ^ double.exponent :=
            mul_lt_mul_of_pos_right bounded (zpow_two_pos _)
        _ ≤ 2 ^ (53 : Int) * 2 ^ (-53 : Int) :=
            mul_le_mul_of_nonneg_left exponent (zpow_two_pos _).le
        _ = 1 := by norm_num
    exact absurd large (not_le_of_gt product)
  · intro large
    have normal : double.biased.val ≠ 0 := by omega
    have hidden : (2 : ℚ) ^ (52 : Int) ≤ double.significand := by
      exact_mod_cast double.le_significand_of_normal normal
    have exponent : (2 : ℚ) ^ (-52 : Int) ≤ 2 ^ double.exponent := by
      apply zpow_two_mono
      unfold Double.exponent
      omega
    calc (1 : ℚ) = 2 ^ (52 : Int) * 2 ^ (-52 : Int) := by norm_num
      _ ≤ double.significand * 2 ^ double.exponent :=
          mul_le_mul hidden exponent (zpow_two_pos _).le (Nat.cast_nonneg _)

theorem isFinite_of_integerPart? {double : Double} {whole : Int}
    (cut : double.integerPart? = some whole) : double.isFinite = true := by
  unfold integerPart? at cut
  split at cut
  case isTrue finite => exact finite
  case isFalse => cases cut

/-- The integer part of a double without a sign is positive when its magnitude is one or
more. -/
theorem integerPart_of_not_negative
    {double : Double} (unsigned : double.negative = false) {whole : Int}
    (cut : double.integerPart? = some whole) :
    0 ≤ whole ∧ (1 ≤ whole ↔ 1 ≤ double.magnitude) := by
  have parts : whole = (double.numerator / double.denominator : Nat) := by
    rw [integerPart?, if_pos (isFinite_of_integerPart? cut), unsigned] at cut
    exact (Option.some.inj cut).symm
  have positive := double.denominator_pos
  have castPositive : (0 : ℚ) < double.denominator := by exact_mod_cast positive
  refine ⟨parts ▸ Int.natCast_nonneg _, ?_⟩
  rw [parts, magnitude, one_le_div castPositive, Nat.cast_le]
  constructor
  · intro large
    exact (Nat.div_pos_iff.mp (by omega)).2
  · intro large
    have parted := Nat.div_pos large positive
    omega

end Magnitude

/-! ## The grid around a quotient -/

section Grid

variable {dividend divisor : Nat}

theorem quotient_lt_zpow_iff (positive : 0 < divisor) (exponent : Int) :
    (dividend / divisor : ℚ) < 2 ^ exponent ↔
      dividend * twoTo (-exponent).toNat < divisor * twoTo exponent.toNat := by
  have divides : (0 : ℚ) < divisor := by exact_mod_cast positive
  have scales : (0 : ℚ) < twoTo (-exponent).toNat := by exact_mod_cast twoTo_pos _
  rw [zpow_eq_quotient, div_lt_div_iff₀ divides scales, mul_comm (twoTo _ : ℚ)]
  exact_mod_cast Iff.rfl

theorem zpow_log2_le {number : Nat} (positive : 0 < number) :
    (2 : ℚ) ^ (number.log2 : Int) ≤ number := by
  rw [zpow_natCast]
  exact_mod_cast Nat.log2_self_le positive.ne'

theorem lt_zpow_log2_succ (number : Nat) :
    (number : ℚ) < 2 ^ ((number.log2 : Int) + 1) := by
  exact_mod_cast Nat.lt_log2_self (n := number)

theorem quotient_lt_zpow_log2 (dividend : Nat) (divides : 0 < divisor) :
    (dividend / divisor : ℚ) < 2 ^ ((dividend.log2 : Int) - divisor.log2 + 1) := by
  have castDivides : (0 : ℚ) < divisor := by exact_mod_cast divides
  rw [div_lt_iff₀ castDivides]
  calc (dividend : ℚ) < 2 ^ ((dividend.log2 : Int) + 1) := lt_zpow_log2_succ dividend
    _ = 2 ^ ((dividend.log2 : Int) - divisor.log2 + 1) * 2 ^ (divisor.log2 : Int) := by
        rw [← zpow_add₀ (by decide)]
        congr 1
        omega
    _ ≤ 2 ^ ((dividend.log2 : Int) - divisor.log2 + 1) * divisor :=
        mul_le_mul_of_nonneg_left (zpow_log2_le divides) (zpow_two_pos _).le

theorem zpow_log2_le_quotient (positive : 0 < dividend) (divides : 0 < divisor) :
    (2 : ℚ) ^ ((dividend.log2 : Int) - divisor.log2 - 1) ≤ (dividend / divisor : ℚ) := by
  have castDivides : (0 : ℚ) < divisor := by exact_mod_cast divides
  rw [le_div_iff₀ castDivides]
  calc (2 : ℚ) ^ ((dividend.log2 : Int) - divisor.log2 - 1) * divisor
      ≤ 2 ^ ((dividend.log2 : Int) - divisor.log2 - 1) * 2 ^ ((divisor.log2 : Int) + 1) :=
        mul_le_mul_of_nonneg_left (lt_zpow_log2_succ divisor).le (zpow_two_pos _).le
    _ = 2 ^ (dividend.log2 : Int) := by
        rw [← zpow_add₀ (by decide)]
        congr 1
        omega
    _ ≤ dividend := zpow_log2_le positive

/-- The order of a quotient is the exponent of the power of two at or below it. -/
theorem binaryOrder_bounds (positive : 0 < dividend) (divides : 0 < divisor) :
    (2 : ℚ) ^ binaryOrder dividend divisor ≤ (dividend / divisor : ℚ) ∧
      (dividend / divisor : ℚ) < 2 ^ (binaryOrder dividend divisor + 1) := by
  unfold binaryOrder
  simp only [← quotient_lt_zpow_iff divides]
  split
  case isTrue small =>
    exact ⟨zpow_log2_le_quotient positive divides, by rwa [sub_add_cancel]⟩
  case isFalse large =>
    exact ⟨not_lt.mp large, quotient_lt_zpow_log2 dividend divides⟩

/-- The quotient as a number of grid steps, which need not be whole. -/
def scaled (dividend divisor : Nat) : ℚ :=
  dividend / divisor * 2 ^ (-gridExponent dividend divisor)

theorem scaled_eq_quotient (dividend divisor : Nat) :
    scaled dividend divisor =
      (dividend * twoTo (-gridExponent dividend divisor).toNat : Nat) /
        (divisor * twoTo (gridExponent dividend divisor).toNat : Nat) := by
  rw [scaled, zpow_eq_quotient, neg_neg, div_mul_div_comm, Nat.cast_mul, Nat.cast_mul]

/-- The number of grid steps is off by half a step at most. -/
theorem gridSteps_near (dividend : Nat) (divides : 0 < divisor) :
    2 * scaled dividend divisor ≤ 2 * gridSteps dividend divisor + 1 ∧
      (2 : ℚ) * gridSteps dividend divisor ≤ 2 * scaled dividend divisor + 1 := by
  have whole : 0 < divisor * twoTo (gridExponent dividend divisor).toNat :=
    Nat.mul_pos divides (twoTo_pos _)
  have castWhole : (0 : ℚ) < (divisor * twoTo (gridExponent dividend divisor).toNat : Nat) := by
    exact_mod_cast whole
  obtain ⟨low, high⟩ := roundedQuotient_near
    (dividend * twoTo (-gridExponent dividend divisor).toNat) _ whole
  rw [scaled_eq_quotient, gridSteps]
  generalize (dividend * twoTo (-gridExponent dividend divisor).toNat : Nat) = upper at *
  generalize (divisor * twoTo (gridExponent dividend divisor).toNat : Nat) = lower at *
  constructor
  · rw [← mul_div_assoc, div_le_iff₀ castWhole]
    exact_mod_cast low
  · rw [← sub_le_iff_le_add, ← mul_div_assoc, le_div_iff₀ castWhole, sub_mul, one_mul,
      sub_le_iff_le_add]
    exact_mod_cast high

theorem binaryOrder_nonneg_iff (positive : 0 < dividend) (divides : 0 < divisor) :
    0 ≤ binaryOrder dividend divisor ↔ (1 : ℚ) ≤ dividend / divisor := by
  obtain ⟨low, high⟩ := binaryOrder_bounds positive divides
  constructor
  · intro order
    calc (1 : ℚ) = 2 ^ (0 : Int) := (zpow_zero 2).symm
      _ ≤ 2 ^ binaryOrder dividend divisor := zpow_two_mono order
      _ ≤ dividend / divisor := low
  · intro large
    have order : (2 : ℚ) ^ (0 : Int) < 2 ^ (binaryOrder dividend divisor + 1) := by
      rw [zpow_zero]
      exact lt_of_le_of_lt large high
    have nonneg := lt_of_zpow_two_lt order
    omega

end Grid

/-! ## Rounding on the two sides of one -/

/-- The exponent and the fraction of the nearest double, read as one number. -/
def nearestFields (dividend divisor : Nat) : Nat :=
  (gridExponent dividend divisor + 1074).toNat * twoTo 52 + gridSteps dividend divisor

/-- On the grid just beneath one, a quotient lies more than half a step below one. -/
def IsClearOfOne (dividend divisor : Nat) : Prop :=
  gridExponent dividend divisor = -53 → 2 * scaled dividend divisor + 1 < 2 * 2 ^ 53

section Sides

variable {dividend divisor : Nat}

/-- A quotient of one or more is rounded to one or more. -/
theorem le_nearestFields_of_one_le
    (positive : 0 < dividend) (divides : 0 < divisor) (large : (1 : ℚ) ≤ dividend / divisor) :
    1023 * twoTo 52 ≤ nearestFields dividend divisor := by
  have order := (binaryOrder_nonneg_iff positive divides).mpr large
  have grid : gridExponent dividend divisor = binaryOrder dividend divisor - 52 :=
    max_eq_left (by omega)
  have exactSteps : ((twoTo 52 : Nat) : ℚ) ≤ scaled dividend divisor := by
    rw [cast_twoTo, scaled, grid]
    calc (2 : ℚ) ^ 52
        = 2 ^ binaryOrder dividend divisor * 2 ^ (-(binaryOrder dividend divisor - 52)) := by
          rw [← zpow_add₀ (by decide), neg_sub, add_sub_cancel]
          norm_num
      _ ≤ dividend / divisor * 2 ^ (-(binaryOrder dividend divisor - 52)) :=
          mul_le_mul_of_nonneg_right (binaryOrder_bounds positive divides).1
            (zpow_two_pos _).le
  have steps : 2 * twoTo 52 ≤ 2 * gridSteps dividend divisor + 1 := by
    have near := (gridSteps_near dividend divides).1
    exact_mod_cast (mul_le_mul_of_nonneg_left exactSteps zero_le_two).trans near
  have height : 1022 ≤ (gridExponent dividend divisor + 1074).toNat := by omega
  have rows := Nat.mul_le_mul_right (twoTo 52) height
  unfold nearestFields
  omega

/-- A quotient below one and clear of it is rounded to less than one. -/
theorem nearestFields_lt_of_lt_one
    (positive : 0 < dividend) (divides : 0 < divisor)
    (small : (dividend / divisor : ℚ) < 1) (clear : IsClearOfOne dividend divisor) :
    nearestFields dividend divisor < 1023 * twoTo 52 := by
  have order : ¬ 0 ≤ binaryOrder dividend divisor :=
    fun order => absurd ((binaryOrder_nonneg_iff positive divides).mp order) (not_le.mpr small)
  have above : gridExponent dividend divisor ≤ -53 := max_le (by omega) (by omega)
  have below : binaryOrder dividend divisor - 52 ≤ gridExponent dividend divisor :=
    le_max_left _ _
  have near := (gridSteps_near dividend divides).2
  have exactSteps : scaled dividend divisor ≤ 2 ^ 53 := by
    calc scaled dividend divisor
        ≤ 2 ^ (binaryOrder dividend divisor + 1) * 2 ^ (-gridExponent dividend divisor) :=
          mul_le_mul_of_nonneg_right (binaryOrder_bounds positive divides).2.le
            (zpow_two_pos _).le
      _ = 2 ^ (binaryOrder dividend divisor + 1 - gridExponent dividend divisor) := by
          rw [← zpow_add₀ (by decide), sub_eq_add_neg]
      _ ≤ 2 ^ (53 : Int) := zpow_two_mono (by omega)
      _ = 2 ^ 53 := by norm_num
  have full : twoTo 53 = 2 * twoTo 52 := rfl
  unfold nearestFields
  rcases eq_or_lt_of_le above with border | deeper
  · have steps : 2 * gridSteps dividend divisor < 2 * twoTo 53 := by
      have bound := lt_of_le_of_lt near (clear border)
      rw [← cast_twoTo] at bound
      exact_mod_cast bound
    have height : (gridExponent dividend divisor + 1074).toNat = 1021 := by omega
    rw [height]
    omega
  · have steps : 2 * gridSteps dividend divisor ≤ 2 * twoTo 53 + 1 := by
      have bound := near.trans
        (add_le_add_left (mul_le_mul_of_nonneg_left exactSteps zero_le_two) 1)
      rw [← cast_twoTo] at bound
      exact_mod_cast bound
    have height : (gridExponent dividend divisor + 1074).toNat ≤ 1020 := by omega
    have rows := Nat.mul_le_mul_right (twoTo 52) height
    have unit := twoTo_pos 52
    omega

theorem biased_ofFields {negative : Bool} {fields : Nat}
    (finite : (ofFields negative fields).isFinite = true) :
    1023 ≤ (ofFields negative fields).biased.val ↔ 1023 * twoTo 52 ≤ fields := by
  by_cases bounded : fields < 2047 * twoTo 52
  · have rows : fields / twoTo 52 < 2048 := by
      have row := (Nat.div_lt_iff_lt_mul (twoTo_pos 52)).mpr bounded
      omega
    rw [ofFields, if_pos bounded]
    simp only [Nat.mod_eq_of_lt rows, Nat.le_div_iff_mul_le (twoTo_pos 52)]
  · rw [ofFields, if_neg bounded] at finite
    cases finite

theorem one_le_magnitude_nearest_iff
    (positive : 0 < dividend) (divides : 0 < divisor)
    (clear : (dividend / divisor : ℚ) < 1 → IsClearOfOne dividend divisor)
    {negative : Bool} (finite : (nearest negative dividend divisor).isFinite = true) :
    1 ≤ (nearest negative dividend divisor).magnitude ↔ (1 : ℚ) ≤ dividend / divisor := by
  have fields : nearest negative dividend divisor =
      ofFields negative (nearestFields dividend divisor) :=
    if_neg positive.ne'
  rw [fields] at finite ⊢
  rw [one_le_magnitude_iff, biased_ofFields finite]
  constructor
  · intro large
    by_contra small
    have less := nearestFields_lt_of_lt_one positive divides (not_le.mp small)
      (clear (not_le.mp small))
    omega
  · exact le_nearestFields_of_one_le positive divides

end Sides

/-! ## Thousandfolds -/

section Thousandfold

variable {double : Double}

theorem thousandfold_eq (double : Double) :
    ((double.numerator * 1000 : Nat) : ℚ) / double.denominator = double.magnitude * 1000 := by
  rw [magnitude, Nat.cast_mul, Nat.cast_ofNat, div_mul_eq_mul_div]

/-- A double whose thousandfold is one half or more is a multiple of the sixty-third power
of one half. -/
theorem exists_magnitude_eq_of_half_le (large : 1 / 2 ≤ double.magnitude * 1000) :
    ∃ count : Nat, double.magnitude = count / 2 ^ 63 := by
  have exponent : -63 ≤ double.exponent := by
    by_contra deep
    have bounded : (double.significand : ℚ) ≤ 2 ^ (53 : Int) := by
      exact_mod_cast double.significand_lt.le
    have tiny : double.magnitude ≤ 2 ^ (53 : Int) * 2 ^ (-64 : Int) := by
      rw [magnitude_eq]
      exact mul_le_mul bounded (zpow_two_mono (by omega)) (zpow_two_pos _).le
        (zpow_two_pos _).le
    norm_num at tiny
    linarith
  refine ⟨double.significand * 2 ^ (double.exponent + 63).toNat, ?_⟩
  have shifted : (2 : ℚ) ^ (double.exponent + 63).toNat = 2 ^ double.exponent * 2 ^ 63 := by
    rw [← zpow_natCast, Int.toNat_of_nonneg (by omega), zpow_add₀ (by decide)]
    norm_num
  rw [magnitude_eq, eq_div_iff (by norm_num), Nat.cast_mul, Nat.cast_pow, Nat.cast_ofNat,
    shifted, mul_assoc]

/-- Thousandfolds below one are too far from one to be rounded to it. -/
theorem isClearOfOne_thousandfold
    (small : ((double.numerator * 1000 : Nat) : ℚ) / double.denominator < 1)
    (positive : 0 < double.numerator) :
    IsClearOfOne (double.numerator * 1000) double.denominator := by
  intro border
  have order : binaryOrder (double.numerator * 1000) double.denominator = -1 := by
    unfold gridExponent at border
    omega
  have half := (binaryOrder_bounds (Nat.mul_pos positive (by decide : 0 < 1000))
    double.denominator_pos).1
  rw [order, thousandfold_eq] at half
  norm_num at half
  obtain ⟨count, multiple⟩ := exists_magnitude_eq_of_half_le half
  rw [scaled, border, thousandfold_eq, multiple]
  rw [thousandfold_eq, multiple, div_mul_eq_mul_div, div_lt_one (by norm_num)] at small
  -- A thousand times a whole number misses this power of two by 808 or more.
  have gap : count * 1000 + 808 ≤ 2 ^ 63 := by
    have below : count * 1000 < 2 ^ 63 := by exact_mod_cast small
    omega
  have castGap : (count * 1000 + 808 : ℚ) ≤ 2 ^ 63 := by exact_mod_cast gap
  norm_num at castGap ⊢
  linarith

/-- The thousandfold of a positive double has an integer part that is not negative. It is
positive exactly when the double is at least one thousandth. -/
theorem integerPart_timesThousand
    (finite : double.isFinite = true) (positive : double.isPositive = true) {whole : Int}
    (cut : double.timesThousand.integerPart? = some whole) :
    0 ≤ whole ∧ (1 ≤ whole ↔ 1 / 1000 ≤ double.magnitude) := by
  simp only [isPositive, isZero, finite, Bool.and_eq_true, Bool.not_eq_true',
    Bool.true_and, beq_eq_false_iff_ne] at positive
  obtain ⟨⟨unsigned, _⟩, nonzero⟩ := positive
  have numerator : 0 < double.numerator :=
    Nat.mul_pos (Nat.pos_of_ne_zero nonzero) (twoTo_pos _)
  have rounded : double.timesThousand =
      nearest false (double.numerator * 1000) double.denominator := by
    rw [timesThousand, if_pos finite, unsigned]
  rw [rounded] at cut
  obtain ⟨nonneg, whole_iff⟩ := integerPart_of_not_negative (negative_nearest _ _ _) cut
  refine ⟨nonneg, ?_⟩
  rw [whole_iff, one_le_magnitude_nearest_iff (Nat.mul_pos numerator (by decide))
    double.denominator_pos (fun small => isClearOfOne_thousandfold small numerator)
    (isFinite_of_integerPart? cut), thousandfold_eq, div_le_iff₀ (by norm_num)]

end Thousandfold

end Double

end BoundQuery
