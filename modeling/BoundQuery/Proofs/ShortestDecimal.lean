import BoundQuery.Proofs.RoundingInterval

/-!
# Shortest decimals

The decimals with seventeen digits that are near to a double lie closer to each other than the
ends of its interval, so that one of the two next to the double is in it. The search for the
shortest decimal therefore always comes to a candidate in the interval, and dropping its zeros
leaves its value alone.

The main statement says that every decimal of the value of the shortest one is read as the
double.
-/

namespace BoundQuery

/-! ## Orders of decimals -/

theorem Numeral.tenTo_length_le {number : Nat} (positive : 0 < number) :
    tenTo ((Numeral.natural number).length - 1) ≤ number := by
  rw [Numeral.natural, List.length_map]
  rcases Nat.eq_zero_or_pos ((Nat.toDigits 10 number).length - 1) with none | some
  · rw [none]
    exact positive
  · have long : ¬ (Nat.toDigits 10 number).length ≤ (Nat.toDigits 10 number).length - 1 := by
      omega
    exact Nat.not_lt.mp fun less => long ((Nat.length_toDigits_le_iff (by decide) some).mpr less)

theorem Numeral.lt_tenTo_length (number : Nat) :
    number < tenTo (Numeral.natural number).length := by
  have below := Numeral.amount_lt (Numeral.isDigit_of_mem_natural number)
  rwa [Numeral.amount_natural] at below

theorem zpow_ten_pos (exponent : Int) : (0 : ℚ) < 10 ^ exponent :=
  zpow_pos (by decide) exponent

theorem lt_of_zpow_ten_lt {low high : Int} (order : (10 : ℚ) ^ low < 10 ^ high) : low < high :=
  (zpow_lt_zpow_iff_right₀ (by decide)).mp order

theorem zpow_two_lt_zpow_ten : (2 : ℚ) ^ (1024 : Int) < 10 ^ (320 : Int) := by
  have naturals : twoTo 1024 < tenTo 320 := by decide +kernel
  have rationals : (twoTo 1024 : ℚ) < tenTo 320 := by exact_mod_cast naturals
  rw [cast_twoTo, cast_tenTo] at rationals
  exact_mod_cast rationals

theorem zpow_ten_lt_zpow_two : (10 : ℚ) ^ (-341 : Int) < 2 ^ (-1075 : Int) := by
  have naturals : twoTo 1075 < tenTo 341 := by decide +kernel
  have rationals : (twoTo 1075 : ℚ) < tenTo 341 := by exact_mod_cast naturals
  rw [cast_twoTo, cast_tenTo] at rationals
  rw [zpow_neg, zpow_neg]
  apply inv_strictAnti₀ (zpow_two_pos _)
  exact_mod_cast rationals

namespace ScaledDecimal

variable {decimal : ScaledDecimal}

/-- The value of a decimal as a quotient of natural numbers. -/
theorem value_eq_quotient (decimal : ScaledDecimal) :
    decimal.value = (decimal.coefficient * tenTo decimal.exponent.toNat : Nat) /
      (tenTo (-decimal.exponent).toNat : Nat) := by
  have scale : (tenTo (-decimal.exponent).toNat : ℚ) ≠ 0 := by exact_mod_cast (tenTo_pos _).ne'
  rw [eq_div_iff scale, decimal.value_scaled, Nat.cast_mul]

/-- The number of digits before the point says between which powers of ten a value lies. -/
theorem value_bounds (positive : 0 < decimal.coefficient) {order : Int}
    (digits : order = (Numeral.natural decimal.coefficient).length + decimal.exponent) :
    (10 : ℚ) ^ (order - 1) ≤ decimal.value ∧ decimal.value < 10 ^ order := by
  have begun := List.length_pos_iff.mpr (Numeral.natural_ne_nil decimal.coefficient)
  have power := zpow_ten_pos decimal.exponent
  have low : (10 : ℚ) ^ ((Numeral.natural decimal.coefficient).length - 1) ≤
      decimal.coefficient := by
    rw [← cast_tenTo]
    exact_mod_cast Numeral.tenTo_length_le positive
  have high : (decimal.coefficient : ℚ) <
      10 ^ (Numeral.natural decimal.coefficient).length := by
    rw [← cast_tenTo]
    exact_mod_cast Numeral.lt_tenTo_length decimal.coefficient
  have lowOrder : order - 1 =
      ((Numeral.natural decimal.coefficient).length - 1 : Nat) + decimal.exponent := by omega
  constructor
  · rw [lowOrder, zpow_add₀ (by decide), zpow_natCast]
    exact mul_le_mul_of_nonneg_right low power.le
  · rw [digits, zpow_add₀ (by decide), zpow_natCast]
    exact mul_lt_mul_of_pos_right high power

end ScaledDecimal

namespace Double

variable {double : Double}

/-! ## Decimals in the interval -/

theorem Holds.value_pos
    {value : ℚ} (holds : double.Holds value) (positive : 0 < double.significand) :
    0 < value := by
  have half := holds.half_le_steps positive
  rw [double.value_eq_steps value]
  exact mul_pos (by linarith) (zpow_two_pos _)

/-- Numbers in the interval of a finite double are neither so large nor so small that their
digits alone settle them. -/
theorem order_of_holds
    (finite : double.isFinite = true) (positive : 0 < double.significand) {value : ℚ}
    (holds : double.Holds value) {order : Int} (low : (10 : ℚ) ^ (order - 1) ≤ value)
    (high : value < 10 ^ order) : -340 ≤ order ∧ order ≤ 320 := by
  have regular : double.biased.val < 2047 := of_decide_eq_true finite
  have largest : double.exponent ≤ 971 := by
    unfold Double.exponent
    omega
  rw [double.value_eq_steps value] at low high
  have half := holds.half_le_steps positive
  have upper : (10 : ℚ) ^ (order - 1) < 10 ^ (320 : Int) :=
    calc (10 : ℚ) ^ (order - 1) ≤ double.steps value * 2 ^ double.exponent := low
      _ ≤ 2 ^ (53 : Int) * 2 ^ (971 : Int) :=
          mul_le_mul holds.steps_lt.le (zpow_two_mono largest) (zpow_two_pos _).le
            (zpow_two_pos _).le
      _ = 2 ^ (1024 : Int) := (zpow_add₀ two_ne_zero _ _).symm
      _ < 10 ^ (320 : Int) := zpow_two_lt_zpow_ten
  have lower : (10 : ℚ) ^ (-341 : Int) < 10 ^ order :=
    calc (10 : ℚ) ^ (-341 : Int) < 2 ^ (-1 + -1074 : Int) := zpow_ten_lt_zpow_two
      _ = 2 ^ (-1 : Int) * 2 ^ (-1074 : Int) := zpow_add₀ two_ne_zero _ _
      _ ≤ double.steps value * 2 ^ double.exponent :=
          mul_le_mul (by rwa [zpow_neg_one, ← one_div]) (zpow_two_mono double.exponent_ge)
            (zpow_two_pos _).le (by linarith)
      _ < 10 ^ order := high
  have above := lt_of_zpow_ten_lt upper
  have below := lt_of_zpow_ten_lt lower
  omega

/-- A decimal with a value in the interval is read as the double. -/
theorem nearestDecimal_of_holds
    (finite : double.isFinite = true) (positive : 0 < double.significand)
    {decimal : ScaledDecimal} (holds : double.Holds decimal.value) :
    nearestDecimal double.negative decimal.coefficient decimal.exponent = double := by
  have coefficient : 0 < decimal.coefficient := by
    refine Nat.pos_of_ne_zero fun vanishes => (holds.value_pos positive).ne' ?_
    rw [ScaledDecimal.value, vanishes, Nat.cast_zero, zero_mul]
  obtain ⟨low, high⟩ := ScaledDecimal.value_bounds coefficient rfl
  obtain ⟨small, large⟩ := order_of_holds finite positive holds low high
  rw [decimal.value_eq_quotient] at holds
  unfold nearestDecimal
  dsimp only
  rw [if_neg coefficient.ne', if_neg (by omega), if_neg (by omega)]
  exact nearest_of_holds finite (Nat.mul_pos coefficient (tenTo_pos _)) (tenTo_pos _) holds

/-- Of two neighbours around a double that are close enough to each other, one is in its
interval. -/
theorem holds_or_holds
    {lower upper : ℚ} (below : double.steps lower ≤ double.significand)
    (above : double.significand < double.steps upper)
    (narrow : 10 ^ 16 * (double.steps upper - double.steps lower) ≤ double.significand) :
    double.Holds lower ∨ double.Holds upper := by
  by_contra neither
  obtain ⟨lowerMissed, upperMissed⟩ := not_or.mp neither
  have gap : (0 : ℚ) < gapBelow double := by exact_mod_cast double.gapBelow_bounds.1
  have lowerFar : 4 * double.steps lower ≤ 4 * double.significand - gapBelow double := by
    by_contra near
    have inside := not_le.mp near
    exact lowerMissed ⟨inside.le, by linarith, fun _ => ⟨inside, by linarith⟩⟩
  have upperFar : 4 * (double.significand : ℚ) + 2 ≤ 4 * double.steps upper := by
    by_contra near
    have inside := not_le.mp near
    exact upperMissed ⟨by linarith, inside.le, fun _ => ⟨by linarith, inside⟩⟩
  -- A gap of one quarter is the one below a power of two, where the significand is smallest.
  by_cases power : double.fraction.val = 0 ∧ 1 < double.biased.val
  · have single : gapBelow double = 1 := if_pos power
    have significand : double.significand = twoTo 52 := by
      rw [Double.significand, if_neg (by omega), power.1, Nat.add_zero]
    rw [single, Nat.cast_one] at lowerFar
    rw [significand, cast_twoTo] at narrow lowerFar upperFar
    linarith
  · have full : gapBelow double = 2 := if_neg power
    have significand : (double.significand : ℚ) < 2 ^ 53 := by
      exact_mod_cast double.significand_lt
    rw [full, Nat.cast_ofNat] at lowerFar
    linarith

/-! ## Seventeen digits -/

theorem quotient_lt_zpow_ten_iff {dividend divisor : Nat} (positive : 0 < divisor)
    (exponent : Int) :
    (dividend / divisor : ℚ) < 10 ^ exponent ↔
      dividend * tenTo (-exponent).toNat < divisor * tenTo exponent.toNat := by
  have divides : (0 : ℚ) < divisor := by exact_mod_cast positive
  have scales : (0 : ℚ) < tenTo (-exponent).toNat := by exact_mod_cast tenTo_pos _
  have power : (10 : ℚ) ^ exponent =
      (tenTo exponent.toNat : ℚ) / (tenTo (-exponent).toNat : ℚ) := by
    have quotient := ScaledDecimal.value_eq_quotient ⟨1, exponent⟩
    rwa [ScaledDecimal.value, Nat.cast_one, one_mul, Nat.one_mul] at quotient
  rw [power, div_lt_div_iff₀ divides scales, mul_comm (tenTo _ : ℚ)]
  exact_mod_cast Iff.rfl

/-- The order of a double is the number of digits that its magnitude has before the point, or
less. -/
theorem zpow_decimalOrder_le (positive : 0 < double.significand) :
    (10 : ℚ) ^ (decimalOrder double - 1) ≤ double.magnitude := by
  have numerator : 0 < double.numerator := Nat.mul_pos positive (twoTo_pos _)
  have denominator : (0 : ℚ) < double.denominator := by exact_mod_cast double.denominator_pos
  unfold decimalOrder magnitude
  simp only [← quotient_lt_zpow_ten_iff double.denominator_pos]
  split
  · have begun := List.length_pos_iff.mpr (Numeral.natural_ne_nil double.numerator)
    have below : (double.denominator : ℚ) ≤
        10 ^ ((Numeral.natural double.denominator).length : Int) := by
      rw [zpow_natCast, ← cast_tenTo]
      exact_mod_cast (Numeral.lt_tenTo_length double.denominator).le
    have above : (10 : ℚ) ^ (((Numeral.natural double.numerator).length - 1 : Nat) : Int) ≤
        double.numerator := by
      rw [zpow_natCast, ← cast_tenTo]
      exact_mod_cast Numeral.tenTo_length_le numerator
    have exponents : (((Numeral.natural double.numerator).length - 1 : Nat) : Int) =
        ((Numeral.natural double.numerator).length : Int) -
          (Numeral.natural double.denominator).length - 1 +
            (Numeral.natural double.denominator).length := by omega
    rw [exponents, zpow_add₀ (by decide)] at above
    rw [le_div_iff₀ denominator]
    exact (mul_le_mul_of_nonneg_left below (zpow_ten_pos _).le).trans above
  · next large =>
      rw [add_sub_cancel_right]
      exact not_lt.mp large

section Candidates

variable (double) (exponent : Int)

theorem decimalSide_eq (coefficient : Nat) :
    decimalSide double exponent coefficient =
      coefficient * decimalSide double exponent 1 := by
  simp only [decimalSide, Nat.one_mul, Nat.mul_assoc]

theorem decimalSide_pos : 0 < decimalSide double exponent 1 := by
  unfold decimalSide
  exact Nat.mul_pos (Nat.mul_pos (by decide) (tenTo_pos _)) (twoTo_pos _)

/-- The greatest coefficient of a power of ten that is not above a double. -/
def floorAt : Nat :=
  binarySide double exponent (4 * double.significand) / decimalSide double exponent 1

/-- A double lies between two neighbouring decimals of the grid. -/
theorem steps_floorAt :
    double.steps (⟨double.floorAt exponent, exponent⟩ : ScaledDecimal).value ≤
        double.significand ∧
      double.significand <
        double.steps (⟨double.floorAt exponent + 1, exponent⟩ : ScaledDecimal).value := by
  have scale : (0 : ℚ) < double.commonScale exponent := by
    exact_mod_cast double.commonScale_pos _
  have low : decimalSide double exponent (double.floorAt exponent) ≤
      binarySide double exponent (4 * double.significand) := by
    rw [decimalSide_eq]
    exact Nat.div_mul_le_self _ _
  have high : binarySide double exponent (4 * double.significand) <
      decimalSide double exponent (double.floorAt exponent + 1) := by
    rw [decimalSide_eq]
    exact Nat.lt_mul_of_div_lt (Nat.lt_succ_self _) (double.decimalSide_pos exponent)
  rw [binarySide_eq] at low high
  have castLow : (decimalSide double exponent (double.floorAt exponent) : ℚ) ≤
      4 * double.significand * double.commonScale exponent := by exact_mod_cast low
  have castHigh : 4 * double.significand * double.commonScale exponent <
      (decimalSide double exponent (double.floorAt exponent + 1) : ℚ) := by
    exact_mod_cast high
  rw [double.cast_decimalSide ⟨_, exponent⟩, mul_le_mul_iff_of_pos_right scale] at castLow
  rw [double.cast_decimalSide ⟨_, exponent⟩, mul_lt_mul_iff_of_pos_right scale] at castHigh
  constructor <;> linarith

end Candidates

/-! ## The search -/

section Search

variable {digits : Nat} {decimal : ScaledDecimal}

/-- The search passes over a number of digits when neither neighbour is in the interval. -/
theorem decimalWith?_eq_none_iff :
    decimalWith? double digits = none ↔
      roundsTo double ⟨double.floorAt (decimalOrder double - digits),
        decimalOrder double - digits⟩ = false ∧
      roundsTo double ⟨double.floorAt (decimalOrder double - digits) + 1,
        decimalOrder double - digits⟩ = false := by
  unfold decimalWith? floorAt
  dsimp only
  split
  · next lower upper =>
      refine iff_of_false ?_ fun both => ?_
      · split <;> exact Option.some_ne_none _
      · exact Bool.false_ne_true (both.1.symm.trans lower)
  · next lower _ =>
      exact iff_of_false (Option.some_ne_none _)
        fun both => Bool.false_ne_true (both.1.symm.trans lower)
  · next _ upper =>
      exact iff_of_false (Option.some_ne_none _)
        fun both => Bool.false_ne_true (both.2.symm.trans upper)
  · next lower upper => exact iff_of_true rfl ⟨lower, upper⟩

theorem of_decimalWith?_eq_some (found : decimalWith? double digits = some decimal) :
    decimal.exponent = decimalOrder double - digits ∧ roundsTo double decimal = true := by
  unfold decimalWith? at found
  dsimp only at found
  split at found
  · next lower upper =>
      split at found
      · cases found
        exact ⟨rfl, lower⟩
      · cases found
        exact ⟨rfl, upper⟩
  · next lower _ =>
      cases found
      exact ⟨rfl, lower⟩
  · next _ upper =>
      cases found
      exact ⟨rfl, upper⟩
  · cases found

/-- With seventeen digits the neighbours are close enough. -/
theorem decimalWith?_seventeen (positive : 0 < double.significand) :
    decimalWith? double 17 ≠ none := by
  intro missed
  obtain ⟨lowerMissed, upperMissed⟩ := decimalWith?_eq_none_iff.mp missed
  rw [← Bool.not_eq_true, double.roundsTo_iff positive] at lowerMissed upperMissed
  have order := zpow_decimalOrder_le positive
  generalize placed : decimalOrder double - (17 : Nat) = exponent at lowerMissed upperMissed
  obtain ⟨below, above⟩ := double.steps_floorAt exponent
  have narrow : 10 ^ 16 * (double.steps
        (⟨double.floorAt exponent + 1, exponent⟩ : ScaledDecimal).value -
      double.steps (⟨double.floorAt exponent, exponent⟩ : ScaledDecimal).value) ≤
      double.significand := by
    have shifted : decimalOrder double - 1 = 16 + exponent := by omega
    rw [magnitude_eq, shifted, zpow_add₀ (by decide)] at order
    calc 10 ^ 16 * (double.steps
          (⟨double.floorAt exponent + 1, exponent⟩ : ScaledDecimal).value -
        double.steps (⟨double.floorAt exponent, exponent⟩ : ScaledDecimal).value)
        = 10 ^ (16 : Int) * 10 ^ exponent * 2 ^ (-double.exponent) := by
          rw [steps, steps, ScaledDecimal.value, ScaledDecimal.value, Nat.cast_add,
            Nat.cast_one]
          norm_num
          ring
      _ ≤ double.significand * 2 ^ double.exponent * 2 ^ (-double.exponent) :=
          mul_le_mul_of_nonneg_right order (zpow_two_pos _).le
      _ = double.significand := by
          rw [mul_assoc, ← zpow_add₀ (by decide), add_neg_cancel, zpow_zero, mul_one]
  rcases holds_or_holds below above narrow with lower | upper
  · exact lowerMissed lower
  · exact upperMissed upper

/-- The shortest decimal of a double other than zero is the normal form of the first
decimal that the search comes to. -/
theorem exists_shortest_eq_normalize (positive : 0 < double.significand) :
    ∃ digits decimal, double.shortest = decimal.normalize ∧
      decimalWith? double digits = some decimal ∧
        ∀ fewer, 1 ≤ fewer → fewer < digits → decimalWith? double fewer = none := by
  unfold shortest
  rw [if_neg (Nat.ne_of_gt positive)]
  cases search : (List.range 17).findSome? fun count => decimalWith? double (count + 1) with
  | none =>
      have missed := List.findSome?_eq_none_iff.mp search 16 (List.mem_range.mpr (by decide))
      exact absurd missed (decimalWith?_seventeen positive)
  | some decimal =>
      obtain ⟨before, count, after, split, found, earlier⟩ :=
        List.findSome?_eq_some_iff.mp search
      refine ⟨count + 1, decimal, rfl, found, ?_⟩
      intro fewer one less
      have counted : before = List.range count := by
        rw [List.range_eq_range', List.range'_eq_append_iff] at split
        obtain ⟨length, _, initial, rest⟩ := split
        obtain ⟨position, _⟩ := List.range'_eq_cons_iff.mp rest.symm
        rw [initial, List.range_eq_range', ← position, Nat.zero_add, Nat.mul_one]
      have member : fewer - 1 ∈ before := by
        rw [counted, List.mem_range]
        omega
      have none := earlier _ member
      rwa [Nat.sub_add_cancel one] at none

/-- The shortest decimal lies in the interval. -/
theorem holds_shortest (positive : 0 < double.significand) :
    double.Holds double.shortest.value := by
  obtain ⟨digits, decimal, normal, found, _⟩ := exists_shortest_eq_normalize positive
  rw [normal, ScaledDecimal.value_normalize]
  exact (double.roundsTo_iff positive decimal).mp (of_decimalWith?_eq_some found).2

end Search

theorem eq_zero_of_significand (vanishes : double.significand = 0) :
    double = zero double.negative := by
  have biased : double.biased.val = 0 := by
    by_contra normal
    have large := double.le_significand_of_normal normal
    have hidden := twoTo_pos 52
    omega
  have fraction : double.fraction.val = 0 := by rwa [significand, if_pos biased] at vanishes
  exact congrArg₂ (Double.mk double.negative) (Fin.ext biased) (Fin.ext fraction)

/-- Every decimal of the value of the shortest one is read as the double. -/
theorem nearestDecimal_of_value_eq
    (finite : double.isFinite = true) {decimal : ScaledDecimal}
    (same : decimal.value = double.shortest.value) :
    nearestDecimal double.negative decimal.coefficient decimal.exponent = double := by
  rcases Nat.eq_zero_or_pos double.significand with vanishes | positive
  · have none : decimal.coefficient = 0 := by
      rw [shortest, if_pos vanishes, ScaledDecimal.value, ScaledDecimal.value, Nat.cast_zero,
        zero_mul, mul_eq_zero, Nat.cast_eq_zero] at same
      exact same.resolve_right (zpow_ten_pos _).ne'
    rw [nearestDecimal, if_pos none]
    exact (eq_zero_of_significand vanishes).symm
  · exact nearestDecimal_of_holds finite positive (same ▸ holds_shortest positive)

end Double

end BoundQuery
