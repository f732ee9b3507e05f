import BoundQuery.Proofs.ShortestDecimal

/-!
# Integer parts of doubles

The search for the shortest decimal of a double tries one digit, then two, and so on. A
double that is an integer is itself a point of the grid with as many digits as the integer
has, so the search is over before it comes to a grid with digits after the point. Below
`2 ^ 53` the integers are doubles, and the interval of a double reaches half a unit of the last
place to either side at most: it holds no other integer than the double itself.

The main statements say that the shortest decimal of a double that is an integer is an
integer too, and that below `2 ^ 53` a double and its shortest decimal have one integer part.
-/

namespace BoundQuery

theorem Numeral.length_natural_mono {low high : Nat} (order : low ≤ high) :
    (Numeral.natural low).length ≤ (Numeral.natural high).length := by
  have positive : 0 < (Nat.toDigits 10 high).length := by
    have nonempty := Numeral.natural_ne_nil high
    rw [← List.length_pos_iff, Numeral.natural, List.length_map] at nonempty
    exact nonempty
  have below := (Nat.length_toDigits_le_iff (by decide) positive).mp (Nat.le_refl _)
  rw [Numeral.natural, Numeral.natural, List.length_map, List.length_map]
  exact (Nat.length_toDigits_le_iff (by decide) positive).mpr (Nat.lt_of_le_of_lt order below)

namespace Double

variable {double : Double} {whole : Nat}

/-! ## Integers in the search -/

theorem exists_whole_of_isIntegral (integral : double.isIntegral = true) :
    double.isFinite = true ∧ ∃ whole, double.numerator = whole * double.denominator := by
  obtain ⟨finite, divides⟩ := Bool.and_eq_true_iff.mp integral
  obtain ⟨whole, same⟩ := Nat.dvd_of_mod_eq_zero (beq_iff_eq.mp divides)
  exact ⟨finite, whole, by rw [same, Nat.mul_comm]⟩

theorem magnitude_eq_whole (integral : double.numerator = whole * double.denominator) :
    double.magnitude = whole := by
  have positive : (double.denominator : ℚ) ≠ 0 := by
    exact_mod_cast Nat.ne_of_gt double.denominator_pos
  rw [magnitude, integral, Nat.cast_mul, mul_div_cancel_right₀ _ positive]

theorem steps_magnitude (double : Double) :
    double.steps double.magnitude = double.significand := by
  rw [steps, magnitude_eq, mul_assoc, ← zpow_add₀ (by decide), add_neg_cancel, zpow_zero,
    mul_one]

/-- A double lies in its own interval. -/
theorem holds_magnitude (double : Double) : double.Holds double.magnitude := by
  have gap : (0 : ℚ) < gapBelow double := by exact_mod_cast double.gapBelow_bounds.1
  constructor
  · rw [steps_magnitude]
    linarith
  · rw [steps_magnitude]
    linarith
  · intro _
    rw [steps_magnitude]
    constructor <;> linarith

theorem value_natural (number : Nat) : (⟨number, 0⟩ : ScaledDecimal).value = number := by
  rw [ScaledDecimal.value, zpow_zero, mul_one]

/-- On the grid of the integers, an integer is its own neighbour. -/
theorem floorAt_whole (integral : double.numerator = whole * double.denominator) :
    double.floorAt 0 = whole := by
  obtain ⟨below, above⟩ := double.steps_floorAt 0
  have unit := zpow_two_pos (-double.exponent)
  rw [value_natural, ← steps_magnitude, magnitude_eq_whole integral, steps, steps,
    mul_le_mul_iff_of_pos_right unit, Nat.cast_le] at below
  rw [value_natural, ← steps_magnitude, magnitude_eq_whole integral, steps, steps,
    mul_lt_mul_iff_of_pos_right unit, Nat.cast_lt] at above
  omega

/-- The grid with as many digits as an integer has holds a decimal in its interval. -/
theorem decimalWith?_whole
    (positive : 0 < double.significand)
    (integral : double.numerator = whole * double.denominator) {digits : Nat}
    (order : decimalOrder double = digits) :
    decimalWith? double digits ≠ none := by
  intro missed
  obtain ⟨lower, _⟩ := decimalWith?_eq_none_iff.mp missed
  rw [order, Int.sub_self, floorAt_whole integral, ← Bool.not_eq_true,
    double.roundsTo_iff positive, value_natural, ← magnitude_eq_whole integral] at lower
  exact lower double.holds_magnitude

theorem one_le_decimalOrder
    (positive : 0 < double.significand)
    (integral : double.numerator = whole * double.denominator) :
    1 ≤ decimalOrder double := by
  have numerator : 0 < double.numerator := Nat.mul_pos positive (twoTo_pos _)
  have large : double.denominator ≤ double.numerator := by
    rw [integral] at numerator ⊢
    exact Nat.le_mul_of_pos_left _ (Nat.pos_of_mul_pos_right numerator)
  have lengths := Numeral.length_natural_mono large
  unfold decimalOrder
  dsimp only
  split
  · next small =>
      -- Numerals of one length would make the order zero, but then the comparison is the
      -- one of the numerator with the denominator.
      by_contra early
      have level : ((Numeral.natural double.numerator).length : Int) -
          (Numeral.natural double.denominator).length = 0 := by omega
      rw [level] at small
      simp only [Int.neg_zero, Int.toNat_zero, tenTo_zero, Nat.mul_one] at small
      omega
  · omega

/-- An integer is written without digits after the point before the search comes to a
decimal that has some. -/
theorem exponent_nonneg_of_first
    (positive : 0 < double.significand)
    (integral : double.numerator = whole * double.denominator) {digits : Nat}
    {decimal : ScaledDecimal} (found : decimalWith? double digits = some decimal)
    (earlier : ∀ fewer, 1 ≤ fewer → fewer < digits → decimalWith? double fewer = none) :
    0 ≤ decimal.exponent := by
  by_contra fractional
  have order := one_le_decimalOrder positive integral
  obtain ⟨exponent, _⟩ := of_decimalWith?_eq_some found
  have missed := earlier (decimalOrder double).toNat (by omega) (by omega)
  exact decimalWith?_whole positive integral (by omega) missed

/-! ## Integers in the interval -/

theorem exponent_nonpos_of_magnitude_lt (small : double.magnitude < 2 ^ 53) :
    double.exponent ≤ 0 := by
  by_contra large
  have normal : double.biased.val ≠ 0 := by
    unfold Double.exponent at large
    omega
  have significand : (2 : ℚ) ^ (52 : Int) ≤ double.significand := by
    exact_mod_cast double.le_significand_of_normal normal
  have bound : (2 : ℚ) ^ 53 ≤ double.magnitude :=
    calc (2 : ℚ) ^ 53 = 2 ^ (52 : Int) * 2 ^ (1 : Int) := by norm_num
      _ ≤ double.significand * 2 ^ double.exponent :=
          mul_le_mul significand (zpow_two_mono (by omega)) (zpow_two_pos _).le
            (Nat.cast_nonneg _)
      _ = double.magnitude := double.magnitude_eq.symm
  exact absurd small (not_lt_of_ge bound)

/-- Where doubles are at most a unit apart, an integer is a whole number of steps. -/
theorem steps_natural (dense : double.exponent ≤ 0) (number : Nat) :
    double.steps number = (number * double.denominator : Nat) := by
  have power : ((-double.exponent).toNat : Int) = -double.exponent := by omega
  rw [steps, denominator, Nat.cast_mul, cast_twoTo, ← zpow_natCast, power]

theorem steps_lt_steps_iff (double : Double) (low high : ℚ) :
    double.steps low < double.steps high ↔ low < high :=
  mul_lt_mul_iff_of_pos_right (zpow_two_pos _)

/-- Where doubles are at most a unit apart, the interval of a double reaches half a step to
either side at most, and no integer other than the double lies within half a step. -/
theorem natural_lt_of_holds
    (dense : double.exponent ≤ 0) {value : ℚ} (holds : double.Holds value) (number : Nat)
    (below : (number : ℚ) < double.magnitude) :
    (number : ℚ) < value := by
  have gap : (gapBelow double : ℚ) ≤ 2 := by exact_mod_cast double.gapBelow_bounds.2
  rw [← double.steps_lt_steps_iff, steps_natural dense, steps_magnitude, Nat.cast_lt] at below
  have apart : ((number * double.denominator : Nat) : ℚ) + 1 ≤ double.significand := by
    exact_mod_cast below
  have low := holds.low
  rw [← double.steps_lt_steps_iff, steps_natural dense]
  linarith

theorem lt_natural_of_holds
    (dense : double.exponent ≤ 0) {value : ℚ} (holds : double.Holds value) (number : Nat)
    (above : double.magnitude < number) :
    value < number := by
  rw [← double.steps_lt_steps_iff, steps_natural dense, steps_magnitude, Nat.cast_lt] at above
  have apart : (double.significand : ℚ) + 1 ≤ (number * double.denominator : Nat) := by
    exact_mod_cast above
  have high := holds.high
  rw [← double.steps_lt_steps_iff, steps_natural dense]
  linarith

theorem magnitude_eq_of_holds
    (dense : double.exponent ≤ 0) {number : Nat} (holds : double.Holds number) :
    double.magnitude = number := by
  apply le_antisymm
  · by_contra above
    exact lt_irrefl _ (natural_lt_of_holds dense holds number (not_le.mp above))
  · by_contra below
    exact lt_irrefl _ (lt_natural_of_holds dense holds number (not_le.mp below))

/-- The shortest decimal of a double that is an integer is an integer, and below `2 ^ 53`
it is the double itself. -/
theorem exists_whole_shortest (integral : double.numerator = whole * double.denominator) :
    ∃ shortened : Nat, double.shortest.value = shortened ∧
      (double.magnitude < 2 ^ 53 → double.magnitude = shortened) := by
  by_cases vanishes : double.significand = 0
  · refine ⟨0, ?_, fun _ => ?_⟩
    · rw [shortest, if_pos vanishes, ScaledDecimal.value, Nat.cast_zero, zero_mul]
    · rw [magnitude_eq, vanishes, Nat.cast_zero, zero_mul]
  · have positive := Nat.pos_of_ne_zero vanishes
    obtain ⟨digits, decimal, normal, found, earlier⟩ := exists_shortest_eq_normalize positive
    have upward := exponent_nonneg_of_first positive integral found earlier
    have value := ScaledDecimal.value_of_upward upward
    rw [← ScaledDecimal.value_normalize, ← normal] at value
    refine ⟨_, value, fun small => ?_⟩
    exact magnitude_eq_of_holds (exponent_nonpos_of_magnitude_lt small)
      (value ▸ holds_shortest positive)

/-- Below `2 ^ 53` the shortest decimal of a double has the integer part of the double. -/
theorem floor_shortest (small : double.magnitude < 2 ^ 53) :
    ⌊double.shortest.value⌋₊ = ⌊double.magnitude⌋₊ := by
  by_cases integral : ∃ whole, double.numerator = whole * double.denominator
  · obtain ⟨whole, same⟩ := integral
    obtain ⟨shortened, value, agrees⟩ := exists_whole_shortest same
    rw [value, agrees small]
  · have nonneg : 0 ≤ double.magnitude := div_nonneg (Nat.cast_nonneg _) (Nat.cast_nonneg _)
    have positive : 0 < double.significand := by
      refine Nat.pos_of_ne_zero fun vanishes => integral ⟨0, ?_⟩
      rw [numerator, vanishes, Nat.zero_mul, Nat.zero_mul]
    have fractional : (⌊double.magnitude⌋₊ : ℚ) ≠ double.magnitude := by
      intro same
      have denominator : (double.denominator : ℚ) ≠ 0 := by
        exact_mod_cast double.denominator_pos.ne'
      rw [eq_comm, magnitude, div_eq_iff denominator] at same
      exact integral ⟨_, by exact_mod_cast same⟩
    have dense := exponent_nonpos_of_magnitude_lt small
    have holds := holds_shortest positive
    rw [Nat.floor_eq_iff double.shortest.value_nonneg]
    constructor
    · exact (natural_lt_of_holds dense holds ⌊double.magnitude⌋₊
        ((Nat.floor_le nonneg).lt_of_ne fractional)).le
    · have above := lt_natural_of_holds dense holds (⌊double.magnitude⌋₊ + 1)
      rw [Nat.cast_add, Nat.cast_one] at above
      exact above (Nat.lt_floor_add_one _)

end Double

end BoundQuery
