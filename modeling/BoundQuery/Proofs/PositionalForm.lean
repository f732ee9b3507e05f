import BoundQuery.Proofs.PlainNumeral

/-!
# Positional forms of decimals

The positional form of a decimal is a plain numeral of exactly its value, whatever its
exponent is. The digits after the point are there when the exponent is negative, and end in
the last digit of the coefficient.

The main statements say so, and that a decimal whose value is an integer has the digits of
this integer, with as many zeros after the point as a negative exponent asks for.
-/

namespace BoundQuery

/-! ## Positional forms -/

namespace ScaledDecimal

variable (decimal : ScaledDecimal)

/-- The digits of the coefficient, filled up with zeros on the side where the exponent
asks for them. -/
def allDigits : Text :=
  if 0 ≤ decimal.exponent then decimal.integerDigits
  else
    Numeral.padLeft ((-decimal.exponent).toNat + 1) (Numeral.natural decimal.coefficient)

theorem integerDigits_append_fractionDigits :
    decimal.integerDigits ++ decimal.fractionDigits = decimal.allDigits := by
  unfold allDigits fractionDigits
  by_cases whole : 0 ≤ decimal.exponent
  · rw [if_pos whole, if_pos whole, List.append_nil]
  · rw [if_neg whole, if_neg whole, integerDigits, if_neg whole]
    exact List.take_append_drop _ _

theorem integerDigits_of_whole (whole : 0 ≤ decimal.exponent) :
    decimal.integerDigits = Numeral.natural decimal.coefficient ∧ decimal.coefficient = 0 ∨
      decimal.integerDigits =
        Numeral.natural decimal.coefficient ++ Numeral.zeros decimal.exponent.toNat := by
  unfold integerDigits
  rw [if_pos whole]
  by_cases vanishes : decimal.coefficient = 0
  · rw [if_pos vanishes]
    exact Or.inl ⟨rfl, vanishes⟩
  · rw [if_neg vanishes]
    exact Or.inr rfl

theorem isDigit_of_mem_allDigits : ∀ point ∈ decimal.allDigits, point.isDigit = true := by
  have digits := Numeral.isDigit_of_mem_natural decimal.coefficient
  unfold allDigits
  by_cases whole : 0 ≤ decimal.exponent
  · rw [if_pos whole]
    rcases decimal.integerDigits_of_whole whole with ⟨same, _⟩ | same
    · rw [same]
      exact digits
    · rw [same]
      exact List.forall_mem_append.mpr ⟨digits, Numeral.isDigit_of_mem_zeros _⟩
  · rw [if_neg whole]
    exact Numeral.isDigit_of_mem_padLeft _ _

theorem amount_allDigits :
    Numeral.amount decimal.allDigits =
      decimal.coefficient * tenTo decimal.exponent.toNat := by
  unfold allDigits
  by_cases whole : 0 ≤ decimal.exponent
  · rw [if_pos whole]
    rcases decimal.integerDigits_of_whole whole with ⟨same, vanishes⟩ | same
    · rw [same, Numeral.amount_natural, vanishes, Nat.zero_mul]
    · rw [same, Numeral.amount_append_zeros, Numeral.amount_natural]
  · have none : decimal.exponent.toNat = 0 := by omega
    rw [if_neg whole, Numeral.padLeft,
      Numeral.amount_zeros_append _ (Numeral.isDigit_of_mem_natural _),
      Numeral.amount_natural, none]
    exact (Nat.mul_one _).symm

theorem integerDigits_ne_nil : decimal.integerDigits ≠ [] := by
  have nonempty := Numeral.natural_ne_nil decimal.coefficient
  by_cases whole : 0 ≤ decimal.exponent
  · rcases decimal.integerDigits_of_whole whole with ⟨same, _⟩ | same
    · rw [same]
      exact nonempty
    · rw [same]
      exact List.append_ne_nil_of_left_ne_nil nonempty _
  · rw [integerDigits, if_neg whole, ← List.length_pos_iff, List.length_take]
    simp only [Numeral.padLeft, Numeral.zeros, List.length_append, List.length_replicate]
    omega

theorem positional_eq :
    decimal.positional = decimal.integerDigits ++ pointed (fractionOf decimal.fractionDigits) := by
  unfold positional fractionOf
  cases decimal.fractionDigits with
  | nil => exact (List.append_nil _).symm
  | cons first rest => rfl

/-- The positional form of a decimal with a sign, as a plain numeral. -/
def numeral (negative : Bool) : PlainNumeral where
  negative := negative
  whole := decimal.integerDigits
  fraction? := fractionOf decimal.fractionDigits
  nonempty := decimal.integerDigits_ne_nil
  wholeDigits := by
    have digits := decimal.isDigit_of_mem_allDigits
    rw [← integerDigits_append_fractionDigits] at digits
    exact (List.forall_mem_append.mp digits).1
  fractionDigits := by
    have digits := decimal.isDigit_of_mem_allDigits
    rw [← integerDigits_append_fractionDigits] at digits
    rw [getD_fractionOf]
    exact (List.forall_mem_append.mp digits).2

theorem text_numeral (negative : Bool) :
    (decimal.numeral negative).text = Numeral.signed negative decimal.positional := by
  rw [PlainNumeral.text, PlainNumeral.magnitude, positional_eq]
  rfl

theorem digits_numeral (negative : Bool) :
    (decimal.numeral negative).digits =
      ⟨decimal.coefficient * tenTo decimal.exponent.toNat,
        decimal.exponent - decimal.exponent.toNat⟩ := by
  have exponents : -((-decimal.exponent).toNat : Int) =
      decimal.exponent - decimal.exponent.toNat := by omega
  rw [PlainNumeral.digits, numeral, getD_fractionOf, integerDigits_append_fractionDigits,
    amount_allDigits, length_fractionDigits, exponents]

/-- The digits of a positional form with a fraction are the decimal itself. -/
theorem digits_numeral_of_neg (negative : Bool) (below : decimal.exponent < 0) :
    (decimal.numeral negative).digits = decimal := by
  have none : decimal.exponent.toNat = 0 := by omega
  rw [digits_numeral, none, tenTo_zero, Nat.mul_one, Int.natCast_zero, Int.sub_zero]

/-- The digits of the positional form denote the value of the decimal. -/
theorem value_digits_numeral (negative : Bool) :
    (decimal.numeral negative).digits.value = decimal.value := by
  rw [digits_numeral, value_mul_tenTo]

/-- The number of the positional form is the decimal itself. -/
theorem number_numeral (negative : Bool) :
    (decimal.numeral negative).number = ⟨negative, decimal.value⟩ := by
  rw [PlainNumeral.number, value_digits_numeral]
  rfl

/-- A fraction ends in the last digit of the coefficient. -/
theorem getLast?_fractionDigits (below : decimal.exponent < 0) :
    decimal.fractionDigits.getLast? =
      some (.scalar (decimal.coefficient % 10).digitChar) := by
  have whole : ¬ 0 ≤ decimal.exponent := by omega
  unfold fractionDigits
  rw [if_neg whole, List.getLast?_drop, if_neg, Numeral.padLeft, Numeral.natural_eq,
    ← List.append_assoc, List.getLast?_concat]
  simp only [Numeral.padLeft, Numeral.zeros, List.length_append, List.length_replicate]
  omega

/-- A decimal whose coefficient does not end in a zero has no zero at the end of its
fraction. -/
theorem getLast?_fractionDigits_ne_zero
    (ends : 0 ≤ decimal.exponent ∨ decimal.coefficient % 10 ≠ 0) :
    decimal.fractionDigits.getLast? ≠ some (.scalar '0') := by
  by_cases whole : 0 ≤ decimal.exponent
  · rw [fractionDigits, if_pos whole]
    exact fun last => by cases last
  · have other : ∀ digit < 10, digit ≠ 0 →
        (some (.scalar digit.digitChar) : Option CodePoint) ≠ some (.scalar '0') := by
      decide
    rw [decimal.getLast?_fractionDigits (Int.not_le.mp whole)]
    exact other _ (Nat.mod_lt _ (by decide)) (ends.resolve_left whole)

end ScaledDecimal

/-! ## Decimals of an integer -/

/-- A numeral is lengthened by one zero for each factor of ten. -/
theorem Numeral.natural_mul_tenTo {number : Nat} (positive : 0 < number) (count : Nat) :
    Numeral.natural (number * tenTo count) = Numeral.natural number ++ Numeral.zeros count := by
  induction count with
  | zero => exact (congrArg Numeral.natural (Nat.mul_one number)).trans (List.append_nil _).symm
  | succ count inductionHypothesis =>
      have large : ¬ number * tenTo count * 10 < 10 := by
        have scaled := Nat.mul_pos positive (tenTo_pos count)
        omega
      have zeros : Numeral.zeros (count + 1) = Numeral.zeros count ++ [.scalar '0'] :=
        List.replicate_succ'
      rw [tenTo_succ, ← Nat.mul_assoc, Numeral.natural_eq, if_neg large,
        Nat.mul_div_cancel _ (by decide), Nat.mul_mod_left, inductionHypothesis, zeros,
        List.append_assoc]
      rfl

/-- A point and the given number of zeros, or nothing when there are none. -/
def zeroFraction (places : Nat) : Text :=
  if places = 0 then [] else .scalar '.' :: Numeral.zeros places

theorem zeroFraction_eq_nil_iff (places : Nat) : zeroFraction places = [] ↔ places = 0 := by
  unfold zeroFraction
  split
  · next none => exact iff_of_true rfl none
  · next some => exact iff_of_false (List.cons_ne_nil _ _) some

namespace ScaledDecimal

variable {decimal : ScaledDecimal} {whole : Nat}

theorem scaled_eq (integral : decimal.value = whole) :
    decimal.coefficient * tenTo decimal.exponent.toNat =
      whole * tenTo (-decimal.exponent).toNat := by
  have scaled := decimal.value_scaled
  rw [integral] at scaled
  exact_mod_cast scaled.symm

/-- All digits of a decimal that is an integer are those of the integer, and then zeros. -/
theorem allDigits_of_whole (integral : decimal.value = whole) :
    decimal.allDigits = Numeral.natural whole ++ Numeral.zeros (-decimal.exponent).toNat := by
  have scaled := scaled_eq integral
  unfold allDigits
  by_cases upward : 0 ≤ decimal.exponent
  · have none : (-decimal.exponent).toNat = 0 := by omega
    rw [none, tenTo_zero, Nat.mul_one] at scaled
    rw [if_pos upward, none, ← scaled]
    refine Eq.trans ?_ (List.append_nil _).symm
    by_cases vanishes : decimal.coefficient = 0
    · rw [integerDigits, if_pos upward, if_pos vanishes, vanishes, Nat.zero_mul]
    · rw [integerDigits, if_pos upward, if_neg vanishes,
        Numeral.natural_mul_tenTo (Nat.pos_of_ne_zero vanishes)]
  · have none : decimal.exponent.toNat = 0 := by omega
    rw [none, tenTo_zero, Nat.mul_one] at scaled
    rw [if_neg upward, scaled, Numeral.padLeft]
    -- Only the digits of a zero are too few and have to be filled up in front.
    rcases Nat.eq_zero_or_pos whole with rfl | positive
    · have single : Numeral.natural 0 = [.scalar '0'] := rfl
      rw [Nat.zero_mul, single, List.length_singleton, Nat.add_sub_cancel]
      exact List.replicate_succ'.symm
    · have begun := List.length_pos_iff.mpr (Numeral.natural_ne_nil whole)
      have filled : (-decimal.exponent).toNat + 1 - (Numeral.natural whole ++
          Numeral.zeros (-decimal.exponent).toNat).length = 0 := by
        rw [List.length_append, Numeral.zeros, List.length_replicate]
        omega
      rw [Numeral.natural_mul_tenTo positive, filled]
      rfl

theorem digits_of_whole (integral : decimal.value = whole) :
    decimal.integerDigits = Numeral.natural whole ∧
      decimal.fractionDigits = Numeral.zeros (-decimal.exponent).toNat := by
  have digits := decimal.integerDigits_append_fractionDigits
  rw [allDigits_of_whole integral] at digits
  apply List.append_inj' digits
  rw [decimal.length_fractionDigits, Numeral.zeros, List.length_replicate]

/-- The positional form of an integer has its digits, and as many zeros after the point as
a negative exponent asks for. -/
theorem positional_of_whole (integral : decimal.value = whole) :
    decimal.positional =
      Numeral.natural whole ++ zeroFraction (-decimal.exponent).toNat := by
  obtain ⟨wholeDigits, fractionDigits⟩ := digits_of_whole integral
  rw [positional_eq, wholeDigits, fractionOf, fractionDigits, zeroFraction]
  cases (-decimal.exponent).toNat with
  | zero => rfl
  | succ places => rfl

/-- A decimal that does not end in a zero is an integer only without a fraction. -/
theorem exponent_nonneg_of_whole
    (ends : 0 ≤ decimal.exponent ∨ decimal.coefficient % 10 ≠ 0)
    (integral : decimal.value = whole) : 0 ≤ decimal.exponent := by
  by_contra fractional
  have scaled := scaled_eq integral
  have none : decimal.exponent.toNat = 0 := by omega
  obtain ⟨places, more⟩ : ∃ places, (-decimal.exponent).toNat = places + 1 :=
    ⟨(-decimal.exponent).toNat - 1, by omega⟩
  rw [none, more, tenTo_succ, ← Nat.mul_assoc, tenTo_zero, Nat.mul_one] at scaled
  exact ends.resolve_left fractional (scaled ▸ Nat.mul_mod_left _ _)

end ScaledDecimal

end BoundQuery
