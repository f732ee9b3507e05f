import BoundQuery.Number.Reading
import Mathlib.Algebra.Order.Floor.Semifield
import Mathlib.Data.Rat.Floor

/-!
# Plain numerals and their numbers

A plain numeral is an optional minus sign, digits, and perhaps a point with further
digits. Its digits denote an amount in place notation, and the numeral stands for this
amount, scaled by the digits after the point, with a sign that tells the two zeros apart.

The main statement says that cutting a plain numeral at its point truncates its number
toward zero.
-/

namespace BoundQuery

/-! ## Amounts of digits -/

theorem cast_tenTo (power : Nat) : ((tenTo power : Nat) : ℚ) = 10 ^ power := by
  induction power with
  | zero => rw [pow_zero, tenTo_zero, Nat.cast_one]
  | succ power inductionHypothesis =>
      rw [tenTo_succ, Nat.cast_mul, inductionHypothesis, pow_succ, Nat.cast_ofNat]

namespace Numeral

/-- The number that the digits of a text denote in place notation. -/
def amount (text : Text) : Nat :=
  ofDigitValues (text.filterMap CodePoint.digit?)

theorem ofDigitValues_append (values later : List Nat) :
    ofDigitValues (values ++ later) =
      ofDigitValues values * tenTo later.length + ofDigitValues later := by
  have folded : ∀ start, later.foldl (fun number digit => 10 * number + digit) start =
      start * tenTo later.length + ofDigitValues later := by
    unfold ofDigitValues
    induction later with
    | nil => simp
    | cons digit rest inductionHypothesis =>
        intro start
        rw [List.foldl_cons, List.foldl_cons, inductionHypothesis (10 * start + digit),
          inductionHypothesis (10 * 0 + digit), List.length_cons, tenTo_succ]
        ring
  rw [← folded, ofDigitValues, ofDigitValues, List.foldl_append]

section Digits

variable {text : Text}

theorem digit?_of_isDigit {point : CodePoint} (digit : point.isDigit = true) :
    ∃ value < 10, point.digit? = some value := by
  unfold CodePoint.isDigit CodePoint.digit? at digit
  unfold CodePoint.digit?
  split at digit
  · next range =>
      rw [if_pos range]
      exact ⟨point.value - 48, by omega, rfl⟩
  · cases digit

theorem length_filterMap_digit? (digits : ∀ point ∈ text, point.isDigit = true) :
    (text.filterMap CodePoint.digit?).length = text.length := by
  induction text with
  | nil => rfl
  | cons first rest inductionHypothesis =>
      obtain ⟨digit, restDigits⟩ := List.forall_mem_cons.mp digits
      obtain ⟨value, _, same⟩ := digit?_of_isDigit digit
      rw [List.filterMap_cons_some same, List.length_cons, List.length_cons,
        inductionHypothesis restDigits]

theorem amount_append
    (text : Text) {later : Text} (digits : ∀ point ∈ later, point.isDigit = true) :
    amount (text ++ later) = amount text * tenTo later.length + amount later := by
  rw [amount, List.filterMap_append, ofDigitValues_append, length_filterMap_digit? digits,
    amount, amount]

theorem isDigit_of_mem_zeros (count : Nat) : ∀ point ∈ zeros count, point.isDigit = true := by
  intro point member
  rw [List.eq_of_mem_replicate member]
  rfl

theorem isDigit_of_mem_padLeft (length number : Nat) :
    ∀ point ∈ padLeft length (natural number), point.isDigit = true :=
  List.forall_mem_append.mpr ⟨isDigit_of_mem_zeros _, isDigit_of_mem_natural number⟩

theorem amount_zeros (count : Nat) : amount (zeros count) = 0 := by
  induction count with
  | zero => rfl
  | succ count inductionHypothesis =>
      have split : zeros (count + 1) = [.scalar '0'] ++ zeros count := rfl
      rw [split, amount_append _ (isDigit_of_mem_zeros count), inductionHypothesis,
        show amount [.scalar '0'] = 0 from rfl, Nat.zero_mul]

theorem amount_append_zeros (text : Text) (count : Nat) :
    amount (text ++ zeros count) = amount text * tenTo count := by
  rw [amount_append _ (isDigit_of_mem_zeros count), amount_zeros, Nat.add_zero, zeros,
    List.length_replicate]

theorem amount_zeros_append
    (count : Nat) (digits : ∀ point ∈ text, point.isDigit = true) :
    amount (zeros count ++ text) = amount text := by
  rw [amount_append _ digits, amount_zeros, Nat.zero_mul, Nat.zero_add]

/-- A run of digits denotes less than the power of ten of its length. -/
theorem amount_lt (digits : ∀ point ∈ text, point.isDigit = true) :
    amount text < tenTo text.length := by
  induction text with
  | nil => exact tenTo_pos 0
  | cons first rest inductionHypothesis =>
      obtain ⟨digit, restDigits⟩ := List.forall_mem_cons.mp digits
      obtain ⟨value, small, same⟩ := digit?_of_isDigit digit
      have single : amount [first] = value := by
        rw [amount, List.filterMap_cons_some same]
        exact Nat.zero_add value
      have split := amount_append [first] restDigits
      rw [List.singleton_append, single] at split
      have below := inductionHypothesis restDigits
      have bound := Nat.mul_le_mul_right (tenTo rest.length) (Nat.le_of_lt_succ small)
      rw [split, List.length_cons, tenTo_succ]
      omega

theorem digitValues?_eq_some
    (nonempty : text ≠ []) (digits : ∀ point ∈ text, point.isDigit = true) :
    digitValues? text = some (text.filterMap CodePoint.digit?) := by
  induction text with
  | nil => exact absurd rfl nonempty
  | cons first rest inductionHypothesis =>
      obtain ⟨digit, restDigits⟩ := List.forall_mem_cons.mp digits
      obtain ⟨value, _, same⟩ := digit?_of_isDigit digit
      rw [List.filterMap_cons_some same]
      cases rest with
      | nil =>
          rw [digitValues?, same]
          rfl
      | cons second rest =>
          rw [digitValues?, same,
            inductionHypothesis (List.cons_ne_nil second rest) restDigits]

theorem amount_natural (number : Nat) : amount (natural number) = number := by
  obtain ⟨values, reading, total⟩ := digitValues?_natural number
  rw [digitValues?_eq_some (natural_ne_nil number) (isDigit_of_mem_natural number)] at reading
  rw [amount, Option.some.inj reading, total]

end Digits

end Numeral

/-! ## Values of scaled coefficients -/

/-- The value of a coefficient that is scaled by a power of ten. -/
def ScaledDecimal.value (decimal : ScaledDecimal) : ℚ :=
  decimal.coefficient * 10 ^ decimal.exponent

namespace ScaledDecimal

theorem value_nonneg (decimal : ScaledDecimal) : 0 ≤ decimal.value :=
  mul_nonneg (Nat.cast_nonneg _) (zpow_pos (by norm_num) _).le

/-- Zeros at the end of the coefficient stand for powers of ten. -/
theorem value_mul_tenTo (coefficient count : Nat) (exponent : Int) :
    value ⟨coefficient * tenTo count, exponent - count⟩ = value ⟨coefficient, exponent⟩ := by
  rw [value, value, Nat.cast_mul, cast_tenTo, mul_assoc, ← zpow_natCast,
    ← zpow_add₀ (by norm_num), add_sub_cancel]

/-- The value of a decimal with the power of ten on the side where it multiplies. -/
theorem value_scaled (decimal : ScaledDecimal) :
    decimal.value * tenTo (-decimal.exponent).toNat =
      decimal.coefficient * tenTo decimal.exponent.toNat := by
  have exponents : decimal.exponent + ((-decimal.exponent).toNat : Int) =
      decimal.exponent.toNat := by omega
  rw [value, cast_tenTo, cast_tenTo, mul_assoc, ← zpow_natCast, ← zpow_natCast,
    ← zpow_add₀ (by norm_num), exponents]

theorem value_of_upward {decimal : ScaledDecimal} (upward : 0 ≤ decimal.exponent) :
    decimal.value = (decimal.coefficient * tenTo decimal.exponent.toNat : Nat) := by
  have none : (-decimal.exponent).toNat = 0 := by omega
  have scaled := decimal.value_scaled
  rw [none, tenTo_zero, Nat.cast_one, mul_one] at scaled
  rw [scaled, Nat.cast_mul]

theorem value_dropZeros (bound : Nat) (decimal : ScaledDecimal) :
    (dropZeros bound decimal).value = decimal.value := by
  induction bound generalizing decimal with
  | zero => rfl
  | succ bound inductionHypothesis =>
      unfold dropZeros
      by_cases ends : decimal.coefficient ≠ 0 ∧ decimal.coefficient % 10 = 0
      · have tens : decimal.coefficient = decimal.coefficient / 10 * 10 := by omega
        have cast : (decimal.coefficient : ℚ) = (decimal.coefficient / 10 : Nat) * 10 := by
          exact_mod_cast tens
        rw [if_pos ends, inductionHypothesis, value, value, zpow_add₀ (by norm_num),
          zpow_one, cast]
        ring
      · rw [if_neg ends]

theorem value_normalize (decimal : ScaledDecimal) :
    decimal.normalize.value = decimal.value := by
  unfold normalize
  by_cases vanishes : decimal.coefficient = 0
  · rw [if_pos vanishes, value, value, vanishes, Nat.cast_zero, zero_mul, zero_mul]
  · rw [if_neg vanishes, value_dropZeros]

end ScaledDecimal

/-! ## Numbers with a sign -/

/-- A number with its sign kept, which tells the two zeros apart. -/
structure SignedNumber where
  negative : Bool
  magnitude : ℚ

/-- The number cut toward zero. It keeps its sign. -/
def SignedNumber.truncated (number : SignedNumber) : SignedNumber :=
  ⟨number.negative, ⌊number.magnitude⌋₊⟩

/-- The number that a finite decimal stands for. -/
def Decimal.number? : Decimal → Option SignedNumber
  | finite negative digits => some ⟨negative, digits.value⟩
  | infinite _ => none
  | notANumber _ _ _ => none

/-- The number that a text denotes, when it is read as a decimal. -/
def Text.number? (text : Text) : Option SignedNumber :=
  (readDecimal? text).bind Decimal.number?

/-! ## Plain numerals -/

/-- An optional minus sign, one or more digits, and perhaps a point with further digits. -/
structure PlainNumeral where
  negative : Bool
  whole : Text
  fraction? : Option Text
  nonempty : whole ≠ []
  wholeDigits : ∀ point ∈ whole, point.isDigit = true
  fractionDigits : ∀ point ∈ fraction?.getD [], point.isDigit = true

theorem isDigit_of_mem_no_fraction :
    ∀ point ∈ (none : Option Text).getD [], point.isDigit = true :=
  fun _ member => absurd member List.not_mem_nil

/-- A point with the digits of a fraction, or nothing without a fraction. -/
def pointed : Option Text → Text
  | none => []
  | some fraction => .scalar '.' :: fraction

/-- Digits have no point among them, so a numeral is split where its fraction begins. -/
theorem splitFirst_pointed
    {whole : Text} (digits : ∀ point ∈ whole, point.isDigit = true) (fraction? : Option Text) :
    Text.splitFirst (.scalar '.') (whole ++ pointed fraction?) = (whole, fraction?) := by
  have noPoint : CodePoint.scalar '.' ∉ whole := Text.not_mem_of_digits digits rfl
  cases fraction? with
  | none =>
      rw [pointed, List.append_nil]
      exact Text.splitFirst_eq_self _ _ noPoint
  | some fraction => exact Text.splitFirst_append _ fraction noPoint

/-- The digits of a fraction, when there are any. -/
def fractionOf (digits : Text) : Option Text :=
  if digits = [] then none else some digits

theorem getD_fractionOf (digits : Text) : (fractionOf digits).getD [] = digits := by
  unfold fractionOf
  split
  · next none => exact none.symm
  · rfl

theorem fractionOf_ne_some_nil (digits : Text) : fractionOf digits ≠ some [] := by
  unfold fractionOf
  split
  · exact fun same => by cases same
  · next some => exact fun same => some (Option.some.inj same)

namespace PlainNumeral

def magnitude (numeral : PlainNumeral) : Text :=
  numeral.whole ++ pointed numeral.fraction?

def text (numeral : PlainNumeral) : Text :=
  Numeral.signed numeral.negative numeral.magnitude

/-- All digits as one coefficient, scaled by the number of digits after the point. -/
def digits (numeral : PlainNumeral) : ScaledDecimal :=
  ⟨Numeral.amount (numeral.whole ++ numeral.fraction?.getD []),
    -((numeral.fraction?.getD []).length : Int)⟩

def number (numeral : PlainNumeral) : SignedNumber :=
  ⟨numeral.negative, numeral.digits.value⟩

/-- The numeral in front of the point. -/
def cut (numeral : PlainNumeral) : PlainNumeral where
  negative := numeral.negative
  whole := numeral.whole
  fraction? := none
  nonempty := numeral.nonempty
  wholeDigits := numeral.wholeDigits
  fractionDigits := isDigit_of_mem_no_fraction

theorem exists_magnitude_eq_cons (numeral : PlainNumeral) :
    ∃ first rest, numeral.magnitude = first :: rest ∧ first.isDigit = true := by
  obtain ⟨first, rest, same⟩ := List.exists_cons_of_ne_nil numeral.nonempty
  refine ⟨first, rest ++ pointed numeral.fraction?, ?_, ?_⟩
  · rw [magnitude, same]
    rfl
  · exact numeral.wholeDigits first (same ▸ List.mem_cons_self)

/-- Cutting a numeral at its point truncates its number. -/
theorem number_cut (numeral : PlainNumeral) :
    numeral.cut.number = numeral.number.truncated := by
  have whole : numeral.cut.digits.value = Numeral.amount numeral.whole := by
    rw [ScaledDecimal.value, digits]
    simp [cut]
  have value : numeral.digits.value =
      (Numeral.amount (numeral.whole ++ numeral.fraction?.getD []) : ℚ) /
        (tenTo (numeral.fraction?.getD []).length : ℚ) := by
    rw [ScaledDecimal.value, digits, cast_tenTo, zpow_neg, zpow_natCast, div_eq_mul_inv]
  have below := Numeral.amount_lt numeral.fractionDigits
  have positive := tenTo_pos (numeral.fraction?.getD []).length
  have floor : ⌊numeral.digits.value⌋₊ = Numeral.amount numeral.whole := by
    rw [value, Nat.floor_div_eq_div, Numeral.amount_append _ numeral.fractionDigits,
      Nat.mul_comm, Nat.mul_add_div positive, Nat.div_eq_of_lt below, Nat.add_zero]
  rw [number, whole, SignedNumber.truncated, number, floor]
  rfl

end PlainNumeral

end BoundQuery
