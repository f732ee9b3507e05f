import BoundQuery.Proofs.DroppedZeros
import BoundQuery.Proofs.NumeralReading
import BoundQuery.Proofs.PositionalForm
import BoundQuery.Proofs.ShortestDecimal

/-!
# Displayed doubles

A finite double is displayed as an integer with a zero after the point, as its shortest
decimal in positional form, or as its shortest decimal with an exponent. The decimal that is
read from the displayed form has the value of the shortest one in all three cases, but keeps
the zero after the point in the first.

The main statements say that every finite double has a positional form, that dropping the
zeros from it gives the positional form of the shortest decimal, and that the displayed and
the written form of a double are both read as this double.
-/

namespace BoundQuery

/-! ## Positional forms without the zeros -/

namespace ScaledDecimal

variable {decimal : ScaledDecimal} (negative : Bool)

theorem text_stripped_numeral :
    (decimal.numeral negative).stripped.text =
      Numeral.signed negative decimal.integerDigits ++
        pointed (fractionOf (Text.dropEnd (.scalar '0') decimal.fractionDigits)) := by
  rw [PlainNumeral.text_stripped, numeral, getD_fractionOf]

/-- A decimal that does not end in a zero has none to be dropped. -/
theorem text_stripped_of_ends
    (ends : 0 ≤ decimal.exponent ∨ decimal.coefficient % 10 ≠ 0) :
    (decimal.numeral negative).stripped.text = Numeral.signed negative decimal.positional := by
  rw [text_stripped_numeral,
    Text.dropEnd_of_getLast? (decimal.getLast?_fractionDigits_ne_zero ends), positional_eq,
    Numeral.signed_append]

/-- An integer has nothing but zeros after the point. -/
theorem text_stripped_of_whole {whole : Nat} (integral : decimal.value = whole) :
    (decimal.numeral negative).stripped.text =
      Numeral.signed negative (Numeral.natural whole) := by
  have zeros : Text.dropEnd (.scalar '0') (Numeral.zeros (-decimal.exponent).toNat) = [] :=
    List.rdropWhile_eq_nil_iff.mpr fun _ member =>
      decide_eq_true (List.eq_of_mem_replicate member)
  obtain ⟨wholeDigits, fractionDigits⟩ := digits_of_whole integral
  rw [text_stripped_numeral, wholeDigits, fractionDigits, zeros, fractionOf, if_pos rfl,
    pointed, List.append_nil]

end ScaledDecimal

namespace Double

variable {double : Double}

/-! ## The displayed decimal -/

/-- An integer with a fraction of one zero. -/
def integral (double : Double) : PlainNumeral where
  negative := double.negative
  whole := double.shortest.integerDigits
  fraction? := some [.scalar '0']
  nonempty := double.shortest.integerDigits_ne_nil
  wholeDigits := (double.shortest.numeral double.negative).wholeDigits
  fractionDigits := List.forall_mem_singleton.mpr rfl

theorem value_digits_integral (whole : 0 ≤ double.shortest.exponent) :
    double.integral.digits.value = double.shortest.value := by
  have all : double.shortest.allDigits = double.shortest.integerDigits := if_pos whole
  have amount := Numeral.amount_append_zeros double.shortest.integerDigits 1
  rw [← all, double.shortest.amount_allDigits, all] at amount
  have digits : double.integral.digits =
      ⟨double.shortest.coefficient * tenTo double.shortest.exponent.toNat * tenTo 1,
        (double.shortest.exponent - double.shortest.exponent.toNat) - (1 : Nat)⟩ := by
    rw [PlainNumeral.digits, ← amount, Int.toNat_of_nonneg whole, Int.sub_self]
    rfl
  rw [digits, ScaledDecimal.value_mul_tenTo, ScaledDecimal.value_mul_tenTo]

/-- The decimal that the displayed form of a finite double denotes. -/
def displayed (double : Double) : ScaledDecimal :=
  let digits := double.shortest
  let order : Int := digits.exponent + (Numeral.natural digits.coefficient).length
  if (-4 < order ∧ order ≤ 16) ∧ 0 ≤ digits.exponent then double.integral.digits else digits

/-- The displayed decimal is the shortest one, or the integer that it is with one digit after
the point. -/
theorem displayed_cases (double : Double) :
    double.displayed = double.shortest ∨
      0 ≤ double.shortest.exponent ∧ double.displayed = double.integral.digits := by
  unfold displayed
  dsimp only
  split
  · next integer => exact Or.inr ⟨integer.2, rfl⟩
  · exact Or.inl rfl

theorem value_displayed (double : Double) : double.displayed.value = double.shortest.value := by
  rcases double.displayed_cases with same | ⟨whole, same⟩
  · rw [same]
  · rw [same, value_digits_integral whole]

/-- The displayed form of a finite double is a plain numeral, or a scientific one, of the
displayed decimal. -/
theorem display_cases (finite : double.isFinite = true) :
    (∃ numeral : PlainNumeral, numeral.negative = double.negative ∧
      double.display = numeral.text ∧ numeral.digits = double.displayed) ∨
      double.display = Numeral.signed double.negative
        (double.displayed.scientific ['e'] fun power =>
          Numeral.padLeft 2 (Numeral.natural power)) := by
  have regular : double.biased.val < 2047 := of_decide_eq_true finite
  have notANumber : double.isNotANumber = false := by
    rw [isNotANumber, beq_eq_false_iff_ne.mpr (by omega), Bool.false_and]
  have notInfinite : double.isInfinite = false := by
    rw [isInfinite, beq_eq_false_iff_ne.mpr (by omega), Bool.false_and]
  unfold display displayWith displayed
  simp only [notANumber, notInfinite, Bool.false_eq_true, if_false]
  split
  · next range =>
      by_cases whole : 0 ≤ double.shortest.exponent
      · rw [if_pos whole, if_pos ⟨range, whole⟩,
          double.shortest.positional_eq_integerDigits whole]
        exact Or.inl ⟨double.integral, rfl, rfl, rfl⟩
      · rw [if_neg whole, if_neg fun both => whole both.2]
        exact Or.inl ⟨double.shortest.numeral double.negative, rfl,
          (double.shortest.text_numeral _).symm,
          double.shortest.digits_numeral_of_neg _ (Int.not_le.mp whole)⟩
  · next outside =>
      rw [if_neg fun both => outside both.1]
      exact Or.inr rfl

theorem readDecimal?_display (finite : double.isFinite = true) :
    readDecimal? double.display = some (.finite double.negative double.displayed) := by
  rcases display_cases finite with ⟨numeral, sign, text, digits⟩ | text
  · rw [text, numeral.readDecimal?_text, sign, digits]
  · rw [text, double.displayed.isScaled_scientific.readDecimal?_signed]

/-- The displayed form of a finite double is read as the double itself. -/
theorem readDouble?_display (finite : double.isFinite = true) :
    readDouble? double.display = some double := by
  have nearest := nearestDecimal_of_value_eq finite double.value_displayed
  rcases display_cases finite with ⟨numeral, sign, text, digits⟩ | text
  · rw [text, numeral.readDouble?_text, sign, digits, nearest]
  · rw [text, double.displayed.isScaled_scientific.readDouble?_signed, nearest]

theorem decimal?_of_isFinite (finite : double.isFinite = true) :
    double.decimal? = some (.finite double.negative double.displayed) := by
  rw [decimal?, if_pos finite, readDecimal?_display finite]

/-! ## Positional and written forms -/

/-- The positional form of a finite double, with the zero after the point of an integer. -/
def plainNumeral (double : Double) : PlainNumeral :=
  double.displayed.numeral double.negative

theorem plain_of_isFinite (finite : double.isFinite = true) :
    double.plain = .ok double.plainNumeral.text := by
  rw [plain, decimal?_of_isFinite finite, plainNumeral, ScaledDecimal.text_numeral]
  rfl

theorem plain_of_not_finite (infinite : double.isFinite = false) :
    double.plain = .error (.binding (.notFinite (.double double))) := by
  rw [plain, decimal?, infinite]
  rfl

/-- A finite double is written as its positional form without the zeros at the end of the
fraction. -/
theorem written_of_isFinite (finite : double.isFinite = true) :
    double.written = .ok double.plainNumeral.stripped.text := by
  rw [written, plain_of_isFinite finite, ← PlainNumeral.dropFractionZeros_text]
  rfl

/-- The double `5000.0` has a point in its positional form and loses what follows it, while
`1e+16` has no point and keeps its zeros. -/
example :
    (nearestDecimal false 5 3).plain = .ok (Text.ofString "5000.0") ∧
      (nearestDecimal false 5 3).written = .ok (Text.ofString "5000") ∧
      (nearestDecimal false 1 16).display = Text.ofString "1e+16" ∧
      (nearestDecimal false 1 16).written = .ok (Text.ofString "10000000000000000") :=
  ⟨rfl, rfl, rfl, rfl⟩

theorem number_plainNumeral (double : Double) :
    double.plainNumeral.number = ⟨double.negative, double.shortest.value⟩ := by
  rw [plainNumeral, ScaledDecimal.number_numeral, value_displayed]

/-- The displayed form of a finite double denotes its shortest decimal. -/
theorem number?_display (finite : double.isFinite = true) :
    Text.number? double.display = some ⟨double.negative, double.shortest.value⟩ := by
  rw [Text.number?, readDecimal?_display finite, ← value_displayed]
  rfl

/-- The written form of a finite double is read as the double itself. -/
theorem readDouble?_stripped (finite : double.isFinite = true) :
    readDouble? double.plainNumeral.stripped.text = some double := by
  have same : double.plainNumeral.stripped.digits.value = double.shortest.value := by
    have number := double.plainNumeral.number_stripped.trans double.number_plainNumeral
    exact congrArg SignedNumber.magnitude number
  rw [PlainNumeral.readDouble?_text]
  exact congrArg some (nearestDecimal_of_value_eq finite same)

/-- Dropping the zeros gives the positional form of the shortest decimal. -/
theorem text_stripped_plainNumeral (double : Double) :
    double.plainNumeral.stripped.text =
      Numeral.signed double.negative double.shortest.positional := by
  rw [plainNumeral]
  rcases double.displayed_cases with same | ⟨whole, _⟩
  · rw [same, ScaledDecimal.text_stripped_of_ends _ double.shortest_ends]
  · have value := ScaledDecimal.value_of_upward whole
    have places : (-double.shortest.exponent).toNat = 0 := by omega
    rw [ScaledDecimal.text_stripped_of_whole _ (double.value_displayed.trans value),
      ScaledDecimal.positional_of_whole value, places, zeroFraction, if_pos rfl,
      List.append_nil]

/-- A finite double is written as its shortest decimal in positional form. -/
theorem written_eq_shortest (finite : double.isFinite = true) :
    double.written = .ok (Numeral.signed double.negative double.shortest.positional) := by
  rw [written_of_isFinite finite, text_stripped_plainNumeral]

end Double

end BoundQuery
