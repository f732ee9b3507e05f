import BoundQuery.Proofs.Acceptance
import BoundQuery.Proofs.WholeDoubles
import BoundQuery.Proofs.WrittenNumbers

/-!
# Integers are cut toward zero

A number reaches an integer marker as an integer, a double, a decimal or a text. Each of
them has a plain numeral, its own text or its written form, and the integer form is this
numeral in front of the point.

The main statement says that the integer form of every value that is taken denotes the
number of the value truncated toward zero, with the sign of the number even when nothing
but a zero is left, and that a number and its written form have one integer form.
-/

namespace BoundQuery

/-! ## Numerals in front of their points -/

namespace PlainNumeral

variable (numeral : PlainNumeral)

theorem text_cut : numeral.cut.text = Numeral.signed numeral.negative numeral.whole := by
  rw [text, magnitude, cut, pointed, List.append_nil]

theorem integerPart_text : integerPart numeral.text = numeral.cut.text := by
  have split := splitFirst_pointed numeral.wholeDigits numeral.fraction?
  rw [text_cut, text, magnitude, integerPart]
  cases numeral.negative with
  | false => exact congrArg Prod.fst split
  | true => exact congrArg (CodePoint.scalar '-' :: ·) (congrArg Prod.fst split)

/-- The zeros at the end of a fraction stand after the point, so they are not in the integer
part. -/
theorem integerPart_dropFractionZeros :
    integerPart (dropFractionZeros numeral.text) = integerPart numeral.text := by
  rw [dropFractionZeros_text, integerPart_text, integerPart_text, cut_stripped]

theorem isNumeral_text : IsNumeral numeral.text := by
  have fraction : pointed numeral.fraction? = [] ∨
      ∃ digits, pointed numeral.fraction? = .scalar '.' :: digits ∧
        ∀ point ∈ digits, point.isDigit = true := by
    have digits := numeral.fractionDigits
    cases present : numeral.fraction? with
    | none => exact Or.inl rfl
    | some fraction =>
        rw [present] at digits
        exact Or.inr ⟨fraction, rfl, digits⟩
  rw [text, magnitude]
  cases numeral.negative with
  | false =>
      exact ⟨[], numeral.whole, _, rfl, Or.inl rfl, ⟨numeral.nonempty, numeral.wholeDigits⟩,
        fraction⟩
  | true =>
      exact ⟨[.scalar '-'], numeral.whole, _, rfl, Or.inr rfl,
        ⟨numeral.nonempty, numeral.wholeDigits⟩, fraction⟩

end PlainNumeral

/-- A text is a numeral exactly when it is the text of a plain numeral. -/
theorem exists_numeral_of_isNumeral {text : Text} (isNumeral : IsNumeral text) :
    ∃ numeral : PlainNumeral, numeral.text = text := by
  obtain ⟨sign, whole, fraction, rfl, signs, ⟨nonempty, wholeDigits⟩, fractions⟩ := isNumeral
  have parts : ∃ fraction? : Option Text, pointed fraction? = fraction ∧
      ∀ point ∈ fraction?.getD [], point.isDigit = true := by
    rcases fractions with rfl | ⟨digits, rfl, fractionDigits⟩
    · exact ⟨none, rfl, isDigit_of_mem_no_fraction⟩
    · exact ⟨some digits, rfl, fractionDigits⟩
  obtain ⟨fraction?, rfl, fractionDigits⟩ := parts
  rcases signs with rfl | rfl
  · exact ⟨⟨false, whole, fraction?, nonempty, wholeDigits, fractionDigits⟩, rfl⟩
  · exact ⟨⟨true, whole, fraction?, nonempty, wholeDigits, fractionDigits⟩, rfl⟩

/-! ## Integer forms -/

/-- The number that a value stands for, when it is a scalar that stands for one. -/
def Value.number? : Value → Option SignedNumber
  | .scalar content => content.number?
  | _ => none

theorem integerForm_numeral (numeral : PlainNumeral) :
    (Value.text numeral.text).integerForm = .ok numeral.cut.text := by
  rw [integerForm_text _ ((isNumeric_iff _).mpr numeral.isNumeral_text),
    numeral.integerPart_text]

/-- The integer form of a number is its written form in front of the point. -/
theorem Scalar.WrittenAs.integerForm
    {content : Scalar} {numeral : PlainNumeral} (finite : content.finite? = some true)
    (writtenAs : content.WrittenAs numeral) :
    (Value.scalar content).integerForm = .ok numeral.cut.text := by
  have written := writtenAs.written
  rw [← numeral.integerPart_text]
  cases content with
  | text content => cases finite
  | flag value => cases finite
  | integer number =>
      rw [← Except.ok.inj written, ← text_integerNumeral,
        (integerNumeral number).integerPart_text]
      exact congrArg Except.ok (text_integerNumeral number).symm
  | double number =>
      have plain := Double.plain_of_isFinite (Option.some.inj finite)
      have same : integerPart numeral.text = integerPart number.plainNumeral.text := by
        have written : (number.plain.map dropFractionZeros) = .ok numeral.text := written
        rw [plain] at written
        rw [← Except.ok.inj written, number.plainNumeral.integerPart_dropFractionZeros]
      rw [same, Value.integerForm, plain]
      rfl
  | decimal number => exact congrArg (Except.map integerPart) written

namespace Value

/-- Every value that an integer marker takes, apart from null, has a numeral that denotes
it, and its integer form is the part in front of the point. -/
theorem exists_numeral_of_isIntegral
    {value : Value} (present : value ≠ .null) (integral : value.IsIntegral) :
    ∃ numeral : PlainNumeral, value.number? = some numeral.number ∧
      value.integerForm = .ok numeral.cut.text := by
  have ofFinite : ∀ content : Scalar, content.finite? = some true →
      ∃ numeral : PlainNumeral, (Value.scalar content).number? = some numeral.number ∧
        (Value.scalar content).integerForm = .ok numeral.cut.text := by
    intro content finite
    obtain ⟨numeral, writtenAs⟩ := Scalar.exists_writtenAs finite
    exact ⟨numeral, writtenAs.number, writtenAs.integerForm finite⟩
  cases value with
  | null => exact absurd rfl present
  | scalar content =>
      cases content with
      | text content =>
          obtain ⟨numeral, rfl⟩ := exists_numeral_of_isNumeral integral
          exact ⟨numeral, numeral.number?_text, integerForm_numeral numeral⟩
      | flag value => cases integral
      | integer number => exact ofFinite _ rfl
      | double number => exact ofFinite _ (congrArg some integral)
      | decimal number => exact ofFinite _ (congrArg some integral)
  | _ => cases integral

/-- What a double below `2 ^ 53` is displayed as has the integer part of the double itself. -/
theorem truncated_number?_double
    {double : Double} (finite : double.isFinite = true) (small : double.magnitude < 2 ^ 53) :
    ∃ number, (Value.scalar (.double double)).number? = some number ∧
      number.truncated =
        (⟨double.negative, double.magnitude⟩ : SignedNumber).truncated := by
  refine ⟨_, Double.number?_display finite, ?_⟩
  rw [SignedNumber.truncated, SignedNumber.truncated, Double.floor_shortest small]

/-- An integer marker takes whole numbers, finite numbers and numerals. What it writes are
digits with an optional minus sign, which denote the number truncated toward zero. A
number and its written form are written in the same way. A double stands for the number that
it is displayed as, which below `2 ^ 53` is truncated as the double itself is. -/
theorem integerForm_truncates (value : Value) (present : value ≠ .null) :
    ((∃ text, value.integerForm = .ok text) ↔ value.IsIntegral) ∧
      (∀ text, value.integerForm = .ok text →
        ∃ (numeral : PlainNumeral) (number : SignedNumber),
          value.number? = some number ∧ text = numeral.text ∧ numeral.fraction? = none ∧
            numeral.number = number.truncated) ∧
      (∀ content, value = .scalar content → content.finite? = some true →
        ∃ text form, content.written = .ok text ∧ value.integerForm = .ok form ∧
          (Value.text text).integerForm = .ok form) ∧
      ∀ double : Double, value = .scalar (.double double) → double.isFinite = true →
        double.magnitude < 2 ^ 53 →
          ∃ number, value.number? = some number ∧
            number.truncated =
              (⟨double.negative, double.magnitude⟩ : SignedNumber).truncated := by
  have accepted := (givenIff_integerForm value).given_iff
  refine ⟨accepted, ?_, ?_, ?_⟩
  · intro text formed
    obtain ⟨numeral, number, form⟩ :=
      exists_numeral_of_isIntegral present (accepted.mp ⟨text, formed⟩)
    exact ⟨numeral.cut, numeral.number, number, Except.ok.inj (formed.symm.trans form), rfl,
      numeral.number_cut⟩
  · rintro content rfl finite
    obtain ⟨numeral, writtenAs⟩ := Scalar.exists_writtenAs finite
    exact ⟨numeral.text, numeral.cut.text, writtenAs.written, writtenAs.integerForm finite,
      integerForm_numeral numeral⟩
  · rintro double rfl finite small
    exact truncated_number?_double finite small

/-- Finite numbers beside their integer forms. -/
def truncatedSamples : List (Scalar × String) :=
  [(.decimal (.finite true ⟨9, -1⟩), "-0"),
    (.decimal (.finite true ⟨1, 3⟩), "-1000"),
    (.double (Double.nearestDecimal true 399 (-2)), "-3"),
    (.double (Double.nearestDecimal false 5 3), "5000"),
    (.double (Double.nearestDecimal false 1 16), "10000000000000000"),
    (.double (Double.nearestDecimal true 1 (-7)), "-0")]

/-- Decimals and doubles with a fraction, with a zero after the point and with an exponent are
cut toward zero, as their written forms are. The double `-3.99` is cut as what it is displayed
as. -/
theorem integerForm_truncates_samples :
    (∀ sample ∈ truncatedSamples,
      (∃ (numeral : PlainNumeral) (number : SignedNumber),
        (Value.scalar sample.1).number? = some number ∧
          Text.ofString sample.2 = numeral.text ∧ numeral.fraction? = none ∧
          numeral.number = number.truncated) ∧
      ∃ text form, sample.1.written = .ok text ∧
        (Value.scalar sample.1).integerForm = .ok form ∧
        (Value.text text).integerForm = .ok form) ∧
      ∃ number,
        (Value.scalar (.double (Double.nearestDecimal true 399 (-2)))).number? = some number ∧
          number.truncated =
            (⟨true, (Double.nearestDecimal true 399 (-2)).magnitude⟩ :
              SignedNumber).truncated := by
  have checked : ∀ sample ∈ truncatedSamples, sample.1.finite? = some true ∧
      (Value.scalar sample.1).integerForm = .ok (Text.ofString sample.2) := by
    simp only [truncatedSamples, List.forall_mem_cons]
    exact ⟨⟨rfl, rfl⟩, ⟨rfl, rfl⟩, ⟨rfl, rfl⟩, ⟨rfl, rfl⟩, ⟨rfl, rfl⟩, ⟨rfl, rfl⟩,
      List.forall_mem_nil _⟩
  constructor
  · intro sample member
    obtain ⟨finite, formed⟩ := checked sample member
    have present : Value.scalar sample.1 ≠ .null := fun same => by cases same
    obtain ⟨_, truncates, agrees, _⟩ := integerForm_truncates (.scalar sample.1) present
    exact ⟨truncates _ formed, agrees _ rfl finite⟩
  · generalize known : Double.nearestDecimal true 399 (-2) = double
    have small : double.magnitude < 2 ^ 53 := by
      have naturals : double.numerator < 2 ^ 53 * double.denominator := by
        rw [← known]
        decide +kernel
      have denominator : (0 : ℚ) < double.denominator := by
        exact_mod_cast double.denominator_pos
      rw [Double.magnitude, div_lt_iff₀ denominator]
      exact_mod_cast naturals
    have present : Value.scalar (.double double) ≠ .null := fun same => by cases same
    have negative : double.negative = true := by
      rw [← known]
      rfl
    have finite : double.isFinite = true := by
      rw [← known]
      rfl
    obtain ⟨_, _, _, alike⟩ := integerForm_truncates (.scalar (.double double)) present
    exact negative ▸ alike double rfl finite small

end Value

end BoundQuery
