import BoundQuery.Proofs.DisplayedDoubles

/-!
# Written forms of numbers

An integer is written as its numeral and a decimal in positional form. A double is written as
the positional form of its displayed decimal without the zeros at its end, which denotes the
same number as the displayed form, also where that has an exponent.

The main statement says that the written form of every finite number is a plain numeral
that denotes the number exactly, with its sign and without a bare point at the end, that
the written form of a double is read as this double, and that a number that is not finite
has no written form.
-/

namespace BoundQuery

/-! ## Numbers among scalars -/

/-- Whether a decimal has a minus sign, which a zero may have too. -/
def Decimal.isNegative : Decimal → Bool
  | finite negative _ => negative
  | infinite negative => negative
  | notANumber negative _ _ => negative

namespace Scalar

/-- Whether a number is finite. Texts and truth values are no numbers. -/
def finite? : Scalar → Option Bool
  | text _ => none
  | flag _ => none
  | integer _ => some true
  | double number => some number.isFinite
  | decimal number => some number.isFinite

/-- The number that a scalar stands for. A text stands for what it denotes, and a double
for what its displayed form denotes. -/
def number? : Scalar → Option SignedNumber
  | text content => Text.number? content
  | flag _ => none
  | integer number => some ⟨decide (number < 0), number.natAbs⟩
  | double number => Text.number? number.display
  | decimal number => number.number?

/-- Whether a number has a minus sign, which a zero may have too. -/
def isNegative : Scalar → Bool
  | text _ => false
  | flag _ => false
  | integer number => decide (number < 0)
  | double number => number.negative
  | decimal number => number.isNegative

end Scalar

/-- The numeral of an integer. -/
def integerNumeral (number : Int) : PlainNumeral where
  negative := decide (number < 0)
  whole := Numeral.natural number.natAbs
  fraction? := none
  nonempty := Numeral.natural_ne_nil _
  wholeDigits := Numeral.isDigit_of_mem_natural _
  fractionDigits := isDigit_of_mem_no_fraction

theorem text_integerNumeral (number : Int) :
    (integerNumeral number).text = Numeral.integer number := by
  rw [PlainNumeral.text, PlainNumeral.magnitude, integerNumeral, pointed, List.append_nil]
  rfl

theorem number_integerNumeral (number : Int) :
    (integerNumeral number).number = ⟨decide (number < 0), number.natAbs⟩ := by
  have digits : (integerNumeral number).digits = ⟨number.natAbs, 0⟩ := by
    rw [PlainNumeral.digits, integerNumeral, Option.getD_none, List.append_nil,
      Numeral.amount_natural]
    rfl
  rw [PlainNumeral.number, digits, ScaledDecimal.value, zpow_zero, mul_one]
  rfl

/-- A finite number is written as a plain numeral that denotes it. The numeral has no bare
point at its end. That of a double has no zero at the end of a fraction and is read as this
double, as its displayed form is. -/
structure Scalar.WrittenAs (content : Scalar) (numeral : PlainNumeral) : Prop where
  written : content.written = .ok numeral.text
  number : content.number? = some numeral.number
  sign : numeral.negative = content.isNegative
  noBarePoint : numeral.fraction? ≠ some []
  noZeroAtEnd : ∀ double, content = .double double → ∀ fraction,
    numeral.fraction? = some fraction → fraction.getLast? ≠ some (.scalar '0')
  readsBack : ∀ double, content = .double double →
    readDouble? numeral.text = some double ∧ readDouble? double.display = some double

namespace Scalar

theorem exists_writtenAs {content : Scalar} (finite : content.finite? = some true) :
    ∃ numeral, content.WrittenAs numeral := by
  cases content with
  | text content => cases finite
  | flag value => cases finite
  | integer number =>
      refine ⟨integerNumeral number, congrArg Except.ok ?_, congrArg some ?_, rfl,
        (fun same => by cases same), (fun _ same => by cases same),
        fun _ same => by cases same⟩
      · exact (text_integerNumeral number).symm
      · exact (number_integerNumeral number).symm
  | double number =>
      have isFinite : number.isFinite = true := Option.some.inj finite
      have denotes : (Scalar.double number).number? =
          some number.plainNumeral.stripped.number := by
        rw [PlainNumeral.number_stripped, Double.number_plainNumeral]
        exact Double.number?_display isFinite
      refine ⟨_, Double.written_of_isFinite isFinite, denotes, rfl,
        PlainNumeral.fraction?_stripped_ne_some_nil _,
        fun _ _ _ present => PlainNumeral.getLast?_of_fraction?_stripped _ present, ?_⟩
      rintro double same
      cases same
      exact ⟨Double.readDouble?_stripped isFinite, Double.readDouble?_display isFinite⟩
  | decimal number =>
      cases number with
      | finite negative digits =>
          refine ⟨digits.numeral negative, congrArg Except.ok ?_, congrArg some ?_, rfl,
            fractionOf_ne_some_nil _, (fun _ same => by cases same),
            fun _ same => by cases same⟩
          · exact (digits.text_numeral negative).symm
          · exact (digits.number_numeral negative).symm
      | infinite negative => cases finite
      | notANumber negative signalling payload => cases finite

theorem written_of_not_finite {content : Scalar} (infinite : content.finite? = some false) :
    content.written = .error (.binding (.notFinite content)) := by
  cases content with
  | text content => cases infinite
  | flag value => cases infinite
  | integer number => cases infinite
  | double number =>
      have notFinite : number.isFinite = false := Option.some.inj infinite
      rw [Scalar.written, Double.written, Double.plain_of_not_finite notFinite]
      rfl
  | decimal number =>
      cases number with
      | finite negative digits => cases infinite
      | infinite negative => rfl
      | notANumber negative signalling payload => rfl

/-- Every finite number is written exactly, as a plain numeral with the sign of the number,
and a number that is not finite is refused. -/
theorem written_exactly (content : Scalar) :
    (content.finite? = some true → ∃ numeral, content.WrittenAs numeral) ∧
      (content.finite? = some false →
        content.written = .error (.binding (.notFinite content))) :=
  ⟨exists_writtenAs, written_of_not_finite⟩

/-- Finite numbers beside their written forms. -/
def writtenSamples : List (Scalar × String) :=
  [(.double (Double.nearestDecimal false 1 2), "100"),
    (.double (Double.nearestDecimal false 1 16), "10000000000000000"),
    (.double (Double.nearestDecimal false 1 (-7)), "0.0000001"),
    (.double (Double.nearestDecimal true 4321 (-2)), "-43.21"),
    (.double (Double.zero true), "-0"),
    (.decimal (.finite false ⟨1050, -2⟩), "10.50"),
    (.decimal (.finite true ⟨1, 3⟩), "-1000"),
    (.integer (-7), "-7")]

/-- Doubles that are displayed with a zero after the point or with an exponent, a double with
a fraction, a zero with a sign, and decimals are written exactly, and a NaN is refused. -/
theorem written_exactly_samples :
    (∀ sample ∈ writtenSamples, ∃ numeral, sample.1.WrittenAs numeral ∧
      numeral.text = Text.ofString sample.2) ∧
      (Scalar.double Double.notANumber).written =
        .error (.binding (.notFinite (.double Double.notANumber))) := by
  refine ⟨?_, (written_exactly (.double Double.notANumber)).2 rfl⟩
  have checked : ∀ sample ∈ writtenSamples, sample.1.finite? = some true ∧
      sample.1.written = .ok (Text.ofString sample.2) := by
    simp only [writtenSamples, List.forall_mem_cons]
    exact ⟨⟨rfl, rfl⟩, ⟨rfl, rfl⟩, ⟨rfl, rfl⟩, ⟨rfl, rfl⟩, ⟨rfl, rfl⟩, ⟨rfl, rfl⟩, ⟨rfl, rfl⟩,
      ⟨rfl, rfl⟩, List.forall_mem_nil _⟩
  intro sample member
  obtain ⟨finite, written⟩ := checked sample member
  obtain ⟨numeral, writtenAs⟩ := (written_exactly sample.1).1 finite
  exact ⟨numeral, writtenAs, Except.ok.inj (writtenAs.written.symm.trans written)⟩

end Scalar

end BoundQuery
