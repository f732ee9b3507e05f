import BoundQuery.Proofs.IdentifierReading
import BoundQuery.Proofs.WholeDoubles
import BoundQuery.Proofs.WrittenNumbers

/-!
# Numbers that are integers

One integer may be bound as an integer, as a double, and as any of the decimals of its
value, with or without zeros at the end of the coefficient. All of them are written in
positional form with the digits of the integer. What may follow the digits are the zeros
that a decimal with a negative exponent keeps after its point; a double never keeps any,
since the zero that its displayed form has after the point is dropped.

The main statement says so for every finite number whose value is an integer, and that the
number is bound as the integer itself exactly when it keeps no zeros.
-/

namespace BoundQuery

/-! ## Values of numbers -/

namespace SignedNumber

/-- The value of a number, which is the same for the two zeros. -/
def value (number : SignedNumber) : ℚ :=
  if number.negative then -number.magnitude else number.magnitude

variable {number : SignedNumber} {integer : Int}

theorem magnitude_eq_natAbs
    (nonneg : 0 ≤ number.magnitude) (integral : number.value = integer) :
    number.magnitude = integer.natAbs := by
  have absolute : |number.value| = number.magnitude := by
    unfold value
    split
    · rw [abs_neg, abs_of_nonneg nonneg]
    · exact abs_of_nonneg nonneg
  rw [← absolute, integral, Nat.cast_natAbs, Int.cast_abs]

/-- Apart from zero, the sign of a number is the sign of its value. -/
theorem negative_eq
    (nonneg : 0 ≤ number.magnitude) (integral : number.value = integer)
    (nonzero : integer ≠ 0) : number.negative = decide (integer < 0) := by
  unfold value at integral
  cases sign : number.negative with
  | true =>
      rw [sign, if_pos rfl] at integral
      have below : (integer : ℚ) ≤ 0 := by
        rw [← integral]
        exact neg_nonpos_of_nonneg nonneg
      have down : integer ≤ 0 := by exact_mod_cast below
      exact (decide_eq_true (by omega)).symm
  | false =>
      rw [sign, if_neg Bool.false_ne_true] at integral
      have above : (0 : ℚ) ≤ integer := integral ▸ nonneg
      have up : 0 ≤ integer := by exact_mod_cast above
      exact (decide_eq_false (by omega)).symm

end SignedNumber

/-! ## Written forms of integers -/

namespace Scalar

/-- The number of zeros that stay after the point when the value of a number is an
integer. Only a decimal with a negative exponent keeps any. -/
def keptPlaces : Scalar → Nat
  | decimal (.finite _ digits) => (-digits.exponent).toNat
  | _ => 0

/-- Every finite number is written as the positional form of a decimal of its value. -/
theorem exists_positional {content : Scalar} (finite : content.finite? = some true) :
    ∃ (negative : Bool) (digits : ScaledDecimal),
      content.written = .ok (Numeral.signed negative digits.positional) ∧
      content.number? = some ⟨negative, digits.value⟩ ∧
        ∀ whole : Nat, digits.value = whole →
          content.keptPlaces = (-digits.exponent).toNat := by
  cases content with
  | text content => cases finite
  | flag value => cases finite
  | integer number =>
      have value : (⟨number.natAbs, 0⟩ : ScaledDecimal).value = number.natAbs := by
        rw [ScaledDecimal.value, zpow_zero, mul_one]
      have positional : (⟨number.natAbs, 0⟩ : ScaledDecimal).positional =
          Numeral.natural number.natAbs :=
        (ScaledDecimal.positional_of_whole value).trans (List.append_nil _)
      refine ⟨decide (number < 0), ⟨number.natAbs, 0⟩, ?_, ?_, fun _ _ => rfl⟩
      · rw [positional]
        rfl
      · rw [value]
        rfl
  | double number =>
      have isFinite : number.isFinite = true := Option.some.inj finite
      refine ⟨number.negative, number.shortest, Double.written_eq_shortest isFinite,
        Double.number?_display isFinite, ?_⟩
      intro whole integral
      have upward := ScaledDecimal.exponent_nonneg_of_whole number.shortest_ends integral
      show 0 = (-number.shortest.exponent).toNat
      omega
  | decimal number =>
      cases number with
      | finite negative digits => exact ⟨negative, digits, rfl, rfl, fun _ _ => rfl⟩
      | infinite negative => cases finite
      | notANumber negative signalling payload => cases finite

/-- A finite number that is an integer is written with the digits of the integer and the
zeros that it keeps. -/
theorem written_of_whole
    {content : Scalar} {negative : Bool} {whole : Nat} (finite : content.finite? = some true)
    (denotes : content.number? = some ⟨negative, whole⟩) :
    content.written = .ok (Numeral.signed negative
      (Numeral.natural whole ++ zeroFraction content.keptPlaces)) := by
  obtain ⟨sign, digits, written, same, kept⟩ := exists_positional finite
  rw [denotes] at same
  obtain ⟨rfl, integral⟩ := SignedNumber.mk.inj (Option.some.inj same)
  rw [written, ScaledDecimal.positional_of_whole integral.symm, kept whole integral.symm]

theorem magnitude_nonneg
    {content : Scalar} {number : SignedNumber} (finite : content.finite? = some true)
    (denotes : content.number? = some number) : 0 ≤ number.magnitude := by
  obtain ⟨sign, digits, _, same, _⟩ := exists_positional finite
  rw [denotes] at same
  cases same
  exact digits.value_nonneg

end Scalar

/-! ## Integers in markers -/

/-- The markers that take a scalar in its written form. -/
def Placeholder.TakesWritten (placeholder : Placeholder) : Prop :=
  placeholder = .string ∨ placeholder = .identifier ∨ placeholder = .part

namespace Scalar

/-- A scalar is bound as a text when a literal hands this text to the escaper, an
identifier has it between backticks, and a part is the text as it stands. -/
structure BindsAs (content : Scalar) (text : Text) : Prop where
  literal : ∀ escaper, Binding.parameter escaper .string (.scalar content) = do
    let escaped ← Binding.escape escaper text
    return singleQuote :: escaped ++ [singleQuote]
  identifier : ∀ escaper, Binding.parameter escaper .identifier (.scalar content) =
    pure (backtick :: text ++ [backtick])
  part : ∀ escaper, Binding.parameter escaper .part (.scalar content) = pure text

section Bound

variable {content other : Scalar} {text otherText : Text}

/-- Two scalars are bound alike by a marker exactly when their texts are the same. A literal
gives its text away by handing it to the escaper. -/
theorem BindsAs.parameter_eq_iff
    (binds : content.BindsAs text) (otherwise : other.BindsAs otherText) (escaper : Escaper)
    {placeholder : Placeholder} (taken : placeholder.TakesWritten) :
    Binding.parameter escaper placeholder (.scalar content) =
        Binding.parameter escaper placeholder (.scalar other) ↔ text = otherText := by
  -- The two actions are compared by what they give, or hand over, from an empty state on.
  rcases taken with rfl | rfl | rfl
  · rw [binds.literal, otherwise.literal]
    constructor
    · intro same
      have seen := congrArg (fun bound => (Binding.outcome bound ⟨[], []⟩).2.escaped) same
      rw [Binding.outcome_bind_pure, Binding.outcome_bind_pure, Binding.outcome_escape,
        Binding.outcome_escape] at seen
      exact (List.cons.inj seen).1
    · rintro rfl
      rfl
  · rw [binds.identifier, otherwise.identifier]
    constructor
    · intro same
      have seen := congrArg (fun bound => (Binding.outcome bound ⟨[], []⟩).1) same
      exact List.append_cancel_right (List.cons.inj (Except.ok.inj seen)).2
    · rintro rfl
      rfl
  · rw [binds.part, otherwise.part]
    constructor
    · intro same
      have seen := congrArg (fun bound => (Binding.outcome bound ⟨[], []⟩).1) same
      exact Except.ok.inj seen
    · rintro rfl
      rfl

theorem bindsAs_of_plain
    (written : content.written = .ok text) (nonempty : text ≠ [])
    (plain : ∀ point ∈ text, point.isIdentifierPoint = true ∧ point ≠ backtick) :
    content.BindsAs text where
  literal := by
    intro escaper
    show (Binding.ofExcept content.written >>= fun text => _) = _
    rw [written]
    rfl
  identifier := by
    intro escaper
    have valid : text.all CodePoint.isIdentifierPoint = true :=
      List.all_eq_true.mpr fun point member => (plain point member).1
    have single : backtick ∉ text := fun member => (plain backtick member).2 rfl
    have formed : (Value.scalar content).identifierForm =
        .ok (backtick :: text ++ [backtick]) := by
      rw [identifierForm_of_written written, identifierForm_text text nonempty valid,
        quoteIdentifier, Text.substitute_eq_self _ _ _ single]
    show Binding.ofExcept (Value.scalar content).identifierForm = _
    rw [formed]
    rfl
  part := by
    intro escaper
    show Binding.ofExcept content.written = _
    rw [written]
    rfl

/-- A numeral has no code point that an identifier refuses or doubles. -/
theorem plain_of_mem_numeral (numeral : PlainNumeral) :
    ∀ point ∈ numeral.text, point.isIdentifierPoint = true ∧ point ≠ backtick := by
  have ofDigit : ∀ point : CodePoint, point.isDigit = true →
      point.isIdentifierPoint = true ∧ point ≠ backtick := by
    intro point digit
    have range := point.value_of_isDigit digit
    refine ⟨(isIdentifierPoint_iff point).mpr ⟨by omega, by omega, by omega⟩, ?_⟩
    exact ne_of_isDigit digit rfl
  have magnitude : ∀ point ∈ numeral.magnitude,
      point.isIdentifierPoint = true ∧ point ≠ backtick := by
    have fractionDigits := numeral.fractionDigits
    refine List.forall_mem_append.mpr
      ⟨fun point member => ofDigit point (numeral.wholeDigits point member), ?_⟩
    cases present : numeral.fraction? with
    | none => exact fun _ member => absurd member List.not_mem_nil
    | some fraction =>
        rw [present] at fractionDigits
        exact List.forall_mem_cons.mpr
          ⟨by decide, fun point member => ofDigit point (fractionDigits point member)⟩
  rw [PlainNumeral.text]
  cases numeral.negative with
  | false => exact magnitude
  | true => exact List.forall_mem_cons.mpr ⟨by decide, magnitude⟩

theorem bindsAs_of_finite
    (finite : content.finite? = some true) (written : content.written = .ok text) :
    content.BindsAs text := by
  obtain ⟨numeral, writtenAs⟩ := exists_writtenAs finite
  obtain rfl : numeral.text = text := Except.ok.inj (writtenAs.written.symm.trans written)
  obtain ⟨first, rest, begins, _⟩ := numeral.exists_magnitude_eq_cons
  have nonempty : numeral.text ≠ [] := by
    rw [PlainNumeral.text, begins]
    cases numeral.negative with
    | false => exact List.cons_ne_nil first rest
    | true => exact List.cons_ne_nil _ _
  exact bindsAs_of_plain written nonempty (plain_of_mem_numeral numeral)

end Bound

/-- A double that is an integer is an integer in its displayed form too, the same one below
`2 ^ 53`, and is written with the digits of this integer and nothing else. Every finite
number that is an integer is written with the digits of the integer, and then with the
zeros that a decimal keeps. Apart from the zeros with a sign, it is bound by its text to
the markers that take it, and as the integer itself exactly when it keeps no zeros. -/
theorem integers_written_alike :
    (∀ double : Double, double.isIntegral = true →
      ∃ whole : Nat, (Scalar.double double).number? = some ⟨double.negative, whole⟩ ∧
        (Scalar.double double).written =
          .ok (Numeral.signed double.negative (Numeral.natural whole)) ∧
        (double.magnitude < 2 ^ 53 → double.magnitude = whole)) ∧
      ∀ (content : Scalar) (number : SignedNumber) (integer : Int),
        content.finite? = some true → content.number? = some number →
          number.value = integer →
            content.written = .ok (Numeral.signed number.negative
              (Numeral.natural integer.natAbs ++ zeroFraction content.keptPlaces)) ∧
            (integer ≠ 0 →
              content.BindsAs (Numeral.integer integer ++ zeroFraction content.keptPlaces) ∧
              ∀ escaper (placeholder : Placeholder), placeholder.TakesWritten →
                (Binding.parameter escaper placeholder (.scalar content) =
                    Binding.parameter escaper placeholder (.integer integer) ↔
                  content.keptPlaces = 0)) := by
  constructor
  · intro double integral
    obtain ⟨finite, integer, same⟩ := Double.exists_whole_of_isIntegral integral
    obtain ⟨whole, shortest, agrees⟩ := Double.exists_whole_shortest same
    have denotes : (Scalar.double double).number? = some ⟨double.negative, whole⟩ :=
      shortest ▸ Double.number?_display finite
    have isFinite : (Scalar.double double).finite? = some true := congrArg some finite
    have written := written_of_whole isFinite denotes
    have bare : Numeral.natural whole ++ zeroFraction (Scalar.double double).keptPlaces =
        Numeral.natural whole := List.append_nil _
    rw [bare] at written
    exact ⟨whole, denotes, written, agrees⟩
  · intro content number integer finite denotes integral
    have nonneg := magnitude_nonneg finite denotes
    have magnitude := SignedNumber.magnitude_eq_natAbs nonneg integral
    have split : number = ⟨number.negative, integer.natAbs⟩ := by rw [← magnitude]
    have written := written_of_whole finite (denotes.trans (congrArg some split))
    refine ⟨written, fun nonzero => ?_⟩
    have text : Numeral.signed number.negative
          (Numeral.natural integer.natAbs ++ zeroFraction content.keptPlaces) =
        Numeral.integer integer ++ zeroFraction content.keptPlaces := by
      rw [SignedNumber.negative_eq nonneg integral nonzero, Numeral.signed_append]
      rfl
    rw [text] at written
    have binds := bindsAs_of_finite finite written
    have itself : (Scalar.integer integer).BindsAs (Numeral.integer integer) :=
      bindsAs_of_finite rfl rfl
    refine ⟨binds, fun escaper placeholder taken => ?_⟩
    have alike := binds.parameter_eq_iff itself escaper taken
    rwa [List.append_right_eq_self, zeroFraction_eq_nil_iff] at alike

/-- The double `5000.0` is written as the integer is, the decimal `5E+3` is bound as the
integer is, and the decimal `-5000.00` keeps its two zeros. -/
theorem integers_written_alike_five_thousand :
    (Scalar.double (Double.nearestDecimal false 5 3)).written = .ok (Text.ofString "5000") ∧
      (∀ escaper (placeholder : Placeholder), placeholder.TakesWritten →
        Binding.parameter escaper placeholder
            (.scalar (.decimal (.finite false ⟨5, 3⟩))) =
          Binding.parameter escaper placeholder (.integer 5000)) ∧
      (Scalar.decimal (.finite true ⟨500000, -2⟩)).BindsAs (Text.ofString "-5000.00") := by
  refine ⟨?_, ?_, ?_⟩
  · obtain ⟨whole, _, written, agrees⟩ :=
      integers_written_alike.1 (Double.nearestDecimal false 5 3) rfl
    have magnitude : (Double.nearestDecimal false 5 3).magnitude = (5000 : Nat) :=
      Double.magnitude_eq_whole rfl
    rw [magnitude] at agrees
    obtain rfl : 5000 = whole := Nat.cast_injective (agrees (by norm_num))
    exact written
  · have integral : SignedNumber.value ⟨false, (⟨5, 3⟩ : ScaledDecimal).value⟩ =
        (5000 : Int) := by
      norm_num [SignedNumber.value, ScaledDecimal.value]
    obtain ⟨_, bound⟩ := integers_written_alike.2 (.decimal (.finite false ⟨5, 3⟩))
      ⟨false, (⟨5, 3⟩ : ScaledDecimal).value⟩ 5000 rfl rfl integral
    intro escaper placeholder taken
    exact ((bound (by decide)).2 escaper placeholder taken).mpr rfl
  · have integral : SignedNumber.value ⟨true, (⟨500000, -2⟩ : ScaledDecimal).value⟩ =
        (-5000 : Int) := by
      norm_num [SignedNumber.value, ScaledDecimal.value]
    obtain ⟨_, bound⟩ := integers_written_alike.2 (.decimal (.finite true ⟨500000, -2⟩))
      ⟨true, (⟨500000, -2⟩ : ScaledDecimal).value⟩ (-5000) rfl rfl integral
    exact (bound (by decide)).1

/-- A decimal of the value 5000, made with one digit after the point. -/
def fiveThousandPointZero : Scalar :=
  .decimal (.finite false ⟨50000, -1⟩)

/-- The decimal `5000.0` is an integer, yet it is written with a point, and no marker binds
it as the integer. -/
theorem decimal_keeps_zero_fraction :
    fiveThousandPointZero.finite? = some true ∧
      (∃ number, fiveThousandPointZero.number? = some number ∧
        number.value = (5000 : Int)) ∧
      fiveThousandPointZero.written = .ok (Text.ofString "5000.0") ∧
      (Scalar.integer 5000).written = .ok (Text.ofString "5000") ∧
      ∀ escaper (placeholder : Placeholder), placeholder.TakesWritten →
        Binding.parameter escaper placeholder (.scalar fiveThousandPointZero) ≠
          Binding.parameter escaper placeholder (.integer 5000) := by
  have written : fiveThousandPointZero.written = .ok (Text.ofString "5000.0") := rfl
  have integer : (Scalar.integer 5000).written = .ok (Text.ofString "5000") := rfl
  have integral : SignedNumber.value ⟨false, (⟨50000, -1⟩ : ScaledDecimal).value⟩ =
      (5000 : Int) := by
    norm_num [SignedNumber.value, ScaledDecimal.value]
  refine ⟨rfl, ⟨_, rfl, integral⟩, written, integer, ?_⟩
  intro escaper placeholder taken same
  have binds : fiveThousandPointZero.BindsAs (Text.ofString "5000.0") :=
    bindsAs_of_finite rfl written
  have texts := (binds.parameter_eq_iff (bindsAs_of_finite rfl integer) escaper taken).mp same
  exact absurd texts (by decide)

end Scalar

end BoundQuery
