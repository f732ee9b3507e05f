import BoundQuery.Proofs.PlainNumeral

/-!
# Reading numerals

The reader of decimals takes a plain numeral as one coefficient, scaled by the digits
after the point, and the reader of real numbers takes it as the double nearest to that. A
scientific numeral has a point after its first digit and a power of ten at its end, and is
read as the coefficient that it was written for.

The main statements say so for numerals of both forms and with either sign.
-/

namespace BoundQuery

/-! ## Parts of numerals -/

theorem optionalDigits?_eq_some
    {text : Text} (digits : ∀ point ∈ text, point.isDigit = true) :
    optionalDigits? text = some (text.filterMap CodePoint.digit?) := by
  cases text with
  | nil => rfl
  | cons first rest => exact Numeral.digitValues?_eq_some (List.cons_ne_nil first rest) digits

/-- A code point that a reader of decimals leaves as it is. -/
def IsKept (point : CodePoint) : Prop :=
  point.isBlank = false ∧ point ≠ .scalar '_' ∧ point.lowerAscii = point

theorem isKept_of_isDigit {point : CodePoint} (digit : point.isDigit = true) :
    IsKept point := by
  refine ⟨CodePoint.isBlank_of_isDigit point digit, ?_, ?_⟩
  · rintro rfl
    exact absurd digit (by decide)
  · have range := point.value_of_isDigit digit
    rw [CodePoint.lowerAscii, if_neg (by omega), if_neg (by omega)]

theorem isKept_signed
    (negative : Bool) {text : Text} (kept : ∀ point ∈ text, IsKept point) :
    ∀ point ∈ Numeral.signed negative text, IsKept point := by
  cases negative with
  | false => exact kept
  | true =>
      have minus : IsKept (.scalar '-') := by
        unfold IsKept
        decide
      exact List.forall_mem_cons.mpr ⟨minus, kept⟩

section Kept

variable {text : Text}

theorem lowerAscii_trim_of_kept (kept : ∀ point ∈ text, IsKept point) :
    Text.lowerAscii (Text.trim text) = text := by
  rw [Text.trim_eq_self text fun point member => (kept point member).1]
  exact (List.map_congr_left fun point member => (kept point member).2.2).trans
    (List.map_id text)

theorem lowerAscii_dropLowLines_trim_of_kept (kept : ∀ point ∈ text, IsKept point) :
    Text.lowerAscii (Numeral.dropLowLines (Text.trim text)) = text := by
  have joined : Numeral.dropLowLines text = text :=
    List.filter_eq_self.mpr fun point member => bne_iff_ne.mpr (kept point member).2.1
  have lower := lowerAscii_trim_of_kept kept
  rw [Text.trim_eq_self text fun point member => (kept point member).1] at lower ⊢
  rw [joined, lower]

end Kept

section Beginnings

variable {first : CodePoint} {rest : Text}

theorem ne_of_isDigit
    (digit : first.isDigit = true) {other : CodePoint} (noDigit : other.isDigit = false) :
    first ≠ other := by
  rintro rfl
  rw [noDigit] at digit
  cases digit

theorem splitSign_signed
    (negative : Bool) (rest : Text) (digit : first.isDigit = true) :
    Numeral.splitSign (Numeral.signed negative (first :: rest)) =
      (negative, first :: rest) := by
  cases negative with
  | true => rfl
  | false =>
      have noMinus : first ≠ .scalar '-' := ne_of_isDigit digit rfl
      have noPlus : first ≠ .scalar '+' := ne_of_isDigit digit rfl
      exact (if_neg noMinus).trans (if_neg noPlus)

theorem cons_ne_of_head?
    (digit : first.isDigit = true) {word : Text} {letter : CodePoint}
    (begins : word.head? = some letter) (noDigit : letter.isDigit = false) :
    first :: rest ≠ word := by
  rintro rfl
  exact ne_of_isDigit digit noDigit (Option.some.inj begins)

theorem dropBeginning?_eq_none
    (digit : first.isDigit = true) {letter : CodePoint} (noDigit : letter.isDigit = false)
    (word : Text) : dropBeginning? (letter :: word) (first :: rest) = none := by
  have apart : (letter == first) = false :=
    beq_eq_false_iff_ne.mpr (Ne.symm (ne_of_isDigit digit noDigit))
  rw [dropBeginning?, List.isPrefixOf, apart]
  rfl

end Beginnings

/-! ## Unsigned numerals -/

/-- What both readers need of an unsigned numeral. It begins with a digit, so it is neither an
infinity nor a NaN, they leave all of it as it is, and its digits are a coefficient with an
exponent. -/
structure IsScaled (text : Text) (decimal : ScaledDecimal) : Prop where
  begins : ∃ first rest, text = first :: rest ∧ first.isDigit = true
  kept : ∀ point ∈ text, IsKept point
  scaled : readScaled? text = some decimal

namespace IsScaled

variable {text : Text} {decimal : ScaledDecimal}

theorem readDecimal?_signed (isScaled : IsScaled text decimal) (negative : Bool) :
    readDecimal? (Numeral.signed negative text) = some (.finite negative decimal) := by
  obtain ⟨first, rest, rfl, digit⟩ := isScaled.begins
  have noWord : ¬ (first :: rest = Text.ofString "inf" ∨
      first :: rest = Text.ofString "infinity") :=
    not_or.mpr ⟨cons_ne_of_head? digit rfl rfl, cons_ne_of_head? digit rfl rfl⟩
  have noNaN : dropBeginning? (Text.ofString "nan") (first :: rest) = none :=
    dropBeginning?_eq_none digit rfl _
  have noSignalling : dropBeginning? (Text.ofString "snan") (first :: rest) = none :=
    dropBeginning?_eq_none digit rfl _
  rw [readDecimal?, lowerAscii_dropLowLines_trim_of_kept (isKept_signed negative isScaled.kept),
    splitSign_signed negative rest digit]
  simp only [if_neg noWord, noNaN, noSignalling, isScaled.scaled, Option.map_some]

/-- As a real number it is read as the double nearest to its digits. -/
theorem readDouble?_signed (isScaled : IsScaled text decimal) (negative : Bool) :
    readDouble? (Numeral.signed negative text) =
      some (Double.nearestDecimal negative decimal.coefficient decimal.exponent) := by
  obtain ⟨first, rest, rfl, digit⟩ := isScaled.begins
  have noWord : ¬ (first :: rest = Text.ofString "inf" ∨
      first :: rest = Text.ofString "infinity") :=
    not_or.mpr ⟨cons_ne_of_head? digit rfl rfl, cons_ne_of_head? digit rfl rfl⟩
  have noNaN : first :: rest ≠ Text.ofString "nan" := cons_ne_of_head? digit rfl rfl
  have signedKept := isKept_signed negative isScaled.kept
  have ungrouped : CodePoint.scalar '_' ∉ Numeral.signed negative (first :: rest) :=
    fun member => (signedKept _ member).2.1 rfl
  rw [readDouble?_eq_readUngrouped? _ ungrouped, readUngrouped?,
    lowerAscii_trim_of_kept signedKept, splitSign_signed negative rest digit]
  simp only [if_neg noWord, if_neg noNaN, isScaled.scaled, Option.map_some]

end IsScaled

/-! ## Plain numerals -/

/-- The mark of an exponent with its text, or nothing without an exponent. -/
def marked : Option Text → Text
  | none => []
  | some power => .scalar 'e' :: power

/-- Digits with a point among them are one coefficient, and the exponent counts from the
digits after the point. -/
theorem readScaled?_eq
    {whole : Text} {fraction? : Option Text} (nonempty : whole ≠ [])
    (wholeDigits : ∀ point ∈ whole, point.isDigit = true)
    (fractionDigits : ∀ point ∈ fraction?.getD [], point.isDigit = true)
    (power? : Option Text) :
    readScaled? (whole ++ pointed fraction? ++ marked power?) =
      (readExponent? power?).map fun exponent =>
        ⟨Numeral.amount (whole ++ fraction?.getD []),
          exponent - (fraction?.getD []).length⟩ := by
  have noMark : CodePoint.scalar 'e' ∉ whole ++ pointed fraction? := by
    have absent : CodePoint.scalar 'e' ∉ fraction?.getD [] :=
      Text.not_mem_of_digits fractionDigits rfl
    have absentBefore : CodePoint.scalar 'e' ∉ whole := Text.not_mem_of_digits wholeDigits rfl
    cases fraction? with
    | none => simpa [pointed] using absentBefore
    | some fraction => simpa [pointed] using ⟨absentBefore, absent⟩
  have mantissa : Text.splitFirst (.scalar 'e')
      (whole ++ pointed fraction? ++ marked power?) = (whole ++ pointed fraction?, power?) := by
    cases power? with
    | none =>
        rw [marked, List.append_nil]
        exact Text.splitFirst_eq_self _ _ noMark
    | some power => exact Text.splitFirst_append _ power noMark
  have parts := splitFirst_pointed wholeDigits fraction?
  have begun : (whole.isEmpty && (fraction?.getD []).isEmpty) = false := by
    rw [List.isEmpty_eq_false_iff.mpr nonempty, Bool.false_and]
  have length := Numeral.length_filterMap_digit? fractionDigits
  unfold readScaled?
  simp only [mantissa, parts, begun, Bool.false_eq_true, if_false,
    optionalDigits?_eq_some wholeDigits, optionalDigits?_eq_some fractionDigits]
  cases readExponent? power? with
  | none => rfl
  | some exponent =>
      rw [Option.map_some, Numeral.amount, List.filterMap_append, ← length]

theorem isKept_digits
    {text : Text} (digits : ∀ point ∈ text, point.isDigit = true) :
    ∀ point ∈ text, IsKept point :=
  fun point member => isKept_of_isDigit (digits point member)

theorem isKept_pointed
    {fraction? : Option Text} (digits : ∀ point ∈ fraction?.getD [], point.isDigit = true) :
    ∀ point ∈ pointed fraction?, IsKept point := by
  cases fraction? with
  | none => exact fun _ member => absurd member List.not_mem_nil
  | some fraction =>
      have dot : IsKept (.scalar '.') := by
        unfold IsKept
        decide
      exact List.forall_mem_cons.mpr ⟨dot, isKept_digits digits⟩

namespace PlainNumeral

theorem isScaled_magnitude (numeral : PlainNumeral) :
    IsScaled numeral.magnitude numeral.digits where
  begins := numeral.exists_magnitude_eq_cons
  kept := List.forall_mem_append.mpr
    ⟨isKept_digits numeral.wholeDigits, isKept_pointed numeral.fractionDigits⟩
  scaled := by
    have scaled := readScaled?_eq numeral.nonempty numeral.wholeDigits
      numeral.fractionDigits none
    rw [marked, List.append_nil, ← magnitude] at scaled
    rw [scaled, digits, readExponent?, Option.map_some, Int.zero_sub]

/-- A plain numeral is read as the decimal of its digits. -/
theorem readDecimal?_text (numeral : PlainNumeral) :
    readDecimal? numeral.text = some (.finite numeral.negative numeral.digits) :=
  numeral.isScaled_magnitude.readDecimal?_signed numeral.negative

theorem readDouble?_text (numeral : PlainNumeral) :
    readDouble? numeral.text = some (Double.nearestDecimal numeral.negative
      numeral.digits.coefficient numeral.digits.exponent) :=
  numeral.isScaled_magnitude.readDouble?_signed numeral.negative

theorem number?_text (numeral : PlainNumeral) :
    Text.number? numeral.text = some numeral.number := by
  rw [Text.number?, readDecimal?_text]
  rfl

end PlainNumeral

/-! ## Scientific numerals -/

/-- The exponent of a scientific numeral, as a sign and at least two digits. -/
def exponentText (power : Int) : Text :=
  (if power < 0 then .scalar '-' else .scalar '+') ::
    Numeral.padLeft 2 (Numeral.natural power.natAbs)

theorem readExponent?_exponentText (power : Int) :
    readExponent? (some (exponentText power)) = some power := by
  have digits := Numeral.isDigit_of_mem_padLeft 2 power.natAbs
  have nonempty : Numeral.padLeft 2 (Numeral.natural power.natAbs) ≠ [] :=
    List.append_ne_nil_of_right_ne_nil _ (Numeral.natural_ne_nil _)
  have split : Numeral.splitSign (exponentText power) =
      (decide (power < 0), Numeral.padLeft 2 (Numeral.natural power.natAbs)) := by
    by_cases negative : power < 0
    · rw [exponentText, if_pos negative, decide_eq_true negative]
      rfl
    · rw [exponentText, if_neg negative, decide_eq_false negative]
      rfl
  have amount : Numeral.amount (Numeral.padLeft 2 (Numeral.natural power.natAbs)) =
      power.natAbs := by
    rw [Numeral.padLeft, Numeral.amount_zeros_append _ (Numeral.isDigit_of_mem_natural _),
      Numeral.amount_natural]
  rw [Numeral.amount] at amount
  simp only [readExponent?, split, Numeral.digitValues?_eq_some nonempty digits,
    Option.map_some, amount, Numeral.withSign_natAbs]

theorem isKept_exponentText (power : Int) : ∀ point ∈ exponentText power, IsKept point := by
  have signs : IsKept (.scalar '-') ∧ IsKept (.scalar '+') := by
    unfold IsKept
    decide
  refine List.forall_mem_cons.mpr ⟨?_, isKept_digits (Numeral.isDigit_of_mem_padLeft 2 _)⟩
  split
  · exact signs.1
  · exact signs.2

namespace ScaledDecimal

/-- The digits of the coefficient with a point after the first one, and an exponent. -/
theorem exists_scientific_eq (decimal : ScaledDecimal) :
    ∃ (first : CodePoint) (fraction? : Option Text),
      Numeral.natural decimal.coefficient = first :: fraction?.getD [] ∧
        decimal.scientific ['e'] (fun power => Numeral.padLeft 2 (Numeral.natural power)) =
          [first] ++ pointed fraction? ++ marked (some (exponentText
            (decimal.exponent + (Numeral.natural decimal.coefficient).length - 1))) := by
  unfold scientific exponentText
  cases digits : Numeral.natural decimal.coefficient with
  | nil => exact absurd digits (Numeral.natural_ne_nil _)
  | cons first rest =>
      cases rest with
      | nil => exact ⟨first, none, rfl, rfl⟩
      | cons second rest =>
          refine ⟨first, some (second :: rest), rfl, ?_⟩
          simp [pointed, marked]

/-- The digits of a scientific numeral with its exponent are the decimal that it was written
for. -/
theorem isScaled_scientific (decimal : ScaledDecimal) :
    IsScaled (decimal.scientific ['e'] fun power => Numeral.padLeft 2 (Numeral.natural power))
      decimal := by
  obtain ⟨first, fraction?, coefficient, same⟩ := decimal.exists_scientific_eq
  have digits := Numeral.isDigit_of_mem_natural decimal.coefficient
  have amount : Numeral.amount ([first] ++ fraction?.getD []) = decimal.coefficient := by
    rw [List.singleton_append, ← coefficient, Numeral.amount_natural]
  rw [coefficient] at digits
  obtain ⟨digit, fractionDigits⟩ := List.forall_mem_cons.mp digits
  generalize counted :
    decimal.exponent + (Numeral.natural decimal.coefficient).length - 1 = power at same
  rw [coefficient, List.length_cons] at counted
  have single : ∀ point ∈ [first], point.isDigit = true := List.forall_mem_singleton.mpr digit
  have mark : IsKept (.scalar 'e') := by
    unfold IsKept
    decide
  have exponent : power - ((fraction?.getD []).length : Int) = decimal.exponent := by omega
  rw [same]
  constructor
  · exact ⟨first, _, rfl, digit⟩
  · exact List.forall_mem_append.mpr
      ⟨List.forall_mem_append.mpr ⟨isKept_digits single, isKept_pointed fractionDigits⟩,
        List.forall_mem_cons.mpr ⟨mark, isKept_exponentText power⟩⟩
  · rw [readScaled?_eq (List.cons_ne_nil first []) single fractionDigits,
      readExponent?_exponentText, Option.map_some, amount, exponent]

end ScaledDecimal

end BoundQuery
