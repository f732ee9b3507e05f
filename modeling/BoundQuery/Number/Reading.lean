import BoundQuery.Number.Decimal
import BoundQuery.Text.Blank

/-!
# Reading real and decimal numbers

Both readers share one grammar of digits: an optional sign, digits with an optional
point among them, and an optional exponent. The words for infinity and not-a-number
are read in any case of letters.

A real number is read to the nearest double. Low lines between groups have no meaning
and are joined first, after which blanks at the ends are ignored. A decimal number
keeps every digit it is written with.

The statement at the end says that a real number without low lines is read as it
stands.
-/

namespace BoundQuery

/-! ## Scaled numerals -/

/-- The digits of a part of a numeral that may be missing. -/
def optionalDigits? (text : Text) : Option (List Nat) :=
  if text.isEmpty then some [] else Numeral.digitValues? text

/-- The exponent after the mark of a scientific numeral. -/
def readExponent? : Option Text → Option Int
  | none => some 0
  | some text =>
      let (negative, magnitude) := Numeral.splitSign text
      (Numeral.digitValues? magnitude).map fun digits =>
        Numeral.withSign negative (Numeral.ofDigitValues digits)

/-- The coefficient and the exponent of an unsigned numeral with an optional
fraction and an optional exponent. At least one digit stands before or after the
point. -/
def readScaled? (text : Text) : Option ScaledDecimal :=
  let (mantissa, power) := Text.splitFirst (CodePoint.scalar 'e') text
  let (whole, fraction) := Text.splitFirst (CodePoint.scalar '.') mantissa
  let decimals := fraction.getD []
  if whole.isEmpty && decimals.isEmpty then none
  else
    match optionalDigits? whole, optionalDigits? decimals, readExponent? power with
    | some wholeDigits, some fractionDigits, some exponent =>
        some ⟨Numeral.ofDigitValues (wholeDigits ++ fractionDigits),
          exponent - fractionDigits.length⟩
    | _, _, _ => none

/-! ## Real numbers -/

/-- The double nearest to the real number that a text without low lines denotes. -/
def readUngrouped? (text : Text) : Option Double :=
  let (negative, magnitude) := Numeral.splitSign (Text.lowerAscii (Text.trim text))
  if magnitude = Text.ofString "inf" ∨ magnitude = Text.ofString "infinity" then
    some (Double.infinite negative)
  else if magnitude = Text.ofString "nan" then
    some Double.notANumber
  else
    (readScaled? magnitude).map fun decimal =>
      Double.nearestDecimal negative decimal.coefficient decimal.exponent

/-- The double nearest to the real number that a text denotes. Blanks at the ends of
the text count as part of its first and last group. -/
def readDouble? (text : Text) : Option Double :=
  (Numeral.joinGroups? text).bind readUngrouped?

/-! ## Decimal numbers -/

/-- The number that a NaN carries, which is zero when no digits follow its name. -/
def readPayload? (text : Text) : Option Nat :=
  (optionalDigits? text).map Numeral.ofDigitValues

def dropBeginning? (beginning text : Text) : Option Text :=
  if beginning.isPrefixOf text then some (text.drop beginning.length) else none

/-- The decimal number that a text denotes, with every digit kept. Low lines between
the digits have no meaning. -/
def readDecimal? (text : Text) : Option Decimal :=
  let (negative, magnitude) :=
    Numeral.splitSign (Text.lowerAscii (Numeral.dropLowLines (Text.trim text)))
  if magnitude = Text.ofString "inf" ∨ magnitude = Text.ofString "infinity" then
    some (.infinite negative)
  else
    match dropBeginning? (Text.ofString "nan") magnitude,
        dropBeginning? (Text.ofString "snan") magnitude with
    | some payload, _ => (readPayload? payload).map (.notANumber negative false)
    | none, some payload => (readPayload? payload).map (.notANumber negative true)
    | none, none =>
        (readScaled? magnitude).map (.finite negative)

/-- The decimal that the displayed form of a finite double denotes. -/
def Double.decimal? (double : Double) : Option Decimal :=
  if double.isFinite then readDecimal? double.display else none

/-! ## Facts on readers -/

/-- A real number without low lines is read as it stands. -/
theorem readDouble?_eq_readUngrouped? (text : Text)
    (absent : CodePoint.scalar '_' ∉ text) : readDouble? text = readUngrouped? text := by
  simp [readDouble?, Numeral.joinGroups?_eq_self text absent]

end BoundQuery
