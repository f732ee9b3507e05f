import BoundQuery.Number.Shortest

/-!
# Decimal numbers

A decimal number keeps its sign, its coefficient and its exponent, so that `1.50`
and `1.5` are different decimals of one value, and so are the two zeros. Beside the
finite decimals there are the infinities and the quiet and signalling NaNs, which
may carry a number.

Every finite decimal has one positional form, without an exponent and with exactly
the digits it keeps. The scientific form writes the exponent where the positional
one would need zeros beside the point.

The main statements say that the fraction of the positional form has as many digits as
the exponent asks for, and that without a negative exponent there is no fraction.
-/

namespace BoundQuery

/-- A decimal number with its sign, digits and exponent kept. -/
inductive Decimal
  | finite (negative : Bool) (digits : ScaledDecimal)
  | infinite (negative : Bool)
  | notANumber (negative : Bool) (signalling : Bool) (payload : Nat)
  deriving DecidableEq

namespace Decimal

def isFinite : Decimal → Bool
  | finite _ _ => true
  | infinite _ => false
  | notANumber _ _ _ => false

def isZero : Decimal → Bool
  | finite _ digits => digits.coefficient == 0
  | infinite _ => false
  | notANumber _ _ _ => false

end Decimal

/-! ## Positional form -/

namespace ScaledDecimal

def integerDigits (decimal : ScaledDecimal) : Text :=
  let digits := Numeral.natural decimal.coefficient
  if 0 ≤ decimal.exponent then
    if decimal.coefficient = 0 then digits
    else digits ++ Numeral.zeros decimal.exponent.toNat
  else
    let places := (-decimal.exponent).toNat
    let padded := Numeral.padLeft (places + 1) digits
    padded.take (padded.length - places)

/-- The digits after the point in the positional form. -/
def fractionDigits (decimal : ScaledDecimal) : Text :=
  let places := (-decimal.exponent).toNat
  let padded := Numeral.padLeft (places + 1) (Numeral.natural decimal.coefficient)
  if 0 ≤ decimal.exponent then [] else padded.drop (padded.length - places)

/-- The positional form: the integer part, and a point and the fraction when there
is one. -/
def positional (decimal : ScaledDecimal) : Text :=
  match fractionDigits decimal with
  | [] => integerDigits decimal
  | first :: rest => integerDigits decimal ++ CodePoint.scalar '.' :: first :: rest

/-- The coefficient with a point after its first digit and an exponent. -/
def scientific (mark : Text) (writeExponent : Nat → Text) (decimal : ScaledDecimal) : Text :=
  let digits := Numeral.natural decimal.coefficient
  let power : Int := decimal.exponent + digits.length - 1
  let sign : CodePoint := if power < 0 then '-' else '+'
  let leading :=
    match digits with
    | [] => []
    | [only] => [only]
    | first :: rest => first :: CodePoint.scalar '.' :: rest
  leading ++ mark ++ sign :: writeExponent power.natAbs

end ScaledDecimal

namespace Decimal

/-- The positional form of a finite decimal. -/
def positional? : Decimal → Option Text
  | finite negative digits => some (Numeral.signed negative digits.positional)
  | infinite _ => none
  | notANumber _ _ _ => none

/-- The form of a decimal that keeps its exponent: positional while the exponent is
not positive and no more than five zeros follow the point, and scientific otherwise.
-/
def display : Decimal → Text
  | finite negative digits =>
      let length := (Numeral.natural digits.coefficient).length
      let order : Int := digits.exponent + length
      Numeral.signed negative
        (if digits.exponent ≤ 0 ∧ -6 < order then digits.positional
        else digits.scientific ['E'] Numeral.natural)
  | infinite negative => Numeral.signed negative (Text.ofString "Infinity")
  | notANumber negative signalling payload =>
      Numeral.signed negative
        (Text.ofString (if signalling then "sNaN" else "NaN") ++
          (if payload = 0 then [] else Numeral.natural payload))

end Decimal

/-! ## Displayed doubles -/

namespace Double

/-- The shortest text that reads back as a double: positional from `0.0001` up to
sixteen digits before the point, and scientific outside that range. The given text
follows the digits of an integer in positional form. -/
def displayWith (integerEnd : Text) (double : Double) : Text :=
  if double.isNotANumber then Text.ofString "nan"
  else if double.isInfinite then Numeral.signed double.negative (Text.ofString "inf")
  else
    let digits := double.shortest
    let order : Int := digits.exponent + (Numeral.natural digits.coefficient).length
    Numeral.signed double.negative
      (if -4 < order ∧ order ≤ 16 then
        if 0 ≤ digits.exponent then digits.positional ++ integerEnd
        else digits.positional
      else
        digits.scientific ['e'] fun power => Numeral.padLeft 2 (Numeral.natural power))

/-- The form of a double by itself, in which an integer has a fraction of one zero. -/
def display (double : Double) : Text :=
  displayWith (Text.ofString ".0") double

/-- The form of a double as a part of a larger number, in which an integer has no
fraction. -/
def displayShort (double : Double) : Text :=
  displayWith [] double

end Double

/-! ## Facts on the positional form -/

namespace ScaledDecimal

theorem length_fractionDigits (decimal : ScaledDecimal) :
    (fractionDigits decimal).length = (-decimal.exponent).toNat := by
  unfold fractionDigits
  by_cases whole : 0 ≤ decimal.exponent
  · rw [if_pos whole, List.length_nil]
    omega
  · simp only [whole, if_false, List.length_drop, Numeral.padLeft, Numeral.zeros,
      List.length_append, List.length_replicate]
    omega

/-- Without a negative exponent the positional form is an integer numeral. -/
theorem positional_eq_integerDigits (decimal : ScaledDecimal)
    (whole : 0 ≤ decimal.exponent) :
    positional decimal = integerDigits decimal := by
  simp [positional, fractionDigits, whole]

end ScaledDecimal

end BoundQuery
