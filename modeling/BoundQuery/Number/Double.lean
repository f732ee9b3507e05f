import BoundQuery.Number.Power
import BoundQuery.Text.Numeral

/-!
# Double-precision numbers

A double is kept in the binary interchange format: a sign, a biased exponent of
eleven bits and a fraction of fifty-two bits. Every combination of the three fields
is a double and nothing else is, so no invariant has to be carried along. All
arithmetic on doubles is exact arithmetic on natural numbers followed by one
rounding to the nearest double, where a tie goes to the even significand.

The main statements say that rounding a quotient is off by at most half a unit, and
that the double nearest to a positive quotient has the sign it was asked for.
-/

namespace BoundQuery

/-! ## The interchange format -/

/-- A double is a sign, a biased exponent and a fraction. -/
structure Double where
  negative : Bool
  biased : Fin 2048
  fraction : Fin 4503599627370496
  deriving DecidableEq

namespace Double

/-- Whether a double is a number and not an infinity. -/
def isFinite (double : Double) : Bool :=
  decide (double.biased.val < 2047)

def isNotANumber (double : Double) : Bool :=
  double.biased.val == 2047 && double.fraction.val != 0

def isInfinite (double : Double) : Bool :=
  double.biased.val == 2047 && double.fraction.val == 0

/-- The integral significand of a finite double: its fraction, with the hidden bit
of a normal number. -/
def significand (double : Double) : Nat :=
  if double.biased.val = 0 then double.fraction.val
  else twoTo 52 + double.fraction.val

/-- The exponent of two by which the significand of a finite double is scaled. -/
def exponent (double : Double) : Int :=
  (max double.biased.val 1 : Nat) - 1075

def isZero (double : Double) : Bool :=
  double.isFinite && double.significand == 0

def isPositive (double : Double) : Bool :=
  !double.negative && !double.isNotANumber && !double.isZero

def zero (negative : Bool) : Double :=
  ⟨negative, ⟨0, by decide⟩, ⟨0, by decide⟩⟩

def infinite (negative : Bool) : Double :=
  ⟨negative, ⟨2047, by decide⟩, ⟨0, by decide⟩⟩

def notANumber : Double :=
  ⟨false, ⟨2047, by decide⟩, ⟨2251799813685248, by decide⟩⟩

/-- The numerator of the magnitude of a finite double. -/
def numerator (double : Double) : Nat :=
  double.significand * twoTo double.exponent.toNat

/-- The denominator of the magnitude of a finite double, a power of two. -/
def denominator (double : Double) : Nat :=
  twoTo (-double.exponent).toNat

/-! ## Rounding -/

/-- The integer nearest to a quotient, the even one of two that are equally near. -/
def roundedQuotient (dividend divisor : Nat) : Nat :=
  let quotient := dividend / divisor
  let twice := 2 * (dividend % divisor)
  if divisor < twice ∨ (twice = divisor ∧ quotient % 2 = 1) then quotient + 1
  else quotient

/-- The double whose exponent and fraction fields, read as one number, are the given
number. Numbers past the largest finite double give the infinity. -/
def ofFields (negative : Bool) (fields : Nat) : Double :=
  if fields < 2047 * twoTo 52 then
    ⟨negative, ⟨fields / twoTo 52 % 2048, Nat.mod_lt _ (by decide)⟩,
      ⟨fields % 4503599627370496, Nat.mod_lt _ (by decide)⟩⟩
  else
    infinite negative

/-- The exponent of two at or below a positive quotient and nearest to it. -/
def binaryOrder (dividend divisor : Nat) : Int :=
  let estimate : Int := (dividend.log2 : Int) - divisor.log2
  if dividend * twoTo (-estimate).toNat < divisor * twoTo estimate.toNat then estimate - 1
  else estimate

/-- The exponent of the grid of doubles around a positive quotient: its points are
the multiples of two to that exponent. -/
def gridExponent (dividend divisor : Nat) : Int :=
  max (binaryOrder dividend divisor - 52) (-1074)

/-- The number of grid steps in the double nearest to a positive quotient. -/
def gridSteps (dividend divisor : Nat) : Nat :=
  roundedQuotient
    (dividend * twoTo (-gridExponent dividend divisor).toNat)
    (divisor * twoTo (gridExponent dividend divisor).toNat)

/-- The double nearest to a quotient of natural numbers, with the given sign. -/
def nearest (negative : Bool) (dividend divisor : Nat) : Double :=
  if dividend = 0 then zero negative
  else
    ofFields negative
      ((gridExponent dividend divisor + 1074).toNat * twoTo 52 +
        gridSteps dividend divisor)

/-- The double nearest to a coefficient scaled by a power of ten. Magnitudes outside
the range of finite doubles by a wide margin are settled by the number of digits
alone. -/
def nearestDecimal (negative : Bool) (coefficient : Nat) (exponent : Int) : Double :=
  let order : Int := (Numeral.natural coefficient).length + exponent
  if coefficient = 0 then zero negative
  else if 320 < order then infinite negative
  else if order < -340 then zero negative
  else
    nearest negative (coefficient * tenTo exponent.toNat) (tenTo (-exponent).toNat)

/-! ## Arithmetic -/

/-- The double nearest to a thousand times a double. -/
def timesThousand (double : Double) : Double :=
  if double.isFinite then
    nearest double.negative (double.numerator * 1000) double.denominator
  else
    double

/-- The integer part of a finite double, cut toward zero. -/
def integerPart? (double : Double) : Option Int :=
  if double.isFinite then
    let magnitude : Int := (double.numerator / double.denominator : Nat)
    some (if double.negative then -magnitude else magnitude)
  else
    none

def isIntegral (double : Double) : Bool :=
  double.isFinite && double.numerator % double.denominator == 0

/-! ## Facts on rounding -/

/-- A rounded quotient is at most half a unit away from the exact one. -/
theorem roundedQuotient_near (dividend divisor : Nat) (positive : 0 < divisor) :
    2 * dividend ≤ (2 * roundedQuotient dividend divisor + 1) * divisor ∧
      (2 * roundedQuotient dividend divisor) * divisor ≤ 2 * dividend + divisor := by
  have split := Nat.div_add_mod dividend divisor
  have small := Nat.mod_lt dividend positive
  unfold roundedQuotient
  generalize dividend / divisor = quotient at *
  generalize dividend % divisor = rest at *
  have product : (2 * quotient + 1) * divisor = 2 * (divisor * quotient) + divisor := by
    rw [Nat.add_mul, Nat.mul_assoc, Nat.mul_comm quotient, Nat.one_mul]
  have even : (2 * quotient) * divisor = 2 * (divisor * quotient) := by
    rw [Nat.mul_assoc, Nat.mul_comm quotient]
  have next : (2 * (quotient + 1) + 1) * divisor =
      2 * (divisor * quotient) + 3 * divisor := by
    rw [Nat.mul_add, Nat.add_assoc, Nat.add_mul, even]
  have nextEven : (2 * (quotient + 1)) * divisor =
      2 * (divisor * quotient) + 2 * divisor := by
    rw [Nat.mul_add, Nat.add_mul, even]
  dsimp only
  split
  · constructor <;> omega
  · constructor <;> omega

theorem negative_ofFields (negative : Bool) (fields : Nat) :
    (ofFields negative fields).negative = negative := by
  by_cases finite : fields < 2047 * twoTo 52
  · rw [ofFields, if_pos finite]
  · rw [ofFields, if_neg finite, infinite]

theorem negative_nearest (negative : Bool) (dividend divisor : Nat) :
    (nearest negative dividend divisor).negative = negative := by
  by_cases vanishes : dividend = 0
  · simp only [nearest, vanishes, if_true, zero]
  · simp only [nearest, vanishes, if_false, negative_ofFields]

end Double

end BoundQuery
