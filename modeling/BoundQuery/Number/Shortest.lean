import BoundQuery.Number.Double

/-!
# The shortest decimal of a double

Every double stands in an interval of real numbers that round to it. Among the
decimals in that interval the shortest one has the fewest digits; of several with as
few digits it is the one nearest to the double, and of two that are equally near the
even one. Seventeen digits always suffice.

On the grid of decimals with a given number of digits the double lies between two
neighbours, and when any point of the grid falls into the interval so does one of
these two. The search therefore looks at two candidates for each number of digits
and stops at the first grid that has a hit.

The main statement says that the decimal found does not end in a zero digit when it has a
fraction, so that each double has one written form.
-/

namespace BoundQuery

/-- A natural coefficient scaled by a power of ten. -/
structure ScaledDecimal where
  coefficient : Nat
  exponent : Int
  deriving DecidableEq

namespace ScaledDecimal

/-- The same value with the zeros at the end of the coefficient moved into the
exponent. The first argument bounds the number of zeros that are moved. -/
def dropZeros : Nat → ScaledDecimal → ScaledDecimal
  | 0, decimal => decimal
  | bound + 1, decimal =>
      if decimal.coefficient ≠ 0 ∧ decimal.coefficient % 10 = 0 then
        dropZeros bound ⟨decimal.coefficient / 10, decimal.exponent + 1⟩
      else
        decimal

/-- The same value with a coefficient that is zero or does not end in a zero digit. -/
def normalize (decimal : ScaledDecimal) : ScaledDecimal :=
  if decimal.coefficient = 0 then ⟨0, 0⟩
  else dropZeros decimal.coefficient decimal

end ScaledDecimal

namespace Double

/-! ## The interval that rounds to a double -/

/-- The distance down to the end of the interval, in quarters of the unit of the
last place. Just above a power of two the doubles below are twice as dense. -/
def gapBelow (double : Double) : Nat :=
  if double.fraction.val = 0 ∧ 1 < double.biased.val then 1 else 2

/-- A coefficient of a power of ten, brought to the common scale of the comparisons. -/
def decimalSide (double : Double) (exponent : Int) (coefficient : Nat) : Nat :=
  coefficient * tenTo exponent.toNat * twoTo (2 - double.exponent).toNat

/-- A number of quarters of the unit of the last place, brought to the common scale
of the comparisons. -/
def binarySide (double : Double) (exponent : Int) (quarters : Nat) : Nat :=
  quarters * twoTo (double.exponent - 2).toNat * tenTo (-exponent).toNat

/-- Whether a decimal lies in the interval of a double. The ends belong to it when
the significand is even, since a tie then rounds to this double. -/
def roundsTo (double : Double) (decimal : ScaledDecimal) : Bool :=
  let point := decimalSide double decimal.exponent decimal.coefficient
  let low := binarySide double decimal.exponent (4 * double.significand - gapBelow double)
  let high := binarySide double decimal.exponent (4 * double.significand + 2)
  if double.significand % 2 = 0 then decide (low ≤ point) && decide (point ≤ high)
  else decide (low < point) && decide (point < high)

/-! ## The search -/

/-- The number of digits before the point in the magnitude of a finite double, which
is not positive when the magnitude is below one tenth. -/
def decimalOrder (double : Double) : Int :=
  let above := (Numeral.natural double.numerator).length
  let below := (Numeral.natural double.denominator).length
  let estimate : Int := (above : Int) - below
  if double.numerator * tenTo (-estimate).toNat <
      double.denominator * tenTo estimate.toNat then
    estimate
  else
    estimate + 1

/-- The decimal with the given number of digits that lies in the interval of a
double, if there is one. -/
def decimalWith? (double : Double) (digits : Nat) : Option ScaledDecimal :=
  let exponent := decimalOrder double - digits
  let magnitude := binarySide double exponent (4 * double.significand)
  let step := decimalSide double exponent 1
  let lower : ScaledDecimal := ⟨magnitude / step, exponent⟩
  let upper : ScaledDecimal := ⟨magnitude / step + 1, exponent⟩
  let twice := 2 * (magnitude % step)
  let lowerNearer := twice < step ∨ (twice = step ∧ lower.coefficient % 2 = 0)
  match roundsTo double lower, roundsTo double upper with
  | true, true => if lowerNearer then some lower else some upper
  | true, false => some lower
  | false, true => some upper
  | false, false => none

/-- The shortest decimal that reads back as the magnitude of a finite double. -/
def shortest (double : Double) : ScaledDecimal :=
  if double.significand = 0 then ⟨0, 0⟩
  else
    (((List.range 17).findSome? fun count => decimalWith? double (count + 1)).getD
      ⟨double.numerator / double.denominator, 0⟩).normalize

end Double

/-! ## Facts on the written form -/

namespace ScaledDecimal

theorem dropZeros_coefficient (bound : Nat) (decimal : ScaledDecimal)
    (positive : decimal.coefficient ≠ 0) (enough : decimal.coefficient ≤ bound) :
    (dropZeros bound decimal).coefficient % 10 ≠ 0 := by
  induction bound generalizing decimal with
  | zero => omega
  | succ bound inductionHypothesis =>
      unfold dropZeros
      by_cases ends : decimal.coefficient ≠ 0 ∧ decimal.coefficient % 10 = 0
      · rw [if_pos ends]
        apply inductionHypothesis
        · show decimal.coefficient / 10 ≠ 0
          omega
        · show decimal.coefficient / 10 ≤ bound
          omega
      · rw [if_neg ends]
        omega

/-- A normalized decimal ends in a digit other than zero, or has no fraction. -/
theorem normalize_ends (decimal : ScaledDecimal) :
    0 ≤ decimal.normalize.exponent ∨ decimal.normalize.coefficient % 10 ≠ 0 := by
  unfold normalize
  by_cases vanishes : decimal.coefficient = 0
  · rw [if_pos vanishes]
    exact Or.inl (Int.le_refl 0)
  · rw [if_neg vanishes]
    exact Or.inr (dropZeros_coefficient _ _ vanishes (Nat.le_refl _))

end ScaledDecimal

theorem Double.shortest_ends (double : Double) :
    0 ≤ double.shortest.exponent ∨ double.shortest.coefficient % 10 ≠ 0 := by
  unfold Double.shortest
  by_cases vanishes : double.significand = 0
  · rw [if_pos vanishes]
    exact Or.inl (Int.le_refl 0)
  · rw [if_neg vanishes]
    exact ScaledDecimal.normalize_ends _

end BoundQuery
