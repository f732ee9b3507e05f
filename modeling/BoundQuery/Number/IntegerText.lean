import BoundQuery.Text.Blank
import BoundQuery.Text.Numeral

/-!
# Integers written as texts

A plain numeral is zero, or a run of digits that does not begin with a zero, and may
have a minus sign in front. An integer may also be written with blanks around it, with
a plus sign, with zeros in front, with low lines between groups of digits, and with a
point and zeros after it. Such a text is brought into plain form first. A text that is
no integer is told apart from one that begins with a plain numeral of too many digits.
-/

namespace BoundQuery

/-- The reasons for which a text is not read as an integer. -/
inductive IntegerFault
  | malformed
  | tooLong
  deriving DecidableEq

namespace IntegerText

/-- The greatest number of code points in a plain numeral. -/
def longest : Nat := 4300

/-! ## Plain numerals -/

def readPlain? (numeral : Text) : Option Int :=
  let (negative, magnitude) := Numeral.splitMinus numeral
  if longest < numeral.length then none
  else if 1 < magnitude.length ∧ magnitude.head? = some (CodePoint.scalar '0') then
    none
  else
    (Numeral.digitValues? magnitude).map fun digits =>
      Numeral.withSign negative (Numeral.ofDigitValues digits)

/-- Whether a text begins with a plain numeral that is too long, whatever comes after
it. -/
def beginsTooLong (text : Text) : Bool :=
  let magnitude := (Numeral.splitMinus text).2
  let digits := magnitude.takeWhile CodePoint.isDigit
  digits.head? != some (CodePoint.scalar '0') &&
    decide (longest < text.length - magnitude.length + digits.length)

/-! ## Plain form -/

/-- What is left of a number after the zeros in front of it, given the code point that
was passed over last. Low lines among the zeros are passed over with them. The number
goes on at another digit or at a minus sign. At a point the last code point is taken
back, and so it is when nothing else is left. -/
def afterZeros? (last : CodePoint) : Text → Option Text
  | [] => some [last]
  | point :: rest =>
      if point = CodePoint.scalar '0' ∨ point = CodePoint.scalar '_' then
        afterZeros? point rest
      else if point = CodePoint.scalar '.' then
        some (last :: point :: rest)
      else if point.isDigit ∨ point = CodePoint.scalar '-' then
        some (point :: rest)
      else
        none

/-- A number without the zeros in front of it. Its first code point has to be a
digit. -/
def dropLeadingZeros? : Text → Option Text
  | [] => none
  | point :: rest =>
      if point = CodePoint.scalar '0' then afterZeros? point rest
      else if point.isDigit then some (point :: rest)
      else none

/-- Whether the text after the point of an integer, if there is a point, consists of
one or more zeros. -/
def onlyZeroFraction : Option Text → Bool
  | none => true
  | some fraction =>
      !fraction.isEmpty && fraction.all fun point => point == CodePoint.scalar '0'

/-- The plain form of an integer's text. -/
def plainForm? (text : Text) : Option Text :=
  let (negative, magnitude) := Numeral.splitSign (Text.trim text)
  (dropLeadingZeros? magnitude).bind fun number =>
    let (whole, fraction) := Text.splitFirst (CodePoint.scalar '.') number
    if onlyZeroFraction fraction then
      (Numeral.joinGroups? whole).map (Numeral.signed negative)
    else
      none

end IntegerText

def readInteger (text : Text) : Except IntegerFault Int :=
  if IntegerText.beginsTooLong text then .error .tooLong
  else
    match (IntegerText.plainForm? text).bind IntegerText.readPlain? with
    | some number => .ok number
    | none => .error .malformed

end BoundQuery
