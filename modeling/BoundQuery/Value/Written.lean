import BoundQuery.Fault
import BoundQuery.Number.Reading

/-!
# Values written into queries

A finite number has one positional form, never with an exponent. A decimal has it with
every digit that it keeps, and a double has the positional form of the decimal that its
displayed form denotes, where an integer may have a zero after the point.

A scalar has one written form: a text is itself, the truth values are `1` and nothing,
and a number is its positional form. From that of a double the zeros at the end of the
fraction are dropped, and the point with them when nothing else stands after it; a
decimal keeps the digits it was made with.

The integer form of a number is its positional form up to the point, and the identifier
form of a scalar encloses its written form in backticks.

The main statements say which texts are numeric, and that a numeric text is accepted
as an integer with the part in front of the point.
-/

namespace BoundQuery

/-! ## Positional forms -/

/-- The positional form of a finite decimal. -/
def Decimal.plain (number : Decimal) : Except Fault Text :=
  match number.positional? with
  | some text => .ok text
  | none => .error (.binding (.notFinite (.decimal number)))

/-- The positional form of the decimal that a finite double is displayed as. -/
def Double.plain (number : Double) : Except Fault Text :=
  match number.decimal?.bind Decimal.positional? with
  | some text => .ok text
  | none => .error (.binding (.notFinite (.double number)))

/-! ## Written forms -/

/-- A numeral without the zeros at the end of its fraction, and without the point when
nothing is left after it. The zeros of a numeral without a point belong to its whole
part, so they stay. -/
def dropFractionZeros (text : Text) : Text :=
  if CodePoint.scalar '.' ∈ text then
    Text.dropEnd (.scalar '.') (Text.dropEnd (.scalar '0') text)
  else
    text

def Double.written (number : Double) : Except Fault Text :=
  number.plain.map dropFractionZeros

def Scalar.written : Scalar → Except Fault Text
  | .text content => .ok content
  | .flag true => .ok [.scalar '1']
  | .flag false => .ok []
  | .integer number => .ok (Numeral.integer number)
  | .double number => number.written
  | .decimal number => number.plain

/-- The scalar that a value is, for a placeholder that takes nothing else. -/
def Value.scalarFor (placeholder : Placeholder) : Value → Except Fault Scalar
  | .scalar content => .ok content
  | other => .error (.binding (.notScalar placeholder other))

/-! ## Integers -/

/-- The part of a numeral in front of the point. -/
def integerPart (text : Text) : Text :=
  (Text.splitFirst (.scalar '.') text).1

/-- Whether a text is one or more digits, after which a point and further digits may
come. -/
def isUnsignedNumeric (text : Text) : Bool :=
  let (whole, fraction) := Text.splitFirst (.scalar '.') text
  !whole.isEmpty && whole.all CodePoint.isDigit &&
    (fraction.getD []).all CodePoint.isDigit

/-- Whether a text is a numeral with an optional minus sign. -/
def isNumeric : Text → Bool
  | [] => false
  | first :: rest =>
      if first = CodePoint.scalar '-' then isUnsignedNumeric rest
      else isUnsignedNumeric (first :: rest)

def nullKeyword : Text :=
  Text.ofString "NULL"

def Value.integerForm : Value → Except Fault Text
  | .null => .ok nullKeyword
  | .scalar (.integer number) => .ok (Numeral.integer number)
  | .scalar (.double number) => number.plain.map integerPart
  | .scalar (.decimal number) => number.plain.map integerPart
  | .scalar (.text content) =>
      if isNumeric content then .ok (integerPart content)
      else .error (.binding (.notNumericText content))
  | other => .error (.binding (.notNumeric other))

/-! ## Identifiers -/

def backtick : CodePoint := .scalar '`'

/-- Whether a code point may stand in an identifier: it is not null, no surrogate, and
lies in the basic plane. -/
def CodePoint.isIdentifierPoint (point : CodePoint) : Bool :=
  !point.isSurrogate && point.value != 0 && decide (point.value ≤ 0xFFFF)

/-- A name between backticks, with the backticks inside of it doubled. -/
def quoteIdentifier (name : Text) : Text :=
  backtick :: Text.substitute backtick [backtick, backtick] name ++ [backtick]

def Value.identifierForm (value : Value) : Except Fault Text := do
  let content ← value.scalarFor .identifier
  let name ← content.written
  if name = [] then
    throw (.binding .emptyIdentifier)
  else if name.all CodePoint.isIdentifierPoint then
    return quoteIdentifier name
  else
    throw (.binding (.invalidIdentifier name))

/-! ## Parts -/

/-- A value that is inserted into a query as it stands. -/
def Value.partForm (value : Value) : Except Fault Text := do
  let content ← value.scalarFor .part
  content.written

/-! ## Facts on written forms -/

/-- A text is numeric exactly when a sign may be taken off and digits remain, with at
most one point among them and a digit in front of it. -/
theorem isUnsignedNumeric_iff (text : Text) :
    isUnsignedNumeric text = true ↔
      (Text.splitFirst (.scalar '.') text).1 ≠ [] ∧
        (∀ point ∈ (Text.splitFirst (.scalar '.') text).1, point.isDigit = true) ∧
        ∀ point ∈ (Text.splitFirst (.scalar '.') text).2.getD [],
          point.isDigit = true := by
  simp [isUnsignedNumeric, and_assoc]

/-- A numeric text gives the part in front of its point as an integer. -/
theorem integerForm_text (content : Text) (numeric : isNumeric content = true) :
    (Value.text content).integerForm = .ok (integerPart content) := by
  simp [Value.text, Value.integerForm, numeric]

/-- A nonempty name of valid code points is an identifier between backticks. -/
theorem identifierForm_text (name : Text) (nonempty : name ≠ [])
    (valid : name.all CodePoint.isIdentifierPoint = true) :
    (Value.text name).identifierForm = .ok (quoteIdentifier name) := by
  simp [Value.text, Value.identifierForm, Value.scalarFor, Scalar.written, nonempty,
    valid, bind, Except.bind, pure, Except.pure]

end BoundQuery
