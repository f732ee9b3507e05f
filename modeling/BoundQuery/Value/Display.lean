import BoundQuery.Text.Quoted
import BoundQuery.Value

/-!
# Displaying values

A message shows a value in one of two forms. The quoted form can be told apart from
the form of any other kind of value: texts stand in quotation marks and decimals name
their type. The plain form of a text is the text itself, the plain form of a decimal
is its number, and the plain form of a date is its numeral; every other value has one
form only.
-/

namespace BoundQuery

/-! ## Enclosing -/

/-- A text between an opening and a closing text. -/
def enclosed (opening closing : String) (inner : Text) : Text :=
  Text.ofString opening ++ inner ++ Text.ofString closing

/-- The parts with a comma and a space between neighbours. -/
def listed (parts : List Text) : Text :=
  Text.join (Text.ofString ", ") parts

/-- Parts between round brackets, where a single part is followed by a comma. -/
def bracketed : List Text → Text
  | [only] => enclosed "(" ",)" only
  | parts => enclosed "(" ")" (listed parts)

/-! ## Scalars -/

namespace Scalar

def display : Scalar → Text
  | text content => content
  | flag true => Text.ofString "True"
  | flag false => Text.ofString "False"
  | integer number => Numeral.integer number
  | double number => number.display
  | decimal number => number.display

def quoted : Scalar → Text
  | text content => content.quoted
  | decimal number => enclosed "Decimal('" "')" number.display
  | other => other.display

end Scalar

def displayComplex (real imaginary : Double) : Text :=
  let second := imaginary.displayShort ++ Text.ofString "j"
  if real = Double.zero false then second
  else
    let sign := if imaginary.negative && !imaginary.isNotANumber then [] else Text.ofString "+"
    enclosed "(" ")" (real.displayShort ++ sign ++ second)

/-! ## Values -/

namespace Value

mutual

def quoted : Value → Text
  | null => Text.ofString "None"
  | scalar content => content.quoted
  | bytes .fixed content => quotedBytes content
  | bytes .changeable content =>
      enclosed "bytearray(" ")" (quotedChangeableBytes content)
  | bytes .view _ => Text.ofString "<memory>"
  | sequence .list items => enclosed "[" "]" (listed (quotedItems items))
  | sequence .tuple items => bracketed (quotedItems items)
  | sequence .set [] => Text.ofString "set()"
  | sequence .set (first :: rest) =>
      enclosed "\x7b" "\x7d" (listed (quotedItems (first :: rest)))
  | sequence .frozenSet [] => Text.ofString "frozenset()"
  | sequence .frozenSet (first :: rest) =>
      enclosed "frozenset(\x7b" "\x7d)" (listed (quotedItems (first :: rest)))
  | mapping .dictionary entries =>
      enclosed "\x7b" "\x7d" (listed (quotedEntries entries))
  | mapping .readOnly entries =>
      enclosed "mappingproxy(\x7b" "\x7d)" (listed (quotedEntries entries))
  | range start stop step =>
      enclosed "range(" ")" (listed
        (Numeral.integer start :: Numeral.integer stop ::
          (if step = 1 then [] else [Numeral.integer step])))
  | stream _ => Text.ofString "<generator object>"
  | plain => Text.ofString "<object>"
  | complex real imaginary => displayComplex real imaginary
  | date year month day =>
      enclosed "datetime.date(" ")"
        (listed [Numeral.natural year, Numeral.natural month, Numeral.natural day])

def quotedItems : List Value → List Text
  | [] => []
  | first :: rest => quoted first :: quotedItems rest

/-- The quoted forms of the entries of a mapping, each a key, a colon and a value. -/
def quotedEntries : List (Value × Value) → List Text
  | [] => []
  | (key, item) :: rest =>
      (quoted key ++ Text.ofString ": " ++ quoted item) :: quotedEntries rest

end

def display : Value → Text
  | scalar content => content.display
  | date year month day =>
      Text.join (Text.ofString "-")
        [Numeral.padLeft 4 (Numeral.natural year),
          Numeral.padLeft 2 (Numeral.natural month),
          Numeral.padLeft 2 (Numeral.natural day)]
  | other => quoted other

end Value

end BoundQuery
