import BoundQuery.Number.Decimal

/-!
# Parameter values

A value is what a caller may hand over as a parameter, what a row may hold, and what
an error may carry. Scalars are the values with a text of their own: texts, truth
values, integers, doubles and decimals. The other values are the missing value, byte
strings, containers, and a few that are neither.

A single-pass stream is named by its number. What it still has to give is kept in a
store beside the values, because two parameters may name the same stream.

The statements at the end say that the entries of a container that is no mapping are
numbered from zero in order.
-/

namespace BoundQuery

/-! ## Kinds of values -/

/-- A scalar is a value that has a text of its own. -/
inductive Scalar
  | text (text : Text)
  | flag (value : Bool)
  | integer (number : Int)
  | double (number : Double)
  | decimal (number : Decimal)
  deriving DecidableEq

/-- Byte strings differ in whether they can be changed and in whether iterating them
is meant to give numbers. -/
inductive BytesForm
  | fixed
  | changeable
  | view
  deriving DecidableEq

/-- The forms of a container that enumerates its items. -/
inductive SequenceForm
  | list
  | tuple
  | set
  | frozenSet
  deriving DecidableEq

/-- The forms of a container that holds entries under keys. -/
inductive MappingForm
  | dictionary
  | readOnly
  deriving DecidableEq

inductive Value
  | null
  | scalar (scalar : Scalar)
  | bytes (form : BytesForm) (content : List UInt8)
  | sequence (form : SequenceForm) (items : List Value)
  | mapping (form : MappingForm) (entries : List (Value × Value))
  | range (start stop step : Int)
  | stream (number : Nat)
  | plain
  | complex (real imaginary : Double)
  | date (year month day : Nat)

abbrev Entry := Value × Value

namespace Value

instance : Inhabited Value := ⟨null⟩

def text (text : Text) : Value :=
  scalar (.text text)

def flag (value : Bool) : Value :=
  scalar (.flag value)

def integer (number : Int) : Value :=
  scalar (.integer number)

/-- The name that messages give to the type of a value. -/
def typeName : Value → String
  | null => "NoneType"
  | scalar (.text _) => "str"
  | scalar (.flag _) => "bool"
  | scalar (.integer _) => "int"
  | scalar (.double _) => "float"
  | scalar (.decimal _) => "Decimal"
  | bytes .fixed _ => "bytes"
  | bytes .changeable _ => "bytearray"
  | bytes .view _ => "memoryview"
  | sequence .list _ => "list"
  | sequence .tuple _ => "tuple"
  | sequence .set _ => "set"
  | sequence .frozenSet _ => "frozenset"
  | mapping .dictionary _ => "dict"
  | mapping .readOnly _ => "mappingproxy"
  | range _ _ _ => "range"
  | stream _ => "generator"
  | plain => "object"
  | complex _ _ => "complex"
  | date _ _ _ => "date"

/-- The name of the type of a value in full, which for dates and decimals begins with
the family that the type belongs to. -/
def fullTypeName : Value → String
  | scalar (.decimal _) => "decimal.Decimal"
  | date _ _ _ => "datetime.date"
  | other => other.typeName

end Value

/-! ## Containers -/

/-- The number of steps of a given size from a start that stay before a stop. -/
def stepCount (start stop step : Int) : Nat :=
  if 0 < step then ((stop - start + step - 1) / step).toNat
  else if step < 0 then ((start - stop - step - 1) / (-step)).toNat
  else 0

def rangeItems (start stop step : Int) : List Value :=
  (List.range (stepCount start stop step)).map fun (index : Nat) =>
    Value.integer (start + step * index)

/-- The entries of a container without keys of its own: the keys are the positions. -/
def numberedEntries (items : List Value) : List Entry :=
  ((List.range items.length).map fun (position : Nat) =>
    Value.integer position).zip items

/-- What a value holds when it is taken as a container. -/
inductive Contents
  | entries (entries : List Entry)
  | stream (number : Nat)

/-- The contents of a container. Texts and byte strings are no containers, except for
the view of bytes, which holds their numbers. -/
def Value.contents? : Value → Option Contents
  | .sequence _ items => some (.entries (numberedEntries items))
  | .mapping _ entries => some (.entries entries)
  | .range start stop step =>
      some (.entries (numberedEntries (rangeItems start stop step)))
  | .bytes .view content =>
      some (.entries (numberedEntries
        (content.map fun byte => Value.integer byte.toNat)))
  | .stream number => some (.stream number)
  | .bytes .fixed _ | .bytes .changeable _ => none
  | .null | .scalar _ | .plain | .complex _ _ | .date _ _ _ => none

/-! ## Vacant values -/

/-- Whether a value is missing, false, zero or empty. -/
def Value.isVacant : Value → Bool
  | .null => true
  | .scalar (.text content) => content.isEmpty
  | .scalar (.flag value) => !value
  | .scalar (.integer number) => number == 0
  | .scalar (.double number) => number.isZero
  | .scalar (.decimal number) => number.isZero
  | .bytes _ content => content.isEmpty
  | .sequence _ items => items.isEmpty
  | .mapping _ entries => entries.isEmpty
  | .range start stop step => stepCount start stop step == 0
  | .complex real imaginary => real.isZero && imaginary.isZero
  | .stream _ | .plain | .date _ _ _ => false

/-- Whether a number is greater than zero. Values that are no numbers have no answer. -/
def Value.isPositive? : Value → Option Bool
  | .scalar (.flag value) => some value
  | .scalar (.integer number) => some (decide (0 < number))
  | .scalar (.double number) => some number.isPositive
  | .scalar (.decimal (.finite negative digits)) =>
      some (!negative && digits.coefficient != 0)
  | .scalar (.decimal (.infinite negative)) => some (!negative)
  | .scalar (.decimal (.notANumber _ _ _)) => some false
  | _ => none

/-! ## Facts on containers -/

@[simp]
theorem length_numberedEntries (items : List Value) :
    (numberedEntries items).length = items.length := by
  simp [numberedEntries]

/-- Numbering keeps the items and their order. -/
theorem map_snd_numberedEntries (items : List Value) :
    (numberedEntries items).map Prod.snd = items := by
  unfold numberedEntries
  rw [List.map_snd_zip]
  simp

/-- The keys of numbered entries are the positions from zero. -/
theorem map_fst_numberedEntries (items : List Value) :
    (numberedEntries items).map Prod.fst =
      (List.range items.length).map fun (position : Nat) =>
        Value.integer position := by
  unfold numberedEntries
  rw [List.map_fst_zip]
  simp

end BoundQuery
