import BoundQuery.Text

/-!
# Placeholders

A placeholder says how a parameter is written into a query. Its marker in a template
is a question mark followed by the letter of the placeholder.

The main statement says that the letters tell the placeholders apart, so a marker
stands for exactly one of them.
-/

namespace BoundQuery

/-- The rules by which a parameter becomes a part of a query. -/
inductive Placeholder
  | string
  | integer
  | identifier
  | array
  | mapping
  | part
  deriving DecidableEq

namespace Placeholder

def all : List Placeholder :=
  [string, integer, identifier, array, mapping, part]

/-- The letter after the question mark of a marker. -/
def letter : Placeholder → CodePoint
  | string => .scalar 's'
  | integer => .scalar 'i'
  | identifier => .scalar 'n'
  | array => .scalar 'a'
  | mapping => .scalar 'u'
  | part => .scalar 'p'

def questionMark : CodePoint := .scalar '?'

/-- The two code points that stand for a placeholder in a template. -/
def marker (placeholder : Placeholder) : Text :=
  [questionMark, placeholder.letter]

def ofLetter? (letter : CodePoint) : Option Placeholder :=
  all.find? fun placeholder => placeholder.letter == letter

/-- The placeholder whose marker the two code points form. -/
def ofMarker? (first second : CodePoint) : Option Placeholder :=
  if first = questionMark then ofLetter? second else none

/-- The word for a placeholder in messages. -/
def label : Placeholder → String
  | string => "string"
  | integer => "integer"
  | identifier => "identifier"
  | array => "array"
  | mapping => "map"
  | part => "part"

/-- The word for a placeholder at the beginning of a message. -/
def title : Placeholder → String
  | string => "String"
  | integer => "Integer"
  | identifier => "Identifier"
  | array => "Array"
  | mapping => "Map"
  | part => "Part"

/-! ## Letters and placeholders -/

/-- A letter names a placeholder exactly when it is that placeholder's letter. -/
theorem ofLetter?_eq_some_iff (letter : CodePoint) (placeholder : Placeholder) :
    ofLetter? letter = some placeholder ↔ letter = placeholder.letter := by
  constructor
  · intro found
    have matching := List.find?_some found
    simpa using (beq_iff_eq.mp matching).symm
  · rintro rfl
    cases placeholder <;> decide

theorem ofMarker?_eq_some_iff
    (first second : CodePoint) (placeholder : Placeholder) :
    ofMarker? first second = some placeholder ↔
      first = questionMark ∧ second = placeholder.letter := by
  unfold ofMarker?
  by_cases begins : first = questionMark
  · simp [begins, ofLetter?_eq_some_iff]
  · simp [begins]

theorem letter_ne_questionMark (placeholder : Placeholder) :
    placeholder.letter ≠ questionMark := by
  cases placeholder <;> decide

end Placeholder

end BoundQuery
