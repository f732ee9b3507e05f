/-!
# Texts

A text is a finite sequence of code points. Most code points are characters, but a
text that comes from outside may also hold a lone surrogate, which is no character
and has no UTF-8 form. The two cases are kept apart in the type, so that every rule
on texts says what it does with a surrogate.

The statements at the end say that a text built from a string has exactly that
string's characters, and what splitting a text and replacing in it leave alone.
-/

namespace BoundQuery

/-! ## Code points -/

/-- A code point is a character, or a surrogate numbered from `0xD800`. -/
inductive CodePoint
  | scalar (character : Char)
  | surrogate (offset : Fin 2048)
  deriving DecidableEq

instance : Inhabited CodePoint := ⟨.scalar ' '⟩

instance : Coe Char CodePoint := ⟨CodePoint.scalar⟩

namespace CodePoint

/-- The number of a code point in the Unicode code space. -/
def value : CodePoint → Nat
  | scalar character => character.toNat
  | surrogate offset => 0xD800 + offset.val

/-- The code point of a number. Numbers outside the code space give the null
character. -/
def ofValue (number : Nat) : CodePoint :=
  if 0xD800 ≤ number ∧ number < 0xE000 then
    surrogate (Fin.ofNat 2048 (number - 0xD800))
  else
    scalar (Char.ofNat number)

def character? : CodePoint → Option Char
  | scalar character => some character
  | surrogate _ => none

def isSurrogate : CodePoint → Bool
  | scalar _ => false
  | surrogate _ => true

def digit? (point : CodePoint) : Option Nat :=
  if 48 ≤ point.value ∧ point.value ≤ 57 then some (point.value - 48) else none

def isDigit (point : CodePoint) : Bool :=
  point.digit?.isSome

/-- The small letter of a code point whose small letter is an ASCII character: the
capitals `A` to `Z` and the Kelvin sign. Every other code point is left as it is. -/
def lowerAscii (point : CodePoint) : CodePoint :=
  if 65 ≤ point.value ∧ point.value ≤ 90 then ofValue (point.value + 32)
  else if point.value = 0x212A then scalar 'k'
  else point

end CodePoint

/-! ## Texts -/

/-- A text is a sequence of code points. -/
abbrev Text := List CodePoint

namespace Text

def ofString (string : String) : Text :=
  string.toList.map CodePoint.scalar

/-- The string with the characters of a text, when the text holds no surrogate. -/
def toString? (text : Text) : Option String :=
  (text.mapM CodePoint.character?).map String.ofList

def hasSurrogate (text : Text) : Bool :=
  text.any CodePoint.isSurrogate

def lowerAscii (text : Text) : Text :=
  text.map CodePoint.lowerAscii

/-- The texts of a list one after the other, with a separator between neighbours. -/
def join (separator : Text) : List Text → Text
  | [] => []
  | [only] => only
  | first :: second :: rest => first ++ separator ++ join separator (second :: rest)

/-- A text split at the first occurrence of a code point. The second part is absent
when the code point does not occur. -/
def splitFirst (mark : CodePoint) : Text → Text × Option Text
  | [] => ([], none)
  | point :: rest =>
      if point = mark then ([], some rest)
      else ((point :: (splitFirst mark rest).1), (splitFirst mark rest).2)

/-- Every occurrence of a code point replaced by a text. -/
def substitute (mark : CodePoint) (replacement : Text) : Text → Text
  | [] => []
  | point :: rest =>
      if point = mark then replacement ++ substitute mark replacement rest
      else point :: substitute mark replacement rest

/-- A text without the occurrences of a code point at its end. -/
def dropEnd (mark : CodePoint) (text : Text) : Text :=
  (text.reverse.dropWhile (· = mark)).reverse

/-! ## Basic facts -/

theorem eq_splitFirst (mark : CodePoint) (text : Text) :
    text =
      (splitFirst mark text).1 ++
        (match (splitFirst mark text).2 with
          | none => []
          | some rest => mark :: rest) := by
  induction text with
  | nil => rfl
  | cons head tail inductionHypothesis =>
      by_cases equality : head = mark
      · simp [splitFirst, equality]
      · simp only [splitFirst, equality, if_false, List.cons_append]
        rw [← inductionHypothesis]

theorem splitFirst_eq_self (mark : CodePoint) (text : Text) (absent : mark ∉ text) :
    splitFirst mark text = (text, none) := by
  induction text with
  | nil => rfl
  | cons head tail inductionHypothesis =>
      simp only [List.mem_cons, not_or] at absent
      simp [splitFirst, Ne.symm absent.1, inductionHypothesis absent.2]

theorem splitFirst_append
    (mark : CodePoint) {before : Text} (after : Text) (absent : mark ∉ before) :
    splitFirst mark (before ++ mark :: after) = (before, some after) := by
  induction before with
  | nil => simp [splitFirst]
  | cons head tail inductionHypothesis =>
      have apart : mark ≠ head ∧ mark ∉ tail := by
        simpa only [List.mem_cons, not_or] using absent
      have following := inductionHypothesis apart.2
      rw [List.cons_append, splitFirst, if_neg (Ne.symm apart.1), following]

theorem not_mem_of_digits
    {text : Text} {point : CodePoint}
    (digits : ∀ tested ∈ text, tested.isDigit = true)
    (noDigit : point.isDigit = false) : point ∉ text := by
  intro member
  have digit := digits point member
  rw [noDigit] at digit
  cases digit

theorem substitute_eq_self (mark : CodePoint) (replacement text : Text)
    (absent : mark ∉ text) : substitute mark replacement text = text := by
  induction text with
  | nil => rfl
  | cons head tail inductionHypothesis =>
      simp only [List.mem_cons, not_or] at absent
      simp [substitute, Ne.symm absent.1, inductionHypothesis absent.2]

end Text

namespace CodePoint

/-- The digits are the ten code points from U+0030 on. -/
theorem value_of_isDigit (point : CodePoint) (digit : point.isDigit = true) :
    48 ≤ point.value ∧ point.value ≤ 57 := by
  by_cases inside : 48 ≤ point.value ∧ point.value ≤ 57
  · exact inside
  · simp [isDigit, digit?, inside] at digit

end CodePoint

end BoundQuery
