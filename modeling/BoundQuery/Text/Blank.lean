import BoundQuery.Text

/-!
# Blank code points and trimming

The blank code points are those with the Unicode property of white space. Trimming a
text removes the blanks at both of its ends and nothing else.

The main statement says that a text without blanks is trimmed already.
-/

namespace BoundQuery

/-- Whether a code point has the Unicode property of white space. -/
def CodePoint.isBlank (point : CodePoint) : Bool :=
  let number := point.value
  decide (9 ≤ number ∧ number ≤ 13) || number == 0x20 || number == 0x85 ||
    number == 0xA0 || number == 0x1680 ||
    decide (0x2000 ≤ number ∧ number ≤ 0x200A) || number == 0x2028 ||
    number == 0x2029 || number == 0x202F || number == 0x205F || number == 0x3000

theorem CodePoint.isBlank_of_isDigit (point : CodePoint) (digit : point.isDigit = true) :
    point.isBlank = false := by
  have range := point.value_of_isDigit digit
  simp only [CodePoint.isBlank, Bool.or_eq_false_iff, beq_eq_false_iff_ne,
    decide_eq_false_iff_not]
  omega

namespace Text

/-- A text without the blanks at its ends. -/
def trim (text : Text) : Text :=
  (((text.dropWhile CodePoint.isBlank).reverse).dropWhile CodePoint.isBlank).reverse

theorem trim_eq_self (text : Text)
    (blankFree : ∀ point ∈ text, point.isBlank = false) : trim text = text := by
  have untouched : ∀ list : Text, (∀ point ∈ list, point.isBlank = false) →
      list.dropWhile CodePoint.isBlank = list := by
    intro list
    cases list with
    | nil => simp
    | cons head tail =>
        intro free
        simp [List.dropWhile, free head (List.mem_cons_self ..)]
  rw [trim, untouched text blankFree, untouched text.reverse, List.reverse_reverse]
  intro point member
  exact blankFree point (List.mem_reverse.mp member)

end Text

end BoundQuery
