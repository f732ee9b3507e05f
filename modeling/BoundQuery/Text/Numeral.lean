import BoundQuery.Text

/-!
# Decimal numerals

The decimal numeral of a natural number is its digits without leading zeros, and the
numeral of an integer has a minus sign in front when the number is negative. Read in
the other direction, a run of digits has the value that place notation gives it. Low
lines may group the digits of a number; joining the groups takes them away.

The main statements say that a numeral is a nonempty run of digits, that its value is
the number it was written for, and that joining groups leaves a text without low lines
alone.
-/

namespace BoundQuery.Numeral

/-! ## Writing -/

/-- The decimal digits of a natural number, most significant first. -/
def natural (number : Nat) : Text :=
  (Nat.toDigits 10 number).map CodePoint.scalar

/-- A text with a minus sign in front when the sign is negative. -/
def signed (negative : Bool) (text : Text) : Text :=
  if negative then '-' :: text else text

def integer (number : Int) : Text :=
  signed (decide (number < 0)) (natural number.natAbs)

def zeros (count : Nat) : Text :=
  List.replicate count (CodePoint.scalar '0')

/-- A text filled up with zeros on the left to the given length. -/
def padLeft (length : Nat) (text : Text) : Text :=
  zeros (length - text.length) ++ text

/-- Lower-case hexadecimal digits of a number, filled up with zeros to the given
length. -/
def hexadecimal (length : Nat) (number : Nat) : Text :=
  padLeft length ((Nat.toDigits 16 number).map CodePoint.scalar)

/-! ## Reading -/

/-- The number that a sequence of digit values denotes in base ten. -/
def ofDigitValues (values : List Nat) : Nat :=
  values.foldl (fun number digit => 10 * number + digit) 0

/-- The digit values of a nonempty run of digits. -/
def digitValues? : Text → Option (List Nat)
  | [] => none
  | [only] => only.digit?.map fun digit => [digit]
  | first :: second :: rest =>
      match first.digit?, digitValues? (second :: rest) with
      | some digit, some digits => some (digit :: digits)
      | _, _ => none

def dropLowLines (text : Text) : Text :=
  text.filter fun point => point != CodePoint.scalar '_'

/-- A text with the low lines between its groups taken away. A low line stands alone
between two groups, so there is none at either end and none beside another. -/
def joinGroups? : Text → Option Text
  | [] => some []
  | [only] => if only = CodePoint.scalar '_' then none else some [only]
  | first :: second :: rest =>
      if first = CodePoint.scalar '_' then none
      else if second = CodePoint.scalar '_' then
        if rest.isEmpty then none else (joinGroups? rest).map (first :: ·)
      else (joinGroups? (second :: rest)).map (first :: ·)

/-- Whether a text begins with a minus sign, and the text without it. -/
def splitMinus : Text → Bool × Text
  | [] => (false, [])
  | first :: rest =>
      if first = CodePoint.scalar '-' then (true, rest) else (false, first :: rest)

/-- The sign in front of a text, which is negative only for a minus sign, and the
text after it. -/
def splitSign : Text → Bool × Text
  | [] => (false, [])
  | first :: rest =>
      if first = CodePoint.scalar '-' then (true, rest)
      else if first = CodePoint.scalar '+' then (false, rest)
      else (false, first :: rest)

def withSign (negative : Bool) (magnitude : Nat) : Int :=
  if negative then -(magnitude : Int) else magnitude

/-! ## Facts on numerals -/

theorem digit?_digitChar (digit : Nat) (small : digit < 10) :
    (CodePoint.scalar digit.digitChar).digit? = some digit := by
  match digit, small with
  | 0, _ | 1, _ | 2, _ | 3, _ | 4, _ | 5, _ | 6, _ | 7, _ | 8, _ | 9, _ => rfl

/-- The numeral of a number is the numeral of its tens followed by its last digit. -/
theorem natural_eq (number : Nat) :
    natural number =
      (if number < 10 then [] else natural (number / 10)) ++
        [CodePoint.scalar (number % 10).digitChar] := by
  unfold natural
  rw [Nat.toDigits_eq_if (by omega)]
  by_cases small : number < 10
  · simp [small, Nat.mod_eq_of_lt small]
  · simp [small]

theorem natural_ne_nil (number : Nat) : natural number ≠ [] := by
  rw [natural_eq]
  simp

theorem digitValues?_append_digit
    (text : Text) (values : List Nat) (digit : Nat) (small : digit < 10)
    (reading : digitValues? text = some values) :
    digitValues? (text ++ [CodePoint.scalar digit.digitChar]) =
      some (values ++ [digit]) := by
  induction text generalizing values with
  | nil => simp [digitValues?] at reading
  | cons head tail inductionHypothesis =>
      cases tail with
      | nil =>
          cases headDigit : head.digit? with
          | none => simp [digitValues?, headDigit] at reading
          | some first =>
              simp only [digitValues?, headDigit, Option.map_some,
                Option.some.injEq] at reading
              subst reading
              simp [digitValues?, headDigit, digit?_digitChar digit small]
      | cons second rest =>
          cases headDigit : head.digit? with
          | none => simp [digitValues?, headDigit] at reading
          | some first =>
              cases tailReading : digitValues? (second :: rest) with
              | none => simp [digitValues?, headDigit, tailReading] at reading
              | some following =>
                  simp only [digitValues?, headDigit, tailReading,
                    Option.some.injEq] at reading
                  subst reading
                  have step := inductionHypothesis following tailReading
                  simp only [List.cons_append] at step ⊢
                  simp [digitValues?, headDigit, step]

/-- A numeral reads back as a run of digits whose value is the number. -/
theorem digitValues?_natural (number : Nat) :
    ∃ values, digitValues? (natural number) = some values ∧
      ofDigitValues values = number := by
  induction number using Nat.strongRecOn with
  | ind number inductionHypothesis =>
      rw [natural_eq]
      by_cases small : number < 10
      · refine ⟨[number], ?_, ?_⟩
        · simp [small, digitValues?, Nat.mod_eq_of_lt small,
            digit?_digitChar number small]
        · simp [ofDigitValues]
      · obtain ⟨values, reading, total⟩ :=
          inductionHypothesis (number / 10) (by omega)
        refine ⟨values ++ [number % 10], ?_, ?_⟩
        · simp only [small, if_false]
          exact digitValues?_append_digit _ _ _ (by omega) reading
        · simp only [ofDigitValues, List.foldl_append, List.foldl_cons,
            List.foldl_nil] at total ⊢
          rw [total]
          omega

/-! ## Facts on the code points of numerals -/

theorem isDigit_digitChar (digit : Nat) (small : digit < 10) :
    (CodePoint.scalar digit.digitChar).isDigit = true := by
  simp [CodePoint.isDigit, digit?_digitChar digit small]

theorem isDigit_of_mem_natural (number : Nat) :
    ∀ point ∈ natural number, point.isDigit = true := by
  induction number using Nat.strongRecOn with
  | ind number inductionHypothesis =>
      intro point member
      rw [natural_eq] at member
      rcases List.mem_append.mp member with earlier | last
      · by_cases small : number < 10
        · simp [small] at earlier
        · simp only [small, if_false] at earlier
          exact inductionHypothesis (number / 10) (by omega) point earlier
      · rw [List.mem_singleton.mp last]
        exact isDigit_digitChar _ (by omega)

theorem not_mem_natural (number : Nat) (point : CodePoint)
    (noDigit : point.isDigit = false) : point ∉ natural number := by
  intro member
  have digit := isDigit_of_mem_natural number point member
  simp [noDigit] at digit

/-! ## Facts on signs -/

theorem signed_append (negative : Bool) (text later : Text) :
    signed negative (text ++ later) = signed negative text ++ later := by
  cases negative with
  | true => rfl
  | false => rfl

theorem splitMinus_signed_natural (negative : Bool) (number : Nat) :
    splitMinus (signed negative (natural number)) = (negative, natural number) := by
  cases negative with
  | true => simp [signed, splitMinus]
  | false =>
      have noMinus := not_mem_natural number (CodePoint.scalar '-') (by decide)
      cases equality : natural number with
      | nil => rfl
      | cons first rest =>
          have different : first ≠ CodePoint.scalar '-' := by
            rintro rfl
            exact noMinus (by simp [equality])
          simp [signed, splitMinus, different]

theorem splitMinus_integer (number : Int) :
    splitMinus (integer number) = (decide (number < 0), natural number.natAbs) :=
  splitMinus_signed_natural _ _

theorem withSign_natAbs (number : Int) :
    withSign (decide (number < 0)) number.natAbs = number := by
  unfold withSign
  by_cases negative : number < 0
  · simp only [negative, decide_true, if_true]
    omega
  · simp only [negative, decide_false, Bool.false_eq_true, if_false]
    omega

/-! ## Facts on groups -/

theorem joinGroups?_eq_self (text : Text)
    (absent : CodePoint.scalar '_' ∉ text) : joinGroups? text = some text := by
  fun_induction joinGroups? text with
  | case1 => rfl
  | case2 => simp_all
  | case3 => rfl
  | case4 => simp_all
  | case5 => simp_all
  | case6 => simp_all
  | case7 first second rest different other inductionHypothesis =>
      simp only [List.mem_cons, not_or] at absent
      simp [inductionHypothesis (by simpa using absent.2)]

end BoundQuery.Numeral
