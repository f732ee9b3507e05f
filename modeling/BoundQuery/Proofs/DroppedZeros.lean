import BoundQuery.Proofs.PlainNumeral
import BoundQuery.Value.Written
import Mathlib.Data.List.DropRight

/-!
# Zeros at the end of a fraction

The zeros at the end of a plain numeral stand for tenths, hundredths and so on when there is
a point in front of them, and may then be dropped. When nothing else stands after the point,
the point is the last code point that is left and goes too; no digit goes with it, because
the whole part has no point in it.

The main statement says that dropping them leaves a plain numeral with the same sign, whole
part and number, without a bare point and without a zero at the end of its fraction.
-/

namespace BoundQuery

/-! ## Ends of texts -/

namespace Text

section Ends

variable {mark : CodePoint}

theorem dropEnd_of_not_mem {text : Text} (absent : mark ∉ text) : dropEnd mark text = text := by
  refine List.rdropWhile_eq_self_iff.mpr fun nonempty last => absent ?_
  rw [← of_decide_eq_true last]
  exact List.getLast_mem nonempty

theorem dropEnd_concat (mark : CodePoint) (text : Text) :
    dropEnd mark (text ++ [mark]) = dropEnd mark text :=
  List.rdropWhile_concat_pos _ _ _ (decide_eq_true rfl)

theorem dropEnd_concat_of_ne (text : Text) {point : CodePoint} (other : point ≠ mark) :
    dropEnd mark (text ++ [point]) = text ++ [point] :=
  List.rdropWhile_concat_neg _ text point fun same => other (of_decide_eq_true same)

/-- Only what stands after another code point is dropped. -/
theorem dropEnd_append_cons
    (before : Text) {point : CodePoint} (other : point ≠ mark) (after : Text) :
    dropEnd mark (before ++ point :: after) = before ++ point :: dropEnd mark after := by
  induction after using List.reverseRecOn with
  | nil => exact dropEnd_concat_of_ne before other
  | append_singleton after last inductionHypothesis =>
      rw [← List.cons_append, ← List.append_assoc]
      by_cases ends : last = mark
      · rw [ends, dropEnd_concat, dropEnd_concat, inductionHypothesis]
      · rw [dropEnd_concat_of_ne _ ends, dropEnd_concat_of_ne _ ends, List.append_assoc,
          List.cons_append]

theorem exists_eq_dropEnd_append (mark : CodePoint) (text : Text) :
    ∃ count, text = dropEnd mark text ++ List.replicate count mark := by
  refine ⟨(text.rtakeWhile (· = mark)).length, ?_⟩
  have dropped : ∀ point ∈ text.rtakeWhile (· = mark), point = mark := by
    intro point member
    exact of_decide_eq_true (List.mem_rtakeWhile_imp (p := (· = mark)) member)
  rw [← List.eq_replicate_of_mem dropped]
  exact List.rdropWhile_append_rtakeWhile.symm

theorem getLast?_dropEnd (mark : CodePoint) (text : Text) :
    (dropEnd mark text).getLast? ≠ some mark := by
  intro last
  have nonempty : dropEnd mark text ≠ [] := fun empty => by
    rw [empty] at last
    cases last
  rw [List.getLast?_eq_some_getLast nonempty] at last
  exact List.rdropWhile_last_not _ text nonempty (decide_eq_true (Option.some.inj last))

theorem dropEnd_of_getLast? {text : Text} (other : text.getLast? ≠ some mark) :
    dropEnd mark text = text := by
  refine List.rdropWhile_eq_self_iff.mpr fun nonempty last => other ?_
  rw [List.getLast?_eq_some_getLast nonempty, of_decide_eq_true last]

end Ends

end Text

/-! ## Numerals without the zeros -/

namespace PlainNumeral

/-- A numeral without the zeros at the end of its fraction. -/
def stripped (numeral : PlainNumeral) : PlainNumeral where
  negative := numeral.negative
  whole := numeral.whole
  fraction? := fractionOf (Text.dropEnd (.scalar '0') (numeral.fraction?.getD []))
  nonempty := numeral.nonempty
  wholeDigits := numeral.wholeDigits
  fractionDigits := by
    rw [getD_fractionOf]
    intro point member
    exact numeral.fractionDigits point ((List.rdropWhile_prefix _ _).subset member)

variable (numeral : PlainNumeral)

theorem text_eq :
    numeral.text = Numeral.signed numeral.negative numeral.whole ++ pointed numeral.fraction? := by
  rw [text, magnitude, Numeral.signed_append]

theorem text_stripped :
    numeral.stripped.text = Numeral.signed numeral.negative numeral.whole ++
      pointed (fractionOf (Text.dropEnd (.scalar '0') (numeral.fraction?.getD []))) :=
  text_eq _

theorem not_mem_signed_whole :
    CodePoint.scalar '.' ∉ Numeral.signed numeral.negative numeral.whole := by
  have absent : CodePoint.scalar '.' ∉ numeral.whole :=
    Text.not_mem_of_digits numeral.wholeDigits rfl
  cases numeral.negative with
  | false => exact absent
  | true => exact List.not_mem_cons_of_ne_of_not_mem (by decide) absent

/-- Dropping zeros from the text of a numeral takes them from the end of its fraction, and
the point with them when no fraction is left. -/
theorem dropFractionZeros_text : dropFractionZeros numeral.text = numeral.stripped.text := by
  have noPoint := numeral.not_mem_signed_whole
  have digits := numeral.fractionDigits
  rw [text_stripped, text_eq, dropFractionZeros]
  cases present : numeral.fraction? with
  | none =>
      rw [pointed, List.append_nil, if_neg noPoint]
      exact (List.append_nil _).symm
  | some fraction =>
      rw [present] at digits
      have member : CodePoint.scalar '.' ∈
          Numeral.signed numeral.negative numeral.whole ++ pointed (some fraction) :=
        List.mem_append_right _ List.mem_cons_self
      have zeros : Text.dropEnd (.scalar '0')
          (Numeral.signed numeral.negative numeral.whole ++ pointed (some fraction)) =
          Numeral.signed numeral.negative numeral.whole ++
            .scalar '.' :: Text.dropEnd (.scalar '0') fraction :=
        Text.dropEnd_append_cons _ (by decide) fraction
      have kept : ∀ point ∈ Text.dropEnd (.scalar '0') fraction, point.isDigit = true :=
        fun point member => digits point ((List.rdropWhile_prefix _ _).subset member)
      rw [if_pos member, zeros, Option.getD_some, fractionOf]
      cases remaining : Text.dropEnd (.scalar '0') fraction with
      | nil =>
          rw [if_pos rfl, Text.dropEnd_concat, Text.dropEnd_of_not_mem noPoint]
          exact (List.append_nil _).symm
      | cons first rest =>
          have absent : CodePoint.scalar '.' ∉ first :: rest :=
            Text.not_mem_of_digits (remaining ▸ kept) rfl
          rw [if_neg (List.cons_ne_nil first rest), List.append_cons,
            Text.dropEnd_append_cons _ (List.ne_of_not_mem_cons absent).symm,
            Text.dropEnd_of_not_mem (List.not_mem_of_not_mem_cons absent), ← List.append_cons]
          rfl

theorem number_stripped : numeral.stripped.number = numeral.number := by
  obtain ⟨count, fraction⟩ :=
    Text.exists_eq_dropEnd_append (.scalar '0') (numeral.fraction?.getD [])
  have kept : numeral.stripped.fraction?.getD [] =
      Text.dropEnd (.scalar '0') (numeral.fraction?.getD []) := getD_fractionOf _
  have digits : numeral.digits =
      ⟨numeral.stripped.digits.coefficient * tenTo count,
        numeral.stripped.digits.exponent - count⟩ := by
    have amount := Numeral.amount_append_zeros
      (numeral.whole ++ numeral.stripped.fraction?.getD []) count
    rw [List.append_assoc, kept, Numeral.zeros, ← fraction, ← kept] at amount
    have length := congrArg List.length fraction
    rw [← kept, List.length_append, List.length_replicate] at length
    rw [PlainNumeral.digits, amount, length, Nat.cast_add, neg_add, ← sub_eq_add_neg]
    rfl
  rw [number, number, digits, ScaledDecimal.value_mul_tenTo]
  rfl

theorem cut_stripped : numeral.stripped.cut = numeral.cut := rfl

theorem fraction?_stripped_ne_some_nil : numeral.stripped.fraction? ≠ some [] :=
  fractionOf_ne_some_nil _

theorem getLast?_of_fraction?_stripped {fraction : Text}
    (present : numeral.stripped.fraction? = some fraction) :
    fraction.getLast? ≠ some (.scalar '0') := by
  have same : (numeral.stripped.fraction?.getD []) = _ := getD_fractionOf _
  rw [present, Option.getD_some] at same
  rw [same]
  exact Text.getLast?_dropEnd _ _

end PlainNumeral

end BoundQuery
