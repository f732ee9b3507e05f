import BoundQuery.Proofs.DisplayedDoubles
import BoundQuery.Proofs.Outcome
import Mathlib.Data.List.Forall2

/-!
# Accepted parameters

Each placeholder takes some values and refuses all others. The sets of values are
described here by the shape of the values alone: which scalars have a written form,
which texts are numerals, which names are identifiers, and what a container enumerates.

The main statement says that a query is made exactly of a text as template and as many
parameters as it has markers, each of which its placeholder takes. The query is then the
literal texts with the form of each parameter in its place, and in every other case the
binding is refused with a binding issue.
-/

namespace BoundQuery

/-! ## Numerals and names -/

/-- An optional minus sign, one or more digits, and then perhaps a point, after which
further digits may come. -/
def IsNumeral (text : Text) : Prop :=
  ∃ sign whole fraction : Text, text = sign ++ whole ++ fraction ∧
    (sign = [] ∨ sign = [CodePoint.scalar '-']) ∧
    (whole ≠ [] ∧ ∀ point ∈ whole, point.isDigit = true) ∧
    (fraction = [] ∨ ∃ digits, fraction = CodePoint.scalar '.' :: digits ∧
      ∀ point ∈ digits, point.isDigit = true)

/-- A code point of the basic plane that is neither null nor a surrogate. -/
def IsNamePoint (point : CodePoint) : Prop :=
  1 ≤ point.value ∧ point.value ≤ 0xFFFF ∧
    ¬ (0xD800 ≤ point.value ∧ point.value ≤ 0xDFFF)

theorem isIdentifierPoint_iff (point : CodePoint) :
    point.isIdentifierPoint = true ↔ IsNamePoint point := by
  unfold IsNamePoint
  cases point with
  | surrogate offset =>
      have range : 0xD800 ≤ (CodePoint.surrogate offset).value ∧
          (CodePoint.surrogate offset).value ≤ 0xDFFF := by
        have bound := offset.isLt
        simp only [CodePoint.value]
        omega
      refine iff_of_false ?_ (fun named => named.2.2 range)
      simp [CodePoint.isIdentifierPoint, CodePoint.isSurrogate]
  | scalar character =>
      have valid : character.toNat < 0xD800 ∨
          0xDFFF < character.toNat ∧ character.toNat < 0x110000 :=
        character.valid
      simp only [CodePoint.isIdentifierPoint, CodePoint.isSurrogate, Bool.not_false,
        Bool.true_and, Bool.and_eq_true, bne_iff_ne, ne_eq, decide_eq_true_eq]
      simp only [CodePoint.value]
      omega

theorem isUnsignedNumeric_iff_exists (text : Text) :
    isUnsignedNumeric text = true ↔
      ∃ whole fraction : Text, text = whole ++ fraction ∧
        (whole ≠ [] ∧ ∀ point ∈ whole, point.isDigit = true) ∧
        (fraction = [] ∨ ∃ digits, fraction = CodePoint.scalar '.' :: digits ∧
          ∀ point ∈ digits, point.isDigit = true) := by
  rw [isUnsignedNumeric_iff]
  constructor
  · intro numeric
    obtain ⟨nonempty, wholeDigits, fractionDigits⟩ := numeric
    have split := Text.eq_splitFirst (.scalar '.') text
    cases rest : (Text.splitFirst (.scalar '.') text).2 with
    | none =>
        rw [rest] at split
        exact ⟨_, [], split, ⟨nonempty, wholeDigits⟩, Or.inl rfl⟩
    | some digits =>
        rw [rest] at split fractionDigits
        exact ⟨_, _, split, ⟨nonempty, wholeDigits⟩,
          Or.inr ⟨digits, rfl, fractionDigits⟩⟩
  · intro numeric
    obtain ⟨whole, fraction, same, ⟨nonempty, wholeDigits⟩, rest⟩ := numeric
    have absent : CodePoint.scalar '.' ∉ whole :=
      Text.not_mem_of_digits wholeDigits (by decide)
    rcases rest with empty | ⟨digits, pointed, fractionDigits⟩
    · have split : Text.splitFirst (.scalar '.') text = (whole, none) := by
        rw [same, empty, List.append_nil]
        exact Text.splitFirst_eq_self _ whole absent
      rw [split]
      exact ⟨nonempty, wholeDigits, fun _ member => absurd member List.not_mem_nil⟩
    · have split : Text.splitFirst (.scalar '.') text = (whole, some digits) := by
        rw [same, pointed]
        exact Text.splitFirst_append _ digits absent
      rw [split]
      exact ⟨nonempty, wholeDigits, fractionDigits⟩

theorem isNumeric_iff (text : Text) : isNumeric text = true ↔ IsNumeral text := by
  cases text with
  | nil =>
      refine iff_of_false (by decide) ?_
      intro numeral
      obtain ⟨sign, whole, fraction, same, _, ⟨nonempty, _⟩, _⟩ := numeral
      have parts := List.append_eq_nil_iff.mp same.symm
      exact nonempty (List.append_eq_nil_iff.mp parts.1).2
  | cons first rest =>
      rw [isNumeric]
      unfold IsNumeral
      by_cases minus : first = CodePoint.scalar '-'
      · rw [if_pos minus, isUnsignedNumeric_iff_exists]
        constructor
        · intro numeric
          obtain ⟨whole, fraction, same, digits⟩ := numeric
          refine ⟨[CodePoint.scalar '-'], whole, fraction, ?_, Or.inr rfl, digits⟩
          rw [minus, same]
          rfl
        · intro numeral
          obtain ⟨sign, whole, fraction, same, signs, digits⟩ := numeral
          rcases signs with none | signed
          · obtain ⟨head, tail, rfl⟩ := List.exists_cons_of_ne_nil digits.1.1
            have digit := digits.1.2 head List.mem_cons_self
            rw [none] at same
            rw [← (List.cons.inj same).1, minus] at digit
            exact absurd digit (by decide)
          · rw [signed] at same
            exact ⟨whole, fraction, (List.cons.inj same).2, digits⟩
      · rw [if_neg minus, isUnsignedNumeric_iff_exists]
        constructor
        · intro numeric
          obtain ⟨whole, fraction, same, digits⟩ := numeric
          exact ⟨[], whole, fraction, same, Or.inl rfl, digits⟩
        · intro numeral
          obtain ⟨sign, whole, fraction, same, signs, digits⟩ := numeral
          rcases signs with none | signed
          · rw [none] at same
            exact ⟨whole, fraction, same, digits⟩
          · rw [signed] at same
            exact absurd (List.cons.inj same).1 minus

/-! ## Answers under a condition -/

/-- An answer is given exactly under a condition, and refused as a binding issue
otherwise. -/
structure GivenIff {result : Type} (condition : Prop) (answer : Except Fault result) :
    Prop where
  given_iff : (∃ value, answer = .ok value) ↔ condition
  refused : ∀ fault, answer = .error fault → ∃ issue, fault = .binding issue

namespace GivenIff

variable {result target : Type} {condition other : Prop}

theorem of_ok (holds : condition) (value : result) :
    GivenIff condition (.ok value) :=
  ⟨iff_of_true ⟨value, rfl⟩ holds, fun _ same => by cases same⟩

theorem of_error (fails : ¬ condition) (issue : BindingIssue) :
    GivenIff condition (.error (.binding issue) : Except Fault result) := by
  refine ⟨iff_of_false ?_ fails, ?_⟩
  · intro given
    obtain ⟨_, same⟩ := given
    cases same
  · intro fault same
    cases same
    exact ⟨issue, rfl⟩

theorem congr
    {answer : Except Fault result} (given : GivenIff condition answer)
    (same : condition ↔ other) : GivenIff other answer :=
  ⟨given.given_iff.trans same, given.refused⟩

theorem map
    {answer : Except Fault result} (given : GivenIff condition answer)
    (function : result → target) : GivenIff condition (answer.map function) := by
  cases answer with
  | ok value => exact of_ok (given.given_iff.mp ⟨value, rfl⟩) (function value)
  | error fault =>
      obtain ⟨issue, rfl⟩ := given.refused fault rfl
      apply of_error
      intro holds
      obtain ⟨_, same⟩ := given.given_iff.mpr holds
      cases same

theorem bind
    {answer : Except Fault result} {following : result → Except Fault target}
    (given : GivenIff condition answer)
    (later : ∀ value, answer = .ok value → GivenIff other (following value)) :
    GivenIff (condition ∧ other) (answer >>= following) := by
  cases answer with
  | ok value =>
      have holds := given.given_iff.mp ⟨value, rfl⟩
      exact (later value rfl).congr (by simp [holds])
  | error fault =>
      obtain ⟨issue, rfl⟩ := given.refused fault rfl
      apply of_error
      intro both
      obtain ⟨_, same⟩ := given.given_iff.mpr both.1
      cases same

/-- A row of answers is given exactly when each of them is. -/
theorem mapM
    {source : Type} {conditions : source → Prop}
    {function : source → Except Fault target} (list : List source)
    (given : ∀ item ∈ list, GivenIff (conditions item) (function item)) :
    GivenIff (∀ item ∈ list, conditions item) (list.mapM function) := by
  induction list with
  | nil => exact of_ok (fun _ member => absurd member List.not_mem_nil) []
  | cons item rest inductionHypothesis =>
      have first := given item List.mem_cons_self
      have following := inductionHypothesis
        (fun next member => given next (List.mem_cons_of_mem item member))
      have attached : ∀ head : target,
          GivenIff (∀ next ∈ rest, conditions next)
            ((rest.mapM function).map fun tail => head :: tail) :=
        fun head => following.map fun tail => head :: tail
      have whole : GivenIff (conditions item ∧ ∀ next ∈ rest, conditions next)
          (function item >>= fun head =>
            (rest.mapM function).map fun tail => head :: tail) :=
        first.bind fun head _ => attached head
      rw [List.mapM_cons]
      exact whole.congr List.forall_mem_cons.symm

end GivenIff

/-! ## Written forms -/

theorem Double.givenIff_plain (number : Double) :
    GivenIff (number.isFinite = true) number.plain := by
  cases finite : number.isFinite with
  | true =>
      rw [plain_of_isFinite finite]
      exact GivenIff.of_ok rfl _
  | false =>
      rw [plain_of_not_finite finite]
      exact GivenIff.of_error Bool.false_ne_true _

theorem Decimal.givenIff_plain (number : Decimal) :
    GivenIff (number.isFinite = true) number.plain := by
  cases number with
  | finite negative digits => exact GivenIff.of_ok rfl _
  | infinite negative => exact GivenIff.of_error Bool.false_ne_true _
  | notANumber negative signalling payload => exact GivenIff.of_error Bool.false_ne_true _

namespace Scalar

/-- Every scalar is written except for the numbers that are not finite. -/
def IsWritable : Scalar → Prop
  | text _ => True
  | flag _ => True
  | integer _ => True
  | double number => number.isFinite = true
  | decimal number => number.isFinite = true

theorem givenIff_written (content : Scalar) :
    GivenIff content.IsWritable content.written := by
  cases content with
  | text content => exact GivenIff.of_ok trivial content
  | flag value => cases value <;> exact GivenIff.of_ok trivial _
  | integer number => exact GivenIff.of_ok trivial _
  | double number => exact number.givenIff_plain.map dropFractionZeros
  | decimal number => exact number.givenIff_plain

end Scalar

namespace Value

/-- The values that a string marker takes. -/
def IsLiteral : Value → Prop
  | null => True
  | scalar content => content.IsWritable
  | _ => False

/-- The values that an integer marker takes. -/
def IsIntegral : Value → Prop
  | null => True
  | scalar (.integer _) => True
  | scalar (.double number) => number.isFinite = true
  | scalar (.decimal number) => number.isFinite = true
  | scalar (.text content) => IsNumeral content
  | _ => False

/-- The values that an identifier marker takes. -/
def IsName (value : Value) : Prop :=
  ∃ content name, value = scalar content ∧ content.written = .ok name ∧
    name ≠ [] ∧ ∀ point ∈ name, IsNamePoint point

/-- The values that a part marker takes. -/
def IsPart : Value → Prop
  | scalar content => content.IsWritable
  | _ => False

end Value

/-- An escaper that never fails. -/
def Escaper.IsTotal (escaper : Escaper) : Prop :=
  ∀ text, ∃ escaped, escaper text = .ok escaped

theorem givenIff_literalForm
    {escaper : Escaper} (total : escaper.IsTotal) (value : Value) :
    GivenIff value.IsLiteral (value.literalForm escaper) := by
  cases value with
  | null => exact GivenIff.of_ok trivial _
  | scalar content =>
      have escapes : ∀ text, GivenIff True
          (escaper text >>= fun escaped =>
            Except.ok (singleQuote :: escaped ++ [singleQuote])) := by
        intro text
        obtain ⟨escaped, same⟩ := total text
        rw [same]
        exact GivenIff.of_ok trivial _
      have whole := content.givenIff_written.bind fun text _ => escapes text
      exact whole.congr (and_iff_left trivial)
  | _ => exact GivenIff.of_error id _

theorem givenIff_integerForm (value : Value) :
    GivenIff value.IsIntegral value.integerForm := by
  cases value with
  | null => exact GivenIff.of_ok trivial _
  | scalar content =>
      cases content with
      | text content =>
          by_cases numeric : isNumeric content = true
          · simp only [Value.integerForm, if_pos numeric]
            exact GivenIff.of_ok ((isNumeric_iff content).mp numeric) _
          · simp only [Value.integerForm, if_neg numeric]
            exact GivenIff.of_error
              (fun numeral => numeric ((isNumeric_iff content).mpr numeral)) _
      | flag value => exact GivenIff.of_error id _
      | integer number => exact GivenIff.of_ok trivial _
      | double number => exact number.givenIff_plain.map integerPart
      | decimal number => exact number.givenIff_plain.map integerPart
  | _ => exact GivenIff.of_error id _

theorem givenIff_partForm (value : Value) :
    GivenIff value.IsPart value.partForm := by
  cases value with
  | scalar content => exact content.givenIff_written
  | _ => exact GivenIff.of_error id _

/-- A name is quoted when it is nonempty and has valid code points only. -/
theorem givenIff_quoted_name (name : Text) :
    GivenIff (name ≠ [] ∧ ∀ point ∈ name, IsNamePoint point)
      (if name = [] then .error (.binding .emptyIdentifier)
        else if name.all CodePoint.isIdentifierPoint then .ok (quoteIdentifier name)
        else .error (.binding (.invalidIdentifier name))) := by
  have valid : name.all CodePoint.isIdentifierPoint = true ↔
      ∀ point ∈ name, IsNamePoint point := by
    simp only [List.all_eq_true, isIdentifierPoint_iff]
  by_cases empty : name = []
  · rw [if_pos empty]
    exact GivenIff.of_error (fun both => both.1 empty) _
  · rw [if_neg empty]
    by_cases all : name.all CodePoint.isIdentifierPoint = true
    · rw [if_pos all]
      exact GivenIff.of_ok ⟨empty, valid.mp all⟩ _
    · rw [if_neg all]
      exact GivenIff.of_error (fun both => all (valid.mpr both.2)) _

theorem givenIff_identifierForm (value : Value) :
    GivenIff value.IsName value.identifierForm := by
  cases value with
  | scalar content =>
      have named : (Value.scalar content).IsName ↔
          content.IsWritable ∧ ∀ name, content.written = .ok name →
            name ≠ [] ∧ ∀ point ∈ name, IsNamePoint point := by
        rw [← content.givenIff_written.given_iff]
        constructor
        · intro holds
          obtain ⟨_, name, same, written, valid⟩ := holds
          cases same
          refine ⟨⟨name, written⟩, fun other otherWritten => ?_⟩
          rw [written] at otherWritten
          cases otherWritten
          exact valid
        · intro holds
          obtain ⟨⟨name, written⟩, valid⟩ := holds
          exact ⟨content, name, rfl, written, valid name written⟩
      refine (content.givenIff_written.bind ?_).congr named.symm
      intro name written
      apply (givenIff_quoted_name name).congr
      constructor
      · intro valid other otherWritten
        rw [written] at otherWritten
        cases otherWritten
        exact valid
      · intro valid
        exact valid name written
  | _ =>
      apply GivenIff.of_error
      intro named
      obtain ⟨_, _, same, _⟩ := named
      cases same

/-! ## Containers -/

/-- The entries of a container, in order. Containers without keys of their own number
their items, and a stream has the items that it still gives. -/
inductive Enumerates (streams : Streams) : Value → List Entry → Prop
  | sequence (form : SequenceForm) (items : List Value) :
      Enumerates streams (.sequence form items) (numberedEntries items)
  | mapping (form : MappingForm) (entries : List Entry) :
      Enumerates streams (.mapping form entries) entries
  | range (start stop step : Int) :
      Enumerates streams (.range start stop step)
        (numberedEntries (rangeItems start stop step))
  | view (content : List UInt8) :
      Enumerates streams (.bytes .view content)
        (numberedEntries (content.map fun byte => Value.integer byte.toNat))
  | stream (number : Nat) (items : List Value) :
      streams.getD number [] = items.map StreamStep.item →
        Enumerates streams (.stream number) (numberedEntries items)

/-- Steps none of which fails. -/
def IsCalm (steps : List StreamStep) : Prop :=
  ∀ error, StreamStep.failure error ∉ steps

theorem gather_map_item (items : List Value) :
    gather (items.map StreamStep.item) = .ok items := by
  induction items with
  | nil => rfl
  | cons item rest inductionHypothesis =>
      rw [List.map_cons, gather, inductionHypothesis]
      rfl

theorem exists_items_of_calm
    {steps : List StreamStep} (calm : IsCalm steps) :
    ∃ items : List Value, steps = items.map StreamStep.item := by
  induction steps with
  | nil => exact ⟨[], rfl⟩
  | cons step rest inductionHypothesis =>
      obtain ⟨items, same⟩ := inductionHypothesis
        (fun error member => calm error (List.mem_cons_of_mem step member))
      cases step with
      | item value => exact ⟨value :: items, by rw [same]; rfl⟩
      | failure error => exact absurd List.mem_cons_self (calm error)

theorem entriesForm_of_enumerates
    {streams : Streams} (placeholder : Placeholder) {value : Value}
    {entries : List Entry} (enumerated : Enumerates streams value entries) :
    value.entriesForm (value.steps streams) placeholder = .ok entries := by
  cases enumerated with
  | stream number items given =>
      have steps : (Value.stream number).steps streams = streams.getD number [] := rfl
      rw [steps, given, Value.entriesForm, Value.contents?]
      simp only [gather_map_item]
      rfl
  | _ => rfl

/-- A value enumerates its entries, or is refused as no container. -/
theorem enumerates_or_refused
    {streams : Streams} (placeholder : Placeholder) {value : Value}
    (calm : IsCalm (value.steps streams)) :
    (∃ entries, Enumerates streams value entries) ∨
      value.entriesForm (value.steps streams) placeholder =
        .error (.binding (.notContainer placeholder value)) := by
  cases value with
  | sequence form items => exact Or.inl ⟨_, Enumerates.sequence form items⟩
  | mapping form entries => exact Or.inl ⟨_, Enumerates.mapping form entries⟩
  | range start stop step => exact Or.inl ⟨_, Enumerates.range start stop step⟩
  | stream number =>
      obtain ⟨items, given⟩ := exists_items_of_calm calm
      exact Or.inl ⟨_, Enumerates.stream number items given⟩
  | bytes form content =>
      cases form with
      | view => exact Or.inl ⟨_, Enumerates.view content⟩
      | _ => exact Or.inr rfl
  | _ => exact Or.inr rfl

/-- Values that enumerate some entries, all of which satisfy a condition. -/
def HoldsEntries
    (streams : Streams) (condition : Entry → Prop) (value : Value) : Prop :=
  ∃ entries, Enumerates streams value entries ∧ entries ≠ [] ∧
    ∀ entry ∈ entries, condition entry

theorem givenIff_container
    {streams : Streams} (placeholder : Placeholder) {value : Value}
    {condition : Entry → Prop} {form : Entry → Except Fault Text}
    (calm : IsCalm (value.steps streams))
    (given : ∀ entry, GivenIff (condition entry) (form entry)) :
    GivenIff (HoldsEntries streams condition value)
      (do
        let found ← value.someEntriesForm (value.steps streams) placeholder
        let texts ← found.mapM form
        return Binding.commaSeparated texts) := by
  rcases enumerates_or_refused placeholder calm with ⟨entries, enumerated⟩ | refused
  · have entered := entriesForm_of_enumerates placeholder enumerated
    have known : ∀ other, Enumerates streams value other → other = entries := by
      intro other otherEnumerated
      have otherEntered := entriesForm_of_enumerates placeholder otherEnumerated
      rw [entered] at otherEntered
      exact (Except.ok.inj otherEntered).symm
    cases entries with
    | nil =>
        have empty : value.someEntriesForm (value.steps streams) placeholder =
            .error (.binding (.emptyContainer placeholder)) := by
          rw [Value.someEntriesForm, entered]
          rfl
        rw [empty]
        apply GivenIff.of_error
        intro holds
        obtain ⟨others, otherEnumerated, nonempty, _⟩ := holds
        exact nonempty (known others otherEnumerated)
    | cons first rest =>
        have some : value.someEntriesForm (value.steps streams) placeholder =
            .ok (first :: rest) := by
          rw [Value.someEntriesForm, entered]
          rfl
        rw [some]
        have row := GivenIff.mapM (first :: rest) fun entry _ => given entry
        apply (row.map Binding.commaSeparated).congr
        constructor
        · intro all
          exact ⟨first :: rest, enumerated, List.cons_ne_nil _ _, all⟩
        · intro holds
          obtain ⟨others, otherEnumerated, _, all⟩ := holds
          rw [known others otherEnumerated] at all
          exact all
  · have none : value.someEntriesForm (value.steps streams) placeholder =
        .error (.binding (.notContainer placeholder value)) := by
      rw [Value.someEntriesForm, refused]
      rfl
    rw [none]
    apply GivenIff.of_error
    intro holds
    obtain ⟨entries, enumerated, _⟩ := holds
    rw [entriesForm_of_enumerates placeholder enumerated] at refused
    cases refused

/-! ## Placeholders -/

/-- The values that a marker takes. -/
def Accepts (streams : Streams) : Placeholder → Value → Prop
  | .string, value => value.IsLiteral
  | .integer, value => value.IsIntegral
  | .identifier, value => value.IsName
  | .array, value => HoldsEntries streams (fun entry => entry.2.IsLiteral) value
  | .mapping, value =>
      HoldsEntries streams (fun entry => entry.1.IsName ∧ entry.2.IsLiteral) value
  | .part, value => value.IsPart

theorem givenIff_assignmentForm
    {escaper : Escaper} (total : escaper.IsTotal) (entry : Entry) :
    GivenIff (entry.1.IsName ∧ entry.2.IsLiteral) (assignmentForm escaper entry) :=
  (givenIff_identifierForm entry.1).bind fun name _ =>
    (givenIff_literalForm total entry.2).map fun content =>
      name ++ CodePoint.scalar '=' :: content

theorem givenIff_form
    {escaper : Escaper} {streams : Streams} (total : escaper.IsTotal)
    (placeholder : Placeholder) {value : Value} (calm : IsCalm (value.steps streams)) :
    GivenIff (Accepts streams placeholder value)
      (value.form escaper (value.steps streams) placeholder) := by
  cases placeholder with
  | string => exact givenIff_literalForm total value
  | integer => exact givenIff_integerForm value
  | identifier => exact givenIff_identifierForm value
  | part => exact givenIff_partForm value
  | array =>
      exact givenIff_container .array calm
        (fun entry => givenIff_literalForm total entry.2)
  | mapping => exact givenIff_container .mapping calm (givenIff_assignmentForm total)

/-! ## Bound queries -/

theorem mapM_eq_ok_iff_forall₂
    {source target : Type} {function : source → Except Fault target}
    {list : List source} {results : List target} :
    list.mapM function = .ok results ↔
      List.Forall₂ (fun item result => function item = .ok result) list results := by
  induction list generalizing results with
  | nil =>
      rw [List.forall₂_nil_left_iff]
      constructor
      · intro same
        exact (Except.ok.inj same).symm
      · intro same
        rw [same]
        rfl
  | cons item rest inductionHypothesis =>
      rw [mapM_cons_eq_ok_iff, List.forall₂_cons_left_iff]
      simp only [inductionHypothesis]

theorem formOf_eq_outcome
    (escaper : Escaper) (streams : Streams) (pair : Placeholder × Value) :
    formOf escaper streams pair =
      (Binding.outcome (Binding.parameter escaper pair.1 pair.2) ⟨streams, []⟩).1 := by
  rw [Binding.outcome_parameter]
  rfl

theorem forms_of_bind_eq_ok
    {escaper : Escaper} {text query : Text} {parameters : List Value}
    {streams : Streams} (unshared : Unshared parameters)
    (made : Statement.bind escaper ⟨Value.text text, parameters, streams⟩ = .ok query) :
    ∃ forms,
      List.Forall₂ (fun pair form => formOf escaper streams pair = .ok form)
        ((Template.placeholders (Template.segments text)).zip parameters) forms ∧
      query = Template.weave (Template.segments text) forms := by
  have count := Statement.count_of_bind_eq_ok made
  rw [Statement.bind_of_count escaper text parameters streams count unshared] at made
  cases forming : ((Template.placeholders (Template.segments text)).zip
      parameters).mapM (formOf escaper streams) with
  | error fault =>
      rw [forming] at made
      cases made
  | ok forms =>
      rw [forming] at made
      exact ⟨forms, mapM_eq_ok_iff_forall₂.mp forming, (Except.ok.inj made).symm⟩

theorem givenIff_bind_text
    {escaper : Escaper} (total : escaper.IsTotal) (text : Text)
    {parameters : List Value} {streams : Streams}
    (calm : ∀ value ∈ parameters, IsCalm (value.steps streams))
    (unshared : Unshared parameters) :
    GivenIff
      (Template.markerCount (Template.segments text) = parameters.length ∧
        ∀ pair ∈ (Template.placeholders (Template.segments text)).zip parameters,
          Accepts streams pair.1 pair.2)
      (Statement.bind escaper ⟨Value.text text, parameters, streams⟩) := by
  by_cases count :
      Template.markerCount (Template.segments text) = parameters.length
  · have taken : ∀ pair ∈
        (Template.placeholders (Template.segments text)).zip parameters,
        GivenIff (Accepts streams pair.1 pair.2) (formOf escaper streams pair) :=
      fun pair member =>
        givenIff_form total pair.1 (calm pair.2 (List.of_mem_zip member).2)
    have given := GivenIff.mapM _ taken
    rw [Statement.bind_of_count escaper text parameters streams count unshared]
    apply (given.map (Template.weave (Template.segments text))).congr
    exact (and_iff_right count).symm
  · have refused := Statement.bind_of_wrong_count escaper parameters streams count
    rw [refused]
    exact GivenIff.of_error (fun both => count both.1) _

theorem givenIff_bind
    {escaper : Escaper} (total : escaper.IsTotal) (statement : Statement)
    (calm : ∀ value ∈ statement.parameters, IsCalm (value.steps statement.streams))
    (unshared : Unshared statement.parameters) :
    GivenIff
      (∃ text, statement.template = Value.text text ∧
        Template.markerCount (Template.segments text) = statement.parameters.length ∧
        ∀ pair ∈ (Template.placeholders (Template.segments text)).zip
            statement.parameters,
          Accepts statement.streams pair.1 pair.2)
      (statement.bind escaper) := by
  obtain ⟨template, parameters, streams⟩ := statement
  by_cases isText : ∃ text, template = Value.text text
  · obtain ⟨text, rfl⟩ := isText
    apply (givenIff_bind_text total text calm unshared).congr
    constructor
    · intro accepted
      exact ⟨text, rfl, accepted⟩
    · intro accepted
      obtain ⟨other, same, accepted⟩ := accepted
      cases same
      exact accepted
  · have refused := Statement.bind_of_not_text escaper parameters streams
      (fun text same => isText ⟨text, same⟩)
    rw [refused]
    apply GivenIff.of_error
    intro accepted
    obtain ⟨text, same, _⟩ := accepted
    exact isText ⟨text, same⟩

/-- A query is made exactly of a text as template and of as many parameters as it has
markers, each of which its marker takes. It then has the form that each parameter has by
itself in place of its marker. All else is refused as a binding issue. -/
theorem bind_given_iff_accepted
    {escaper : Escaper} (total : escaper.IsTotal) (statement : Statement)
    (calm : ∀ value ∈ statement.parameters, IsCalm (value.steps statement.streams))
    (unshared : Unshared statement.parameters) :
    ((∃ query, statement.bind escaper = .ok query) ↔
        ∃ text, statement.template = Value.text text ∧
          Template.markerCount (Template.segments text) =
            statement.parameters.length ∧
          ∀ pair ∈ (Template.placeholders (Template.segments text)).zip
              statement.parameters,
            Accepts statement.streams pair.1 pair.2) ∧
      (∀ text query, statement.template = Value.text text →
        statement.bind escaper = .ok query →
          ∃ forms,
            List.Forall₂
              (fun pair form =>
                (Binding.outcome (Binding.parameter escaper pair.1 pair.2)
                  ⟨statement.streams, []⟩).1 = .ok form)
              ((Template.placeholders (Template.segments text)).zip
                statement.parameters) forms ∧
            query = Template.weave (Template.segments text) forms) ∧
      ∀ fault, statement.bind escaper = .error fault →
        ∃ issue, fault = .binding issue := by
  have given := givenIff_bind total statement calm unshared
  refine ⟨given.given_iff, ?_, given.refused⟩
  intro text query isText made
  obtain ⟨template, parameters, streams⟩ := statement
  cases isText
  obtain ⟨forms, formed, woven⟩ := forms_of_bind_eq_ok unshared made
  simp only [formOf_eq_outcome] at formed
  exact ⟨forms, formed, woven⟩

/-- A stream of two texts is a mapping under positions as well as any other container. -/
theorem bind_given_iff_accepted_stream :
    QuoteMode.doubled.escaper.IsTotal ∧
      (∀ value ∈ [Value.stream 0],
        IsCalm (value.steps [[.item (.text (Text.ofString "it's")), .item .null]])) ∧
      Unshared [Value.stream 0] ∧
      ∃ query, Statement.bind QuoteMode.doubled.escaper
        ⟨Value.text (Text.ofString "SET ?u"), [Value.stream 0],
          [[.item (.text (Text.ofString "it's")), .item .null]]⟩ = .ok query := by
  have total : QuoteMode.doubled.escaper.IsTotal := fun text => ⟨_, rfl⟩
  have calm : ∀ value ∈ [Value.stream 0],
      IsCalm (value.steps
        [[.item (.text (Text.ofString "it's")), .item .null]]) := by
    intro value member error failing
    rw [List.mem_singleton.mp member] at failing
    simp [Value.steps, Value.stream?] at failing
  have unshared : Unshared [Value.stream 0] := by
    simp [Unshared, Value.stream?]
  have accepted : ∀ pair ∈
      (Template.placeholders (Template.segments (Text.ofString "SET ?u"))).zip
        [Value.stream 0],
      Accepts [[.item (.text (Text.ofString "it's")), .item .null]] pair.1 pair.2 := by
    intro pair member
    have only : pair = (.mapping, .stream 0) := List.mem_singleton.mp member
    rw [only]
    refine ⟨_, Enumerates.stream 0 [.text (Text.ofString "it's"), .null] rfl, ?_, ?_⟩
    · exact List.cons_ne_nil _ _
    · intro entry member
      rcases List.mem_pair.mp member with same | same
      · have key : (Value.integer 0).IsName :=
          (givenIff_identifierForm (.integer 0)).given_iff.mp ⟨Text.ofString "`0`", rfl⟩
        rw [same]
        exact ⟨key, trivial⟩
      · have key : (Value.integer 1).IsName :=
          (givenIff_identifierForm (.integer 1)).given_iff.mp ⟨Text.ofString "`1`", rfl⟩
        rw [same]
        exact ⟨key, trivial⟩
  exact ⟨total, calm, unshared,
    (bind_given_iff_accepted total
      ⟨Value.text (Text.ofString "SET ?u"), [Value.stream 0],
        [[.item (.text (Text.ofString "it's")), .item .null]]⟩ calm unshared).1.mpr
      ⟨Text.ofString "SET ?u", rfl, rfl, accepted⟩⟩

end BoundQuery
