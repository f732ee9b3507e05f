import BoundQuery.Proofs.RuleCourse

/-!
# The order of binding

Markers are bound from left to right. The first rule that fails ends the binding with
its own fault and leaves the state as it is at that moment, so the later parameters are
not iterated and their texts are not handed over.

The main statement compares a binding with the rules of its markers run in turn. It
holds for streams that are shared, for streams that fail part of the way, and for
escapers that fail.
-/

namespace BoundQuery

open Binding

/-! ## Markers bound in turn -/

/-- Markers whose rules succeed one after the other. The texts are those that the
escaper was given on the way. -/
inductive Passes (escaper : Escaper) :
    List (Placeholder × Value) → BindingState → List Text → BindingState → Prop
  | nil (state : BindingState) : Passes escaper [] state [] state
  | cons {placeholder : Placeholder} {value : Value} {rest : List (Placeholder × Value)}
      {state next final : BindingState} {form : Text} {entries : List Entry}
      {texts : List Text} :
      outcome (parameter escaper placeholder value) state = (.ok form, next) →
        Writes state.streams placeholder value entries →
        Passes escaper rest next texts final →
        Passes escaper ((placeholder, value) :: rest) state (itemTexts entries ++ texts)
          final

/-- The first marker whose rule fails, when the markers are bound in turn. -/
structure FirstFailure (escaper : Escaper) (markers : List (Placeholder × Value))
    (state : BindingState) where
  before : List (Placeholder × Value)
  placeholder : Placeholder
  value : Value
  after : List (Placeholder × Value)
  /-- The texts that the markers before it handed over. -/
  handed : List Text
  reached : BindingState
  fault : Fault
  final : BindingState
  split : markers = before ++ (placeholder, value) :: after
  passes : Passes escaper before state handed reached
  fails : outcome (parameter escaper placeholder value) reached = (.error fault, final)

section Markers

variable {escaper : Escaper} {markers : List (Placeholder × Value)}
variable {state final : BindingState} {texts : List Text}

theorem Passes.escaped (passes : Passes escaper markers state texts final) :
    final.escaped = state.escaped ++ texts := by
  induction passes with
  | nil state => exact (List.append_nil _).symm
  | cons bound writes _ inductionHypothesis =>
      obtain ⟨entries, written, _, escaped⟩ := rule_succeeds bound
      rw [inductionHypothesis, escaped, writes.unique written, List.append_assoc]

theorem Passes.usesUp (passes : Passes escaper markers state texts final) :
    UsesUp markers state.streams final.streams := by
  induction passes with
  | nil state => exact usesUp_nil state.streams
  | cons bound _ _ inductionHypothesis =>
      exact (usesUp_parameter bound).append inductionHypothesis

theorem FirstFailure.escaped (failure : FirstFailure escaper markers state) :
    ∃ unfinished,
      RuleFails escaper failure.reached.streams failure.placeholder failure.value
        failure.fault unfinished ∧
      failure.final.escaped = state.escaped ++ failure.handed ++ unfinished := by
  obtain ⟨unfinished, fails, escaped⟩ := rule_fails failure.fails
  exact ⟨unfinished, fails, by rw [escaped, failure.passes.escaped]⟩

theorem FirstFailure.usesUp (failure : FirstFailure escaper markers state) :
    UsesUp (failure.before ++ [(failure.placeholder, failure.value)]) state.streams
      failure.final.streams :=
  failure.passes.usesUp.append (usesUp_parameter failure.fails)

/-- Markers fail at a first one, or all of them pass. -/
theorem fails_or_passes
    (escaper : Escaper) (markers : List (Placeholder × Value)) (state : BindingState) :
    Nonempty (FirstFailure escaper markers state) ∨
      ∃ texts final, Passes escaper markers state texts final := by
  induction markers generalizing state with
  | nil => exact Or.inr ⟨[], state, Passes.nil state⟩
  | cons marker rest inductionHypothesis =>
      obtain ⟨placeholder, value⟩ := marker
      cases running : outcome (parameter escaper placeholder value) state with
      | mk answer next =>
          cases answer with
          | error fault =>
              exact Or.inl ⟨⟨[], placeholder, value, rest, [], state, fault, next, rfl,
                Passes.nil state, running⟩⟩
          | ok form =>
              obtain ⟨entries, writes, _⟩ := rule_succeeds running
              rcases inductionHypothesis next with ⟨⟨failure⟩⟩ | ⟨texts, final, passes⟩
              · exact Or.inl ⟨⟨(placeholder, value) :: failure.before, failure.placeholder,
                  failure.value, failure.after, itemTexts entries ++ failure.handed,
                  failure.reached, failure.fault, failure.final,
                  congrArg ((placeholder, value) :: ·) failure.split,
                  Passes.cons running writes failure.passes, failure.fails⟩⟩
              · exact Or.inr ⟨_, final, Passes.cons running writes passes⟩

end Markers

/-! ## Templates -/

namespace Template

/-- The markers among segments, each with the parameter bound to it. -/
def markers (segments : List Segment) (parameters : List Value) :
    List (Placeholder × Value) :=
  (placeholders segments).zip parameters

end Template

section Segments

variable {escaper : Escaper} {segments : List Segment} {parameters : List Value}
variable {state : BindingState}

theorem outcome_fill_of_passes
    {texts : List Text} {final : BindingState}
    (count : Template.markerCount segments = parameters.length)
    (passes : Passes escaper (Template.markers segments parameters) state texts final) :
    ∃ query, outcome (fill escaper segments parameters) state = (.ok query, final) := by
  induction segments generalizing parameters state texts with
  | nil =>
      have none : parameters = [] := List.eq_nil_of_length_eq_zero count.symm
      rw [none] at passes ⊢
      cases passes
      exact ⟨[], rfl⟩
  | cons segment rest inductionHypothesis =>
      cases segment with
      | literal text =>
          obtain ⟨query, filled⟩ := inductionHypothesis count passes
          rw [outcome_fill_literal, filled]
          exact ⟨text ++ query, rfl⟩
      | marker placeholder =>
          obtain ⟨value, others, rfl, restCount⟩ := Template.exists_cons_of_marker count
          cases passes with
          | cons bound writes following =>
              obtain ⟨query, filled⟩ := inductionHypothesis restCount following
              rw [outcome_fill_marker, bound]
              simp only [filled]
              exact ⟨_, rfl⟩

theorem outcome_fill_of_fails
    {before after : List (Placeholder × Value)} {placeholder : Placeholder}
    {value : Value} {texts : List Text} {reached final : BindingState} {fault : Fault}
    (count : Template.markerCount segments = parameters.length)
    (split : Template.markers segments parameters = before ++ (placeholder, value) :: after)
    (passes : Passes escaper before state texts reached)
    (fails : outcome (parameter escaper placeholder value) reached =
      (.error fault, final)) :
    outcome (fill escaper segments parameters) state = (.error fault, final) := by
  induction segments generalizing parameters state texts before with
  | nil => exact absurd split.symm (List.append_ne_nil_of_right_ne_nil _ (List.cons_ne_nil _ _))
  | cons segment rest inductionHypothesis =>
      cases segment with
      | literal text =>
          have filled := inductionHypothesis count split passes
          rw [outcome_fill_literal, filled]
          rfl
      | marker other =>
          obtain ⟨first, others, rfl, restCount⟩ := Template.exists_cons_of_marker count
          have markers : Template.markers (.marker other :: rest) (first :: others) =
              (other, first) :: Template.markers rest others :=
            rfl
          rw [markers] at split
          rw [outcome_fill_marker]
          cases passes with
          | nil state =>
              have same := (List.cons.inj split).1
              cases same
              rw [fails]
          | cons bound writes following =>
              have same := (List.cons.inj split).1
              cases same
              rw [bound]
              simp only [inductionHypothesis restCount (List.cons.inj split).2 following]
              rfl

end Segments

theorem outcome_template_of_unfit
    (escaper : Escaper) {template : Value} {parameters : List Value}
    (state : BindingState)
    (unfit : ∀ text, template = Value.text text →
      Template.markerCount (Template.segments text) ≠ parameters.length) :
    ∃ issue, outcome (Binding.template escaper template parameters) state =
      (.error (.binding issue), state) := by
  by_cases isText : ∃ text, template = Value.text text
  · obtain ⟨text, rfl⟩ := isText
    have refused := template_of_wrong_count escaper text parameters state (unfit text rfl)
    exact ⟨_, by rw [outcome, refused]⟩
  · refine ⟨.templateNotText template, ?_⟩
    cases template with
    | scalar content =>
        cases content with
        | text text => exact absurd ⟨text, rfl⟩ isText
        | _ => rfl
    | _ => rfl

theorem template_eq_fill
    (escaper : Escaper) {text : Text} {parameters : List Value}
    (count : Template.markerCount (Template.segments text) = parameters.length) :
    Binding.template escaper (Value.text text) parameters =
      fill escaper (Template.segments text) parameters := by
  simp only [Binding.template, Value.text, if_pos count]

/-- A template that is no text, or that has another number of markers than there are
parameters, is refused before anything is done. Otherwise the rules of the markers run
from left to right: the first one that fails ends the binding with its fault and leaves
the state as it is then, and without one a query is made. The streams that the rules
have reached are used up and all others are untouched, and the escaper was given, in
order, the texts of the items written before the failure, and the text on which it
failed itself. -/
theorem template_binds_left_to_right
    (escaper : Escaper) (template : Value) (parameters : List Value)
    (state : BindingState) :
    ((∀ text, template = Value.text text →
        Template.markerCount (Template.segments text) ≠ parameters.length) →
      ∃ issue, outcome (Binding.template escaper template parameters) state =
        (.error (.binding issue), state)) ∧
    ∀ text, template = Value.text text →
      Template.markerCount (Template.segments text) = parameters.length →
        (∀ failure : FirstFailure escaper
            (Template.markers (Template.segments text) parameters) state,
          outcome (Binding.template escaper template parameters) state =
              (.error failure.fault, failure.final) ∧
            UsesUp (failure.before ++ [(failure.placeholder, failure.value)])
              state.streams failure.final.streams ∧
            ∃ unfinished,
              RuleFails escaper failure.reached.streams failure.placeholder
                failure.value failure.fault unfinished ∧
              failure.final.escaped = state.escaped ++ failure.handed ++ unfinished) ∧
        (∀ texts final,
          Passes escaper (Template.markers (Template.segments text) parameters) state
            texts final →
          (∃ query, outcome (Binding.template escaper template parameters) state =
              (.ok query, final)) ∧
            UsesUp (Template.markers (Template.segments text) parameters)
              state.streams final.streams ∧
            final.escaped = state.escaped ++ texts) ∧
        (Nonempty (FirstFailure escaper
            (Template.markers (Template.segments text) parameters) state) ∨
          ∃ texts final,
            Passes escaper (Template.markers (Template.segments text) parameters) state
              texts final) := by
  refine ⟨outcome_template_of_unfit escaper state, ?_⟩
  rintro text rfl count
  rw [template_eq_fill escaper count]
  refine ⟨?_, ?_, fails_or_passes escaper _ state⟩
  · intro failure
    exact ⟨outcome_fill_of_fails count failure.split failure.passes failure.fails,
      failure.usesUp, failure.escaped⟩
  · intro texts final passes
    exact ⟨outcome_fill_of_passes count passes, passes.usesUp, passes.escaped⟩

/-- A stream that an array has used up leaves nothing for a mapping, and the array after
the mapping is not reached. -/
def usedUpFailure :
    FirstFailure QuoteMode.doubled.escaper
      (Template.markers (Template.segments (Text.ofString "?s, ?a, ?u, ?a"))
        [Value.text (Text.ofString "it's"), .stream 0, .stream 0, .stream 1])
      ⟨[[.item (.integer 7), .item .null], [.item .null]], []⟩ where
  before := [(.string, Value.text (Text.ofString "it's")), (.array, .stream 0)]
  placeholder := .mapping
  value := .stream 0
  after := [(.array, .stream 1)]
  handed := [Text.ofString "it's", Text.ofString "7"]
  reached := ⟨[[], [.item .null]], [Text.ofString "it's", Text.ofString "7"]⟩
  fault := .binding (.emptyContainer .mapping)
  final := ⟨[[], [.item .null]], [Text.ofString "it's", Text.ofString "7"]⟩
  split := rfl
  passes :=
    Passes.cons rfl (Writes.string _)
      (Passes.cons rfl (Writes.array (Enumerates.stream 0 [.integer 7, .null] rfl))
        (Passes.nil _))
  fails := rfl

theorem template_binds_left_to_right_used_up :
    outcome
        (Binding.template QuoteMode.doubled.escaper
          (Value.text (Text.ofString "?s, ?a, ?u, ?a"))
          [Value.text (Text.ofString "it's"), .stream 0, .stream 0, .stream 1])
        ⟨[[.item (.integer 7), .item .null], [.item .null]], []⟩ =
      (.error (.binding (.emptyContainer .mapping)),
        ⟨[[], [.item .null]], [Text.ofString "it's", Text.ofString "7"]⟩) :=
  (((template_binds_left_to_right QuoteMode.doubled.escaper
    (Value.text (Text.ofString "?s, ?a, ?u, ?a"))
    [Value.text (Text.ofString "it's"), .stream 0, .stream 0, .stream 1]
    ⟨[[.item (.integer 7), .item .null], [.item .null]], []⟩).2
    (Text.ofString "?s, ?a, ?u, ?a") rfl rfl).1 usedUpFailure).1

end BoundQuery
