import BoundQuery.Binding

/-!
# Outcomes of bindings

A binding is read here as a function from the state before it to its answer and the
state after it. Each operation gets one equation for its outcome: the answer is given by
a form, which depends on the parameter, the escaper and the steps of the parameter's own
stream alone, and the state changes by the stream used up and the texts handed over.

The main statement says that filling the segments of a template gives the segments
with the forms of the parameters in place of the markers, provided that no two
parameters name one stream.
-/

namespace BoundQuery

/-! ## Answers and states -/

namespace Binding

variable {result target : Type}

/-- The answer of a binding and the state after it. -/
def outcome (binding : Binding result) (state : BindingState) :
    Except Fault result × BindingState :=
  match binding state with
  | .ok value next => (.ok value, next)
  | .error fault next => (.error fault, next)

theorem outcome_pure (value : result) (state : BindingState) :
    outcome (pure value) state = (.ok value, state) :=
  rfl

theorem outcome_ofExcept (answer : Except Fault result) (state : BindingState) :
    outcome (ofExcept answer) state = (answer, state) := by
  cases answer <;> rfl

theorem outcome_escape
    (escaper : Escaper) (text : Text) (state : BindingState) :
    outcome (escape escaper text) state =
      (escaper text, { state with escaped := state.escaped ++ [text] }) := by
  rw [outcome, escape]
  cases escaper text <;> rfl

theorem outcome_drain (number : Nat) (state : BindingState) :
    outcome (drain number) state =
      ((gather (state.streams.getD number [])).mapError Fault.raised,
        { state with streams := state.streams.set number [] }) := by
  rw [outcome, drain]
  cases gather (state.streams.getD number []) <;> rfl

theorem outcome_bind_of_ok
    {first : Binding result} {following : result → Binding target}
    {value : result} {state next : BindingState}
    (succeeds : outcome first state = (.ok value, next)) :
    outcome (first >>= following) state = outcome (following value) next := by
  unfold outcome at succeeds ⊢
  cases run : first state with
  | ok found after =>
      rw [run] at succeeds
      cases succeeds
      simp only [bind, EStateM.bind, run]
  | error fault after =>
      rw [run] at succeeds
      cases succeeds

theorem outcome_bind_of_error
    {first : Binding result} {following : result → Binding target}
    {fault : Fault} {state next : BindingState}
    (fails : outcome first state = (.error fault, next)) :
    outcome (first >>= following) state = (.error fault, next) := by
  unfold outcome at fails ⊢
  cases run : first state with
  | ok found after =>
      rw [run] at fails
      cases fails
  | error found after =>
      rw [run] at fails
      cases fails
      simp only [bind, EStateM.bind, run]

theorem outcome_bind_pure
    (first : Binding result) (function : result → target) (state : BindingState) :
    outcome (first >>= fun value => pure (function value)) state =
      ((outcome first state).1.map function, (outcome first state).2) := by
  cases running : outcome first state with
  | mk answer next =>
      cases answer with
      | error fault =>
          rw [outcome_bind_of_error running]
          rfl
      | ok value =>
          rw [outcome_bind_of_ok running, outcome_pure]
          rfl

end Binding

/-- A row of answers succeeds when its first answer does and the others do. -/
theorem mapM_cons_eq_ok_iff
    {source target : Type} {function : source → Except Fault target}
    {first : source} {rest : List source} {results : List target} :
    (first :: rest).mapM function = .ok results ↔
      ∃ head tail, function first = .ok head ∧ rest.mapM function = .ok tail ∧
        results = head :: tail := by
  rw [List.mapM_cons]
  cases function first with
  | error fault => exact iff_of_false (by intro same; cases same) (by simp)
  | ok head =>
      cases rest.mapM function with
      | error fault => exact iff_of_false (by intro same; cases same) (by simp)
      | ok tail =>
          constructor
          · intro same
            exact ⟨head, tail, rfl, rfl, (Except.ok.inj same).symm⟩
          · intro split
            obtain ⟨_, _, headSame, tailSame, same⟩ := split
            cases headSame
            cases tailSame
            rw [same]
            rfl

/-! ## Forms of parameters -/

/-- The single-pass stream that a value names. -/
def Value.stream? : Value → Option Nat
  | .stream number => some number
  | _ => none

/-- What the stream that a value names still has to give. -/
def Value.steps (streams : Streams) (value : Value) : List StreamStep :=
  match value.stream? with
  | some number => streams.getD number []
  | none => []

namespace Value

def literalForm (escaper : Escaper) : Value → Except Fault Text
  | .null => .ok nullKeyword
  | other => do
      let content ← other.scalarFor .string
      let text ← content.written
      let escaped ← escaper text
      return singleQuote :: escaped ++ [singleQuote]

def entriesForm
    (steps : List StreamStep) (placeholder : Placeholder) (value : Value) :
    Except Fault (List Entry) :=
  match value.contents? with
  | some (.entries entries) => .ok entries
  | some (.stream _) =>
      ((gather steps).mapError Fault.raised).map numberedEntries
  | none => .error (.binding (.notContainer placeholder value))

def someEntriesForm
    (steps : List StreamStep) (placeholder : Placeholder) (value : Value) :
    Except Fault (List Entry) := do
  let found ← value.entriesForm steps placeholder
  if found.isEmpty then throw (.binding (.emptyContainer placeholder))
  else return found

end Value

def itemForm (escaper : Escaper) (entry : Entry) : Except Fault Text :=
  entry.2.literalForm escaper

def assignmentForm (escaper : Escaper) (entry : Entry) : Except Fault Text := do
  let name ← entry.1.identifierForm
  let content ← entry.2.literalForm escaper
  return name ++ CodePoint.scalar '=' :: content

/-- The form of a parameter for a placeholder, when its own stream has the given
steps left. -/
def Value.form
    (escaper : Escaper) (steps : List StreamStep) (placeholder : Placeholder)
    (value : Value) : Except Fault Text :=
  match placeholder with
  | .string => value.literalForm escaper
  | .integer => value.integerForm
  | .identifier => value.identifierForm
  | .array => do
      let found ← value.someEntriesForm steps .array
      return Binding.commaSeparated (← found.mapM (itemForm escaper))
  | .mapping => do
      let found ← value.someEntriesForm steps .mapping
      return Binding.commaSeparated (← found.mapM (assignmentForm escaper))
  | .part => value.partForm

/-! ## Texts handed to the escaper -/

def Value.handed : Value → List Text
  | .scalar content =>
      match content.written with
      | .ok text => [text]
      | .error _ => []
  | _ => []

def assignmentHanded (entry : Entry) : List Text :=
  match entry.1.identifierForm with
  | .ok _ => entry.2.handed
  | .error _ => []

/-- The texts that a row of entries hands over: those of each entry up to the first
one whose form fails, and those of that one. -/
def handedInTurn
    (form : Entry → Except Fault Text) (handed : Entry → List Text) :
    List Entry → List Text
  | [] => []
  | entry :: rest =>
      handed entry ++
        match form entry with
        | .ok _ => handedInTurn form handed rest
        | .error _ => []

namespace BindingState

def recording (state : BindingState) (texts : List Text) : BindingState :=
  { state with escaped := state.escaped ++ texts }

/-- The state after the stream that a value names has been used up. -/
def drained (state : BindingState) (value : Value) : BindingState :=
  match value.stream? with
  | some number => { state with streams := state.streams.set number [] }
  | none => state

theorem recording_nil (state : BindingState) : state.recording [] = state := by
  rw [recording, List.append_nil]

theorem recording_recording
    (state : BindingState) (first second : List Text) :
    (state.recording first).recording second = state.recording (first ++ second) := by
  simp only [recording, List.append_assoc]

end BindingState

/-! ## Outcomes of the operations -/

namespace Binding

theorem literal_scalar (escaper : Escaper) (content : Scalar) :
    literal escaper (.scalar content) = (do
      let text ← ofExcept content.written
      let escaped ← escape escaper text
      return singleQuote :: escaped ++ [singleQuote]) :=
  rfl

theorem outcome_literal
    (escaper : Escaper) (value : Value) (state : BindingState) :
    outcome (literal escaper value) state =
      (value.literalForm escaper, state.recording value.handed) := by
  cases value with
  | scalar content =>
      rw [literal_scalar]
      cases writing : content.written with
      | error fault =>
          have stops := outcome_ofExcept (.error fault : Except Fault Text) state
          rw [outcome_bind_of_error stops]
          simp [Value.literalForm, Value.scalarFor, Value.handed, writing,
            BindingState.recording_nil, bind, Except.bind]
      | ok text =>
          have starts := outcome_ofExcept (.ok text : Except Fault Text) state
          rw [outcome_bind_of_ok starts]
          have escapes := outcome_escape escaper text state
          cases escaping : escaper text with
          | error fault =>
              rw [escaping] at escapes
              rw [outcome_bind_of_error escapes]
              simp [Value.literalForm, Value.scalarFor, Value.handed, writing, escaping,
                BindingState.recording, bind, Except.bind]
          | ok escaped =>
              rw [escaping] at escapes
              rw [outcome_bind_of_ok escapes, outcome_pure]
              simp [Value.literalForm, Value.scalarFor, Value.handed, writing, escaping,
                BindingState.recording, bind, Except.bind, pure, Except.pure]
  | _ =>
      rw [show Value.handed _ = [] from rfl, BindingState.recording_nil]
      rfl

/-- One entry of a mapping as an assignment. -/
def assignment (escaper : Escaper) (entry : Entry) : Binding Text := do
  let name ← ofExcept entry.1.identifierForm
  let content ← literal escaper entry.2
  return name ++ CodePoint.scalar '=' :: content

theorem outcome_assignment
    (escaper : Escaper) (entry : Entry) (state : BindingState) :
    outcome (assignment escaper entry) state =
      (assignmentForm escaper entry, state.recording (assignmentHanded entry)) := by
  unfold assignment assignmentForm assignmentHanded
  cases naming : entry.1.identifierForm with
  | error fault =>
      have stops := outcome_ofExcept (.error fault : Except Fault Text) state
      rw [outcome_bind_of_error stops, BindingState.recording_nil]
      rfl
  | ok name =>
      have starts := outcome_ofExcept (.ok name : Except Fault Text) state
      rw [outcome_bind_of_ok starts]
      have writes := outcome_literal escaper entry.2 state
      cases writing : entry.2.literalForm escaper with
      | error fault =>
          rw [writing] at writes
          rw [outcome_bind_of_error writes]
          rfl
      | ok content =>
          rw [writing] at writes
          rw [outcome_bind_of_ok writes]
          rfl

theorem literals_eq_mapM (escaper : Escaper) (entries : List Entry) :
    literals escaper entries =
      entries.mapM fun entry => literal escaper entry.2 := by
  induction entries with
  | nil => rfl
  | cons entry rest inductionHypothesis =>
      rw [List.mapM_cons, ← inductionHypothesis]
      rfl

theorem assignments_eq_mapM (escaper : Escaper) (entries : List Entry) :
    assignments escaper entries = entries.mapM (assignment escaper) := by
  induction entries with
  | nil => rfl
  | cons entry rest inductionHypothesis =>
      rw [List.mapM_cons, ← inductionHypothesis]
      simp only [assignments, assignment, bind_assoc, pure_bind]

/-- Entries bound one after the other have the forms of the entries, and hand over
their texts in turn. -/
theorem outcome_mapM
    {step : Entry → Binding Text} {form : Entry → Except Fault Text}
    {handed : Entry → List Text}
    (stepOutcome : ∀ entry state,
      outcome (step entry) state = (form entry, state.recording (handed entry)))
    (entries : List Entry) (state : BindingState) :
    outcome (entries.mapM step) state =
      (entries.mapM form, state.recording (handedInTurn form handed entries)) := by
  induction entries generalizing state with
  | nil =>
      rw [handedInTurn, BindingState.recording_nil]
      rfl
  | cons entry rest inductionHypothesis =>
      have first := stepOutcome entry state
      simp only [List.mapM_cons, handedInTurn]
      cases forming : form entry with
      | error fault =>
          rw [forming] at first
          rw [outcome_bind_of_error first, List.append_nil]
          rfl
      | ok text =>
          rw [forming] at first
          rw [outcome_bind_of_ok first]
          have following := inductionHypothesis (state.recording (handed entry))
          rw [BindingState.recording_recording] at following
          cases followingForms : rest.mapM form with
          | error fault =>
              rw [followingForms] at following
              rw [outcome_bind_of_error following]
              rfl
          | ok texts =>
              rw [followingForms] at following
              rw [outcome_bind_of_ok following]
              rfl

theorem outcome_entries
    (placeholder : Placeholder) (value : Value) (state : BindingState) :
    outcome (entries placeholder value) state =
      (value.entriesForm (value.steps state.streams) placeholder,
        state.drained value) := by
  cases value with
  | stream number =>
      have drains := outcome_drain number state
      have enters : entries placeholder (.stream number) =
          drain number >>= fun items => pure (numberedEntries items) :=
        rfl
      rw [enters]
      cases gathering : gather (state.streams.getD number []) with
      | error error =>
          rw [gathering] at drains
          rw [outcome_bind_of_error drains]
          simp only [Value.entriesForm, Value.contents?, Value.steps, Value.stream?,
            gathering]
          rfl
      | ok items =>
          rw [gathering] at drains
          rw [outcome_bind_of_ok drains]
          simp only [Value.entriesForm, Value.contents?, Value.steps, Value.stream?,
            gathering]
          rfl
  | bytes bytesForm content => cases bytesForm <;> rfl
  | _ => rfl

theorem outcome_someEntries
    (placeholder : Placeholder) (value : Value) (state : BindingState) :
    outcome (someEntries placeholder value) state =
      (value.someEntriesForm (value.steps state.streams) placeholder,
        state.drained value) := by
  have enters := outcome_entries placeholder value state
  rw [someEntries, Value.someEntriesForm]
  cases entering : value.entriesForm (value.steps state.streams) placeholder with
  | error fault =>
      rw [entering] at enters
      rw [outcome_bind_of_error enters]
      rfl
  | ok found =>
      rw [entering] at enters
      rw [outcome_bind_of_ok enters]
      cases found <;> rfl

end Binding

/-! ## Parameters -/

/-- The texts that the form of a parameter hands to the escaper. -/
def Value.formHanded
    (escaper : Escaper) (steps : List StreamStep) (placeholder : Placeholder)
    (value : Value) : List Text :=
  match placeholder with
  | .string => value.handed
  | .array =>
      match value.someEntriesForm steps .array with
      | .ok found => handedInTurn (itemForm escaper) (fun entry => entry.2.handed) found
      | .error _ => []
  | .mapping =>
      match value.someEntriesForm steps .mapping with
      | .ok found => handedInTurn (assignmentForm escaper) assignmentHanded found
      | .error _ => []
  | .integer | .identifier | .part => []

/-- The state after the streams that a parameter iterates have been used up. Only
arrays and mappings iterate their parameter. -/
def BindingState.iterated
    (state : BindingState) (placeholder : Placeholder) (value : Value) :
    BindingState :=
  match placeholder with
  | .array | .mapping => state.drained value
  | .string | .integer | .identifier | .part => state

namespace Binding

private theorem outcome_ofExcept_recording
    (answer : Except Fault Text) (state : BindingState) :
    outcome (ofExcept answer) state = (answer, state.recording []) := by
  rw [BindingState.recording_nil]
  exact outcome_ofExcept answer state

/-- The outcome of a container, whose entries are written one after the other and
separated by commas. -/
private theorem outcome_container
    {step : Entry → Binding Text} {form : Entry → Except Fault Text}
    {handed : Entry → List Text}
    (stepOutcome : ∀ entry state,
      outcome (step entry) state = (form entry, state.recording (handed entry)))
    (placeholder : Placeholder) (value : Value) (state : BindingState) :
    outcome
        (do
          let found ← someEntries placeholder value
          let texts ← found.mapM step
          return commaSeparated texts) state =
      ((do
          let found ← value.someEntriesForm (value.steps state.streams) placeholder
          let texts ← found.mapM form
          return commaSeparated texts),
        (state.drained value).recording
          (match value.someEntriesForm (value.steps state.streams) placeholder with
            | .ok found => handedInTurn form handed found
            | .error _ => [])) := by
  have enters := outcome_someEntries placeholder value state
  cases entering : value.someEntriesForm (value.steps state.streams) placeholder with
  | error fault =>
      rw [entering] at enters
      rw [outcome_bind_of_error enters, BindingState.recording_nil]
      rfl
  | ok found =>
      rw [entering] at enters
      rw [outcome_bind_of_ok enters]
      have writes := outcome_mapM stepOutcome found (state.drained value)
      cases writing : found.mapM form with
      | error fault =>
          rw [writing] at writes
          rw [outcome_bind_of_error writes]
          simp only [bind, Except.bind, writing]
      | ok texts =>
          rw [writing] at writes
          rw [outcome_bind_of_ok writes]
          simp only [bind, Except.bind, writing]
          rfl

/-- A parameter has its form, uses up the stream that it iterates, and hands its texts
to the escaper. -/
theorem outcome_parameter
    (escaper : Escaper) (placeholder : Placeholder) (value : Value)
    (state : BindingState) :
    outcome (parameter escaper placeholder value) state =
      (value.form escaper (value.steps state.streams) placeholder,
        (state.iterated placeholder value).recording
          (value.formHanded escaper (value.steps state.streams) placeholder)) := by
  cases placeholder with
  | string => exact outcome_literal escaper value state
  | integer => exact outcome_ofExcept_recording value.integerForm state
  | identifier => exact outcome_ofExcept_recording value.identifierForm state
  | part => exact outcome_ofExcept_recording value.partForm state
  | array =>
      simp only [parameter, literals_eq_mapM]
      exact outcome_container
        (fun entry next => outcome_literal escaper entry.2 next) .array value state
  | mapping =>
      simp only [parameter, assignments_eq_mapM]
      exact outcome_container (outcome_assignment escaper) .mapping value state

end Binding

/-! ## Templates -/

namespace Template

/-- The placeholders of the markers among segments, in order. -/
def placeholders (segments : List Segment) : List Placeholder :=
  segments.filterMap Segment.placeholder?

/-- The segments of a template with texts in place of the markers, in order. -/
def weave : List Segment → List Text → Text
  | [], _ => []
  | .literal text :: rest, forms => text ++ weave rest forms
  | .marker _ :: rest, form :: forms => form ++ weave rest forms
  | .marker _ :: _, [] => []

/-- Where a marker comes first, there is a parameter for it. -/
theorem exists_cons_of_marker
    {value : Type} {placeholder : Placeholder} {rest : List Segment} {list : List value}
    (count : markerCount (.marker placeholder :: rest) = list.length) :
    ∃ first others, list = first :: others ∧ markerCount rest = others.length := by
  rw [markerCount, List.countP_cons_of_pos rfl] at count
  cases list with
  | nil => exact absurd count (Nat.succ_ne_zero _)
  | cons first others => exact ⟨first, others, rfl, Nat.succ.inj count⟩

end Template

/-- No two parameters name one stream. -/
def Unshared (parameters : List Value) : Prop :=
  (parameters.filterMap Value.stream?).Nodup

/-- The form of a parameter that finds its stream untouched. -/
def formOf
    (escaper : Escaper) (streams : Streams) (pair : Placeholder × Value) :
    Except Fault Text :=
  pair.2.form escaper (pair.2.steps streams) pair.1

theorem steps_iterated
    (state : BindingState) (placeholder : Placeholder) {value other : Value}
    (apart : ∀ number, value.stream? = some number → other.stream? ≠ some number) :
    other.steps (state.iterated placeholder value).streams =
      other.steps state.streams := by
  have untouched :
      other.steps (state.drained value).streams = other.steps state.streams := by
    unfold BindingState.drained Value.steps
    cases naming : value.stream? with
    | none => rfl
    | some number =>
        cases otherNaming : other.stream? with
        | none => rfl
        | some otherNumber =>
            have different : number ≠ otherNumber := by
              intro same
              exact apart number naming (by rw [same, otherNaming])
            simp only [List.getD_eq_getElem?_getD,
              List.getElem?_set_ne different]
  cases placeholder with
  | array => exact untouched
  | mapping => exact untouched
  | string => rfl
  | integer => rfl
  | identifier => rfl
  | part => rfl

theorem Unshared.apart
    {value : Value} {rest : List Value} (unshared : Unshared (value :: rest)) :
    ∀ other ∈ rest, ∀ number,
      value.stream? = some number → other.stream? ≠ some number := by
  intro other member number naming otherNaming
  rw [Unshared, List.filterMap_cons_some naming] at unshared
  have absent : number ∉ rest.filterMap Value.stream? :=
    (List.nodup_cons.mp unshared).1
  exact absent (List.mem_filterMap.mpr ⟨other, member, otherNaming⟩)

theorem Unshared.tail
    {value : Value} {rest : List Value} (unshared : Unshared (value :: rest)) :
    Unshared rest := by
  unfold Unshared at unshared ⊢
  cases naming : value.stream? with
  | none => rwa [List.filterMap_cons_none naming] at unshared
  | some number =>
      rw [List.filterMap_cons_some naming] at unshared
      exact (List.nodup_cons.mp unshared).2

theorem mapM_formOf_congr
    (escaper : Escaper) {streams other : Streams} {pairs : List (Placeholder × Value)}
    (same : ∀ pair ∈ pairs, pair.2.steps streams = pair.2.steps other) :
    pairs.mapM (formOf escaper streams) = pairs.mapM (formOf escaper other) := by
  induction pairs with
  | nil => rfl
  | cons pair rest inductionHypothesis =>
      have head : formOf escaper streams pair = formOf escaper other pair := by
        rw [formOf, formOf, same pair List.mem_cons_self]
      have tail := inductionHypothesis
        (fun next member => same next (List.mem_cons_of_mem pair member))
      rw [List.mapM_cons, List.mapM_cons, head, tail]

namespace Binding

theorem outcome_fill_literal
    (escaper : Escaper) (text : Text) (rest : List Segment) (parameters : List Value)
    (state : BindingState) :
    outcome (fill escaper (.literal text :: rest) parameters) state =
      ((outcome (fill escaper rest parameters) state).1.map fun query => text ++ query,
        (outcome (fill escaper rest parameters) state).2) :=
  outcome_bind_pure (fill escaper rest parameters) (fun query => text ++ query) state

/-- A marker is filled with the form of its parameter, and the segments after it are
filled from the state that the parameter leaves. A form that fails ends it all. -/
theorem outcome_fill_marker
    (escaper : Escaper) (placeholder : Placeholder) (rest : List Segment)
    (value : Value) (others : List Value) (state : BindingState) :
    outcome (fill escaper (.marker placeholder :: rest) (value :: others)) state =
      match outcome (parameter escaper placeholder value) state with
      | (.error fault, next) => (.error fault, next)
      | (.ok form, next) =>
          ((outcome (fill escaper rest others) next).1.map fun query => form ++ query,
            (outcome (fill escaper rest others) next).2) := by
  have fills : fill escaper (.marker placeholder :: rest) (value :: others) =
      parameter escaper placeholder value >>= fun form =>
        fill escaper rest others >>= fun query => pure (form ++ query) :=
    rfl
  rw [fills]
  cases running : outcome (parameter escaper placeholder value) state with
  | mk answer next =>
      cases answer with
      | error fault => exact outcome_bind_of_error running
      | ok form =>
          rw [outcome_bind_of_ok running]
          exact outcome_bind_pure (fill escaper rest others)
            (fun query => form ++ query) next

/-- Parameters that share no stream fill the markers with their forms, and the first
form that fails decides. -/
theorem outcome_fill
    (escaper : Escaper) (segments : List Segment) (parameters : List Value)
    (state : BindingState)
    (count : Template.markerCount segments = parameters.length)
    (unshared : Unshared parameters) :
    (outcome (fill escaper segments parameters) state).1 =
      (((Template.placeholders segments).zip parameters).mapM
        (formOf escaper state.streams)).map (Template.weave segments) := by
  induction segments generalizing parameters state with
  | nil =>
      have none : parameters = [] := List.eq_nil_of_length_eq_zero count.symm
      rw [none]
      rfl
  | cons segment rest inductionHypothesis =>
      cases segment with
      | literal text =>
          have restCount : Template.markerCount rest = parameters.length := by
            rw [← count]
            rfl
          have following := inductionHypothesis parameters state restCount unshared
          have sameMarkers : Template.placeholders (.literal text :: rest) =
              Template.placeholders rest :=
            rfl
          rw [outcome_fill_literal, sameMarkers, following]
          cases ((Template.placeholders rest).zip parameters).mapM
            (formOf escaper state.streams) <;> rfl
      | marker placeholder =>
          obtain ⟨value, others, rfl, restCount⟩ := Template.exists_cons_of_marker count
          have markers : Template.placeholders (.marker placeholder :: rest) =
              placeholder :: Template.placeholders rest :=
            rfl
          rw [outcome_fill_marker, outcome_parameter, markers, List.zip_cons_cons,
            List.mapM_cons, formOf]
          cases forming :
              value.form escaper (value.steps state.streams) placeholder with
          | error fault => rfl
          | ok form =>
              -- The parameters that follow find their own streams as they were, since
              -- this one can use up no stream but its own.
              have untouched :
                  ∀ pair ∈ (Template.placeholders rest).zip others,
                    pair.2.steps ((state.iterated placeholder value).recording
                      (value.formHanded escaper (value.steps state.streams)
                        placeholder)).streams =
                      pair.2.steps state.streams := by
                intro pair member
                have listed : pair.2 ∈ others := (List.of_mem_zip member).2
                exact steps_iterated state placeholder (unshared.apart pair.2 listed)
              have following := inductionHypothesis others
                ((state.iterated placeholder value).recording
                  (value.formHanded escaper (value.steps state.streams) placeholder))
                restCount unshared.tail
              rw [mapM_formOf_congr escaper untouched] at following
              simp only [following]
              cases ((Template.placeholders rest).zip others).mapM
                (formOf escaper state.streams) <;> rfl

end Binding

namespace Statement

theorem bind_eq_outcome (escaper : Escaper) (statement : Statement) :
    statement.bind escaper =
      (Binding.outcome
        (Binding.template escaper statement.template statement.parameters)
        ⟨statement.streams, []⟩).1 := by
  rw [Statement.bind, Binding.outcome]
  cases Binding.template escaper statement.template statement.parameters
    ⟨statement.streams, []⟩ <;> rfl

/-- A template with as many parameters as markers, which share no stream, makes the
query that has the forms of the parameters in place of the markers. -/
theorem bind_of_count
    (escaper : Escaper) (text : Text) (parameters : List Value) (streams : Streams)
    (count : Template.markerCount (Template.segments text) = parameters.length)
    (unshared : Unshared parameters) :
    bind escaper ⟨Value.text text, parameters, streams⟩ =
      (((Template.placeholders (Template.segments text)).zip parameters).mapM
        (formOf escaper streams)).map (Template.weave (Template.segments text)) := by
  have fills : Binding.template escaper (Value.text text) parameters =
      Binding.fill escaper (Template.segments text) parameters := by
    simp only [Binding.template, Value.text, if_pos count]
  rw [bind_eq_outcome, fills]
  exact Binding.outcome_fill escaper (Template.segments text) parameters
    ⟨streams, []⟩ count unshared

/-- Only a text is bound. -/
theorem bind_of_not_text
    (escaper : Escaper) {template : Value} (parameters : List Value)
    (streams : Streams) (other : ∀ text, template ≠ Value.text text) :
    bind escaper ⟨template, parameters, streams⟩ =
      .error (.binding (.templateNotText template)) := by
  cases template with
  | scalar content =>
      cases content with
      | text text => exact absurd rfl (other text)
      | _ => rfl
  | _ => rfl

/-- Parameters are bound only when there are as many of them as markers. -/
theorem bind_of_wrong_count
    (escaper : Escaper) {text : Text} (parameters : List Value) (streams : Streams)
    (wrong : Template.markerCount (Template.segments text) ≠ parameters.length) :
    bind escaper ⟨Value.text text, parameters, streams⟩ =
      .error (.binding (.parameterCount
        (Template.markerCount (Template.segments text)) parameters.length)) := by
  have refused := Binding.template_of_wrong_count escaper text parameters
    ⟨streams, []⟩ wrong
  rw [bind, refused]

theorem count_of_bind_eq_ok
    {escaper : Escaper} {text query : Text} {parameters : List Value}
    {streams : Streams}
    (binds : bind escaper ⟨Value.text text, parameters, streams⟩ = .ok query) :
    Template.markerCount (Template.segments text) = parameters.length := by
  apply Decidable.byContradiction
  intro wrong
  rw [bind_of_wrong_count escaper parameters streams wrong] at binds
  cases binds

end Statement

end BoundQuery
