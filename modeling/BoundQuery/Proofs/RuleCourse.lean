import BoundQuery.Proofs.Acceptance

/-!
# The course of a rule

The rule of a marker has two effects that can be seen from outside: it uses up the
stream that it iterates, and it hands texts to the escaper. Which texts it hands over
follows from the entries that it writes, one after the other up to the entry that fails.

The main statements say what a rule that succeeds has handed over, in which ways a rule
fails and what it has handed over by then, and which streams it leaves untouched.
-/

namespace BoundQuery

open Binding

/-! ## What a marker writes -/

/-- The entries that a marker writes as literals, in order. A string marker writes its
own value, an array and a mapping write what their container holds, and the other
markers write no literal. -/
inductive Writes (streams : Streams) : Placeholder → Value → List Entry → Prop
  | string (value : Value) : Writes streams .string value (numberedEntries [value])
  | array {value : Value} {entries : List Entry} :
      Enumerates streams value entries → Writes streams .array value entries
  | mapping {value : Value} {entries : List Entry} :
      Enumerates streams value entries → Writes streams .mapping value entries
  | integer (value : Value) : Writes streams .integer value []
  | identifier (value : Value) : Writes streams .identifier value []
  | part (value : Value) : Writes streams .part value []

/-- The texts of the items of entries, in order. A null item has none. -/
def itemTexts (entries : List Entry) : List Text :=
  entries.flatMap fun entry => entry.2.handed

/-- Whether an entry can be written for a marker: its item is a literal, and its key is
a name where the key is written too. -/
def FitsEntry (placeholder : Placeholder) (entry : Entry) : Prop :=
  (placeholder = .mapping → entry.1.IsName) ∧ entry.2.IsLiteral

def IsWritten (escaper : Escaper) (placeholder : Placeholder) (entry : Entry) : Prop :=
  FitsEntry placeholder entry ∧
    ∀ text ∈ entry.2.handed, ∃ escaped, escaper text = .ok escaped

/-- The ways in which one entry fails, with the fault and the texts handed over for it:
the entry cannot be written, or the escaper fails on its text. -/
inductive EntryFails (escaper : Escaper) (placeholder : Placeholder) (entry : Entry) :
    Fault → List Text → Prop
  | refused (issue : BindingIssue) :
      ¬ FitsEntry placeholder entry →
        EntryFails escaper placeholder entry (.binding issue) []
  | escaping (text : Text) (fault : Fault) :
      FitsEntry placeholder entry → entry.2.handed = [text] →
        escaper text = .error fault → EntryFails escaper placeholder entry fault [text]

/-- The markers that iterate their parameter. -/
def Placeholder.Iterates (placeholder : Placeholder) : Prop :=
  placeholder = .array ∨ placeholder = .mapping

/-- The ways in which the rule of a marker fails, with the fault and the texts handed
over until then. -/
inductive RuleFails (escaper : Escaper) (streams : Streams) (placeholder : Placeholder)
    (value : Value) : Fault → List Text → Prop
  | noLiteral (issue : BindingIssue) :
      Writes streams placeholder value [] → ¬ placeholder.Iterates →
        RuleFails escaper streams placeholder value (.binding issue) []
  | noContainer :
      placeholder.Iterates → value.contents? = none →
        RuleFails escaper streams placeholder value
          (.binding (.notContainer placeholder value)) []
  | empty :
      placeholder.Iterates → Enumerates streams value [] →
        RuleFails escaper streams placeholder value
          (.binding (.emptyContainer placeholder)) []
  | broken (number : Nat) (items : List Value) (error : Raised)
      (rest : List StreamStep) :
      placeholder.Iterates → value = .stream number →
        streams.getD number [] =
          items.map StreamStep.item ++ StreamStep.failure error :: rest →
        RuleFails escaper streams placeholder value (.raised error) []
  | entry (before : List Entry) (entry : Entry) (after : List Entry) (fault : Fault)
      (unfinished : List Text) :
      Writes streams placeholder value (before ++ entry :: after) →
        (∀ earlier ∈ before, IsWritten escaper placeholder earlier) →
        EntryFails escaper placeholder entry fault unfinished →
        RuleFails escaper streams placeholder value fault
          (itemTexts before ++ unfinished)

theorem Enumerates.unique
    {streams : Streams} {value : Value} {entries others : List Entry}
    (enumerated : Enumerates streams value entries)
    (otherwise : Enumerates streams value others) : entries = others := by
  have entered := entriesForm_of_enumerates .array enumerated
  rw [entriesForm_of_enumerates .array otherwise] at entered
  exact (Except.ok.inj entered).symm

theorem Writes.unique
    {streams : Streams} {placeholder : Placeholder} {value : Value}
    {entries others : List Entry} (writes : Writes streams placeholder value entries)
    (otherwise : Writes streams placeholder value others) : entries = others := by
  cases writes with
  | array enumerated =>
      cases otherwise with
      | array again => exact enumerated.unique again
  | mapping enumerated =>
      cases otherwise with
      | mapping again => exact enumerated.unique again
  | _ =>
      cases otherwise
      rfl

/-! ## Streams that are used up -/

/-- The stream that the rule of a marker uses up. -/
def iteratedStream? (marker : Placeholder × Value) : Option Nat :=
  match marker.1 with
  | .array | .mapping => marker.2.stream?
  | .string | .integer | .identifier | .part => none

/-- After the rules of markers, the streams that they iterate have nothing left to give
and all other streams are as they were. -/
def UsesUp (markers : List (Placeholder × Value)) (streams after : Streams) : Prop :=
  ∀ number : Nat, after[number]? =
    if number ∈ markers.filterMap iteratedStream? then
      streams[number]?.map fun _ => []
    else streams[number]?

theorem usesUp_nil (streams : Streams) : UsesUp [] streams streams := by
  intro number
  simp

theorem UsesUp.append
    {first second : List (Placeholder × Value)} {streams middle after : Streams}
    (earlier : UsesUp first streams middle) (later : UsesUp second middle after) :
    UsesUp (first ++ second) streams after := by
  intro number
  have late := later number
  rw [earlier number] at late
  rw [late, List.filterMap_append]
  cases streams[number]? with
  | none => simp
  | some steps =>
      by_cases inFirst : number ∈ first.filterMap iteratedStream? <;>
        by_cases inSecond : number ∈ second.filterMap iteratedStream? <;>
        simp [inFirst, inSecond]

theorem usesUp_drained
    (marker : Placeholder × Value) (state : BindingState)
    (iterates : iteratedStream? marker = marker.2.stream?) :
    UsesUp [marker] state.streams (state.drained marker.2).streams := by
  intro number
  unfold BindingState.drained
  cases naming : marker.2.stream? with
  | none => simp [iterates, naming]
  | some named =>
      by_cases same : named = number
      · rw [same] at naming
        have member : number ∈ [marker].filterMap iteratedStream? := by
          simp [iterates, naming]
        rw [if_pos member, same, List.getElem?_set_self']
        rfl
      · have absent : number ∉ [marker].filterMap iteratedStream? := by
          simpa [iterates, naming] using Ne.symm same
        rw [if_neg absent, List.getElem?_set_ne same]

theorem usesUp_parameter
    {escaper : Escaper} {placeholder : Placeholder} {value : Value}
    {state next : BindingState} {answer : Except Fault Text}
    (bound : outcome (parameter escaper placeholder value) state = (answer, next)) :
    UsesUp [(placeholder, value)] state.streams next.streams := by
  rw [outcome_parameter, Prod.mk.injEq] at bound
  rw [← bound.2]
  cases placeholder with
  | array => exact usesUp_drained (.array, value) state rfl
  | mapping => exact usesUp_drained (.mapping, value) state rfl
  | string => exact usesUp_nil state.streams
  | integer => exact usesUp_nil state.streams
  | identifier => exact usesUp_nil state.streams
  | part => exact usesUp_nil state.streams

/-! ## Entries written one after the other -/

/-- What the form of an entry and the texts handed over for it say about the entry. -/
structure EntryRule (escaper : Escaper) (placeholder : Placeholder)
    (form : Entry → Except Fault Text) (handed : Entry → List Text) : Prop where
  written : ∀ entry text, form entry = .ok text →
    IsWritten escaper placeholder entry ∧ handed entry = entry.2.handed
  failed : ∀ entry fault, form entry = .error fault →
    EntryFails escaper placeholder entry fault (handed entry)

theorem literalForm_of_written
    (escaper : Escaper) {content : Scalar} {text : Text}
    (written : content.written = .ok text) :
    (Value.scalar content).literalForm escaper =
      (escaper text).map fun escaped => singleQuote :: escaped ++ [singleQuote] := by
  have unfolded : (Value.scalar content).literalForm escaper =
      content.written >>= fun text =>
        (escaper text).map fun escaped => singleQuote :: escaped ++ [singleQuote] :=
    rfl
  rw [unfolded, written]
  rfl

theorem literalForm_of_unwritten
    (escaper : Escaper) {content : Scalar} {fault : Fault}
    (unwritten : content.written = .error fault) :
    (Value.scalar content).literalForm escaper = .error fault := by
  unfold Value.literalForm
  simp only [Value.scalarFor, bind, Except.bind, unwritten]

theorem literal_written
    {escaper : Escaper} {value : Value} {form : Text}
    (written : value.literalForm escaper = .ok form) :
    value.IsLiteral ∧ ∀ text ∈ value.handed, ∃ escaped, escaper text = .ok escaped := by
  cases value with
  | null => exact ⟨trivial, fun _ member => absurd member List.not_mem_nil⟩
  | scalar content =>
      cases writing : content.written with
      | error fault =>
          rw [literalForm_of_unwritten escaper writing] at written
          cases written
      | ok text =>
          refine ⟨content.givenIff_written.given_iff.mp ⟨text, writing⟩, ?_⟩
          intro other member
          rw [Value.handed, writing, List.mem_singleton] at member
          rw [literalForm_of_written escaper writing] at written
          rw [member]
          cases escaping : escaper text with
          | error fault =>
              rw [escaping] at written
              cases written
          | ok escaped => exact ⟨escaped, rfl⟩
  | _ => cases written

theorem literal_failed
    {escaper : Escaper} {value : Value} {fault : Fault}
    (failed : value.literalForm escaper = .error fault) :
    (∃ issue, fault = .binding issue ∧ ¬ value.IsLiteral ∧ value.handed = []) ∨
      (value.IsLiteral ∧ ∃ text, value.handed = [text] ∧ escaper text = .error fault) := by
  cases value with
  | null => cases failed
  | scalar content =>
      have given := content.givenIff_written
      cases writing : content.written with
      | error other =>
          obtain ⟨issue, rfl⟩ := given.refused other writing
          rw [literalForm_of_unwritten escaper writing] at failed
          cases failed
          refine Or.inl ⟨issue, rfl, ?_, by rw [Value.handed, writing]⟩
          intro writable
          obtain ⟨text, written⟩ := given.given_iff.mpr writable
          rw [writing] at written
          cases written
      | ok text =>
          refine Or.inr ⟨given.given_iff.mp ⟨text, writing⟩, text,
            by rw [Value.handed, writing], ?_⟩
          rw [literalForm_of_written escaper writing] at failed
          cases escaping : escaper text with
          | error other =>
              rw [escaping] at failed
              cases failed
              rfl
          | ok escaped =>
              rw [escaping] at failed
              cases failed
  | _ =>
      cases failed
      exact Or.inl ⟨_, rfl, id, rfl⟩

theorem entryRule_item
    (escaper : Escaper) {placeholder : Placeholder} (keyless : placeholder ≠ .mapping) :
    EntryRule escaper placeholder (itemForm escaper) (fun entry => entry.2.handed) where
  written := by
    intro entry text written
    obtain ⟨literal, escapes⟩ := literal_written written
    exact ⟨⟨⟨fun keyed => absurd keyed keyless, literal⟩, escapes⟩, rfl⟩
  failed := by
    intro entry fault failed
    rcases literal_failed failed with ⟨issue, rfl, refused, none⟩ | ⟨literal, text, one, fails⟩
    · rw [none]
      exact EntryFails.refused issue fun fits => refused fits.2
    · rw [one]
      exact EntryFails.escaping text fault
        ⟨fun keyed => absurd keyed keyless, literal⟩ one fails

theorem entryRule_assignment (escaper : Escaper) :
    EntryRule escaper .mapping (assignmentForm escaper) assignmentHanded where
  written := by
    intro entry text written
    unfold assignmentForm at written
    unfold assignmentHanded
    cases naming : entry.1.identifierForm with
    | error fault =>
        rw [naming] at written
        cases written
    | ok name =>
        rw [naming] at written
        have named := (givenIff_identifierForm entry.1).given_iff.mp ⟨name, naming⟩
        cases writing : entry.2.literalForm escaper with
        | error fault =>
            simp only [bind, Except.bind, writing] at written
            cases written
        | ok content =>
            obtain ⟨literal, escapes⟩ := literal_written writing
            exact ⟨⟨⟨fun _ => named, literal⟩, escapes⟩, rfl⟩
  failed := by
    intro entry fault failed
    unfold assignmentForm at failed
    unfold assignmentHanded
    have given := givenIff_identifierForm entry.1
    cases naming : entry.1.identifierForm with
    | error other =>
        obtain ⟨issue, rfl⟩ := given.refused other naming
        rw [naming] at failed
        cases failed
        apply EntryFails.refused issue
        intro fits
        obtain ⟨name, same⟩ := given.given_iff.mpr (fits.1 rfl)
        rw [naming] at same
        cases same
    | ok name =>
        rw [naming] at failed
        have named := given.given_iff.mp ⟨name, naming⟩
        cases writing : entry.2.literalForm escaper with
        | ok content =>
            simp only [bind, Except.bind, writing] at failed
            cases failed
        | error other =>
            simp only [bind, Except.bind, writing] at failed
            cases failed
            rcases literal_failed writing with
              ⟨issue, rfl, refused, none⟩ | ⟨literal, text, one, fails⟩
            · simp only [none]
              exact EntryFails.refused issue fun fits => refused fits.2
            · simp only [one]
              exact EntryFails.escaping text fault ⟨fun _ => named, literal⟩ one fails

section Entries

variable {escaper : Escaper} {placeholder : Placeholder}
variable {form : Entry → Except Fault Text} {handed : Entry → List Text}

/-- Where all entries are written, the texts of all items have been handed over. -/
theorem EntryRule.written_in_turn
    (rule : EntryRule escaper placeholder form handed) {entries : List Entry}
    {texts : List Text} (written : entries.mapM form = .ok texts) :
    (∀ entry ∈ entries, IsWritten escaper placeholder entry) ∧
      handedInTurn form handed entries = itemTexts entries := by
  induction entries generalizing texts with
  | nil => exact ⟨fun _ member => absurd member List.not_mem_nil, rfl⟩
  | cons entry rest inductionHypothesis =>
      obtain ⟨head, tail, first, following, _⟩ := mapM_cons_eq_ok_iff.mp written
      obtain ⟨entryWritten, entryHanded⟩ := rule.written entry head first
      obtain ⟨restWritten, restHanded⟩ := inductionHypothesis following
      refine ⟨List.forall_mem_cons.mpr ⟨entryWritten, restWritten⟩, ?_⟩
      rw [handedInTurn, first, entryHanded, restHanded]
      rfl

/-- Where an entry fails, those before it are written, and none after it is reached. -/
theorem EntryRule.failed_in_turn
    (rule : EntryRule escaper placeholder form handed) {entries : List Entry}
    {fault : Fault} (failed : entries.mapM form = .error fault) :
    ∃ before entry after unfinished, entries = before ++ entry :: after ∧
      (∀ earlier ∈ before, IsWritten escaper placeholder earlier) ∧
      EntryFails escaper placeholder entry fault unfinished ∧
      handedInTurn form handed entries = itemTexts before ++ unfinished := by
  induction entries with
  | nil => cases failed
  | cons entry rest inductionHypothesis =>
      rw [List.mapM_cons] at failed
      cases forming : form entry with
      | error other =>
          rw [forming] at failed
          cases failed
          refine ⟨[], entry, rest, handed entry, rfl, ?_, rule.failed entry fault forming, ?_⟩
          · exact fun _ member => absurd member List.not_mem_nil
          · rw [handedInTurn, forming, List.append_nil]
            rfl
      | ok text =>
          rw [forming] at failed
          have restFailed : rest.mapM form = .error fault := by
            cases following : rest.mapM form with
            | error other =>
                simp only [bind, Except.bind, following] at failed
                exact failed
            | ok texts =>
                simp only [bind, Except.bind, following] at failed
                cases failed
          obtain ⟨before, failing, after, unfinished, split, written, fails, handedRest⟩ :=
            inductionHypothesis restFailed
          obtain ⟨entryWritten, entryHanded⟩ := rule.written entry text forming
          refine ⟨entry :: before, failing, after, unfinished, by rw [split]; rfl,
            List.forall_mem_cons.mpr ⟨entryWritten, written⟩, fails, ?_⟩
          rw [handedInTurn, forming, entryHanded]
          simp only [handedRest, itemTexts, List.flatMap_cons, List.append_assoc]

end Entries

/-! ## Containers -/

theorem eq_map_item_of_gather
    {steps : List StreamStep} {values : List Value} (gathered : gather steps = .ok values) :
    steps = values.map StreamStep.item := by
  induction steps generalizing values with
  | nil =>
      cases gathered
      rfl
  | cons step rest inductionHypothesis =>
      cases step with
      | failure error => cases gathered
      | item value =>
          rw [gather] at gathered
          cases following : gather rest with
          | error error =>
              rw [following] at gathered
              cases gathered
          | ok others =>
              rw [following] at gathered
              cases gathered
              rw [inductionHypothesis following]
              rfl

theorem exists_failure_of_gather
    {steps : List StreamStep} {error : Raised} (gathered : gather steps = .error error) :
    ∃ (items : List Value) (rest : List StreamStep),
      steps = items.map StreamStep.item ++ StreamStep.failure error :: rest := by
  induction steps with
  | nil => cases gathered
  | cons step rest inductionHypothesis =>
      cases step with
      | failure other =>
          cases gathered
          exact ⟨[], rest, rfl⟩
      | item value =>
          rw [gather] at gathered
          cases following : gather rest with
          | ok others =>
              rw [following] at gathered
              cases gathered
          | error other =>
              rw [following] at gathered
              cases gathered
              obtain ⟨items, later, split⟩ := inductionHypothesis following
              exact ⟨value :: items, later, by rw [split]; rfl⟩

theorem entriesForm_stream
    (streams : Streams) (placeholder : Placeholder) (number : Nat) :
    (Value.stream number).entriesForm ((Value.stream number).steps streams) placeholder =
      ((gather (streams.getD number [])).mapError Fault.raised).map numberedEntries :=
  rfl

theorem enumerates_of_entriesForm
    {streams : Streams} {placeholder : Placeholder} {value : Value}
    {entries : List Entry}
    (given : value.entriesForm (value.steps streams) placeholder = .ok entries) :
    Enumerates streams value entries := by
  cases value with
  | stream number =>
      rw [entriesForm_stream] at given
      cases gathering : gather (streams.getD number []) with
      | error error =>
          rw [gathering] at given
          cases given
      | ok items =>
          rw [gathering] at given
          cases given
          exact Enumerates.stream number items (eq_map_item_of_gather gathering)
  | sequence form items =>
      cases given
      exact Enumerates.sequence form items
  | mapping form entries =>
      cases given
      exact Enumerates.mapping form _
  | range start stop step =>
      cases given
      exact Enumerates.range start stop step
  | bytes form content =>
      cases form with
      | view =>
          cases given
          exact Enumerates.view content
      | _ => cases given
  | _ => cases given

theorem ruleFails_of_entriesForm
    (escaper : Escaper) {streams : Streams} {placeholder : Placeholder} {value : Value}
    {fault : Fault} (iterates : placeholder.Iterates)
    (refused : value.entriesForm (value.steps streams) placeholder = .error fault) :
    RuleFails escaper streams placeholder value fault [] := by
  cases value with
  | stream number =>
      rw [entriesForm_stream] at refused
      cases gathering : gather (streams.getD number []) with
      | error error =>
          rw [gathering] at refused
          cases refused
          obtain ⟨items, rest, split⟩ := exists_failure_of_gather gathering
          exact RuleFails.broken number items error rest iterates rfl split
      | ok items =>
          rw [gathering] at refused
          cases refused
  | bytes form content =>
      cases form with
      | view => cases refused
      | _ =>
          cases refused
          exact RuleFails.noContainer iterates rfl
  | sequence form items => cases refused
  | mapping form entries => cases refused
  | range start stop step => cases refused
  | _ =>
      cases refused
      exact RuleFails.noContainer iterates rfl

/-! ## The rule of a marker -/

section Containers

variable {escaper : Escaper} {streams : Streams} {placeholder : Placeholder} {value : Value}
variable {form : Entry → Except Fault Text} {handed : Entry → List Text}

theorem someEntriesForm_of_error
    {steps : List StreamStep} {fault : Fault}
    (entered : value.entriesForm steps placeholder = .error fault) :
    value.someEntriesForm steps placeholder = .error fault := by
  rw [Value.someEntriesForm, entered]
  rfl

theorem someEntriesForm_of_nil
    {steps : List StreamStep} (entered : value.entriesForm steps placeholder = .ok []) :
    value.someEntriesForm steps placeholder =
      .error (.binding (.emptyContainer placeholder)) := by
  rw [Value.someEntriesForm, entered]
  rfl

theorem someEntriesForm_of_cons
    {steps : List StreamStep} {first : Entry} {rest : List Entry}
    (entered : value.entriesForm steps placeholder = .ok (first :: rest)) :
    value.someEntriesForm steps placeholder = .ok (first :: rest) := by
  rw [Value.someEntriesForm, entered]
  rfl

/-- A container that succeeds has some entries, each of which has a form. -/
theorem exists_texts_of_container
    {text : Text}
    (formed : (do
        let found ← value.someEntriesForm (value.steps streams) placeholder
        let texts ← found.mapM form
        return commaSeparated texts) = Except.ok text) :
    ∃ found texts, Enumerates streams value found ∧ found ≠ [] ∧
      value.someEntriesForm (value.steps streams) placeholder = .ok found ∧
      found.mapM form = .ok texts ∧ text = commaSeparated texts := by
  cases entering : value.entriesForm (value.steps streams) placeholder with
  | error fault =>
      rw [someEntriesForm_of_error entering] at formed
      cases formed
  | ok found =>
      cases found with
      | nil =>
          rw [someEntriesForm_of_nil entering] at formed
          cases formed
      | cons first rest =>
          rw [someEntriesForm_of_cons entering] at formed ⊢
          change ((first :: rest).mapM form >>= fun texts =>
            Except.ok (commaSeparated texts)) = Except.ok text at formed
          cases writing : (first :: rest).mapM form with
          | error fault =>
              rw [writing] at formed
              cases formed
          | ok texts =>
              rw [writing] at formed
              exact ⟨first :: rest, texts, enumerates_of_entriesForm entering,
                List.cons_ne_nil _ _, rfl, writing, (Except.ok.inj formed).symm⟩

/-- The entries of a container that succeeds have all been written. -/
theorem container_succeeds
    (rule : EntryRule escaper placeholder form handed) {text : Text}
    (formed : (do
        let found ← value.someEntriesForm (value.steps streams) placeholder
        let texts ← found.mapM form
        return commaSeparated texts) = Except.ok text) :
    ∃ found, Enumerates streams value found ∧
      (∀ entry ∈ found, IsWritten escaper placeholder entry) ∧
      value.someEntriesForm (value.steps streams) placeholder = .ok found ∧
      handedInTurn form handed found = itemTexts found := by
  obtain ⟨found, texts, enumerated, _, entered, writing, _⟩ :=
    exists_texts_of_container formed
  obtain ⟨written, handedOver⟩ := rule.written_in_turn writing
  exact ⟨found, enumerated, written, entered, handedOver⟩

/-- A container fails before its first entry or at one of its entries. -/
theorem container_fails
    (rule : EntryRule escaper placeholder form handed)
    (iterates : placeholder.Iterates)
    (writes : ∀ entries, Enumerates streams value entries →
      Writes streams placeholder value entries)
    {fault : Fault}
    (formed : (do
        let found ← value.someEntriesForm (value.steps streams) placeholder
        let texts ← found.mapM form
        return commaSeparated texts) = Except.error fault) :
    RuleFails escaper streams placeholder value fault
      (match value.someEntriesForm (value.steps streams) placeholder with
        | .ok found => handedInTurn form handed found
        | .error _ => []) := by
  cases entering : value.entriesForm (value.steps streams) placeholder with
  | error other =>
      rw [someEntriesForm_of_error entering] at formed ⊢
      cases formed
      exact ruleFails_of_entriesForm escaper iterates entering
  | ok found =>
      have enumerated := enumerates_of_entriesForm entering
      cases found with
      | nil =>
          rw [someEntriesForm_of_nil entering] at formed ⊢
          cases formed
          exact RuleFails.empty iterates enumerated
      | cons first rest =>
          rw [someEntriesForm_of_cons entering] at formed ⊢
          change ((first :: rest).mapM form >>= fun texts =>
            Except.ok (commaSeparated texts)) = Except.error fault at formed
          cases writing : (first :: rest).mapM form with
          | ok texts =>
              rw [writing] at formed
              cases formed
          | error other =>
              rw [writing] at formed
              cases formed
              obtain ⟨before, entry, after, unfinished, split, written, fails, handedOver⟩ :=
                rule.failed_in_turn writing
              have whole : Writes streams placeholder value (before ++ entry :: after) :=
                split ▸ writes _ enumerated
              simp only [handedOver]
              exact RuleFails.entry before entry after fault unfinished whole written fails

end Containers

section Rules

variable {escaper : Escaper} {placeholder : Placeholder} {value : Value}
variable {state next : BindingState}

theorem escaped_iterated
    (state : BindingState) (placeholder : Placeholder) (value : Value) :
    (state.iterated placeholder value).escaped = state.escaped := by
  have drained : (state.drained value).escaped = state.escaped := by
    unfold BindingState.drained
    cases value.stream? <;> rfl
  cases placeholder with
  | array => exact drained
  | mapping => exact drained
  | string => rfl
  | integer => rfl
  | identifier => rfl
  | part => rfl

/-- What a rule adds to the texts that were escaped. -/
theorem escaped_of_parameter
    {answer : Except Fault Text}
    (bound : outcome (parameter escaper placeholder value) state = (answer, next)) :
    value.form escaper (value.steps state.streams) placeholder = answer ∧
      next.escaped = state.escaped ++
        value.formHanded escaper (value.steps state.streams) placeholder := by
  rw [outcome_parameter, Prod.mk.injEq] at bound
  obtain ⟨formed, rfl⟩ := bound
  refine ⟨formed, ?_⟩
  rw [← escaped_iterated state placeholder value]
  rfl

/-- A rule that succeeds has handed over the texts of all items that its marker
writes. -/
theorem rule_succeeds
    {form : Text}
    (bound : outcome (parameter escaper placeholder value) state = (.ok form, next)) :
    ∃ entries, Writes state.streams placeholder value entries ∧
      (∀ entry ∈ entries, IsWritten escaper placeholder entry) ∧
      next.escaped = state.escaped ++ itemTexts entries := by
  obtain ⟨formed, escaped⟩ := escaped_of_parameter bound
  have none : ∀ entry ∈ ([] : List Entry), IsWritten escaper placeholder entry :=
    fun _ member => absurd member List.not_mem_nil
  rw [escaped]
  cases placeholder with
  | string =>
      obtain ⟨literal, escapes⟩ := literal_written formed
      refine ⟨numberedEntries [value], Writes.string value, ?_, ?_⟩
      · intro entry member
        rw [List.mem_singleton.mp member]
        exact ⟨⟨(fun keyed => by cases keyed), literal⟩, escapes⟩
      · exact congrArg (state.escaped ++ ·) (List.append_nil _).symm
  | array =>
      obtain ⟨found, enumerated, written, entered, handedOver⟩ :=
        container_succeeds (entryRule_item escaper (by decide)) formed
      refine ⟨found, Writes.array enumerated, written, ?_⟩
      simp only [Value.formHanded, entered, handedOver]
  | mapping =>
      obtain ⟨found, enumerated, written, entered, handedOver⟩ :=
        container_succeeds (entryRule_assignment escaper) formed
      refine ⟨found, Writes.mapping enumerated, written, ?_⟩
      simp only [Value.formHanded, entered, handedOver]
  | integer => exact ⟨[], Writes.integer value, none, rfl⟩
  | identifier => exact ⟨[], Writes.identifier value, none, rfl⟩
  | part => exact ⟨[], Writes.part value, none, rfl⟩

theorem rule_fails
    {fault : Fault}
    (bound : outcome (parameter escaper placeholder value) state = (.error fault, next)) :
    ∃ unfinished, RuleFails escaper state.streams placeholder value fault unfinished ∧
      next.escaped = state.escaped ++ unfinished := by
  obtain ⟨formed, escaped⟩ := escaped_of_parameter bound
  rw [escaped]
  refine ⟨_, ?_, rfl⟩
  cases placeholder with
  | string =>
      have rule : EntryRule escaper .string (itemForm escaper)
          (fun entry => entry.2.handed) :=
        entryRule_item escaper (by decide)
      have fails := rule.failed (.integer 0, value) fault formed
      exact RuleFails.entry [] (.integer 0, value) [] fault value.handed
        (Writes.string value) (fun _ member => absurd member List.not_mem_nil) fails
  | array =>
      exact container_fails (entryRule_item escaper (by decide)) (Or.inl rfl)
        (fun _ enumerated => Writes.array enumerated) formed
  | mapping =>
      exact container_fails (entryRule_assignment escaper) (Or.inr rfl)
        (fun _ enumerated => Writes.mapping enumerated) formed
  | integer =>
      obtain ⟨issue, rfl⟩ := (givenIff_integerForm value).refused fault formed
      exact RuleFails.noLiteral issue (Writes.integer value) (by simp [Placeholder.Iterates])
  | identifier =>
      obtain ⟨issue, rfl⟩ := (givenIff_identifierForm value).refused fault formed
      exact RuleFails.noLiteral issue (Writes.identifier value)
        (by simp [Placeholder.Iterates])
  | part =>
      obtain ⟨issue, rfl⟩ := (givenIff_partForm value).refused fault formed
      exact RuleFails.noLiteral issue (Writes.part value) (by simp [Placeholder.Iterates])

end Rules

end BoundQuery
