import BoundQuery.Escaping
import BoundQuery.Template
import BoundQuery.Value.Written

/-!
# Binding parameters to templates

Binding replaces the markers of a template by the forms of the parameters, from left
to right, and stops at the first parameter that its placeholder does not take. It has
two effects that can be seen from outside: a single-pass stream among the parameters
is used up, and the texts handed to the escaper follow one another in a fixed order.
Both are part of the state of a binding.

The main statement says that a wrong number of parameters has no effect.
-/

namespace BoundQuery

/-! ## Streams -/

/-- A step of a single-pass stream gives a value or fails. -/
inductive StreamStep
  | item (value : Value)
  | failure (error : Raised)

/-- What each stream still has to give. -/
abbrev Streams := List (List StreamStep)

/-- The values that the steps of a stream give, unless one of them fails. -/
def gather : List StreamStep → Except Raised (List Value)
  | [] => .ok []
  | .item value :: rest => (gather rest).map fun values => value :: values
  | .failure error :: _ => .error error

/-! ## The state of a binding -/

/-- What the streams still have to give, and the texts escaped so far. -/
structure BindingState where
  streams : Streams
  escaped : List Text

abbrev Binding (result : Type) := EStateM Fault BindingState result

namespace Binding

def ofExcept {result : Type} : Except Fault result → Binding result
  | .ok value => pure value
  | .error fault => throw fault

/-- The values that a stream still gives. The stream is empty afterwards. -/
def drain (number : Nat) : Binding (List Value) := fun state =>
  let emptied := { state with streams := state.streams.set number [] }
  match gather (state.streams.getD number []) with
  | .ok values => .ok values emptied
  | .error error => .error (.raised error) emptied

/-- The escaped form of a text, which is recorded first. -/
def escape (escaper : Escaper) (text : Text) : Binding Text := fun state =>
  let recorded := { state with escaped := state.escaped ++ [text] }
  match escaper text with
  | .ok escaped => .ok escaped recorded
  | .error fault => .error fault recorded

/-! ## Forms of parameters -/

/-- A value as a string literal, or as the null keyword. -/
def literal (escaper : Escaper) (value : Value) : Binding Text :=
  match value with
  | .null => pure nullKeyword
  | other => do
      let content ← ofExcept (other.scalarFor .string)
      let text ← ofExcept content.written
      let escaped ← escape escaper text
      return singleQuote :: escaped ++ [singleQuote]

def entries (placeholder : Placeholder) (value : Value) : Binding (List Entry) :=
  match value.contents? with
  | some (.entries entries) => pure entries
  | some (.stream number) => do
      let items ← drain number
      return numberedEntries items
  | none => throw (.binding (.notContainer placeholder value))

def someEntries (placeholder : Placeholder) (value : Value) : Binding (List Entry) := do
  let found ← entries placeholder value
  if found.isEmpty then throw (.binding (.emptyContainer placeholder))
  else return found

def literals (escaper : Escaper) : List Entry → Binding (List Text)
  | [] => pure []
  | (_, item) :: rest => do
      let first ← literal escaper item
      let following ← literals escaper rest
      return first :: following

/-- The assignments of entries, in order: an identifier, an equals sign and a literal
each. -/
def assignments (escaper : Escaper) : List Entry → Binding (List Text)
  | [] => pure []
  | (key, item) :: rest => do
      let name ← ofExcept key.identifierForm
      let content ← literal escaper item
      let following ← assignments escaper rest
      return (name ++ CodePoint.scalar '=' :: content) :: following

/-- Texts with a comma and a space between neighbours. -/
def commaSeparated (texts : List Text) : Text :=
  Text.join (Text.ofString ", ") texts

def parameter (escaper : Escaper) (placeholder : Placeholder) (value : Value) :
    Binding Text :=
  match placeholder with
  | .string => literal escaper value
  | .integer => ofExcept value.integerForm
  | .identifier => ofExcept value.identifierForm
  | .array => do
      let found ← someEntries .array value
      return commaSeparated (← literals escaper found)
  | .mapping => do
      let found ← someEntries .mapping value
      return commaSeparated (← assignments escaper found)
  | .part => ofExcept value.partForm

/-! ## Templates -/

/-- The segments of a template with the markers replaced by the forms of parameters.
Segments without a parameter are not reached by `template`, which counts first. -/
def fill (escaper : Escaper) : List Segment → List Value → Binding Text
  | [], _ => pure []
  | .literal text :: rest, parameters => do
      let following ← fill escaper rest parameters
      return text ++ following
  | .marker placeholder :: rest, value :: parameters => do
      let form ← parameter escaper placeholder value
      let following ← fill escaper rest parameters
      return form ++ following
  | .marker _ :: _, [] => pure []

def template (escaper : Escaper) (template : Value) (parameters : List Value) :
    Binding Text :=
  match template with
  | .scalar (.text text) =>
      let segments := Template.segments text
      let expected := Template.markerCount segments
      if expected = parameters.length then fill escaper segments parameters
      else throw (.binding (.parameterCount expected parameters.length))
  | other => throw (.binding (.templateNotText other))

/-! ## Facts on bindings -/

/-- A wrong number of parameters leaves the state as it was. -/
theorem template_of_wrong_count (escaper : Escaper) (text : Text)
    (parameters : List Value) (state : BindingState)
    (wrong : Template.markerCount (Template.segments text) ≠ parameters.length) :
    template escaper (Value.text text) parameters state =
      .error (.binding (.parameterCount
        (Template.markerCount (Template.segments text)) parameters.length)) state := by
  simp only [template, Value.text, if_neg wrong]
  rfl

end Binding

/-! ## Running a binding -/

/-- A template, the parameters bound to it, and what the streams among them give. -/
structure Statement where
  template : Value
  parameters : List Value
  streams : Streams

def Statement.bind (escaper : Escaper) (statement : Statement) : Except Fault Text :=
  match Binding.template escaper statement.template statement.parameters
      ⟨statement.streams, []⟩ with
  | .ok query _ => .ok query
  | .error fault _ => .error fault

end BoundQuery
