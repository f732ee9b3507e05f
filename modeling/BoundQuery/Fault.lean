import BoundQuery.Placeholder
import BoundQuery.Raised
import BoundQuery.Validation

/-!
# Faults

A fault is the cause for which an operation gives no answer. Each fault names its
cause and keeps what the cause is about; the wording is the work of one function,
`Fault.message`.

Binding faults come from templates and parameters, query faults from running a bound
query, and connection faults from opening a connection. Errors from outside travel
unchanged as raised faults.

The statement at the end says that only a raised interruption counts as one.
-/

namespace BoundQuery

/-! ## Binding -/

/-- The reasons for which a template cannot be bound to its parameters. -/
inductive BindingIssue
  | templateNotText (found : Value)
  | parameterCount (expected found : Nat)
  | notScalar (placeholder : Placeholder) (found : Value)
  | notNumeric (found : Value)
  | notNumericText (found : Text)
  | notFinite (found : Scalar)
  | emptyIdentifier
  | invalidIdentifier (name : Text)
  | notContainer (placeholder : Placeholder) (found : Value)
  | emptyContainer (placeholder : Placeholder)

namespace BindingIssue

/-- What was expected and what was found in its place. -/
def contrast (expected : String) (found : Text) : Text :=
  Text.ofString "Expected " ++ Text.ofString expected ++ Text.ofString ", found " ++
    found ++ Text.ofString " instead"

def typeContrast (expected : String) (found : Value) : Text :=
  contrast expected (Text.ofString found.typeName)

def message : BindingIssue → Text
  | templateNotText found => typeContrast "str query template" found
  | parameterCount expected found =>
      Text.ofString "Expected " ++ Numeral.natural expected ++
        Text.ofString " parameters, found " ++ Numeral.natural found ++
        Text.ofString " instead"
  | notScalar placeholder found =>
      typeContrast ("scalar value for " ++ placeholder.label ++ " placeholder") found
  | notNumeric found => typeContrast "numeric value for integer placeholder" found
  | notNumericText found =>
      contrast "numeric value for integer placeholder"
        (Text.ofString "non-numeric string " ++ found.quoted)
  | notFinite found => contrast "finite number" found.quoted
  | emptyIdentifier => Text.ofString "Identifier value cannot be empty"
  | invalidIdentifier name =>
      Text.ofString "Identifier contains invalid characters: " ++ name.quoted
  | notContainer placeholder found =>
      typeContrast ("iterable value for " ++ placeholder.label ++ " placeholder") found
  | emptyContainer placeholder =>
      Text.ofString placeholder.title ++
        Text.ofString " value cannot be empty"

end BindingIssue

/-! ## Queries and connections -/

/-- The reasons for which a bound query does not run. -/
inductive QueryIssue
  | closed
  | rejected (error : Raised)
  | unencodable (encoding reason : Text) (error : Raised)

namespace QueryIssue

def message : QueryIssue → Text
  | closed => Text.ofString "Connection is closed"
  | rejected error =>
      Text.ofString "[" ++ error.details.1.display ++ Text.ofString "] " ++
        error.details.2
  | unencodable encoding reason _ =>
      Text.ofString "Query cannot be encoded as " ++ encoding ++ Text.ofString ": " ++
        reason

/-- The number of a query error, which is zero unless the server gave one. -/
def number : QueryIssue → ErrorNumber
  | closed => .integer 0
  | rejected error => error.details.1
  | unencodable _ _ _ => .integer 0

def cause? : QueryIssue → Option Raised
  | closed => none
  | rejected error => some error
  | unencodable _ _ error => some error

end QueryIssue

/-- The reasons for which no connection is opened. -/
inductive ConnectionIssue
  | invalidOptions (issues : List ValidationIssue)
  | unknownCharset (name : Text)
  | refused (error : Raised)

namespace ConnectionIssue

def message : ConnectionIssue → Text
  | invalidOptions issues =>
      Text.ofString "Invalid connection options: " ++ Numeral.natural issues.length ++
        Text.ofString
          (if issues.length = 1 then " validation error" else " validation errors") ++
        Text.ofString " for ConnectionOptions"
  | unknownCharset name => Text.ofString "Unknown charset: " ++ name
  | refused error =>
      Text.ofString "[" ++ error.details.1.display ++ Text.ofString "] " ++
        error.details.2

/-- The number of a connection error, which is zero unless the driver gave one. -/
def number : ConnectionIssue → ErrorNumber
  | invalidOptions _ => .integer 0
  | unknownCharset _ => .integer 0
  | refused error => error.details.1

end ConnectionIssue

/-! ## All faults -/

/-- The cause for which an operation gives no answer. -/
inductive Fault
  | raised (error : Raised)
  | binding (issue : BindingIssue)
  | query (issue : QueryIssue)
  | connection (issue : ConnectionIssue)
  | invalid (issues : List ValidationIssue)
  | keywordConflict
  | notOptions (found : Value)
  | rowTooShort
  | rowTooLong
  | emptyRow
  | infiniteTimeout
  | uncountable (found : Value)

namespace Fault

def message : Fault → Text
  | raised error => error.text
  | binding issue => issue.message
  | query issue => issue.message
  | connection issue => issue.message
  | invalid _ => []
  | keywordConflict =>
      Text.ofString "Keyword options cannot be combined with ConnectionOptions"
  | notOptions found =>
      singleQuote :: Text.ofString found.fullTypeName ++ singleQuote ::
        Text.ofString " object is not a mapping"
  | rowTooShort => Text.ofString "zip() argument 2 is shorter than argument 1"
  | rowTooLong => Text.ofString "zip() argument 2 is longer than argument 1"
  | emptyRow => Text.ofString "tuple index out of range"
  | infiniteTimeout => Text.ofString "cannot convert float infinity to integer"
  | uncountable found =>
      Text.ofString "'>' not supported between instances of '" ++
        Text.ofString found.fullTypeName ++ Text.ofString "' and 'int'"

/-- Whether a fault passes by every handler of ordinary errors. -/
def isInterruption : Fault → Bool
  | raised error => error.isInterruption
  | _ => false

theorem isInterruption_iff (fault : Fault) :
    fault.isInterruption = true ↔
      ∃ arguments, fault = raised (.host .interruption arguments) := by
  constructor
  · intro interrupts
    match fault, interrupts with
    | raised (.host .interruption arguments), _ => exact ⟨arguments, rfl⟩
  · rintro ⟨arguments, rfl⟩
    rfl

end Fault

end BoundQuery
