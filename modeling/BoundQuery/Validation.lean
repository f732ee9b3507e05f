/-!
# Validation

Settings and options are checked field by field. A field that is not valid gives a
complaint with the name of the field; checking goes on with the other fields, and the
complaints come out in the order of the fields.

The main statement says that combining two checks gives a value exactly when both of
them do.
-/

namespace BoundQuery

/-! ## Complaints -/

/-- The reasons for which a setting or an option is not valid. -/
inductive Complaint
  | notText
  | notUnicode
  | notInteger
  | notIntegerText
  | oversized
  | fractional
  | notFinite
  | notNumberText
  deriving DecidableEq

namespace Complaint

def code : Complaint → String
  | notText => "string_type"
  | notUnicode => "string_unicode"
  | notInteger => "int_type"
  | notIntegerText => "int_parsing"
  | oversized => "int_parsing_size"
  | fractional => "int_from_float"
  | notFinite => "finite_number"
  | notNumberText => "float_parsing"

def message : Complaint → String
  | notText => "Input should be a valid string"
  | notUnicode =>
      "Input should be a valid string, unable to parse raw data as a unicode string"
  | notInteger => "Input should be a valid integer"
  | notIntegerText =>
      "Input should be a valid integer, unable to parse string as an integer"
  | oversized =>
      "Unable to parse input string as an integer, exceeded maximum size"
  | fractional =>
      "Input should be a valid integer, got a number with a fractional part"
  | notFinite => "Input should be a finite number"
  | notNumberText =>
      "Input should be a valid number, unable to parse string as a number"

end Complaint

/-- A complaint and the name of the field that it is about. -/
structure ValidationIssue where
  field : String
  complaint : Complaint
  deriving DecidableEq

/-! ## Checked values -/

/-- The outcome of checking: a value, or everything that stands against it. -/
inductive Checked (result : Type)
  | valid (value : result)
  | invalid (issues : List ValidationIssue)

namespace Checked

variable {source target : Type}

def map (function : source → target) : Checked source → Checked target
  | valid value => valid (function value)
  | invalid issues => invalid issues

/-- A checked function applied to a checked value, with the complaints of both. -/
def apply : Checked (source → target) → Checked source → Checked target
  | valid function, valid value => valid (function value)
  | valid _, invalid issues => invalid issues
  | invalid issues, valid _ => invalid issues
  | invalid first, invalid second => invalid (first ++ second)

/-- What stands against a value. -/
def issues {result : Type} : Checked result → List ValidationIssue
  | valid _ => []
  | invalid issues => issues

def complain {result : Type} (field : String) (complaint : Complaint) :
    Checked result :=
  invalid [⟨field, complaint⟩]

def ofOption {result : Type} (field : String) (complaint : Complaint) :
    Option result → Checked result
  | some value => valid value
  | none => complain field complaint

/-! ## Facts on checking -/

/-- A combined check gives a value exactly when both of its parts do. -/
theorem apply_eq_valid_iff (function : Checked (source → target))
    (value : Checked source) (result : target) :
    apply function value = valid result ↔
      ∃ pure input, function = valid pure ∧ value = valid input ∧
        pure input = result := by
  cases function <;> cases value <;> simp [apply]

end Checked

end BoundQuery
