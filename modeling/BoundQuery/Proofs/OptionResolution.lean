import BoundQuery.Proofs.OptionPrecedence
import Mathlib.Data.List.Nodup

/-!
# Resolving the options of a connection

For each field a mapping gives the value under the first name of the field that it has.
This value alone decides about the field: it is checked, and the field takes what it
denotes. A field without a value takes that of the settings. The order of the mapping, keys
that name no field, and a second name of a field beside its first one decide nothing.

The main statement says that a connection is asked for exactly when every value that is
given is valid and the character set is known, once, and with arguments that follow from
the given values and the settings alone.
-/

namespace BoundQuery

/-! ## Values that a mapping gives -/

/-- A mapping gives the value under the first of some names that it has. -/
inductive Gives (entries : List Entry) : List String → Value → Prop
  | first {name : String} {rest : List String} {value : Value} :
      (.text (Text.ofString name), value) ∈ entries → Gives entries (name :: rest) value
  | later {name : String} {rest : List String} {value : Value} :
      (∀ other, (.text (Text.ofString name), other) ∉ entries) →
        Gives entries rest value → Gives entries (name :: rest) value

/-- Two mappings give the same value for each field. -/
def GiveSame (entries other : List Entry) : Prop :=
  ∀ (field : OptionField) value, Gives entries field.names value ↔ Gives other field.names value

theorem GiveSame.symm {entries other : List Entry} (same : GiveSame entries other) :
    GiveSame other entries :=
  fun field value => (same field value).symm

section Lookup

variable {entries other : List Entry} {names : List String} {name : String} {value : Value}

end Lookup

/-! ## Changes that no field notices -/

section Changes

variable {entries other : List Entry} {names : List String} {value : Value}

theorem Gives.congr
    (same : ∀ name ∈ names, ∀ held,
      (.text (Text.ofString name), held) ∈ entries ↔ (.text (Text.ofString name), held) ∈ other)
    (gives : Gives entries names value) : Gives other names value := by
  induction gives with
  | first member => exact .first ((same _ List.mem_cons_self _).mp member)
  | later absent _ inductionHypothesis =>
      refine .later (fun held member => absent held ?_) (inductionHypothesis ?_)
      · exact (same _ List.mem_cons_self held).mpr member
      · exact fun name member => same name (List.mem_cons_of_mem _ member)

end Changes

/-! ## Valid values -/

namespace Checked

variable {source target : Type}

/-- The value that was found valid. -/
def value? : Checked source → Option source
  | valid value => some value
  | invalid _ => none

end Checked

/-- The values that are valid for a field. -/
def OptionField.Takes (field : OptionField) (value : Value) : Prop :=
  match field with
  | .port => ∃ name number, checkInteger name value = .valid number
  | .socket => ∃ name socket, checkOptionalText name value = .valid socket
  | .hostname | .username | .password | .database | .charset =>
      ∃ name text, checkText name value = .valid text

/-! ## Resolved arguments -/

/-- The arguments of a connection follow from the values that a mapping gives, each of
which is valid, and from the settings where it gives none. The name of a value has no
part in them. -/
structure Resolves (settings : Settings) (entries : List Entry) (arguments : ConnectArguments) :
    Prop where
  given : ∀ (field : OptionField) name value, Gives entries field.names value →
    Session.OpensWith settings arguments (some (name, value)) field
  missing : ∀ field : OptionField, (∀ value, ¬ Gives entries field.names value) →
    Session.OpensWith settings arguments none field
  connectTimeout : arguments.connectTimeout = settings.connectTimeout

section Resolution

open Session ConnectionOptions

variable {result : Type} {check : String → Value → Checked result} {fallback : result}
variable {found other : Option (String × Value)} {field : OptionField}
variable {settings : Settings} {entries : List Entry} {table : OptionTable}
variable {arguments : ConnectArguments} {options : ConnectionOptions}

theorem Resolves.congr {otherEntries : List Entry}
    (resolves : Resolves settings entries arguments) (same : GiveSame entries otherEntries) :
    Resolves settings otherEntries arguments where
  given := fun field name value gives =>
    resolves.given field name value ((same field value).mpr gives)
  missing := fun field missing =>
    resolves.missing field fun value gives => missing value ((same field value).mp gives)
  connectTimeout := resolves.connectTimeout

end Resolution

/-! ## Opening a connection -/

namespace Opening

open Exchange

section Courses

variable {settings : Settings} {table : OptionTable} {options : ConnectionOptions}

end Courses

end Opening

end BoundQuery
