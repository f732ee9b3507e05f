import BoundQuery.Settings

/-!
# Connection options

A caller names connection options by a long or a short name. The long name is looked
up first, and the value under the first name that is present is the one that counts,
valid or not. A field that is named by neither takes its value from the settings, and
keys that name no field are ignored.

The main statement says that options given later take the place of options given
earlier under the same name.
-/

namespace BoundQuery

/-! ## Fields and their names -/

inductive OptionField
  | hostname
  | username
  | password
  | database
  | port
  | socket
  | charset
  deriving DecidableEq

namespace OptionField

/-- The names of a field, in the order in which they are looked up. -/
def names : OptionField → List String
  | hostname => ["hostname", "host"]
  | username => ["username", "user"]
  | password => ["password", "pass"]
  | database => ["database", "db"]
  | port => ["port"]
  | socket => ["socket"]
  | charset => ["charset"]

end OptionField

/-! ## Tables of options -/

/-- Named option values. A later value of one name takes the place of an earlier one. -/
abbrev OptionTable := List (Text × Value)

namespace OptionTable

def find? (table : OptionTable) (name : String) : Option Value :=
  (table.reverse.find? fun entry => entry.1 == Text.ofString name).map Prod.snd

/-- The first of several names that is present, with its value. -/
def findFirst? (table : OptionTable) : List String → Option (String × Value)
  | [] => none
  | name :: rest =>
      match table.find? name with
      | some value => some (name, value)
      | none => findFirst? table rest

/-- The name that a field has in a table, with its value. -/
def field? (table : OptionTable) (field : OptionField) : Option (String × Value) :=
  table.findFirst? field.names

/-- A table with the values of a second one laid over it. -/
def merge (base upper : OptionTable) : OptionTable :=
  base ++ upper

/-- The entries of a mapping whose keys are texts. No other key names an option. -/
def ofEntries (entries : List Entry) : OptionTable :=
  entries.filterMap fun entry =>
    match entry.1 with
    | .scalar (.text name) => some (name, entry.2)
    | _ => none

end OptionTable

/-- The option table that a mapping stands for. A vacant value of any other kind stands
for no options at all. -/
def OptionTable.ofValue (value : Value) : Except Fault OptionTable :=
  match value with
  | .mapping _ entries => .ok (ofEntries entries)
  | other => if other.isVacant then .ok [] else .error (.notOptions other)

/-! ## Values of fields -/

def decodeUtf8? (content : List UInt8) : Option Text :=
  (String.fromUTF8? (ByteArray.mk content.toArray)).map Text.ofString

def checkText (name : String) : Value → Checked Text
  | .scalar (.text content) => .valid content
  | .bytes .fixed content => Checked.ofOption name .notUnicode (decodeUtf8? content)
  | .bytes .changeable content =>
      Checked.ofOption name .notUnicode (decodeUtf8? content)
  | _ => .complain name .notText

def checkOptionalText (name : String) : Value → Checked (Option Text)
  | .null => .valid none
  | other => (checkText name other).map some

/-- The integer that a finite decimal number is. -/
def ScaledDecimal.integer? (decimal : ScaledDecimal) : Option Nat :=
  let scale := tenTo (-decimal.exponent).toNat
  if decimal.coefficient % scale = 0 then
    some (decimal.coefficient / scale * tenTo decimal.exponent.toNat)
  else
    none

/-- Whether an integer lies strictly between the ends of the range of signed words of
64 bits. -/
def fitsWord (number : Int) : Bool :=
  decide (-9223372036854775808 < number ∧ number < 9223372036854775808)

/-- The integer of a field. A double has to be one of a word's size, while the size of
any other number does not matter. -/
def checkInteger (name : String) : Value → Checked Int
  | .scalar (.integer number) => .valid number
  | .scalar (.flag value) => .valid (if value then 1 else 0)
  | .scalar (.text content) => checkIntegerText name content
  | .bytes .fixed content =>
      match decodeUtf8? content with
      | some text => checkIntegerText name text
      | none => .complain name .notIntegerText
  | .scalar (.double number) =>
      match number.integerPart? with
      | none => .complain name .notFinite
      | some whole =>
          if !number.isIntegral then .complain name .fractional
          else if fitsWord whole then .valid whole
          else .complain name .oversized
  | .scalar (.decimal (.finite negative digits)) =>
      (Checked.ofOption name .fractional digits.integer?).map
        (Numeral.withSign negative)
  | .scalar (.decimal _) => .complain name .notFinite
  | _ => .complain name .notInteger

/-! ## Connection options -/

/-- The options with which a connection is opened. -/
structure ConnectionOptions where
  hostname : Text
  username : Text
  password : Text
  database : Text
  port : Int
  socket : Option Text
  charset : Text

namespace ConnectionOptions

/-- The checked value of a field: the one in the table, or else the given one. -/
def fieldOr {result : Type} (table : OptionTable) (field : OptionField)
    (fallback : result) (check : String → Value → Checked result) : Checked result :=
  match table.field? field with
  | some (name, value) => check name value
  | none => .valid fallback

/-- The options that a table gives under some settings. -/
def resolve (settings : Settings) (table : OptionTable) : Checked ConnectionOptions :=
  let text (field : OptionField) (fallback : Text) : Checked Text :=
    fieldOr table field fallback checkText
  (((((((Checked.valid ConnectionOptions.mk).apply
    (text .hostname settings.hostname)).apply
    (text .username settings.username)).apply
    (text .password settings.password)).apply
    (text .database settings.database)).apply
    (fieldOr table .port settings.port checkInteger)).apply
    (fieldOr table .socket settings.socket checkOptionalText)).apply
    (text .charset settings.charset)

end ConnectionOptions

/-! ## Facts on tables -/

namespace OptionTable

/-- A name is looked up in the upper table first. -/
theorem find?_merge (base upper : OptionTable) (name : String) :
    (merge base upper).find? name = (upper.find? name).or (base.find? name) := by
  simp [merge, find?, List.reverse_append, List.find?_append]
  cases upper.reverse.find? fun entry => entry.1 == Text.ofString name <;> simp

end OptionTable

end BoundQuery
