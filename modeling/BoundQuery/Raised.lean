import BoundQuery.Value.Display

/-!
# Errors raised from outside

The driver, the streams among the parameters and the escapers may raise errors of
their own. Such an error is a class and a list of arguments; its text follows from
the arguments, except for a few classes whose arguments have fixed roles.

An interruption is the one class that no handler of ordinary errors takes: it always
travels on to the caller.

An error has a number and a reason: its first two arguments when the first is a number,
and otherwise zero and its text.
-/

namespace BoundQuery

/-! ## Classes of errors -/

/-- The classes of errors that the driver raises. -/
inductive DriverClass
  | root
  | warning
  | error
  | interface
  | database
  | data
  | operational
  | integrity
  | internal
  | programming
  | notSupported
  deriving DecidableEq

/-- The classes of errors that arise around the driver. -/
inductive HostClass
  | runtime
  | system
  | value
  | type
  | encoding
  | decoding
  | interruption
  deriving DecidableEq

/-- An error with its class and arguments. -/
inductive Raised
  | driver (errorClass : DriverClass) (arguments : List Value)
  | host (errorClass : HostClass) (arguments : List Value)

/-- The number of an error is an integer, or a truth value where one was given. -/
inductive ErrorNumber
  | integer (number : Int)
  | flag (value : Bool)
  deriving DecidableEq

namespace ErrorNumber

def display : ErrorNumber → Text
  | integer number => Numeral.integer number
  | flag value => (Scalar.flag value).display

end ErrorNumber

namespace Raised

def arguments : Raised → List Value
  | driver _ arguments => arguments
  | host _ arguments => arguments

/-- Whether an error passes by every handler of ordinary errors. -/
def isInterruption : Raised → Bool
  | host .interruption _ => true
  | host _ _ => false
  | driver _ _ => false

/-! ## Texts of errors -/

/-- The text of an error that has no roles for its arguments. -/
def argumentsText : List Value → Text
  | [] => []
  | [only] => only.display
  | arguments => (Value.sequence .tuple arguments).quoted

/-- The places of a conversion error in a text or byte string: one element, or the
elements from a first to a last one. -/
def conversionText (encoding reason : Text) (verb plural : String)
    (single : Option Text) (start stop : Int) : Text :=
  let codec := singleQuote :: encoding ++ singleQuote :: Text.ofString " codec can't "
  let places :=
    match single with
    | some element =>
        element ++ Text.ofString " in position " ++ Numeral.integer start
    | none =>
        Text.ofString plural ++ Text.ofString " in position " ++
          Numeral.integer start ++ Text.ofString "-" ++ Numeral.integer (stop - 1)
  codec ++ Text.ofString verb ++ Text.ofString " " ++ places ++
    Text.ofString ": " ++ reason

/-- The element at a position, when a range of positions covers just that one. -/
def soleElement? {element : Type} (elements : List element) (start stop : Int) :
    Option element :=
  if 0 ≤ start ∧ stop = start + 1 then elements[start.toNat]? else none

/-- The text of an error about a code point that an encoding does not have. -/
def encodingText (encoding : Text) (subject : Text) (start stop : Int)
    (reason : Text) : Text :=
  conversionText encoding reason "encode" "characters"
    ((soleElement? subject start stop).map fun point =>
      Text.ofString "character " ++
        singleQuote :: numericEscape point.value ++ [singleQuote])
    start stop

/-- The text of an error about a byte that an encoding does not have. -/
def decodingText (encoding : Text) (subject : List UInt8) (start stop : Int)
    (reason : Text) : Text :=
  conversionText encoding reason "decode" "bytes"
    ((soleElement? subject start stop).map fun byte =>
      Text.ofString "byte 0x" ++ Numeral.hexadecimal 2 byte.toNat)
    start stop

def text : Raised → Text
  | host .system [number, reason] =>
      Text.ofString "[Errno " ++ number.display ++ Text.ofString "] " ++ reason.display
  | host .encoding [.scalar (.text encoding), .scalar (.text subject),
      .scalar (.integer start), .scalar (.integer stop), .scalar (.text reason)] =>
      encodingText encoding subject start stop reason
  | host .decoding [.scalar (.text encoding), .bytes _ subject,
      .scalar (.integer start), .scalar (.integer stop), .scalar (.text reason)] =>
      decodingText encoding subject start stop reason
  | error => argumentsText error.arguments

def encodingDetails? : Raised → Option (Text × Text)
  | host .encoding [.scalar (.text encoding), _, _, _, .scalar (.text reason)] =>
      some (encoding, reason)
  | _ => none

/-! ## Numbers of errors -/

/-- The number that a value is, when it can be the number of an error. -/
def errorNumber? : Value → Option ErrorNumber
  | .scalar (.integer number) => some (.integer number)
  | .scalar (.flag value) => some (.flag value)
  | _ => none

def details (error : Raised) : ErrorNumber × Text :=
  match error.arguments with
  | first :: second :: _ =>
      match errorNumber? first with
      | some number => (number, second.display)
      | none => (.integer 0, error.text)
  | _ => (.integer 0, error.text)

end Raised

end BoundQuery
