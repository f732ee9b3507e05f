import BoundQuery.Fault
import BoundQuery.Number.IntegerText
import BoundQuery.Number.Reading

/-!
# Settings

Settings give the connection options that a caller leaves out, the time in seconds
that opening a connection may take, and optionally the time in seconds that a
statement may take. They are read from named texts. Names are compared without regard
to the case of letters, an empty text counts as absent, and unknown names are ignored.
-/

namespace BoundQuery

/-! ## Settings and environments -/

structure Settings where
  hostname : Text
  username : Text
  password : Text
  database : Text
  port : Int
  socket : Option Text
  charset : Text
  connectTimeout : Int
  statementTimeout : Option Double

/-- Named texts. A later text of one name takes the place of an earlier one. -/
abbrev Environment := List (Text × Text)

namespace Environment

/-- The text of a name, unless it is absent or empty. -/
def find? (environment : Environment) (name : String) : Option Text :=
  (environment.reverse.find? fun entry =>
    entry.1.lowerAscii == (Text.ofString name).lowerAscii && !entry.2.isEmpty).map Prod.snd

end Environment

/-! ## Texts of fields -/

/-- The integer that the text of a field denotes. A text with a surrogate is refused
before it is read. -/
def checkIntegerText (name : String) (text : Text) : Checked Int :=
  if text.hasSurrogate then .complain name .notUnicode
  else
    match readInteger text with
    | .ok number => .valid number
    | .error .malformed => .complain name .notIntegerText
    | .error .tooLong => .complain name .oversized

/-- The real number that the text of a field denotes. -/
def checkDoubleText (name : String) (text : Text) : Checked Double :=
  if text.hasSurrogate then .complain name .notUnicode
  else Checked.ofOption name .notNumberText (readDouble? text)

/-! ## Reading settings -/

namespace Settings

def default : Settings where
  hostname := Text.ofString "localhost"
  username := Text.ofString "root"
  password := []
  database := []
  port := 3306
  socket := none
  charset := Text.ofString "utf8mb4"
  connectTimeout := 10
  statementTimeout := none

def integerField (environment : Environment) (name : String) (fallback : Int) :
    Checked Int :=
  match environment.find? name with
  | none => .valid fallback
  | some text => checkIntegerText name text

/-- A setting that is a real number or absent. -/
def doubleField (environment : Environment) (name : String) :
    Checked (Option Double) :=
  match environment.find? name with
  | none => .valid none
  | some text => (checkDoubleText name text).map some

def textField (environment : Environment) (name : String) (fallback : Text) : Text :=
  (environment.find? name).getD fallback

/-- The settings that an environment gives. -/
def read (environment : Environment) : Checked Settings :=
  let build (port connectTimeout : Int) (statementTimeout : Option Double) : Settings :=
    { hostname := textField environment "DB_HOSTNAME" default.hostname
      username := textField environment "DB_USERNAME" default.username
      password := textField environment "DB_PASSWORD" default.password
      database := textField environment "DB_DATABASE" default.database
      port := port
      socket := environment.find? "DB_SOCKET"
      charset := textField environment "DB_CHARSET" default.charset
      connectTimeout := connectTimeout
      statementTimeout := statementTimeout }
  (((Checked.valid build).apply (integerField environment "DB_PORT" default.port)).apply
    (integerField environment "DB_CONNECT_TIMEOUT" default.connectTimeout)).apply
    (doubleField environment "DB_STATEMENT_TIMEOUT")

end Settings

end BoundQuery
