import BoundQuery.Charset
import BoundQuery.Fault

/-!
# Connections

A connection is known by what it answers and by what it was asked. What it answers is
laid down in a script: for each cursor the errors that opening, running, fetching and
closing it raise, and the rows that it gives. What it was asked is the list of its
requests in order, and this list is all the state that the answers depend on. The
number of a cursor is the number of cursors asked for before it, and a fetch gives the
row that comes next after the fetches already made.

A connection that was never opened has no script. It refuses every query after it has
tried to encode it, and it keeps no list of requests.

The statement at the end says that a fetch moves on to the next row unless it raises an
error.
-/

namespace BoundQuery

/-! ## Scripts -/

structure CursorScript where
  columns : List Text
  rowCount : Value
  insertId : Value
  rows : List (List Value)
  openError : Option Raised
  executeError : Option Raised
  closeError : Option Raised
  fetchErrors : List (Nat × Raised)

namespace CursorScript

/-- A cursor without columns, rows or errors. -/
def silent : CursorScript where
  columns := []
  rowCount := .integer 0
  insertId := .integer 0
  rows := []
  openError := none
  executeError := none
  closeError := none
  fetchErrors := []

/-- The error that a fetch raises, counted from zero. -/
def fetchError? (script : CursorScript) (fetch : Nat) : Option Raised :=
  (script.fetchErrors.find? fun entry => entry.1 == fetch).map Prod.snd

/-- The number of fetches that gave a row or the end before a given one. -/
def answeredBefore (script : CursorScript) : Nat → Nat
  | 0 => 0
  | fetch + 1 =>
      answeredBefore script fetch +
        (if (script.fetchError? fetch).isSome then 0 else 1)

/-- The answer to a fetch, counted from zero: an error, or the next row, or nothing
after the last one. -/
def fetchAnswer (script : CursorScript) (fetch : Nat) :
    Except Raised (Option (List Value)) :=
  match script.fetchError? fetch with
  | some error => .error error
  | none => .ok script.rows[script.answeredBefore fetch]?

end CursorScript

structure Script where
  connectError : Option Raised
  cursors : List CursorScript
  closeError : Option Raised

/-! ## Requests and notices -/

/-- What the driver is asked to open a connection with. -/
structure ConnectArguments where
  host : Text
  user : Text
  password : Text
  database : Option Text
  port : Int
  socket : Option Text
  charset : Text
  connectTimeout : Int

/-- A request to the driver. Cursors are named by their numbers. -/
inductive Request
  | connect (arguments : ConnectArguments)
  | openCursor (cursor : Nat)
  | execute (cursor : Nat) (query : Text)
  | fetch (cursor : Nat)
  | closeCursor (cursor : Nat)
  | closeConnection

namespace Request

def isOpenCursor : Request → Bool
  | openCursor _ => true
  | _ => false

def isFetchOf (cursor : Nat) : Request → Bool
  | fetch asked => asked == cursor
  | _ => false

def isCloseOf (cursor : Nat) : Request → Bool
  | closeCursor asked => asked == cursor
  | _ => false

end Request

inductive Level
  | debug
  | warning
  deriving DecidableEq

/-- The part of the library that gives a notice. -/
inductive Source
  | session
  | connection
  | health
  | result
  deriving DecidableEq

structure Notice where
  level : Level
  source : Source
  message : Text
  deriving DecidableEq

/-! ## The state of a connection -/

/-- The far end of a connection follows a script, or was never opened. -/
inductive Backend
  | scripted (script : Script)
  | unopened (encoding : Encoding)

/-- A connection with the status that its server reported, the requests made and the
notices given. -/
structure Connection where
  backend : Backend
  status : Option Int
  requests : List Request
  notices : List Notice

namespace Connection

/-- A connection that nothing was asked of. -/
def fresh (backend : Backend) (status : Option Int) : Connection :=
  ⟨backend, status, [], []⟩

def cursorCount (connection : Connection) : Nat :=
  connection.requests.countP Request.isOpenCursor

def fetchCount (connection : Connection) (cursor : Nat) : Nat :=
  connection.requests.countP (Request.isFetchOf cursor)

/-- The script of a cursor. Cursors past the end of the script are silent. -/
def cursorScript (connection : Connection) (cursor : Nat) : CursorScript :=
  match connection.backend with
  | .scripted script => script.cursors.getD cursor CursorScript.silent
  | .unopened _ => CursorScript.silent

/-- A connection with one more request on its list. -/
def recording (connection : Connection) (request : Request) : Connection :=
  match connection.backend with
  | .scripted _ => { connection with requests := connection.requests ++ [request] }
  | .unopened _ => connection

end Connection

/-- A computation that talks to a connection. -/
abbrev Exchange (result : Type) := EStateM Fault Connection result

namespace Exchange

/-! ## Requests -/

/-- Makes a request, after which the given error is raised if there is one. -/
def request (asked : Request) (error : Option Raised) : Exchange Unit :=
  fun connection =>
    match error with
    | none => .ok () (connection.recording asked)
    | some raised => .error (.raised raised) (connection.recording asked)

def notify (notice : Notice) : Exchange Unit := fun connection =>
  .ok () { connection with notices := connection.notices ++ [notice] }

def openCursor : Exchange Nat := fun connection =>
  let cursor := connection.cursorCount
  match request (.openCursor cursor) (connection.cursorScript cursor).openError
      connection with
  | .ok _ next => .ok cursor next
  | .error fault next => .error fault next

def executeError? (connection : Connection) (cursor : Nat) (query : Text) :
    Option Raised :=
  match connection.backend with
  | .scripted _ => (connection.cursorScript cursor).executeError
  | .unopened encoding =>
      some ((encoding.failure? query).getD
        (.driver .interface [.integer 0, .text []]))

def execute (cursor : Nat) (query : Text) : Exchange Unit := fun connection =>
  request (.execute cursor query) (executeError? connection cursor query) connection

def fetch (cursor : Nat) : Exchange (Option (List Value)) := fun connection =>
  let next := connection.recording (.fetch cursor)
  match (connection.cursorScript cursor).fetchAnswer (connection.fetchCount cursor) with
  | .ok answer => .ok answer next
  | .error raised => .error (.raised raised) next

def closeCursor (cursor : Nat) : Exchange Unit := fun connection =>
  request (.closeCursor cursor) (connection.cursorScript cursor).closeError connection

def closeConnectionError? (connection : Connection) : Option Raised :=
  match connection.backend with
  | .scripted script => script.closeError
  | .unopened _ => none

def closeConnection : Exchange Unit := fun connection =>
  request .closeConnection (closeConnectionError? connection) connection

/-! ## Control -/

/-- An action with a cleanup that runs however the action ends. A fault of the cleanup
takes the place of what the action gave. -/
def ensuring {result : Type} (action : Exchange result) (cleanup : Exchange Unit) :
    Exchange result := fun connection =>
  match action connection with
  | .ok value next =>
      match cleanup next with
      | .ok _ final => .ok value final
      | .error fault final => .error fault final
  | .error raised next =>
      match cleanup next with
      | .ok _ final => .error raised final
      | .error fault final => .error fault final

/-- An action whose faults other than interruptions are taken by a handler. -/
def handling {result : Type} (action : Exchange result)
    (handler : Fault → Exchange result) : Exchange result := fun connection =>
  match action connection with
  | .ok value next => .ok value next
  | .error fault next =>
      if fault.isInterruption then .error fault next else handler fault next

/-- An action with a cleanup that runs when the action ends in a fault other than an
interruption. A fault of the cleanup takes the place of the first one. -/
def onFault {result : Type} (action : Exchange result) (cleanup : Exchange Unit) :
    Exchange result :=
  handling action fun fault => do
    cleanup
    throw fault

/-- An action on a cursor that is opened for it and closed after it. -/
def withCursor {result : Type} (action : Nat → Exchange result) : Exchange result := do
  let cursor ← openCursor
  ensuring (action cursor) (closeCursor cursor)

def ofExcept {result : Type} : Except Fault result → Exchange result
  | .ok value => pure value
  | .error fault => throw fault

end Exchange

/-! ## Facts on fetches -/

/-- A fetch moves on to the next row unless it raises an error. -/
theorem CursorScript.answeredBefore_succ (script : CursorScript) (fetch : Nat) :
    script.answeredBefore (fetch + 1) =
      script.answeredBefore fetch +
        (if (script.fetchError? fetch).isSome then 0 else 1) := rfl

end BoundQuery
