import BoundQuery.Binding
import BoundQuery.Execution
import BoundQuery.Options
import BoundQuery.Results

/-!
# Sessions

A session binds statements and runs them on one connection until it is closed. It is
opened on options, on settled connection options, or around a connection that exists
already. Closing it closes the connection once; afterwards statements can still be
bound, but none is run.

Errors of the driver come back as query faults while a query runs, and as connection
faults while a connection is opened. All other faults travel on unchanged.

The statements at the end say that a closed session runs nothing, that closing a
session twice makes no further request, and that binding asks nothing of the
connection.
-/

namespace BoundQuery

/-! ## Opening connections -/

namespace Opening

/-- What the driver is asked to open a connection with. -/
def arguments (settings : Settings) (options : ConnectionOptions) : ConnectArguments where
  host := options.hostname
  user := options.username
  password := options.password
  database := if options.database = [] then none else some options.database
  port := options.port
  socket := options.socket
  charset := options.charset
  connectTimeout := settings.connectTimeout

/-- The address in notices: the socket when there is one, and else the host. -/
def address (options : ConnectionOptions) : Text :=
  match options.socket with
  | some (first :: rest) => first :: rest
  | _ => options.hostname

def announcement (options : ConnectionOptions) : Notice where
  level := .debug
  source := .connection
  message :=
    Text.ofString "Connecting to MySQL " ++ options.username ++ Text.ofString "@" ++
      address options ++ Text.ofString ":" ++ Numeral.integer options.port ++
      Text.ofString " (database=" ++ options.database.quoted ++ Text.ofString ")"

/-- An error of the driver, as the reason for which no connection is opened. -/
def refusal : Fault → Fault
  | .raised (.driver errorClass arguments) =>
      .connection (.refused (.driver errorClass arguments))
  | other => other

/-- The error with which the far end refuses a connection. -/
def refusal? (connection : Connection) : Option Raised :=
  match connection.backend with
  | .scripted script => script.connectError
  | .unopened _ => none

def request (arguments : ConnectArguments) : Exchange Unit := fun connection =>
  Exchange.request (.connect arguments) (refusal? connection) connection

def connect (settings : Settings) (options : ConnectionOptions) : Exchange Unit := do
  if isKnownCharset options.charset then
    Exchange.notify (announcement options)
    Exchange.handling (request (arguments settings options)) fun fault =>
      throw (refusal fault)
  else
    throw (.connection (.unknownCharset options.charset))

/-- Settled options, or the fault that they are not valid. -/
def settle (settings : Settings) (table : OptionTable) :
    Except Fault ConnectionOptions :=
  match ConnectionOptions.resolve settings table with
  | .valid options => .ok options
  | .invalid issues => .error (.connection (.invalidOptions issues))

def connectTable (settings : Settings) (table : OptionTable) : Exchange Unit := do
  let options ← Exchange.ofExcept (settle settings table)
  connect settings options

end Opening

/-! ## Sessions -/

/-- A session runs statements under some settings until it is closed. -/
structure Session where
  settings : Settings
  closed : Bool

/-- What a session is opened on. -/
inductive Target
  | existing
  | mapping (source : Value)
  | options (options : ConnectionOptions)

namespace Session

/-- Opens a session. Options given by keyword are laid over a mapping, and do not go
together with settled options. -/
def start (settings : Settings) (target : Target) (keywords : OptionTable) :
    Exchange Session := do
  match target with
  | .existing => pure ()
  | .mapping source =>
      let table ← Exchange.ofExcept (OptionTable.ofValue source)
      Opening.connectTable settings (table.merge keywords)
  | .options options =>
      if keywords.isEmpty then Opening.connect settings options
      else throw .keywordConflict
  return ⟨settings, false⟩

/-! ## Binding and running -/

/-- The query of a statement, escaped as the server reads it at this moment. -/
def bind (statement : Statement) : Exchange Text := fun connection =>
  Exchange.ofExcept
    (statement.bind (QuoteMode.ofStatus connection.status).escaper) connection

def announcement (query : Text) : Notice where
  level := .debug
  source := .session
  message := Text.ofString "Executing SQL: " ++ query

/-- A fault of running a query, as the session reports it. -/
def translate : Fault → Fault
  | .raised (.driver errorClass arguments) =>
      .query (.rejected (.driver errorClass arguments))
  | .raised (.host errorClass arguments) =>
      match Raised.encodingDetails? (.host errorClass arguments) with
      | some (encoding, reason) =>
          .query (.unencodable encoding reason (.host errorClass arguments))
      | none => .raised (.host errorClass arguments)
  | other => other

/-- Runs the query of a statement and gives its result. -/
def query (session : Session) (statement : Statement) : Exchange ResultSet := do
  let text ← bind statement
  if session.closed then throw (.query .closed)
  Exchange.notify (announcement text)
  let cursor ←
    Exchange.handling (Execution.run session.settings.statementTimeout text)
      fun fault => throw (translate fault)
  ResultSet.ofCursor cursor

/-- Reads something off the result of a statement, which is freed in the end. -/
def withResult {result : Type} (session : Session) (statement : Statement)
    (read : ResultSet → Exchange result) : Exchange result := do
  let set ← session.query statement
  Exchange.ensuring (read set) set.free

def allRows (session : Session) (statement : Statement) : Exchange (List Row) :=
  session.withResult statement ResultSet.rows

def firstRow (session : Session) (statement : Statement) : Exchange (Option Row) :=
  session.withResult statement ResultSet.fetchRow

def firstColumn (session : Session) (statement : Statement) : Exchange (List Value) :=
  session.withResult statement ResultSet.column

/-- The first value of the first row, or the given value without a row. -/
def firstValue (session : Session) (statement : Statement) (fallback : Value) :
    Exchange Value :=
  session.withResult statement fun set => do
    let found ← set.fetchColumn
    return found.getD fallback

/-! ## Health and closing -/

/-- Whether the session is open and its connection answers. -/
def isHealthy (session : Session) : Exchange Bool :=
  if session.closed then pure false
  else Health.check session.settings.statementTimeout

def connectionKept : Notice where
  level := .warning
  source := .session
  message := Text.ofString "Failed to close MySQL connection"

/-- Closes the connection of a session that was not closed before. -/
def close (session : Session) : Exchange Unit :=
  if session.closed then pure ()
  else
    Exchange.handling Exchange.closeConnection fun _ =>
      Exchange.notify connectionKept

/-- A session after it was closed, whether its connection could be closed or not. -/
def asClosed (session : Session) : Session :=
  { session with closed := true }

end Session

/-! ## Steps of a session -/

/-- A step of using a session. Results are named by their numbers. -/
inductive SessionStep
  | bind (statement : Statement)
  | query (statement : Statement)
  | allRows (statement : Statement)
  | firstRow (statement : Statement)
  | firstColumn (statement : Statement)
  | firstValue (statement : Statement) (fallback : Value)
  | isHealthy
  | isClosed
  | close
  | enter
  | leave
  | setStatus (status : Option Int)
  | result (number : Nat) (step : ResultStep)

/-- A session in use: its connection, and the results made so far. -/
structure SessionState where
  session : Session
  connection : Connection
  results : Results

namespace SessionState

/-- The state and the answer after an action that leaves session and results as they
are. -/
def settle {result : Type} (state : SessionState) (reply : result → Reply)
    (action : Exchange result) : SessionState × Except Fault Reply :=
  match action state.connection with
  | .ok value next => ({ state with connection := next }, .ok (reply value))
  | .error fault next => ({ state with connection := next }, .error fault)

def withSet (state : SessionState) (set : ResultSet) : SessionState :=
  { state with
    results := { state.results with sets := state.results.sets ++ [set] } }

def query (state : SessionState) (statement : Statement) :
    SessionState × Except Fault Reply :=
  match state.session.query statement state.connection with
  | .ok set next =>
      ({ state with connection := next }.withSet set,
        .ok (.opened state.results.sets.length set))
  | .error fault next => ({ state with connection := next }, .error fault)

def close (state : SessionState) : SessionState × Except Fault Reply :=
  { state with session := state.session.asClosed }.settle (fun _ => .nothing)
    state.session.close

def step (state : SessionState) : SessionStep → SessionState × Except Fault Reply
  | .bind statement => state.settle .text (Session.bind statement)
  | .query statement => state.query statement
  | .allRows statement => state.settle .rows (state.session.allRows statement)
  | .firstRow statement =>
      state.settle Reply.ofRow? (state.session.firstRow statement)
  | .firstColumn statement =>
      state.settle .column (state.session.firstColumn statement)
  | .firstValue statement fallback =>
      state.settle .value (state.session.firstValue statement fallback)
  | .isHealthy => state.settle .flag state.session.isHealthy
  | .isClosed => (state, .ok (.flag state.session.closed))
  | .close => state.close
  | .enter => (state, .ok (.flag true))
  | .leave => state.close
  | .setStatus status =>
      ({ state with connection := { state.connection with status := status } },
        .ok .nothing)
  | .result number step =>
      let outcome := state.results.step number step state.connection
      ({ state with connection := outcome.connection, results := outcome.results },
        outcome.answer)

end SessionState

/-! ## Facts on sessions -/

namespace Session

/-- Binding leaves the connection as it is. -/
theorem bind_eq (statement : Statement) (connection : Connection) :
    bind statement connection =
      match statement.bind (QuoteMode.ofStatus connection.status).escaper with
      | .ok text => .ok text connection
      | .error fault => .error fault connection := by
  unfold bind Exchange.ofExcept
  cases statement.bind (QuoteMode.ofStatus connection.status).escaper <;> rfl

/-- A closed session reports the fault of binding, if there is one, and else that it
is closed. It makes no request either way. -/
theorem query_of_closed (session : Session) (statement : Statement)
    (connection : Connection) (closed : session.closed = true) :
    session.query statement connection =
      match statement.bind (QuoteMode.ofStatus connection.status).escaper with
      | .ok _ => .error (.query .closed) connection
      | .error fault => .error fault connection := by
  simp only [query, Bind.bind, EStateM.bind, bind_eq]
  cases statement.bind (QuoteMode.ofStatus connection.status).escaper with
  | ok text => simp only [closed, if_true]; rfl
  | error fault => rfl

/-- Closing a closed session makes no request. -/
theorem close_of_closed (session : Session) (connection : Connection)
    (closed : session.closed = true) :
    session.close connection = .ok () connection := by
  simp [close, closed, pure, EStateM.pure]

end Session

end BoundQuery
