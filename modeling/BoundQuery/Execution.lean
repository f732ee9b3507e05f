import BoundQuery.Connection

/-!
# Running statements under a time limit

A query runs on a cursor of its own. When a positive time limit is configured, a first
cursor tells the server the limit in milliseconds, the query runs on the second one,
and a third one lifts the limit again however the query ended. A cursor whose query
fails is closed; one whose query succeeds is handed to the caller open. A failure to
lift the limit is a matter for the log only.

The statement on limits says that a limit applies exactly when it is configured and
positive.
-/

namespace BoundQuery

namespace Execution

/-! ## Limits -/

/-- The statement that limits the time of further statements. -/
def limitStatement (milliseconds : Int) : Text :=
  Text.ofString "SET SESSION max_execution_time = " ++ Numeral.integer milliseconds

/-- The statement that lifts the limit. -/
def unlimitedStatement : Text :=
  Text.ofString "SET SESSION max_execution_time = 0"

/-- The whole milliseconds in a number of seconds. -/
def milliseconds (seconds : Double) : Except Fault Int :=
  match seconds.timesThousand.integerPart? with
  | some amount => .ok amount
  | none => .error .infiniteTimeout

/-- The limit to apply: the configured one, if it is greater than zero. -/
def activeLimit (timeout : Option Double) : Option Double :=
  timeout.filter Double.isPositive

/-- Tells the server the limit. The cursor is open before the milliseconds are worked
out. -/
def applyLimit (seconds : Double) : Exchange Unit :=
  Exchange.withCursor fun cursor => do
    let amount ← Exchange.ofExcept (milliseconds seconds)
    Exchange.execute cursor (limitStatement amount)

def limitKept : Notice where
  level := .warning
  source := .connection
  message := Text.ofString "Failed to reset max_execution_time"

def liftLimit : Exchange Unit :=
  Exchange.handling
    (Exchange.withCursor fun cursor => Exchange.execute cursor unlimitedStatement)
    fun _ => Exchange.notify limitKept

/-! ## Queries -/

/-- Runs a query on an open cursor, which is closed when the query fails. -/
def runOn (cursor : Nat) (query : Text) : Exchange Unit :=
  Exchange.onFault (Exchange.execute cursor query) (Exchange.closeCursor cursor)

/-- Runs a query and gives its cursor, which is open. -/
def run (timeout : Option Double) (query : Text) : Exchange Nat :=
  match activeLimit timeout with
  | none => do
      let cursor ← Exchange.openCursor
      runOn cursor query
      return cursor
  | some seconds => do
      applyLimit seconds
      let cursor ← Exchange.openCursor
      Exchange.ensuring (runOn cursor query) liftLimit
      return cursor

/-! ## Facts on limits -/

theorem activeLimit_eq_some_iff (timeout : Option Double) (seconds : Double) :
    activeLimit timeout = some seconds ↔
      timeout = some seconds ∧ seconds.isPositive = true := by
  simp [activeLimit, Option.filter_eq_some_iff]

end Execution

/-! ## Health -/

namespace Health

def probe : Text :=
  Text.ofString "SELECT 1"

def unhealthy : Notice where
  level := .debug
  source := .health
  message := Text.ofString "MySQL health check failed"

/-- A handler that reports bad health. -/
def report (_ : Fault) : Exchange Bool := do
  Exchange.notify unhealthy
  return false

/-- Whether a connection answers the probe with a row. The cursor of the probe is
closed in the end, and an error of closing it is raised. -/
def check (timeout : Option Double) : Exchange Bool := fun connection =>
  match Execution.run timeout probe connection with
  | .ok cursor next =>
      Exchange.ensuring
        (Exchange.handling
          (do
            let row ← Exchange.fetch cursor
            return row.isSome)
          report)
        (Exchange.closeCursor cursor) next
  | .error fault next =>
      if fault.isInterruption then .error fault next else report fault next

end Health

end BoundQuery
