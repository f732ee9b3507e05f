import BoundQuery.Connection

/-!
# Results of queries

A result gives the rows of a query one after the other. It knows its columns, the
number of rows that the server reported, and the number that an insertion generated.
A result without columns has no rows, and neither has one that was freed; neither asks
its cursor for any. Freeing a result closes its cursor once.

A row pairs the column names with the values. Where a name is repeated, the row keeps
the first place of the name and its last value.

The statement at the end says that a result that was freed is not readable any more.
-/

namespace BoundQuery

/-! ## Rows -/

/-- The values of a row under the names of their columns. -/
abbrev Row := List (Text × Value)

namespace Row

def put (name : Text) (value : Value) : Row → Row
  | [] => [(name, value)]
  | (present, old) :: rest =>
      if present = name then (present, value) :: rest
      else (present, old) :: put name value rest

/-- The row of column names and values laid over the given row. -/
def fill : Row → List Text → List Value → Except Fault Row
  | row, [], [] => .ok row
  | _, [], _ :: _ => .error .rowTooLong
  | _, _ :: _, [] => .error .rowTooShort
  | row, name :: names, value :: values => fill (put name value row) names values

/-- The row of column names and values, which must be equally many. -/
def ofColumns (columns : List Text) (values : List Value) : Except Fault Row :=
  fill [] columns values

end Row

/-! ## Results -/

/-- A result reads its rows from a cursor. -/
structure ResultSet where
  cursor : Nat
  columns : List Text
  rowCount : Value
  insertId : Value
  freed : Bool

namespace ResultSet

/-- The number of rows that the server reported, when it is greater than zero. -/
def reportedRows (reported : Value) : Except Fault Value :=
  if reported.isVacant then .ok (.integer 0)
  else
    match reported.isPositive? with
    | some true => .ok reported
    | some false => .ok (.integer 0)
    | none => .error (.uncountable reported)

/-- The number that an insertion generated, or null. -/
def generatedId (reported : Value) : Value :=
  if reported.isVacant then .null else reported

def ofScript (cursor : Nat) (script : CursorScript) : Except Fault ResultSet := do
  let rowCount ← reportedRows script.rowCount
  return {
    cursor := cursor
    columns := script.columns
    rowCount := rowCount
    insertId := generatedId script.insertId
    freed := false }

/-- The result of the query that ran on a cursor. -/
def ofCursor (cursor : Nat) : Exchange ResultSet := fun connection =>
  Exchange.ofExcept (ofScript cursor (connection.cursorScript cursor)) connection

/-- Whether a result still asks its cursor for rows. -/
def isReadable (result : ResultSet) : Bool :=
  !result.freed && !result.columns.isEmpty

/-- The values of the next row, or nothing after the last one. -/
def fetchValues (result : ResultSet) : Exchange (Option (List Value)) :=
  if result.isReadable then Exchange.fetch result.cursor else pure none

def fetchRow (result : ResultSet) : Exchange (Option Row) := do
  match ← fetchValues result with
  | none => return none
  | some values =>
      let row ← Exchange.ofExcept (Row.ofColumns result.columns values)
      return some row

def firstValue : List Value → Except Fault Value
  | [] => .error .emptyRow
  | first :: _ => .ok first

def fetchColumn (result : ResultSet) : Exchange (Option Value) := do
  match ← fetchValues result with
  | none => return none
  | some values =>
      let first ← Exchange.ofExcept (firstValue values)
      return some first

/-- The items that a step gives until it gives nothing, at most as many as the bound
allows. -/
def collect {item : Type} (step : Exchange (Option item)) : Nat → Exchange (List item)
  | 0 => pure []
  | bound + 1 => do
      match ← step with
      | none => return []
      | some first =>
          let following ← collect step bound
          return first :: following

/-- A bound on the rows that a result still gives: every fetch that gives a row moves
on in the script of its cursor. -/
def rowBound (result : ResultSet) (connection : Connection) : Nat :=
  (connection.cursorScript result.cursor).rows.length + 1

def rows (result : ResultSet) : Exchange (List Row) := fun connection =>
  collect result.fetchRow (result.rowBound connection) connection

def column (result : ResultSet) : Exchange (List Value) := fun connection =>
  collect result.fetchColumn (result.rowBound connection) connection

/-! ## Freeing -/

def cursorKept : Notice where
  level := .warning
  source := .result
  message := Text.ofString "Failed to close cursor"

/-- Closes the cursor of a result that was not freed before. -/
def free (result : ResultSet) : Exchange Unit :=
  if result.freed then pure ()
  else
    Exchange.handling (Exchange.closeCursor result.cursor) fun _ =>
      Exchange.notify cursorKept

/-- A result after it was freed, whether its cursor could be closed or not. -/
def asFreed (result : ResultSet) : ResultSet :=
  { result with freed := true }

theorem isReadable_asFreed (result : ResultSet) :
    result.asFreed.isReadable = false := by
  simp [asFreed, isReadable]

end ResultSet

end BoundQuery
