import BoundQuery.Proofs.RunCourse
import BoundQuery.Session

/-!
# The course of a query

A session that is open binds a statement, gives a notice, runs the text, and reads the
result off the cursor of the run. Only the run makes requests. A fault of binding ends
the query before it, and a fault of running is worded anew.

The main statement gives the course of a query whose statement can be bound.
-/

namespace BoundQuery

namespace Session

open Exchange

/-- What a session makes of the answer of a run. -/
def report (scripts : Nat → CursorScript) : Except Fault Nat → Except Fault ResultSet
  | .ok cursor => ResultSet.ofScript cursor (scripts cursor)
  | .error fault => .error (translate fault)

theorem translate_of_interruption (fault : Fault) (interrupts : fault.isInterruption = true) :
    translate fault = fault := by
  obtain ⟨arguments, rfl⟩ := (Fault.isInterruption_iff fault).mp interrupts
  rfl

theorem takes_ofCursor
    {connection : Connection} {scripts : Nat → CursorScript}
    (follows : connection.cursorScript = scripts) (cursor : Nat) :
    (ResultSet.ofCursor cursor).Takes connection
      ⟨ResultSet.ofScript cursor (scripts cursor), []⟩ := by
  apply (takes_ofExcept _ connection).of_eq
  rw [← follows]
  rfl

section Queries

variable {session : Session} {statement : Statement} {connection : Connection}

theorem answer_query_of_bind_eq_error
    {fault : Fault}
    (unbound : statement.bind (QuoteMode.ofStatus connection.status).escaper =
      .error fault) :
    (session.query statement).answer connection = .error fault := by
  unfold Exchange.answer query
  simp only [Bind.bind, EStateM.bind, bind_eq, unbound]

theorem query_eq_of_bind_eq_ok
    {text : Text} (isOpen : session.closed = false)
    (bound : statement.bind (QuoteMode.ofStatus connection.status).escaper = .ok text) :
    session.query statement connection =
      (do
        Exchange.notify (announcement text)
        let cursor ←
          Exchange.handling (Execution.run session.settings.statementTimeout text)
            fun fault => throw (translate fault)
        ResultSet.ofCursor cursor : Exchange ResultSet) connection := by
  unfold query
  simp only [isOpen, Bind.bind, EStateM.bind, bind_eq, bound]
  rfl

theorem query_takes
    {script : Script} (scripted : connection.backend = .scripted script) {text : Text}
    (isOpen : session.closed = false)
    (bound : statement.bind (QuoteMode.ofStatus connection.status).escaper = .ok text) :
    (session.query statement).Takes connection
      ⟨report connection.cursorScript
          (Execution.runCourse connection.cursorScript connection.cursorCount
            session.settings.statementTimeout text).answer,
        (Execution.runCourse connection.cursorScript connection.cursorCount
          session.settings.statementTimeout text).asked⟩ := by
  apply Takes.of_eq ?_ (query_eq_of_bind_eq_ok isOpen bound)
  have announces := takes_notify (announcement text) connection
  have runs := Execution.run_takes (announces.backend.trans scripted)
    session.settings.statementTimeout text
  -- A notice changes neither the scripts nor the number of the next cursor.
  have sameCount : ((Exchange.notify (announcement text)).after connection).cursorCount =
      connection.cursorCount := announces.cursorCount
  rw [announces.cursorScript, sameCount] at runs
  apply takes_bind_of_ok announces
  cases course : Execution.runCourse connection.cursorScript connection.cursorCount
      session.settings.statementTimeout text with
  | mk answer asked =>
      rw [course] at runs
      have translated := takes_rewording runs translate_of_interruption
      cases answer with
      | ok cursor =>
          have reads := takes_ofCursor
            (translated.cursorScript.trans announces.cursorScript) cursor
          rw [← List.append_nil asked]
          exact takes_bind_of_ok translated reads
      | error fault => exact takes_bind_of_error translated

end Queries

end Session

end BoundQuery
