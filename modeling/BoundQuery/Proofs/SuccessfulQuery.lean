import BoundQuery.Proofs.CursorRelease
import BoundQuery.Proofs.FetchOrder
import BoundQuery.Proofs.RequestKinds
import Mathlib.Logic.Function.Basic

/-!
# Queries that succeed

A query that gives a result has run on a connection that was opened, and the cursor of
its result was opened for it, has executed the text and is open still. This holds
whatever the other cursors did, since none of their errors was raised.

The main statements say so, and that the same query succeeds in the same way when the
cursor of its result is one that closes without an error.
-/

namespace BoundQuery

/-! ## Connections that were never opened -/

namespace Exchange

variable {result target : Type} {encoding : Encoding}

/-- An action gives no value on a connection that was never opened. -/
def Refuses (encoding : Encoding) (action : Exchange result) : Prop :=
  ∀ connection, connection.backend = .unopened encoding →
    ∃ fault, action.answer connection = .error fault

theorem refuses_throw (fault : Fault) : (throw fault : Exchange result).Refuses encoding :=
  fun _ _ => ⟨fault, rfl⟩

theorem refuses_execute (cursor : Nat) (query : Text) :
    (execute cursor query).Refuses encoding := by
  intro connection unopened
  have raises : ∃ error, executeError? connection cursor query = some error := by
    rw [executeError?, unopened]
    exact ⟨_, rfl⟩
  obtain ⟨error, raises⟩ := raises
  refine ⟨.raised error, ?_⟩
  unfold answer execute
  rw [raises]
  rfl

theorem refuses_bind
    {first : Exchange result} {following : result → Exchange target}
    (refuses : first.Refuses encoding) : (first >>= following).Refuses encoding := by
  intro connection unopened
  obtain ⟨fault, fails⟩ := refuses connection unopened
  exact ⟨fault, answer_bind_of_error fails⟩

/-- It is enough that what follows a first part is refused. -/
theorem refuses_bind_of_following
    {first : Exchange result} {following : result → Exchange target}
    (asks : first.AsksOnly Request.AboutCursor)
    (refuses : ∀ value, (following value).Refuses encoding) :
    (first >>= following).Refuses encoding := by
  intro connection unopened
  cases ended : first.answer connection with
  | error fault => exact ⟨fault, answer_bind_of_error ended⟩
  | ok value =>
      obtain ⟨fault, fails⟩ := refuses value _ ((asks connection).backend.trans unopened)
      exact ⟨fault, (answer_bind_of_ok ended).trans fails⟩

theorem refuses_ensuring
    {action : Exchange result} (refuses : action.Refuses encoding)
    (cleanup : Exchange Unit) : (ensuring action cleanup).Refuses encoding := by
  intro connection unopened
  obtain ⟨fault, fails⟩ := refuses connection unopened
  rw [answer_ensuring, fails]
  cases cleanup.answer (action.after connection) with
  | ok done => exact ⟨fault, rfl⟩
  | error other => exact ⟨other, rfl⟩

theorem refuses_handling
    {action : Exchange result} {handler : Fault → Exchange result}
    (asks : action.AsksOnly Request.AboutCursor) (refuses : action.Refuses encoding)
    (handles : ∀ fault, (handler fault).Refuses encoding) :
    (handling action handler).Refuses encoding := by
  intro connection unopened
  obtain ⟨fault, fails⟩ := refuses connection unopened
  cases interrupts : fault.isInterruption with
  | true => exact ⟨fault, answer_handling_of_interruption fails interrupts⟩
  | false =>
      obtain ⟨other, otherFails⟩ := handles fault _
        ((asks connection).backend.trans unopened)
      exact ⟨other, (answer_handling_of_fault fails interrupts).trans otherFails⟩

end Exchange

namespace Execution

open Exchange

variable {encoding : Encoding}

theorem refuses_runOn (cursor : Nat) (query : Text) :
    (runOn cursor query).Refuses encoding :=
  refuses_handling (asksOnly_execute trivial) (refuses_execute cursor query) fun fault =>
    refuses_bind_of_following (asksOnly_closeCursor trivial) fun _ => refuses_throw fault

theorem refuses_applyLimit (seconds : Double) : (applyLimit seconds).Refuses encoding :=
  refuses_bind_of_following (asksOnly_openCursor fun _ => trivial) fun cursor =>
    refuses_ensuring
      (refuses_bind_of_following (asksOnly_ofExcept _) fun amount =>
        refuses_execute cursor (limitStatement amount))
      (closeCursor cursor)

/-- A connection that was never opened refuses every query. -/
theorem refuses_run (timeout : Option Double) (query : Text) :
    (run timeout query).Refuses encoding := by
  unfold run
  cases activeLimit timeout with
  | none =>
      exact refuses_bind_of_following (asksOnly_openCursor fun _ => trivial) fun cursor =>
        refuses_bind (refuses_runOn cursor query)
  | some seconds => exact refuses_bind (refuses_applyLimit seconds)

end Execution

/-! ## The cursor of a query that succeeds -/

namespace Execution

section Runs

variable {scripts : Nat → CursorScript} {first main : Nat} {timeout : Option Double}
variable {query : Text}

/-- Lifting the limit takes nothing away from a query that succeeds. -/
theorem answer_unlimitedCourse_of_limitSetCourse
    (gives : (limitSetCourse scripts first query).answer = .ok main) :
    (unlimitedCourse (scripts first) first query).answer = .ok main := by
  rw [limitSetCourse] at gives
  rw [unlimitedCourse]
  cases opening : (scripts first).openError with
  | some error =>
      rw [handedCourse_of_refused opening] at gives
      cases gives
  | none =>
      rw [handedCourse_of_open opening, ensuredCourse] at gives
      rw [handedCourse_of_open opening]
      cases lifted : (liftCourse (scripts (first + 1)) (first + 1)).answer with
      | error fault =>
          rw [lifted] at gives
          cases gives
      | ok done =>
          rw [lifted] at gives
          exact gives

/-- A run that gives a cursor gives the one of its query, which executed the query. -/
theorem handed_of_runCourse
    (gives : (runCourse scripts first timeout query).answer = .ok main) :
    main = queryCursor first timeout ∧
      (scripts main).openError = none ∧ (scripts main).executeError = none ∧
      callsOn main (runCourse scripts first timeout query).asked =
        [.opening, .executing query] := by
  cases limit : activeLimit timeout with
  | none =>
      rw [runCourse_of_no_limit limit] at gives ⊢
      obtain ⟨rfl, opened, succeeds, calls⟩ := mainCalls_of_answer_eq_ok gives
      rw [callsOn_unlimitedCourse]
      exact ⟨(queryCursor_of_no_limit limit).symm, opened, succeeds, calls⟩
  | some seconds =>
      rw [runCourse_of_limit limit] at gives ⊢
      cases course : limitCourse (scripts first) first seconds with
      | mk answer limits =>
          cases answer with
          | error fault =>
              rw [limitedCourse_of_error course] at gives
              cases gives
          | ok done =>
              rw [limitedCourse_of_ok course] at gives ⊢
              obtain ⟨rfl, opened, succeeds, calls⟩ :=
                mainCalls_of_answer_eq_ok (answer_unlimitedCourse_of_limitSetCourse gives)
              rw [callsOn_main_of_limit_set course]
              exact ⟨(queryCursor_of_limit limit).symm, opened, succeeds, calls⟩

/-! ## The same query on a cursor that closes without an error -/

theorem queryCourse_withoutCloseError
    {script : CursorScript} (succeeds : script.executeError = none) (cursor : Nat) :
    queryCourse script.withoutCloseError cursor query = queryCourse script cursor query := by
  have succeedsThen : script.withoutCloseError.executeError = none := succeeds
  rw [queryCourse_of_success succeeds, queryCourse_of_success succeedsThen]

theorem limitSetCourse_update
    (succeeds : (scripts first).executeError = none) :
    limitSetCourse (Function.update scripts first (scripts first).withoutCloseError) first
        query =
      limitSetCourse scripts first query := by
  have lifter : Function.update scripts first (scripts first).withoutCloseError (first + 1) =
      scripts (first + 1) := Function.update_of_ne (Nat.succ_ne_self first) _ _
  rw [limitSetCourse, limitSetCourse, ensuredCourse, ensuredCourse, lifter,
    Function.update_self, queryCourse_withoutCloseError succeeds]
  rfl

/-- How the cursor of a query closes makes no difference to a run that succeeds. -/
theorem runCourse_update
    (gives : (runCourse scripts first timeout query).answer = .ok main) :
    runCourse (Function.update scripts main (scripts main).withoutCloseError) first timeout
        query =
      runCourse scripts first timeout query := by
  obtain ⟨own, _, succeeds, _⟩ := handed_of_runCourse gives
  cases limit : activeLimit timeout with
  | none =>
      rw [queryCursor_of_no_limit limit] at own
      subst own
      rw [runCourse_of_no_limit limit, runCourse_of_no_limit limit, unlimitedCourse,
        unlimitedCourse, Function.update_self, queryCourse_withoutCloseError succeeds]
      rfl
  | some seconds =>
      rw [queryCursor_of_limit limit] at own
      subst own
      have setter : Function.update scripts (first + 1)
          (scripts (first + 1)).withoutCloseError first = scripts first :=
        Function.update_of_ne (Nat.ne_of_lt (Nat.lt_succ_self first)) _ _
      rw [runCourse_of_limit limit, runCourse_of_limit limit, limitedCourse, limitedCourse,
        setter, limitSetCourse_update succeeds]

end Runs

end Execution

/-! ## Connections on which one cursor closes without an error -/

/-- A connection with the same script, on which one cursor closes without an error. -/
def Connection.closing (connection : Connection) (cursor : Nat) : Connection :=
  match connection.backend with
  | .scripted script =>
      { connection with
        backend := .scripted
          { script with
            cursors := script.cursors.modify cursor CursorScript.withoutCloseError } }
  | .unopened _ => connection

theorem getD_modify_withoutCloseError
    (cursors : List CursorScript) (cursor asked : Nat) :
    (cursors.modify cursor CursorScript.withoutCloseError).getD asked .silent =
      Function.update (fun index => cursors.getD index .silent) cursor
        (cursors.getD cursor .silent).withoutCloseError asked := by
  rw [List.getD_eq_getElem?_getD]
  by_cases same : asked = cursor
  · rw [same, Function.update_self, List.getElem?_modify_eq, List.getD_eq_getElem?_getD]
    exact Option.getD_map CursorScript.withoutCloseError .silent cursors[cursor]?
  · rw [Function.update_of_ne same, List.getElem?_modify_ne _ _ (Ne.symm same),
      List.getD_eq_getElem?_getD]

theorem Connection.cursorScript_closing (connection : Connection) (cursor : Nat) :
    (connection.closing cursor).cursorScript =
      Function.update connection.cursorScript cursor
        (connection.cursorScript cursor).withoutCloseError := by
  cases connection with
  | mk backend status requests notices =>
      cases backend with
      | unopened encoding => exact (Function.update_eq_self cursor _).symm
      | scripted script =>
          funext asked
          exact getD_modify_withoutCloseError script.cursors cursor asked

theorem Connection.backend_closing
    {connection : Connection} {script : Script}
    (scripted : connection.backend = .scripted script) (cursor : Nat) :
    ∃ own, (connection.closing cursor).backend = .scripted own := by
  rw [closing, scripted]
  exact ⟨_, rfl⟩

theorem Connection.status_closing (connection : Connection) (cursor : Nat) :
    (connection.closing cursor).status = connection.status := by
  unfold closing
  cases connection.backend <;> rfl

theorem Connection.requests_closing (connection : Connection) (cursor : Nat) :
    (connection.closing cursor).requests = connection.requests := by
  unfold closing
  cases connection.backend <;> rfl

theorem Connection.cursorCount_closing (connection : Connection) (cursor : Nat) :
    (connection.closing cursor).cursorCount = connection.cursorCount := by
  rw [cursorCount, requests_closing, cursorCount]

theorem Connection.fetchCount_closing (connection : Connection) (cursor asked : Nat) :
    (connection.closing cursor).fetchCount asked = connection.fetchCount asked := by
  rw [fetchCount, requests_closing, fetchCount]

/-! ## What is known of a query that succeeds -/

namespace Session

open Exchange

variable {session : Session} {statement : Statement} {connection : Connection}
variable {set : ResultSet} {query : Text}

/-- What is known of a query that gives a result: a text was bound and run on an open
connection, and the result reads from the cursor of the run. -/
structure Gives (session : Session) (statement : Statement) (connection : Connection)
    (set : ResultSet) (query : Text) : Prop where
  scripted : ∃ script, connection.backend = .scripted script
  isOpen : session.closed = false
  bound : statement.bind (QuoteMode.ofStatus connection.status).escaper = .ok query
  ran : (Execution.runCourse connection.cursorScript connection.cursorCount
    session.settings.statementTimeout query).answer = .ok set.cursor
  made : ResultSet.ofScript set.cursor (connection.cursorScript set.cursor) = .ok set

namespace Gives

theorem takes (gives : session.Gives statement connection set query) :
    (session.query statement).Takes connection
      ⟨.ok set, (Execution.runCourse connection.cursorScript connection.cursorCount
        session.settings.statementTimeout query).asked⟩ := by
  obtain ⟨script, scripted⟩ := gives.scripted
  have takes := query_takes scripted gives.isOpen gives.bound
  rw [gives.ran, report, gives.made] at takes
  exact takes

/-- The cursor of a result was opened and has executed the query, and nothing else. -/
theorem calls (gives : session.Gives statement connection set query) :
    callsOn set.cursor ((session.query statement).asked connection) =
      [.opening, .executing query] := by
  rw [gives.takes.asked_eq]
  exact (Execution.handed_of_runCourse gives.ran).2.2.2

theorem scriptedThen (gives : session.Gives statement connection set query) :
    ∃ script, ((session.query statement).after connection).backend = .scripted script := by
  obtain ⟨script, scripted⟩ := gives.scripted
  exact ⟨script, gives.takes.backend.trans scripted⟩

theorem fresh (gives : session.Gives statement connection set query) : set.freed = false :=
  (ResultSet.fields_of_ofScript gives.made).2

/-- The query succeeds in the same way when its cursor closes without an error. -/
theorem closing (gives : session.Gives statement connection set query) :
    session.Gives statement (connection.closing set.cursor) set query := by
  obtain ⟨script, scripted⟩ := gives.scripted
  refine ⟨Connection.backend_closing scripted set.cursor, gives.isOpen, ?_, ?_, ?_⟩
  · rw [Connection.status_closing]
    exact gives.bound
  · rw [Connection.cursorScript_closing, Connection.cursorCount_closing,
      Execution.runCourse_update gives.ran]
    exact gives.ran
  · rw [Connection.cursorScript_closing, Function.update_self]
    exact gives.made

end Gives

/-- A connection that was never opened gives no result. -/
theorem scripted_of_answer_query_eq_ok
    {text : Text} (isOpen : session.closed = false)
    (bound : statement.bind (QuoteMode.ofStatus connection.status).escaper = .ok text)
    (made : (session.query statement).answer connection = .ok set) :
    ∃ script, connection.backend = .scripted script := by
  cases backend : connection.backend with
  | scripted script => exact ⟨script, rfl⟩
  | unopened encoding =>
      have run : Exchange.Refuses encoding
          (handling (Execution.run session.settings.statementTimeout text)
            fun fault => throw (translate fault)) :=
        refuses_handling (Execution.asksOnly_run _ text) (Execution.refuses_run _ text)
          fun fault => refuses_throw (translate fault)
      have reads : Exchange.Refuses encoding
          (handling (Execution.run session.settings.statementTimeout text)
            (fun fault => throw (translate fault)) >>= ResultSet.ofCursor) :=
        refuses_bind run
      obtain ⟨fault, fails⟩ := refuses_bind_of_following (asksOnly_notify (announcement text))
        (fun _ => reads) connection backend
      rw [answer_eq_of_eq (query_eq_of_bind_eq_ok isOpen bound)] at made
      cases made.symm.trans fails

/-- A query that gives a result has run, and its cursor executed the text. -/
theorem exists_gives (made : (session.query statement).answer connection = .ok set) :
    ∃ query, session.Gives statement connection set query := by
  cases bound : statement.bind (QuoteMode.ofStatus connection.status).escaper with
  | error fault =>
      cases (answer_query_of_bind_eq_error bound).symm.trans made
  | ok text =>
      cases isOpen : session.closed with
      | true => cases (query_takes_of_closed isOpen bound).answer.symm.trans made
      | false =>
          obtain ⟨script, scripted⟩ := scripted_of_answer_query_eq_ok isOpen bound made
          have answer := (query_takes scripted isOpen bound).answer.symm.trans made
          cases ran : (Execution.runCourse connection.cursorScript connection.cursorCount
              session.settings.statementTimeout text).answer with
          | error fault =>
              rw [ran] at answer
              cases answer
          | ok main =>
              rw [ran] at answer
              obtain ⟨rfl, _⟩ := ResultSet.fields_of_ofScript answer
              exact ⟨text, ⟨script, scripted⟩, isOpen, bound, ran, answer⟩

end Session

end BoundQuery
