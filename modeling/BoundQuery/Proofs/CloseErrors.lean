import BoundQuery.Proofs.QueryCourse
import Mathlib.Data.List.GetD

/-!
# Errors of closing cursors

A query closes cursors on its way: the one that set a limit, the one that lifts it, and
its own one when it fails. An error of closing the cursor that lifts the limit is a
matter for the log. An error of closing one of the others is raised, and takes the place
of whatever the query would have given.

The main statement compares a query with the same query on a connection whose cursors
close without errors: the answers are equal unless such an error surfaces, and then it
is the error that surfaced that is reported.
-/

namespace BoundQuery

/-! ## Scripts without errors of closing -/

/-- Handlers of ordinary errors take every error of opening, running and closing. -/
structure CursorScript.Ordinary (script : CursorScript) : Prop where
  opening : ∀ error, script.openError = some error → error.isInterruption = false
  running : ∀ error, script.executeError = some error → error.isInterruption = false
  closing : ∀ error, script.closeError = some error → error.isInterruption = false

theorem CursorScript.ordinary_iff {script : CursorScript} :
    script.Ordinary ↔
      ∀ error? ∈ [script.openError, script.executeError, script.closeError],
        error?.all (fun error => !error.isInterruption) = true := by
  simp only [List.forall_mem_cons, List.not_mem_nil, false_implies, implies_true, and_true,
    Option.all_eq_true, Bool.not_eq_true']
  exact ⟨fun ordinary => ⟨ordinary.opening, ordinary.running, ordinary.closing⟩,
    fun ⟨opening, running, closing⟩ => ⟨opening, running, closing⟩⟩

instance CursorScript.decidableOrdinary (script : CursorScript) :
    Decidable script.Ordinary :=
  decidable_of_iff' _ ordinary_iff

theorem CursorScript.ordinary_silent : CursorScript.silent.Ordinary := by decide

def CursorScript.withoutCloseError (script : CursorScript) : CursorScript :=
  { script with closeError := none }

/-- A connection with the same script, but whose cursors close without errors. -/
def Connection.withoutCloseErrors (connection : Connection) : Connection :=
  match connection.backend with
  | .scripted script =>
      { connection with
        backend := .scripted
          { script with cursors := script.cursors.map CursorScript.withoutCloseError } }
  | .unopened _ => connection

theorem CursorScript.withoutCloseError_eq_self
    {script : CursorScript} (closes : script.closeError = none) :
    script.withoutCloseError = script := by
  cases script
  cases closes
  rfl

theorem CursorScript.Ordinary.withoutCloseError
    {script : CursorScript} (ordinary : script.Ordinary) :
    script.withoutCloseError.Ordinary :=
  ⟨ordinary.opening, ordinary.running, fun error unclosed => by cases unclosed⟩

theorem Connection.cursorScript_withoutCloseErrors (connection : Connection) :
    connection.withoutCloseErrors.cursorScript =
      fun cursor => (connection.cursorScript cursor).withoutCloseError := by
  funext cursor
  cases connection with
  | mk backend status requests notices =>
      cases backend with
      | unopened encoding => rfl
      | scripted script =>
          exact List.getD_map script.cursors .silent CursorScript.withoutCloseError

theorem Connection.cursorCount_withoutCloseErrors (connection : Connection) :
    connection.withoutCloseErrors.cursorCount = connection.cursorCount := by
  unfold withoutCloseErrors
  cases connection.backend <;> rfl

theorem Connection.status_withoutCloseErrors (connection : Connection) :
    connection.withoutCloseErrors.status = connection.status := by
  unfold withoutCloseErrors
  cases connection.backend <;> rfl

namespace Execution

open Exchange

/-! ## Errors of closing that surface -/

/-- The query of a cursor is rejected, and then its cursor fails to close. -/
structure FailsUnclosed (script : CursorScript) (error : Raised) : Prop where
  opened : script.openError = none
  rejected : script.executeError ≠ none
  unclosed : script.closeError = some error

/-- An error of closing a cursor of a run surfaces: it comes from the cursor that sets a
limit, or from the cursor of a query that is rejected. -/
inductive CloseErrorSurfaces
    (scripts : Nat → CursorScript) (first : Nat) (timeout : Option Double)
    (error : Raised) : Prop
  | ofLimit (seconds : Double) (limited : activeLimit timeout = some seconds)
      (opened : (scripts first).openError = none)
      (unclosed : (scripts first).closeError = some error)
  | ofQuery (unlimited : activeLimit timeout = none)
      (fails : FailsUnclosed (scripts first) error)
  | ofLimitedQuery (seconds : Double) (limited : activeLimit timeout = some seconds)
      (limits : (limitCourse (scripts first) first seconds).answer = .ok ())
      (fails : FailsUnclosed (scripts (first + 1)) error)

theorem CloseErrorSurfaces.closeError
    {scripts : Nat → CursorScript} {first : Nat} {timeout : Option Double} {error : Raised}
    (surfaces : CloseErrorSurfaces scripts first timeout error) :
    ∃ cursor, (scripts cursor).closeError = some error := by
  cases surfaces with
  | ofLimit seconds limited opened unclosed => exact ⟨first, unclosed⟩
  | ofQuery unlimited fails => exact ⟨first, fails.unclosed⟩
  | ofLimitedQuery seconds limited limits fails => exact ⟨first + 1, fails.unclosed⟩

section Phases

variable {script : CursorScript} {cursor : Nat} {query : Text} {error : Raised}

theorem answer_limitCourse_of_unclosed {seconds : Double}
    (opened : script.openError = none) (unclosed : script.closeError = some error) :
    (limitCourse script cursor seconds).answer = .error (.raised error) := by
  cases counting : milliseconds seconds with
  | error fault =>
      rw [limitCourse_of_not_finite opened counting, unclosed]
      rfl
  | ok amount =>
      rw [limitCourse_of_amount opened counting, unclosed]
      rfl

theorem answer_limitCourse_withoutCloseError {seconds : Double}
    (closes : script.openError = none → script.closeError = none) :
    (limitCourse script.withoutCloseError cursor seconds).answer =
      (limitCourse script cursor seconds).answer := by
  cases opening : script.openError with
  | none => rw [CursorScript.withoutCloseError_eq_self (closes opening)]
  | some refusal =>
      have refused : script.withoutCloseError.openError = some refusal := opening
      rw [limitCourse_of_refused opening, limitCourse_of_refused refused]

theorem answer_unlimitedCourse_of_failsUnclosed
    (ordinary : script.Ordinary) (fails : FailsUnclosed script error) :
    (unlimitedCourse script cursor query).answer = .error (.raised error) := by
  obtain ⟨other, rejected⟩ := Option.ne_none_iff_exists'.mp fails.rejected
  rw [unlimitedCourse, handedCourse_of_open fails.opened,
    queryCourse_of_error rejected (ordinary.running other rejected), fails.unclosed]
  rfl

theorem answer_unlimitedCourse_withoutCloseError
    (closes : ∀ error, ¬ FailsUnclosed script error) :
    (unlimitedCourse script.withoutCloseError cursor query).answer =
      (unlimitedCourse script cursor query).answer := by
  cases closing : script.closeError with
  | none => rw [CursorScript.withoutCloseError_eq_self closing]
  | some error =>
      cases opening : script.openError with
      | some refusal =>
          have refused : script.withoutCloseError.openError = some refusal := opening
          rw [unlimitedCourse, unlimitedCourse, handedCourse_of_refused opening,
            handedCourse_of_refused refused]
      | none =>
          have opened : script.withoutCloseError.openError = none := opening
          have succeeds : script.executeError = none :=
            Classical.byContradiction fun rejected =>
              closes error ⟨opening, rejected, closing⟩
          have succeedsThen : script.withoutCloseError.executeError = none := succeeds
          rw [unlimitedCourse, unlimitedCourse, handedCourse_of_open opening,
            handedCourse_of_open opened, queryCourse_of_success succeeds,
            queryCourse_of_success succeedsThen]

/-- No ordinary error of lifting a limit is raised. -/
theorem answer_liftCourse (ordinary : script.Ordinary) :
    (liftCourse script cursor).answer = .ok () := by
  cases opening : script.openError with
  | some refusal =>
      rw [liftCourse_of_refused opening]
      exact interruptionOf_of_ordinary (ordinary.opening refusal opening)
  | none =>
      rw [liftCourse_of_open opening]
      exact interruptionOf_of_isOrdinary
        ((isOrdinary_raising ordinary.closing).bind fun _ => isOrdinary_raising ordinary.running)

end Phases

section Comparison

variable {scripts : Nat → CursorScript} {first : Nat} {timeout : Option Double}
variable {query : Text} {error : Raised}

/-- Once its limit is set, a run answers as a run without a limit does. -/
theorem answer_limitSetCourse
    {cursor : Nat} (ordinary : (scripts (cursor + 1)).Ordinary) :
    (limitSetCourse scripts cursor query).answer =
      (unlimitedCourse (scripts cursor) cursor query).answer := by
  -- Lifting the limit raises nothing that is not an interruption.
  have ensured : (ensuredCourse scripts cursor query).answer =
      (queryCourse (scripts cursor) cursor query).answer := by
    rw [ensuredCourse, answer_liftCourse ordinary]
    rfl
  cases opening : (scripts cursor).openError with
  | some refusal =>
      rw [limitSetCourse, unlimitedCourse, handedCourse_of_refused opening,
        handedCourse_of_refused opening]
  | none =>
      rw [limitSetCourse, unlimitedCourse, handedCourse_of_open opening,
        handedCourse_of_open opening, ensured]

theorem answer_limitedCourse
    (ordinary : ∀ cursor, (scripts cursor).Ordinary) (seconds : Double) :
    (limitedCourse scripts first seconds query).answer =
      (limitCourse (scripts first) first seconds).answer >>= fun _ =>
        (unlimitedCourse (scripts (first + 1)) (first + 1) query).answer := by
  cases course : limitCourse (scripts first) first seconds with
  | mk answer asked =>
      cases answer with
      | error fault =>
          rw [limitedCourse_of_error course]
          rfl
      | ok done =>
          rw [limitedCourse_of_ok course]
          exact answer_limitSetCourse (ordinary (first + 1 + 1))

theorem answer_runCourse_of_surfaces
    (ordinary : ∀ cursor, (scripts cursor).Ordinary)
    (surfaces : CloseErrorSurfaces scripts first timeout error) :
    (runCourse scripts first timeout query).answer = .error (.raised error) := by
  cases surfaces with
  | ofLimit seconds limited opened unclosed =>
      rw [runCourse_of_limit limited, answer_limitedCourse ordinary,
        answer_limitCourse_of_unclosed opened unclosed]
      rfl
  | ofQuery unlimited fails =>
      rw [runCourse_of_no_limit unlimited]
      exact answer_unlimitedCourse_of_failsUnclosed (ordinary first) fails
  | ofLimitedQuery seconds limited limits fails =>
      rw [runCourse_of_limit limited, answer_limitedCourse ordinary, limits]
      exact answer_unlimitedCourse_of_failsUnclosed (ordinary (first + 1)) fails

theorem answer_runCourse_withoutCloseErrors
    (ordinary : ∀ cursor, (scripts cursor).Ordinary)
    (closes : ∀ error, ¬ CloseErrorSurfaces scripts first timeout error) :
    (runCourse (fun cursor => (scripts cursor).withoutCloseError) first timeout query).answer =
      (runCourse scripts first timeout query).answer := by
  have ordinaryThen : ∀ cursor, (scripts cursor).withoutCloseError.Ordinary :=
    fun cursor => (ordinary cursor).withoutCloseError
  cases limit : activeLimit timeout with
  | none =>
      rw [runCourse_of_no_limit limit, runCourse_of_no_limit limit]
      exact answer_unlimitedCourse_withoutCloseError
        fun error fails => closes error (.ofQuery limit fails)
  | some seconds =>
      have limitCloses : (scripts first).openError = none →
          (scripts first).closeError = none := by
        intro opened
        cases closing : (scripts first).closeError with
        | none => rfl
        | some error => exact absurd (.ofLimit seconds limit opened closing) (closes error)
      rw [runCourse_of_limit limit, runCourse_of_limit limit,
        answer_limitedCourse ordinaryThen, answer_limitedCourse ordinary,
        answer_limitCourse_withoutCloseError limitCloses]
      cases limits : (limitCourse (scripts first) first seconds).answer with
      | error fault => rfl
      | ok done =>
          exact answer_unlimitedCourse_withoutCloseError
            fun error fails => closes error (.ofLimitedQuery seconds limit limits fails)

end Comparison

end Execution

/-! ## Queries of a session -/

namespace Session

section Queries

variable {session : Session} {statement : Statement} {connection : Connection}
variable {script : Script}

theorem answer_query_of_surfaces
    (scripted : connection.backend = .scripted script) (isOpen : session.closed = false)
    (ordinary : ∀ cursor, (connection.cursorScript cursor).Ordinary)
    {text : Text} {error : Raised}
    (bound : statement.bind (QuoteMode.ofStatus connection.status).escaper = .ok text)
    (surfaces : Execution.CloseErrorSurfaces connection.cursorScript
      connection.cursorCount session.settings.statementTimeout error) :
    (session.query statement).answer connection = .error (translate (.raised error)) := by
  rw [(query_takes scripted isOpen bound).answer,
    Execution.answer_runCourse_of_surfaces ordinary surfaces]
  rfl

theorem answer_query_withoutCloseErrors
    (scripted : connection.backend = .scripted script) (isOpen : session.closed = false)
    (ordinary : ∀ cursor, (connection.cursorScript cursor).Ordinary)
    {text : Text}
    (bound : statement.bind (QuoteMode.ofStatus connection.status).escaper = .ok text)
    (closes : ∀ error, ¬ Execution.CloseErrorSurfaces connection.cursorScript
      connection.cursorCount session.settings.statementTimeout error) :
    (session.query statement).answer connection.withoutCloseErrors =
      (session.query statement).answer connection := by
  have scriptedThen : connection.withoutCloseErrors.backend =
      .scripted { script with
        cursors := script.cursors.map CursorScript.withoutCloseError } := by
    rw [Connection.withoutCloseErrors, scripted]
  have boundThen := bound
  rw [← connection.status_withoutCloseErrors] at boundThen
  rw [(query_takes scripted isOpen bound).answer,
    (query_takes scriptedThen isOpen boundThen).answer,
    connection.cursorScript_withoutCloseErrors, connection.cursorCount_withoutCloseErrors,
    Execution.answer_runCourse_withoutCloseErrors ordinary closes]
  rfl

end Queries

/-- A query answers as if its cursors closed without errors, unless an error of closing
surfaces, and then it reports that error. -/
theorem query_reports_close_errors
    {session : Session} (isOpen : session.closed = false) {connection : Connection}
    (ordinary : ∀ cursor, (connection.cursorScript cursor).Ordinary)
    (statement : Statement) :
    (∀ text error,
      statement.bind (QuoteMode.ofStatus connection.status).escaper = .ok text →
      Execution.CloseErrorSurfaces connection.cursorScript connection.cursorCount
        session.settings.statementTimeout error →
      (session.query statement).answer connection =
        .error (translate (.raised error))) ∧
    ((∀ text error,
      statement.bind (QuoteMode.ofStatus connection.status).escaper = .ok text →
      ¬ Execution.CloseErrorSurfaces connection.cursorScript connection.cursorCount
        session.settings.statementTimeout error) →
      (session.query statement).answer connection.withoutCloseErrors =
        (session.query statement).answer connection) := by
  cases backend : connection.backend with
  | unopened encoding =>
      constructor
      · intro text error bound surfaces
        obtain ⟨cursor, unclosed⟩ := surfaces.closeError
        rw [Connection.cursorScript, backend] at unclosed
        cases unclosed
      · intro _
        rw [Connection.withoutCloseErrors, backend]
  | scripted script =>
      constructor
      · intro text error bound surfaces
        exact answer_query_of_surfaces backend isOpen ordinary bound surfaces
      · intro closes
        cases bound : statement.bind (QuoteMode.ofStatus connection.status).escaper with
        | ok text =>
            exact answer_query_withoutCloseErrors backend isOpen ordinary bound
              fun error => closes text error bound
        | error fault =>
            have unbound := bound
            rw [← connection.status_withoutCloseErrors] at unbound
            rw [answer_query_of_bind_eq_error bound, answer_query_of_bind_eq_error unbound]

def misspelled : Statement :=
  ⟨.text (Text.ofString "SELEC 1"), [], []⟩

def syntaxError : Raised :=
  .driver .programming [.integer 1064, .text (Text.ofString "syntax")]

def lostError : Raised :=
  .driver .operational [.integer 2013, .text (Text.ofString "lost")]

def losingConnection : Connection :=
  .following
    [{ CursorScript.silent with
      executeError := some syntaxError
      closeError := some lostError }]

theorem query_reports_close_errors_of_misspelled :
    (query ⟨Settings.default, false⟩ misspelled).answer losingConnection =
      .error (.query (.rejected lostError)) := by
  have ordinary : ∀ cursor, (losingConnection.cursorScript cursor).Ordinary := by
    intro cursor
    cases cursor with
    | zero =>
        constructor <;>
          · intro error raised
            cases raised <;> rfl
    | succ cursor =>
        constructor <;>
          · intro error raised
            cases raised
  have fails : Execution.FailsUnclosed (losingConnection.cursorScript 0) lostError :=
    ⟨rfl, Option.some_ne_none syntaxError, rfl⟩
  exact (query_reports_close_errors rfl ordinary misspelled).1
    (Text.ofString "SELEC 1") lostError rfl (.ofQuery rfl fails)

/-- The error that rejects a query is lost when its cursor fails to close. -/
theorem close_error_hides_rejection :
    (query ⟨Settings.default, false⟩ misspelled).answer losingConnection =
        .error (.query (.rejected lostError)) ∧
      (query ⟨Settings.default, false⟩ misspelled).answer
          losingConnection.withoutCloseErrors =
        .error (.query (.rejected syntaxError)) ∧
      (Fault.query (.rejected lostError)).message = Text.ofString "[2013] lost" ∧
      (Fault.query (.rejected syntaxError)).message = Text.ofString "[1064] syntax" :=
  ⟨rfl, rfl, rfl, rfl⟩

end Session

end BoundQuery
