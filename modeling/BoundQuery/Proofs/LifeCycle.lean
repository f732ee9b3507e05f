import BoundQuery.Proofs.RequestKinds

/-!
# The life cycle of a session

A session is open until the first step that closes or leaves it, and closed from then on.
Its connection is closed by that step and by no other one. A closed session still binds
statements, as it would if it were open, but runs none of them.

The main statement is about every sequence of steps, whatever errors the connection
raises on the way.
-/

namespace BoundQuery

open Exchange

/-! ## Steps one after the other -/

namespace SessionStep

def closes : SessionStep → Bool
  | .close | .leave => true
  | _ => false

/-- The statement that a step runs. -/
def runs? : SessionStep → Option Statement
  | .query statement | .allRows statement | .firstRow statement | .firstColumn statement =>
      some statement
  | .firstValue statement _ => some statement
  | _ => none

/-- A connection that a step begins with: some steps set the status of the server. -/
def readies : SessionStep → Connection → Connection
  | .setStatus status, connection => { connection with status := status }
  | _, connection => connection

theorem requests_readies (step : SessionStep) (connection : Connection) :
    (step.readies connection).requests = connection.requests := by
  cases step <;> rfl

theorem backend_readies (step : SessionStep) (connection : Connection) :
    (step.readies connection).backend = connection.backend := by
  cases step <;> rfl

end SessionStep

namespace SessionState

def after (state : SessionState) (step : SessionStep) : SessionState :=
  (state.step step).1

def answer (state : SessionState) (step : SessionStep) : Except Fault Reply :=
  (state.step step).2

def run (state : SessionState) (steps : List SessionStep) : SessionState :=
  steps.foldl after state

section Settling

variable {result : Type} (state : SessionState) (reply : result → Reply)
variable (action : Exchange result)

theorem session_settle : (state.settle reply action).1.session = state.session := by
  unfold settle
  cases action state.connection <;> rfl

theorem connection_settle :
    (state.settle reply action).1.connection = action.after state.connection := by
  unfold settle Exchange.after
  cases action state.connection <;> rfl

theorem answer_settle :
    (state.settle reply action).2 = (action.answer state.connection).map reply := by
  unfold settle Exchange.answer
  cases action state.connection <;> rfl

end Settling

theorem session_query (state : SessionState) (statement : Statement) :
    (state.query statement).1.session = state.session := by
  unfold query
  cases state.session.query statement state.connection <;> rfl

theorem connection_query (state : SessionState) (statement : Statement) :
    (state.query statement).1.connection =
      (state.session.query statement).after state.connection := by
  unfold query Exchange.after
  cases state.session.query statement state.connection <;> rfl

/-! ## Steps that do not close the session -/

theorem session_after {step : SessionStep} (keeps : step.closes = false)
    (state : SessionState) : (state.after step).session = state.session := by
  cases step with
  | bind statement => exact session_settle state _ _
  | query statement => exact session_query state statement
  | allRows statement => exact session_settle state _ _
  | firstRow statement => exact session_settle state _ _
  | firstColumn statement => exact session_settle state _ _
  | firstValue statement fallback => exact session_settle state _ _
  | isHealthy => exact session_settle state _ _
  | close => cases keeps
  | leave => cases keeps
  | isClosed => rfl
  | enter => rfl
  | setStatus status => rfl
  | result number step => rfl

theorem connection_close (state : SessionState) :
    state.close.1.connection = state.session.close.after state.connection :=
  connection_settle { state with session := state.session.asClosed } _ state.session.close

theorem session_close (state : SessionState) :
    state.close.1.session = state.session.asClosed :=
  session_settle { state with session := state.session.asClosed } _ state.session.close

theorem after_of_closes {step : SessionStep} (closes : step.closes = true)
    (state : SessionState) : state.after step = state.close.1 := by
  cases step <;> first | rfl | cases closes

/-- A step that does not close the session asks for cursors only. -/
theorem extends_after {step : SessionStep} (keeps : step.closes = false)
    (state : SessionState) :
    (step.readies state.connection).Extends Request.AboutCursor
      (state.after step).connection := by
  cases step with
  | bind statement =>
      rw [after, SessionState.step, connection_settle]
      exact Session.asksOnly_bind_statement statement _
  | query statement =>
      rw [after, SessionState.step, connection_query]
      exact Session.asksOnly_query state.session statement _
  | allRows statement =>
      rw [after, SessionState.step, connection_settle]
      exact Session.asksOnly_withResult _ _ ResultSet.asksOnly_rows _
  | firstRow statement =>
      rw [after, SessionState.step, connection_settle]
      exact Session.asksOnly_withResult _ _ ResultSet.asksOnly_fetchRow _
  | firstColumn statement =>
      rw [after, SessionState.step, connection_settle]
      exact Session.asksOnly_withResult _ _ ResultSet.asksOnly_column _
  | firstValue statement fallback =>
      rw [after, SessionState.step, connection_settle]
      refine Session.asksOnly_withResult _ _ (fun set => ?_) _
      exact asksOnly_bind set.asksOnly_fetchColumn fun found =>
        asksOnly_pure (found.getD fallback)
  | isHealthy =>
      rw [after, SessionState.step, connection_settle]
      exact Session.asksOnly_isHealthy state.session _
  | close => cases keeps
  | leave => cases keeps
  | isClosed => exact .refl _ state.connection
  | enter => exact .refl _ state.connection
  | setStatus status => exact .refl _ { state.connection with status := status }
  | result number step =>
      exact (Results.extends_step state.results number step state.connection).mono
        Request.Reads.aboutCursor

end SessionState

/-! ## Closed sessions -/

namespace Session

/-- The fault with which a closed session refuses a statement. -/
def refusal (statement : Statement) (connection : Connection) : Fault :=
  match statement.bind (QuoteMode.ofStatus connection.status).escaper with
  | .ok _ => .query .closed
  | .error fault => fault

variable {session : Session}

theorem query_eq_refusal
    (closed : session.closed = true) (statement : Statement) (connection : Connection) :
    session.query statement connection =
      .error (refusal statement connection) connection := by
  rw [query_of_closed session statement connection closed, refusal]
  cases statement.bind (QuoteMode.ofStatus connection.status).escaper <;> rfl

theorem withResult_eq_refusal
    {result : Type} (closed : session.closed = true) (statement : Statement)
    (read : ResultSet → Exchange result) (connection : Connection) :
    session.withResult statement read connection =
      .error (refusal statement connection) connection := by
  simp only [withResult, Bind.bind, EStateM.bind,
    query_eq_refusal closed statement connection]

theorem isHealthy_of_closed (closed : session.closed = true) :
    session.isHealthy = pure false := by
  rw [isHealthy, closed]
  rfl

end Session

namespace SessionState

variable {state : SessionState}

theorem settle_of_refusal
    {result : Type} {reply : result → Reply} {action : Exchange result} {fault : Fault}
    (refused : action state.connection = .error fault state.connection) :
    state.settle reply action = (state, .error fault) := by
  rw [settle, refused]

/-- A closed session refuses the statement of every step that runs one. -/
theorem step_of_closed
    (closed : state.session.closed = true) {step : SessionStep} {statement : Statement}
    (runs : step.runs? = some statement) :
    state.step step = (state, .error (Session.refusal statement state.connection)) := by
  cases step with
  | query own =>
      cases runs
      rw [SessionState.step, query, Session.query_eq_refusal closed]
  | allRows own =>
      cases runs
      exact settle_of_refusal (Session.withResult_eq_refusal closed _ _ _)
  | firstRow own =>
      cases runs
      exact settle_of_refusal (Session.withResult_eq_refusal closed _ _ _)
  | firstColumn own =>
      cases runs
      exact settle_of_refusal (Session.withResult_eq_refusal closed _ _ _)
  | firstValue own fallback =>
      cases runs
      exact settle_of_refusal (Session.withResult_eq_refusal closed _ _ _)
  | _ => cases runs

theorem close_of_closed (closed : state.session.closed = true) :
    state.close.1.connection = state.connection := by
  rw [connection_close, Exchange.after,
    Session.close_of_closed state.session state.connection closed]

/-- Once the session is closed, a step can only fetch rows and close cursors. -/
theorem extends_after_of_closed
    (closed : state.session.closed = true) (step : SessionStep) :
    (step.readies state.connection).Extends Request.Reads (state.after step).connection := by
  cases runs : step.runs? with
  | some statement =>
      have same : step.readies state.connection = state.connection := by
        cases step <;> first | rfl | cases runs
      rw [after, step_of_closed closed runs, same]
      exact .refl _ state.connection
  | none =>
      cases step with
      | bind statement =>
          rw [after, SessionState.step, connection_settle]
          exact Session.asksOnly_bind_statement statement _
      | isHealthy =>
          rw [after, SessionState.step, connection_settle,
            Session.isHealthy_of_closed closed]
          exact asksOnly_pure false _
      | close =>
          rw [after_of_closes rfl, close_of_closed closed]
          exact .refl _ state.connection
      | leave =>
          rw [after_of_closes rfl, close_of_closed closed]
          exact .refl _ state.connection
      | isClosed => exact .refl _ state.connection
      | enter => exact .refl _ state.connection
      | setStatus status => exact .refl _ { state.connection with status := status }
      | result number step =>
          exact Results.extends_step state.results number step state.connection
      | _ => cases runs

theorem closed_after (step : SessionStep) (state : SessionState) :
    (state.after step).session.closed = (state.session.closed || step.closes) := by
  cases closes : step.closes with
  | true =>
      rw [after_of_closes closes, session_close, Bool.or_true]
      rfl
  | false => rw [session_after closes, Bool.or_false]

/-- A session is closed when it was closed before or when one of the steps closes it. -/
theorem closed_run (steps : List SessionStep) (state : SessionState) :
    (state.run steps).session.closed =
      (state.session.closed || steps.any SessionStep.closes) := by
  induction steps generalizing state with
  | nil => exact (Bool.or_false _).symm
  | cons step rest inductionHypothesis =>
      have following := inductionHypothesis (state.after step)
      rw [closed_after, Bool.or_assoc] at following
      exact following

end SessionState

/-! ## Closing the connection -/

def Request.isCloseConnection : Request → Bool
  | .closeConnection => true
  | _ => false

theorem countP_isCloseConnection_of_aboutCursor
    {asked : List Request} (about : ∀ request ∈ asked, request.AboutCursor) :
    asked.countP Request.isCloseConnection = 0 := by
  rw [List.countP_eq_zero]
  intro request member closes
  have aboutCursor := about request member
  cases request <;> contradiction

/-- An open session closes its connection, whatever comes of it. -/
theorem Session.after_close_of_open
    {session : Session} (isOpen : session.closed = false) (connection : Connection) :
    ∃ notices, session.close.after connection =
      { connection.recording .closeConnection with notices := notices } := by
  have closing : session.close =
      handling closeConnection fun _ => Exchange.notify connectionKept := by
    rw [close, isOpen]
    rfl
  rw [closing, Exchange.after, handling, closeConnection]
  cases closeConnectionError? connection with
  | none => exact ⟨_, rfl⟩
  | some error =>
      cases interrupts : error.isInterruption with
      | true =>
          refine ⟨(connection.recording .closeConnection).notices, ?_⟩
          simp only [request, Fault.isInterruption, interrupts, if_true]
      | false =>
          refine ⟨(connection.recording .closeConnection).notices ++ [connectionKept], ?_⟩
          simp only [request, Fault.isInterruption, interrupts, Bool.false_eq_true, if_false]
          rfl

namespace SessionState

variable {state : SessionState} {script : Script}

theorem connection_after_of_closing
    (scripted : state.connection.backend = .scripted script)
    (isOpen : state.session.closed = false) {step : SessionStep}
    (closes : step.closes = true) :
    (state.after step).connection.backend = .scripted script ∧
      (state.after step).connection.requests =
        state.connection.requests ++ [.closeConnection] := by
  obtain ⟨notices, same⟩ := Session.after_close_of_open isOpen state.connection
  rw [after_of_closes closes, connection_close, same, recording_of_scripted scripted]
  exact ⟨scripted, rfl⟩

/-- The number of times that steps close the connection of a session. -/
def closings (closed : Bool) (steps : List SessionStep) : Nat :=
  if closed = false ∧ steps.any SessionStep.closes = true then 1 else 0

/-- A step closes the connection when it closes an open session, and not otherwise. -/
theorem requests_after
    (scripted : state.connection.backend = .scripted script) (step : SessionStep) :
    (state.after step).connection.backend = .scripted script ∧
      ∃ asked,
        (state.after step).connection.requests = state.connection.requests ++ asked ∧
          asked.countP Request.isCloseConnection = closings state.session.closed [step] := by
  cases isOpen : state.session.closed with
  | true =>
      have extended := extends_after_of_closed isOpen step
      obtain ⟨asked, requests, reads⟩ := extended.requests
      rw [SessionStep.requests_readies] at requests
      refine ⟨extended.backend.trans ?_, asked, requests, ?_⟩
      · rw [SessionStep.backend_readies, scripted]
      · exact countP_isCloseConnection_of_aboutCursor fun request member =>
          Request.Reads.aboutCursor request (reads request member)
  | false =>
      cases closes : step.closes with
      | true =>
          obtain ⟨backend, requests⟩ := connection_after_of_closing scripted isOpen closes
          refine ⟨backend, [.closeConnection], requests, ?_⟩
          simp [closings, closes, Request.isCloseConnection]
      | false =>
          have extended := extends_after closes state
          obtain ⟨asked, requests, about⟩ := extended.requests
          rw [SessionStep.requests_readies] at requests
          refine ⟨extended.backend.trans ?_, asked, requests, ?_⟩
          · rw [SessionStep.backend_readies, scripted]
          · rw [countP_isCloseConnection_of_aboutCursor about]
            simp [closings, closes]

theorem closings_cons (closed : Bool) (step : SessionStep) (rest : List SessionStep) :
    closings closed (step :: rest) =
      closings closed [step] + closings (closed || step.closes) rest := by
  cases closed <;> cases closes : step.closes <;> simp [closings, closes]

theorem requests_run
    (scripted : state.connection.backend = .scripted script) (steps : List SessionStep) :
    (state.run steps).connection.backend = .scripted script ∧
      ∃ asked,
        (state.run steps).connection.requests = state.connection.requests ++ asked ∧
          asked.countP Request.isCloseConnection = closings state.session.closed steps := by
  induction steps generalizing state with
  | nil =>
      refine ⟨scripted, [], (List.append_nil _).symm, ?_⟩
      simp [closings]
  | cons step rest inductionHypothesis =>
      obtain ⟨backend, asked, requests, count⟩ := requests_after scripted step
      obtain ⟨backendThen, later, following, laterCount⟩ := inductionHypothesis backend
      refine ⟨backendThen, asked ++ later, ?_, ?_⟩
      · rw [← List.append_assoc, ← requests]
        exact following
      · rw [List.countP_append, count, laterCount, closed_after, ← closings_cons]

/-! ## Binding goes on -/

theorem status_close (session : Session) (connection : Connection) :
    (session.close.after connection).status = connection.status := by
  have recorded : (connection.recording .closeConnection).status = connection.status := by
    rw [Connection.recording]
    split <;> rfl
  by_cases closed : session.closed = true
  · rw [Exchange.after, Session.close_of_closed session connection closed]
  · obtain ⟨notices, same⟩ :=
      Session.after_close_of_open (Bool.eq_false_iff.mpr closed) connection
    rw [same]
    exact recorded

/-- Only the steps that set the status of the server change it. -/
theorem status_after (step : SessionStep) (state : SessionState) :
    (state.after step).connection.status = (step.readies state.connection).status := by
  by_cases closes : step.closes = true
  · have same : step.readies state.connection = state.connection := by
      cases step <;> first | rfl | cases closes
    rw [after_of_closes closes, connection_close, status_close, same]
  · exact (extends_after (Bool.eq_false_iff.mpr closes) state).status

theorem status_readies {first second : Connection}
    (same : first.status = second.status) (step : SessionStep) :
    (step.readies first).status = (step.readies second).status := by
  cases step <;> first | exact same | rfl

/-- The steps that close a session leave no trace in the status of the server. -/
theorem status_run_filter
    {first second : SessionState}
    (same : first.connection.status = second.connection.status) (steps : List SessionStep) :
    (first.run steps).connection.status =
      (second.run (steps.filter fun step => !step.closes)).connection.status := by
  induction steps generalizing first second with
  | nil => exact same
  | cons step rest inductionHypothesis =>
      have afterFirst := status_after step first
      by_cases closes : step.closes = true
      · have kept : step.readies first.connection = first.connection := by
          cases step <;> first | rfl | cases closes
        have skipped : (step :: rest).filter (fun step => !step.closes) =
            rest.filter fun step => !step.closes :=
          List.filter_cons_of_neg (by simp [closes])
        rw [kept, same] at afterFirst
        rw [skipped]
        exact inductionHypothesis afterFirst
      · have taken : (step :: rest).filter (fun step => !step.closes) =
            step :: rest.filter fun step => !step.closes :=
          List.filter_cons_of_pos (by simp [closes])
        have afterSecond := status_after step second
        rw [← status_readies same step] at afterSecond
        rw [taken]
        exact inductionHypothesis (afterFirst.trans afterSecond.symm)

/-- What a statement binds to depends on the status of the server alone. -/
theorem answer_bind (state : SessionState) (statement : Statement) :
    state.answer (.bind statement) =
      (statement.bind (QuoteMode.ofStatus state.connection.status).escaper).map
        Reply.text := by
  have settled := answer_settle state Reply.text (Session.bind statement)
  have bound : (Session.bind statement).answer state.connection =
      statement.bind (QuoteMode.ofStatus state.connection.status).escaper :=
    (takes_ofExcept _ state.connection).answer
  rw [bound] at settled
  exact settled

theorem answer_of_closed
    (closed : state.session.closed = true) {step : SessionStep} {statement : Statement}
    (runs : step.runs? = some statement) :
    (∀ fault, state.answer (.bind statement) = .error fault →
        state.answer step = .error fault) ∧
      ∀ reply, state.answer (.bind statement) = .ok reply →
        ∃ issue, state.answer step = .error (.query issue) ∧ issue.number = .integer 0 := by
  have refused : state.answer step =
      .error (Session.refusal statement state.connection) :=
    congrArg Prod.snd (step_of_closed closed runs)
  rw [answer_bind, refused, Session.refusal]
  cases statement.bind (QuoteMode.ofStatus state.connection.status).escaper with
  | error fault =>
      refine ⟨fun _ same => ?_, fun _ same => (by cases same)⟩
      cases same
      rfl
  | ok text =>
      exact ⟨fun _ same => (by cases same), fun _ _ => ⟨.closed, rfl, rfl⟩⟩

/-- A connection is closed at most once, by the first step that closes an open session,
and a session that is closed stays closed. From that step on, no step asks for a cursor
or executes anything. Afterwards a step that runs a statement gives the fault of binding
it, or else a query fault of number zero; the session is not healthy; and statements bind
as they do without the steps that close it. -/
theorem life_cycle
    {state : SessionState} {script : Script}
    (scripted : state.connection.backend = .scripted script) (steps : List SessionStep) :
    (∃ asked, (state.run steps).connection.requests = state.connection.requests ++ asked ∧
        asked.countP Request.isCloseConnection ≤ 1 ∧
        (state.session.closed = false → (∃ closing ∈ steps, closing.closes = true) →
          asked.countP Request.isCloseConnection = 1)) ∧
      (∀ step, (state.run steps).session.closed = true →
        ((state.run steps).after step).session.closed = true) ∧
      (∀ step, (∃ closing ∈ step :: steps, closing.closes = true) →
        ∃ asked,
          ((state.run steps).after step).connection.requests =
              (state.run steps).connection.requests ++ asked ∧
            ∀ request ∈ asked, (∀ cursor, request ≠ .openCursor cursor) ∧
              ∀ cursor query, request ≠ .execute cursor query) ∧
      ((∃ closing ∈ steps, closing.closes = true) →
        (∀ step statement, step.runs? = some statement →
          (∀ fault, (state.run steps).answer (.bind statement) = .error fault →
            (state.run steps).answer step = .error fault) ∧
          ∀ reply, (state.run steps).answer (.bind statement) = .ok reply →
            ∃ issue, (state.run steps).answer step = .error (.query issue) ∧
              issue.number = .integer 0) ∧
        (state.run steps).answer .isHealthy = .ok (.flag false) ∧
        ∀ statement, (state.run steps).answer (.bind statement) =
          (state.run (steps.filter fun step => !step.closes)).answer (.bind statement)) := by
  have closedAfter : (∃ closing ∈ steps, closing.closes = true) →
      (state.run steps).session.closed = true := by
    intro closing
    rw [closed_run, List.any_eq_true.mpr closing, Bool.or_true]
  refine ⟨?_, ?_, ?_, ?_⟩
  · obtain ⟨_, asked, requests, count⟩ := requests_run scripted steps
    rw [closings] at count
    refine ⟨asked, requests, ?_, ?_⟩
    · rw [count]
      split
      · exact Nat.le_refl 1
      · exact Nat.zero_le 1
    · intro isOpen closing
      rw [count, if_pos ⟨isOpen, List.any_eq_true.mpr closing⟩]
  · intro step closed
    rw [closed_after, closed, Bool.true_or]
  · intro step closing
    by_cases closed : (state.run steps).session.closed = true
    · obtain ⟨asked, requests, reads⟩ := (extends_after_of_closed closed step).requests
      rw [SessionStep.requests_readies] at requests
      exact ⟨asked, requests, fun request member =>
        Request.Reads.runs_nothing (reads request member)⟩
    · have closes : step.closes = true := by
        obtain ⟨first, member, closes⟩ := closing
        rcases List.mem_cons.mp member with rfl | later
        · exact closes
        · exact absurd (closedAfter ⟨first, later, closes⟩) closed
      have requests := (connection_after_of_closing (requests_run scripted steps).1
        (Bool.eq_false_iff.mpr closed) closes).2
      refine ⟨[.closeConnection], requests, ?_⟩
      intro request member
      rw [List.mem_singleton.mp member]
      exact ⟨fun _ same => (by cases same), fun _ _ same => (by cases same)⟩
  · intro closing
    have closed := closedAfter closing
    refine ⟨fun step statement runs => answer_of_closed closed runs, ?_, ?_⟩
    · have settled : (state.run steps).answer .isHealthy =
          ((state.run steps).session.isHealthy.answer (state.run steps).connection).map
            Reply.flag :=
        answer_settle (state.run steps) Reply.flag (state.run steps).session.isHealthy
      rw [settled, Session.isHealthy_of_closed closed]
      rfl
    · intro statement
      rw [answer_bind, answer_bind, status_run_filter rfl steps]

/-- Closing the connection is interrupted, and the session is left once more. -/
def interrupted : SessionState where
  session := ⟨Settings.default, false⟩
  connection := .fresh (.scripted ⟨none, [], some (.host .interruption [])⟩) none
  results := .empty

theorem life_cycle_interrupted :
    (∃ asked, (interrupted.run [.close, .leave]).connection.requests = [] ++ asked ∧
        asked.countP Request.isCloseConnection = 1) ∧
      ∃ issue,
        (interrupted.run [.close, .leave]).answer
            (.query ⟨.text (Text.ofString "SELECT 1"), [], []⟩) = .error (.query issue) ∧
          issue.number = .integer 0 := by
  have scripted : interrupted.connection.backend =
      .scripted ⟨none, [], some (.host .interruption [])⟩ := rfl
  have closing : ∃ closing ∈ [SessionStep.close, .leave], closing.closes = true :=
    ⟨.close, List.mem_cons_self, rfl⟩
  obtain ⟨⟨asked, requests, _, once⟩, _, _, refuses⟩ :=
    life_cycle scripted [.close, .leave]
  exact ⟨⟨asked, requests, once rfl closing⟩,
    ((refuses closing).1 _ _ rfl).2 _ rfl⟩

end SessionState

end BoundQuery
