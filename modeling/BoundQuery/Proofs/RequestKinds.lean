import BoundQuery.Proofs.Preservation
import BoundQuery.Session

/-!
# Kinds of requests

Some facts on an action need less than its course: it makes requests of some kinds only,
and changes nothing else of the connection but the notices. This holds of an action made
of parts when it holds of the parts.

The statements at the end say that running a query and checking the health of a
connection ask for cursors only, and that reading a result only fetches rows and closes
cursors.
-/

namespace BoundQuery

/-! ## Connections with more requests -/

/-- A connection with more requests of some kinds than another one. Backend and status
are the same. -/
structure Connection.Extends (allowed : Request → Prop) (before after : Connection) :
    Prop where
  backend : after.backend = before.backend
  status : after.status = before.status
  requests : ∃ asked, after.requests = before.requests ++ asked ∧
    ∀ request ∈ asked, allowed request

namespace Connection.Extends

variable {allowed : Request → Prop} {first second third : Connection}

theorem refl (allowed : Request → Prop) (connection : Connection) :
    connection.Extends allowed connection :=
  ⟨rfl, rfl, [], (List.append_nil _).symm, fun _ member => absurd member List.not_mem_nil⟩

theorem trans
    (begins : first.Extends allowed second) (goesOn : second.Extends allowed third) :
    first.Extends allowed third := by
  obtain ⟨asked, requests, allowedFirst⟩ := begins.requests
  obtain ⟨later, following, allowedLater⟩ := goesOn.requests
  refine ⟨goesOn.backend.trans begins.backend, goesOn.status.trans begins.status,
    asked ++ later, ?_, ?_⟩
  · rw [following, requests, List.append_assoc]
  · intro request member
    rcases List.mem_append.mp member with early | late
    · exact allowedFirst request early
    · exact allowedLater request late

theorem mono
    {wider : Request → Prop} (extends' : first.Extends allowed second)
    (wide : ∀ request, allowed request → wider request) : first.Extends wider second := by
  obtain ⟨asked, requests, fine⟩ := extends'.requests
  exact ⟨extends'.backend, extends'.status, asked, requests,
    fun request member => wide request (fine request member)⟩

theorem recording
    (connection : Connection) {request : Request} (fine : allowed request) :
    connection.Extends allowed (connection.recording request) := by
  cases backend : connection.backend with
  | unopened encoding =>
      have same : connection.recording request = connection := by
        rw [Connection.recording, backend]
      rw [same]
      exact refl allowed connection
  | scripted script =>
      rw [Exchange.recording_of_scripted backend]
      refine ⟨rfl, rfl, [request], rfl, ?_⟩
      intro made member
      rwa [List.mem_singleton.mp member]

instance (allowed : Request → Prop) :
    IsPreorder Connection (Connection.Extends allowed) where
  refl := refl allowed
  trans _ _ _ := trans

end Connection.Extends

namespace Exchange

variable {result target : Type}

/-- An action makes requests of some kinds only. -/
def AsksOnly (allowed : Request → Prop) (action : Exchange result) : Prop :=
  ∀ connection : Connection, connection.Extends allowed (action.after connection)

section Steps

variable {allowed : Request → Prop}

theorem asksOnly_iff_keeps {action : Exchange result} :
    action.AsksOnly allowed ↔ action.Keeps (Connection.Extends allowed) :=
  Iff.rfl

theorem AsksOnly.mono
    {wider : Request → Prop} {action : Exchange result} (asks : action.AsksOnly allowed)
    (wide : ∀ request, allowed request → wider request) : action.AsksOnly wider :=
  fun connection => (asks connection).mono wide

theorem AsksOnly.of_ok
    {action : Exchange result} (asks : action.AsksOnly allowed)
    {connection next : Connection} {value : result}
    (ran : action connection = .ok value next) : connection.Extends allowed next := by
  have extended := asks connection
  rwa [after, ran] at extended

theorem AsksOnly.of_error
    {action : Exchange result} (asks : action.AsksOnly allowed)
    {connection next : Connection} {fault : Fault}
    (ran : action connection = .error fault next) : connection.Extends allowed next := by
  have extended := asks connection
  rwa [after, ran] at extended

theorem asksOnly_pure (value : result) : (pure value : Exchange result).AsksOnly allowed :=
  asksOnly_iff_keeps.mpr (keeps_pure value)

theorem asksOnly_throw (fault : Fault) : (throw fault : Exchange result).AsksOnly allowed :=
  asksOnly_iff_keeps.mpr (keeps_throw fault)

theorem asksOnly_ofExcept (given : Except Fault result) :
    (ofExcept given).AsksOnly allowed :=
  asksOnly_iff_keeps.mpr (keeps_ofExcept given)

theorem asksOnly_notify (notice : Notice) : (notify notice).AsksOnly allowed :=
  fun _ => ⟨rfl, rfl, [], (List.append_nil _).symm,
    fun _ member => absurd member List.not_mem_nil⟩

theorem records_extends {made : Request} (fine : allowed made) :
    Records (Connection.Extends allowed) made :=
  fun connection => .recording connection fine

theorem asksOnly_execute {cursor : Nat} {query : Text} (fine : allowed (.execute cursor query)) :
    (execute cursor query).AsksOnly allowed :=
  asksOnly_iff_keeps.mpr (keeps_execute (records_extends fine))

theorem asksOnly_closeCursor {cursor : Nat} (fine : allowed (.closeCursor cursor)) :
    (closeCursor cursor).AsksOnly allowed :=
  asksOnly_iff_keeps.mpr (keeps_closeCursor (records_extends fine))

theorem asksOnly_fetch {cursor : Nat} (fine : allowed (.fetch cursor)) :
    (fetch cursor).AsksOnly allowed :=
  asksOnly_iff_keeps.mpr (keeps_fetch (records_extends fine))

theorem asksOnly_openCursor (fine : ∀ cursor, allowed (.openCursor cursor)) :
    openCursor.AsksOnly allowed :=
  asksOnly_iff_keeps.mpr (keeps_openCursor fun cursor => records_extends (fine cursor))

theorem asksOnly_bind
    {first : Exchange result} {following : result → Exchange target}
    (begins : first.AsksOnly allowed) (goesOn : ∀ value, (following value).AsksOnly allowed) :
    (first >>= following).AsksOnly allowed :=
  asksOnly_iff_keeps.mpr (keeps_bind begins goesOn)

theorem asksOnly_ensuring
    {action : Exchange result} {cleanup : Exchange Unit}
    (acts : action.AsksOnly allowed) (cleans : cleanup.AsksOnly allowed) :
    (ensuring action cleanup).AsksOnly allowed :=
  asksOnly_iff_keeps.mpr (keeps_ensuring acts cleans)

theorem asksOnly_handling
    {action : Exchange result} {handler : Fault → Exchange result}
    (acts : action.AsksOnly allowed) (handles : ∀ fault, (handler fault).AsksOnly allowed) :
    (handling action handler).AsksOnly allowed :=
  asksOnly_iff_keeps.mpr (keeps_handling acts handles)

theorem asksOnly_onFault
    {action : Exchange result} {cleanup : Exchange Unit}
    (acts : action.AsksOnly allowed) (cleans : cleanup.AsksOnly allowed) :
    (onFault action cleanup).AsksOnly allowed :=
  asksOnly_iff_keeps.mpr (keeps_onFault acts cleans)

end Steps

end Exchange

/-! ## Requests about cursors -/

namespace Request

def AboutCursor : Request → Prop
  | .openCursor _ | .execute _ _ | .fetch _ | .closeCursor _ => True
  | .connect _ | .closeConnection => False

/-- Requests that neither ask for a cursor nor execute anything. -/
def Reads : Request → Prop
  | .fetch _ | .closeCursor _ => True
  | .openCursor _ | .execute _ _ | .connect _ | .closeConnection => False

theorem Reads.aboutCursor (request : Request) (reads : request.Reads) :
    request.AboutCursor := by
  cases request <;> trivial

theorem Reads.runs_nothing {request : Request} (reads : request.Reads) :
    (∀ cursor, request ≠ .openCursor cursor) ∧
      ∀ cursor query, request ≠ .execute cursor query := by
  constructor
  · rintro cursor rfl
    exact reads
  · rintro cursor query rfl
    exact reads

end Request

open Exchange

namespace Execution

theorem asksOnly_withCursor {action : Nat → Exchange Unit}
    (acts : ∀ cursor, (action cursor).AsksOnly Request.AboutCursor) :
    (withCursor action).AsksOnly Request.AboutCursor :=
  asksOnly_iff_keeps.mpr
    (keeps_withCursor acts (fun _ => records_extends trivial) fun _ => records_extends trivial)

theorem asksOnly_applyLimit (seconds : Double) :
    (applyLimit seconds).AsksOnly Request.AboutCursor :=
  asksOnly_withCursor fun _ =>
    asksOnly_bind (asksOnly_ofExcept _) fun _ => asksOnly_execute trivial

theorem asksOnly_liftLimit : liftLimit.AsksOnly Request.AboutCursor :=
  asksOnly_handling (asksOnly_withCursor fun _ => asksOnly_execute trivial) fun _ =>
    asksOnly_notify limitKept

theorem asksOnly_runOn (cursor : Nat) (query : Text) :
    (runOn cursor query).AsksOnly Request.AboutCursor :=
  asksOnly_onFault (asksOnly_execute trivial) (asksOnly_closeCursor trivial)

theorem asksOnly_run (timeout : Option Double) (query : Text) :
    (run timeout query).AsksOnly Request.AboutCursor := by
  unfold run
  cases activeLimit timeout with
  | none =>
      exact asksOnly_bind (asksOnly_openCursor fun _ => trivial) fun cursor =>
        asksOnly_bind (asksOnly_runOn cursor query) fun _ => asksOnly_pure cursor
  | some seconds =>
      exact asksOnly_bind (asksOnly_applyLimit seconds) fun _ =>
        asksOnly_bind (asksOnly_openCursor fun _ => trivial) fun cursor =>
          asksOnly_bind (asksOnly_ensuring (asksOnly_runOn cursor query) asksOnly_liftLimit)
            fun _ => asksOnly_pure cursor

end Execution

theorem Health.asksOnly_check (timeout : Option Double) :
    (check timeout).AsksOnly Request.AboutCursor := by
  have reports : ∀ fault, (report fault).AsksOnly Request.AboutCursor := fun _ =>
    asksOnly_bind (asksOnly_notify unhealthy) fun _ => asksOnly_pure false
  intro connection
  have runs := Execution.asksOnly_run timeout probe
  unfold Exchange.after check
  cases ran : Execution.run timeout probe connection with
  | ok cursor next =>
      have fetches : (ensuring
          (handling
            (do
              let row ← Exchange.fetch cursor
              return row.isSome)
            report)
          (Exchange.closeCursor cursor)).AsksOnly Request.AboutCursor :=
        asksOnly_ensuring
          (asksOnly_handling
            (asksOnly_bind (asksOnly_fetch trivial) fun row => asksOnly_pure row.isSome)
            reports)
          (asksOnly_closeCursor trivial)
      exact (runs.of_ok ran).trans (fetches next)
  | error fault next =>
      have begins := runs.of_error ran
      cases interrupts : fault.isInterruption with
      | true => simpa only [interrupts, if_true] using begins
      | false =>
          simp only [interrupts, Bool.false_eq_true, if_false]
          exact begins.trans (reports fault next)

/-! ## Requests of results -/

namespace ResultSet

theorem asksOnly_fetchValues (set : ResultSet) :
    set.fetchValues.AsksOnly Request.Reads := by
  unfold fetchValues
  split
  · exact asksOnly_fetch trivial
  · exact asksOnly_pure none

theorem asksOnly_fetchRow (set : ResultSet) : set.fetchRow.AsksOnly Request.Reads :=
  asksOnly_bind set.asksOnly_fetchValues fun
    | none => asksOnly_pure none
    | some _ => asksOnly_bind (asksOnly_ofExcept _) fun row => asksOnly_pure (some row)

theorem asksOnly_fetchColumn (set : ResultSet) : set.fetchColumn.AsksOnly Request.Reads :=
  asksOnly_bind set.asksOnly_fetchValues fun
    | none => asksOnly_pure none
    | some _ => asksOnly_bind (asksOnly_ofExcept _) fun first => asksOnly_pure (some first)

theorem asksOnly_collect
    {allowed : Request → Prop} {item : Type} {step : Exchange (Option item)}
    (asks : step.AsksOnly allowed) (bound : Nat) :
    (collect step bound).AsksOnly allowed := by
  induction bound with
  | zero => exact asksOnly_pure []
  | succ bound inductionHypothesis =>
      exact asksOnly_bind asks fun
        | none => asksOnly_pure []
        | some first =>
            asksOnly_bind inductionHypothesis fun following =>
              asksOnly_pure (first :: following)

theorem asksOnly_rows (set : ResultSet) : set.rows.AsksOnly Request.Reads :=
  fun connection => asksOnly_collect set.asksOnly_fetchRow _ connection

theorem asksOnly_column (set : ResultSet) : set.column.AsksOnly Request.Reads :=
  fun connection => asksOnly_collect set.asksOnly_fetchColumn _ connection

theorem asksOnly_free (set : ResultSet) : set.free.AsksOnly Request.Reads := by
  unfold free
  split
  · exact asksOnly_pure ()
  · exact asksOnly_handling (asksOnly_closeCursor trivial) fun _ =>
      asksOnly_notify cursorKept

end ResultSet

theorem Results.settle_eq
    {result : Type} (results : Results) (reply : result → Reply) (action : Exchange result)
    (connection : Connection) :
    settle results reply action connection =
      ⟨results, action.after connection, (action.answer connection).map reply⟩ := by
  unfold settle Exchange.after Exchange.answer
  cases action connection <;> rfl

theorem Results.extends_settle
    {result : Type} {allowed : Request → Prop} (results : Results) (reply : result → Reply)
    {action : Exchange result} (asks : action.AsksOnly allowed) (connection : Connection) :
    connection.Extends allowed (settle results reply action connection).connection := by
  rw [settle_eq]
  exact asks connection

theorem Results.next_of_running
    {results : Results} {iterator number : Nat} {set : ResultSet}
    (running : results.iterators[iterator]? = some ⟨number, true⟩)
    (found : results.sets[number]? = some set) (connection : Connection) :
    results.next iterator connection =
      match set.fetchRow connection with
      | .ok (some row) after => ⟨results, after, .ok (.row row)⟩
      | .ok none after => ⟨results.markEnded iterator, after, .ok .noMoreRows⟩
      | .error fault after => ⟨results.markEnded iterator, after, .error fault⟩ := by
  cases ran : set.fetchRow connection with
  | ok row after => cases row <;> simp only [next, running, found, ran]
  | error fault after => simp only [next, running, found, ran]

theorem Results.extends_next
    (results : Results) (iterator : Nat) (connection : Connection) :
    connection.Extends Request.Reads (results.next iterator connection).connection := by
  cases running : results.iterators[iterator]? with
  | none =>
      rw [next, running]
      exact .refl Request.Reads connection
  | some current =>
      obtain ⟨number, isRunning⟩ := current
      cases isRunning with
      | false =>
          rw [next_of_ended results iterator number connection running]
          exact .refl Request.Reads connection
      | true =>
          cases found : results.sets[number]? with
          | none =>
              rw [next, running]
              simp only [found]
              exact .refl Request.Reads connection
          | some set =>
              have asks := set.asksOnly_fetchRow
              rw [next_of_running running found]
              cases ran : set.fetchRow connection with
              | ok row after => cases row <;> exact asks.of_ok ran
              | error fault after => exact asks.of_error ran

theorem Results.extends_step
    (results : Results) (number : Nat) (step : ResultStep) (connection : Connection) :
    connection.Extends Request.Reads (results.step number step connection).connection := by
  unfold Results.step
  cases results.sets[number]? with
  | none => exact .refl Request.Reads connection
  | some set =>
      cases step with
      | fetchRow => exact extends_settle results _ set.asksOnly_fetchRow connection
      | fetchColumn fallback =>
          exact extends_settle results _ set.asksOnly_fetchColumn connection
      | properties => exact .refl Request.Reads connection
      | rows => exact extends_settle results _ set.asksOnly_rows connection
      | iterate => exact .refl Request.Reads connection
      | next iterator => exact extends_next results iterator connection
      | free => exact extends_settle _ _ set.asksOnly_free connection
      | enter => exact .refl Request.Reads connection
      | leave => exact extends_settle _ _ set.asksOnly_free connection

/-! ## Requests of sessions -/

namespace Session

theorem asksOnly_bind_statement
    {allowed : Request → Prop} (statement : Statement) :
    (Session.bind statement).AsksOnly allowed :=
  fun connection => asksOnly_ofExcept _ connection

theorem asksOnly_query (session : Session) (statement : Statement) :
    (session.query statement).AsksOnly Request.AboutCursor := by
  unfold query
  apply asksOnly_bind (asksOnly_bind_statement statement)
  intro text
  have runs : (do
      Exchange.notify (announcement text)
      let cursor ←
        Exchange.handling (Execution.run session.settings.statementTimeout text)
          fun fault => throw (translate fault)
      ResultSet.ofCursor cursor : Exchange ResultSet).AsksOnly Request.AboutCursor :=
    asksOnly_bind (asksOnly_notify (announcement text)) fun _ =>
      asksOnly_bind
        (asksOnly_handling (Execution.asksOnly_run _ text) fun fault =>
          asksOnly_throw (translate fault))
        fun cursor connection =>
          asksOnly_ofExcept (ResultSet.ofScript cursor _) connection
  cases session.closed with
  | true => exact asksOnly_bind (asksOnly_throw (.query .closed)) fun _ => runs
  | false => exact runs

theorem asksOnly_withResult
    {result : Type} (session : Session) (statement : Statement)
    {read : ResultSet → Exchange result}
    (reads : ∀ set, (read set).AsksOnly Request.Reads) :
    (session.withResult statement read).AsksOnly Request.AboutCursor :=
  asksOnly_bind (session.asksOnly_query statement) fun set =>
    asksOnly_ensuring ((reads set).mono Request.Reads.aboutCursor)
      (set.asksOnly_free.mono Request.Reads.aboutCursor)

theorem asksOnly_isHealthy (session : Session) :
    session.isHealthy.AsksOnly Request.AboutCursor := by
  unfold isHealthy
  split
  · exact asksOnly_pure false
  · exact Health.asksOnly_check _

end Session

end BoundQuery
