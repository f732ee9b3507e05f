import BoundQuery.Proofs.PairedReading
import BoundQuery.Proofs.SuccessfulQuery

/-!
# Retrievals release their cursors

All rows, the first row, the first column or the first value are retrieved by running a
query, reading its result and freeing it. The reading only fetches, and a fetch that
raises an error is the last one. Freeing closes the cursor whatever the reading came to,
and an error of closing goes to the log.

The main statement says for each way of retrieving that the cursor of the query is closed
exactly once and after all fetches, that the fault of the reading is the one that the
caller gets, and that an error of closing makes no difference.
-/

namespace BoundQuery

/-! ## Actions that only fetch -/

namespace Exchange

open Connection (SameRows)

variable {result target : Type} {cursor : Nat} {connection : Connection}

/-- An action makes a number of fetches of a cursor and no other request. A fetch that
raises an error is the last one, and the action ends in this error. -/
structure Fetches (action : Exchange result) (cursor : Nat) (connection : Connection)
    (count : Nat) : Prop where
  takes : action.Takes connection
    ⟨action.answer connection, List.replicate count (.fetch cursor)⟩
  fails : ∀ fetch < count, ∀ error,
    (connection.cursorScript cursor).fetchError? (connection.fetchCount cursor + fetch) =
      some error →
      fetch + 1 = count ∧ action.answer connection = .error (.raised error)

/-- An action does nothing but fetch from a cursor, and how the cursor closes has no
bearing on it. -/
structure OnlyFetches (cursor : Nat) (action : Exchange result) : Prop where
  fetches : ∀ connection script, connection.backend = .scripted script →
    ∃ count, action.Fetches cursor connection count
  steady : ∀ script connection beside, SameRows cursor script connection beside →
    InStep (SameRows cursor script) Eq action action connection beside

theorem fetches_of_silent
    {action : Exchange result} {answer : Except Fault result}
    (takes : action.Takes connection ⟨answer, []⟩) : action.Fetches cursor connection 0 := by
  refine ⟨?_, fun fetch before => absurd before (Nat.not_lt_zero fetch)⟩
  rw [takes.answer]
  exact takes

theorem onlyFetches_pure (value : result) :
    (pure value : Exchange result).OnlyFetches cursor :=
  ⟨fun connection _ _ => ⟨0, fetches_of_silent (takes_pure value connection)⟩,
    fun _ _ _ same => inStep_pure same rfl⟩

theorem onlyFetches_ofExcept (given : Except Fault result) :
    (ofExcept given).OnlyFetches cursor :=
  ⟨fun connection _ _ => ⟨0, fetches_of_silent (takes_ofExcept given connection)⟩,
    fun _ _ _ same => inStep_ofExcept same (agree_refl given)⟩

theorem onlyFetches_fetch : (fetch cursor).OnlyFetches cursor := by
  refine ⟨fun connection script scripted => ⟨1, ?_, ?_⟩, fun _ _ _ same => ?_⟩
  · have takes := takes_fetch scripted cursor
    rw [takes.answer]
    exact takes
  · intro fetch before error raises
    cases Nat.lt_one_iff.mp before
    refine ⟨rfl, ?_⟩
    rw [(takes_fetch scripted cursor).answer, CursorScript.fetchAnswer]
    rw [Nat.add_zero] at raises
    rw [raises]
    rfl
  · exact (inStep_fetch same).mono fun _ _ related => related.1

section Binding

variable {first : Exchange result} {following : result → Exchange target} {count : Nat}

theorem Fetches.bind_of_error
    {fault : Fault} (begins : first.Fetches cursor connection count)
    (ended : first.answer connection = .error fault) :
    (first >>= following).Fetches cursor connection count := by
  have starts := begins.takes
  rw [ended] at starts
  have answer : (first >>= following).answer connection = .error fault :=
    answer_bind_of_error ended
  constructor
  · rw [answer]
    exact takes_bind_of_error starts
  · intro fetch before error raises
    obtain ⟨last, failed⟩ := begins.fails fetch before error raises
    cases ended.symm.trans failed
    exact ⟨last, answer⟩

/-- Fetches that go on after others make up one series. -/
theorem Fetches.bind_of_ok
    {value : result} {further : Nat} (begins : first.Fetches cursor connection count)
    (gives : first.answer connection = .ok value)
    (goesOn : (following value).Fetches cursor (first.after connection) further) :
    (first >>= following).Fetches cursor connection (count + further) := by
  have starts := begins.takes
  rw [gives] at starts
  have answer : (first >>= following).answer connection =
      (following value).answer (first.after connection) := answer_bind_of_ok gives
  constructor
  · rw [answer, List.replicate_add]
    exact takes_bind_of_ok starts goesOn.takes
  · intro fetch before error raises
    -- A first part that gives a value met no error, so the error is met after it.
    rcases Nat.lt_or_ge fetch count with early | late
    · have failed := (begins.fails fetch early error raises).2
      cases gives.symm.trans failed
    · obtain ⟨rest, rfl⟩ := Nat.exists_eq_add_of_le late
      rw [← Nat.add_assoc, ← ResultSet.fetchCount_of_takes begins.takes,
        ← starts.cursorScript] at raises
      obtain ⟨last, failed⟩ :=
        goesOn.fails rest (Nat.lt_of_add_lt_add_left before) error raises
      exact ⟨by rw [← last, Nat.add_assoc], answer.trans failed⟩

theorem OnlyFetches.bind
    (begins : first.OnlyFetches cursor)
    (goesOn : ∀ value, (following value).OnlyFetches cursor) :
    (first >>= following).OnlyFetches cursor := by
  refine ⟨fun connection script scripted => ?_, fun script connection beside same => ?_⟩
  · obtain ⟨count, fetches⟩ := begins.fetches connection script scripted
    cases ended : first.answer connection with
    | error fault => exact ⟨count, fetches.bind_of_error ended⟩
    | ok value =>
        obtain ⟨further, rest⟩ := (goesOn value).fetches _ script
          (fetches.takes.backend.trans scripted)
        exact ⟨count + further, fetches.bind_of_ok ended rest⟩
  · refine (begins.steady script connection beside same).bind ?_
    rintro value _ rfl connection beside same
    exact (goesOn value).steady script connection beside same

end Binding

end Exchange

/-! ## Results are read by fetching -/

namespace ResultSet

open Exchange
open Connection (SameRows)

variable {set : ResultSet} {item : Type}

theorem onlyFetches_fetchValues (set : ResultSet) :
    set.fetchValues.OnlyFetches set.cursor := by
  unfold fetchValues
  split
  · exact onlyFetches_fetch
  · exact onlyFetches_pure none

theorem onlyFetches_fetchItem
    (set : ResultSet) (convert : List Value → Except Fault item) :
    (set.fetchItem convert).OnlyFetches set.cursor :=
  set.onlyFetches_fetchValues.bind fun
    | none => onlyFetches_pure none
    | some values =>
        (onlyFetches_ofExcept (convert values)).bind fun made => onlyFetches_pure (some made)

theorem onlyFetches_collect
    {cursor : Nat} {step : Exchange (Option item)} (fetches : step.OnlyFetches cursor)
    (bound : Nat) : (collect step bound).OnlyFetches cursor := by
  induction bound with
  | zero => exact onlyFetches_pure []
  | succ bound inductionHypothesis =>
      exact fetches.bind fun
        | none => onlyFetches_pure []
        | some first =>
            inductionHypothesis.bind fun later => onlyFetches_pure (first :: later)

theorem rowBound_of_sameRows
    {script : CursorScript} {connection beside : Connection}
    (same : SameRows set.cursor script connection beside) :
    set.rowBound beside = set.rowBound connection := by
  have rows := congrArg CursorScript.rows (same.besideFollows.trans same.follows.symm)
  exact congrArg (fun rows => rows.length + 1) rows

/-- The bound on the rows of a result is the same wherever its cursor gives them. -/
theorem onlyFetches_of_bound
    {action : Exchange (List item)} {step : Exchange (Option item)}
    (bounded : ∀ connection,
      action connection = collect step (set.rowBound connection) connection)
    (fetches : step.OnlyFetches set.cursor) : action.OnlyFetches set.cursor := by
  refine ⟨fun connection script scripted => ?_, fun script connection beside same => ?_⟩
  · obtain ⟨count, course⟩ :=
      (onlyFetches_collect fetches (set.rowBound connection)).fetches _ script scripted
    have answer := answer_eq_of_eq (bounded connection)
    refine ⟨count, ?_, ?_⟩
    · rw [answer]
      exact course.takes.of_eq (bounded connection)
    · rw [answer]
      exact course.fails
  · have steps := (onlyFetches_collect fetches (set.rowBound connection)).steady script
      connection beside same
    have besideBounded := bounded beside
    rw [rowBound_of_sameRows same] at besideBounded
    refine ⟨?_, ?_⟩
    · rw [after_eq_of_eq (bounded connection), after_eq_of_eq besideBounded]
      exact steps.alike
    · rw [answer_eq_of_eq (bounded connection), answer_eq_of_eq besideBounded]
      exact steps.agree

theorem onlyFetches_rows (set : ResultSet) : set.rows.OnlyFetches set.cursor :=
  onlyFetches_of_bound (fun _ => rfl) (set.onlyFetches_fetchItem (Row.ofColumns set.columns))

theorem onlyFetches_column (set : ResultSet) : set.column.OnlyFetches set.cursor :=
  onlyFetches_of_bound (fun _ => rfl) (set.onlyFetches_fetchItem firstValue)

/-- The first value of the next row, or the given value without a row. -/
def fetchValueOr (set : ResultSet) (fallback : Value) : Exchange Value := do
  let found ← set.fetchColumn
  return found.getD fallback

theorem onlyFetches_fetchValueOr (set : ResultSet) (fallback : Value) :
    (set.fetchValueOr fallback).OnlyFetches set.cursor :=
  (set.onlyFetches_fetchItem firstValue).bind fun found =>
    onlyFetches_pure (found.getD fallback)

/-- Freeing a result for the first time closes its cursor, and an ordinary error of
closing goes to the log. -/
theorem takes_free_of_fresh
    {connection : Connection} {script : Script}
    (scripted : connection.backend = .scripted script) (fresh : set.freed = false)
    (closes : ∀ error, (connection.cursorScript set.cursor).closeError = some error →
      error.isInterruption = false) :
    set.free.Takes connection ⟨.ok (), [.closeCursor set.cursor]⟩ := by
  have logged := Execution.interruptionOf_of_isOrdinary (isOrdinary_raising closes)
  unfold free
  rw [fresh, ← logged]
  exact Execution.handling_notice_takes (takes_closeCursor scripted set.cursor)

end ResultSet

/-! ## Retrievals -/

theorem callsOn_replicate_fetch (cursor count : Nat) :
    callsOn cursor (List.replicate count (.fetch cursor)) =
      List.replicate count .fetching :=
  List.filterMap_replicate_of_some (if_pos rfl)

theorem callsOn_closeCursor (cursor : Nat) :
    callsOn cursor [.closeCursor cursor] = [.closing] :=
  List.filterMap_cons_some (if_pos rfl)

namespace Session

open Exchange

variable {session : Session} {statement : Statement} {connection : Connection}
variable {set : ResultSet} {query : Text} {result : Type}

/-- A retrieval runs the query of a statement and reads its result. The cursor of the
result executes the query, makes some fetches and is closed, and nothing else. A fetch
that raises an error is the last one, and the caller gets its error. What the retrieval
answers is what the reading answered, and the same as on a cursor that closes without an
error. -/
structure Retrieves (session : Session) (statement : Statement) (connection : Connection)
    (set : ResultSet) (retrieval reading : Exchange result) : Prop where
  calls : ∃ query count,
    callsOn set.cursor (retrieval.asked connection) =
        .opening :: .executing query :: (List.replicate count .fetching ++ [.closing]) ∧
      ∀ fetch < count, ∀ error,
        (connection.cursorScript set.cursor).fetchError?
            (connection.fetchCount set.cursor + fetch) = some error →
          fetch + 1 = count ∧ retrieval.answer connection = .error (.raised error)
  reads : retrieval.answer connection =
    reading.answer ((session.query statement).after connection)
  unclosed : retrieval.answer connection =
    retrieval.answer (connection.closing set.cursor)

namespace Gives

theorem cursorScript (gives : session.Gives statement connection set query) :
    ((session.query statement).after connection).cursorScript = connection.cursorScript :=
  gives.takes.cursorScript

/-- A query fetches nothing from the cursor of its result. -/
theorem fetchCount (gives : session.Gives statement connection set query) :
    ((session.query statement).after connection).fetchCount set.cursor =
      connection.fetchCount set.cursor := by
  have calls := gives.calls
  rw [gives.takes.asked_eq] at calls
  rw [gives.takes.fetchCount, countP_isFetchOf, calls]
  rfl

/-- The result is as good when its cursor closes without an error. -/
theorem sameRows (gives : session.Gives statement connection set query) :
    Connection.SameRows set.cursor
      (connection.cursorScript set.cursor).withoutCloseError
      ((session.query statement).after connection)
      ((session.query statement).after (connection.closing set.cursor)) := by
  refine ⟨gives.scriptedThen, gives.closing.scriptedThen, ?_, ?_, ?_⟩
  · rw [gives.cursorScript]
  · rw [gives.closing.cursorScript, Connection.cursorScript_closing, Function.update_self]
    rfl
  · rw [gives.fetchCount, gives.closing.fetchCount, Connection.fetchCount_closing]

/-- Reading a result and freeing it, whatever the reading comes to. -/
theorem withResult_takes
    {read : ResultSet → Exchange result} {count : Nat}
    (gives : session.Gives statement connection set query)
    (closes : ∀ error, (connection.cursorScript set.cursor).closeError = some error →
      error.isInterruption = false)
    (fetches : (read set).Fetches set.cursor ((session.query statement).after connection)
      count) :
    (session.withResult statement read).Takes connection
      ⟨(read set).answer ((session.query statement).after connection),
        (session.query statement).asked connection ++
          (List.replicate count (.fetch set.cursor) ++ [.closeCursor set.cursor])⟩ := by
  obtain ⟨script, scripted⟩ := gives.scriptedThen
  have closesThen : ∀ error,
      (((read set).after ((session.query statement).after connection)).cursorScript
        set.cursor).closeError = some error → error.isInterruption = false := by
    rw [fetches.takes.cursorScript, gives.cursorScript]
    exact closes
  have frees := ResultSet.takes_free_of_fresh (fetches.takes.backend.trans scripted)
    gives.fresh closesThen
  have queries := gives.takes
  rw [← queries.asked_eq] at queries
  exact takes_bind_of_ok queries (takes_ensuring fetches.takes frees)

theorem answer_withResult
    {read : ResultSet → Exchange result}
    (gives : session.Gives statement connection set query)
    (closes : ∀ error, (connection.cursorScript set.cursor).closeError = some error →
      error.isInterruption = false)
    (reads : (read set).OnlyFetches set.cursor) :
    (session.withResult statement read).answer connection =
      (read set).answer ((session.query statement).after connection) := by
  obtain ⟨script, scripted⟩ := gives.scriptedThen
  obtain ⟨count, fetches⟩ := reads.fetches _ script scripted
  exact (gives.withResult_takes closes fetches).answer

theorem retrieves
    {read : ResultSet → Exchange result}
    (gives : session.Gives statement connection set query)
    (closes : ∀ error, (connection.cursorScript set.cursor).closeError = some error →
      error.isInterruption = false)
    (reads : (read set).OnlyFetches set.cursor) :
    session.Retrieves statement connection set (session.withResult statement read)
      (read set) := by
  obtain ⟨script, scripted⟩ := gives.scriptedThen
  obtain ⟨count, fetches⟩ := reads.fetches _ script scripted
  have takes := gives.withResult_takes closes fetches
  have answer := gives.answer_withResult closes reads
  refine ⟨⟨query, count, ?_, ?_⟩, answer, ?_⟩
  · rw [takes.asked_eq, callsOn_append, gives.calls, callsOn_append, callsOn_replicate_fetch,
      callsOn_closeCursor]
    rfl
  · intro fetch before error raises
    rw [← gives.fetchCount, ← gives.cursorScript] at raises
    obtain ⟨last, failed⟩ := fetches.fails fetch before error raises
    exact ⟨last, answer.trans failed⟩
  · have closesThen : ∀ error,
        ((connection.closing set.cursor).cursorScript set.cursor).closeError = some error →
          error.isInterruption = false := by
      rw [Connection.cursorScript_closing, Function.update_self]
      intro error unclosed
      cases unclosed
    have steps := reads.steady _ _ _ gives.sameRows
    rw [answer, gives.closing.answer_withResult closesThen reads]
    exact steps.agree.eq.symm

end Gives

/-- Whatever a retrieval comes to, the cursor of its query is closed exactly once, after
the last fetch. What the caller gets is what the reading came to, an error of a fetch
first of all, and an ordinary error of closing the cursor changes nothing about it. -/
theorem retrievals_release_cursor
    (made : (session.query statement).answer connection = .ok set)
    (closes : ∀ error, (connection.cursorScript set.cursor).closeError = some error →
      error.isInterruption = false) :
    session.Retrieves statement connection set (session.allRows statement) set.rows ∧
      session.Retrieves statement connection set (session.firstRow statement) set.fetchRow ∧
      session.Retrieves statement connection set (session.firstColumn statement)
        set.column ∧
      ∀ fallback, session.Retrieves statement connection set
        (session.firstValue statement fallback) (set.fetchValueOr fallback) := by
  obtain ⟨query, gives⟩ := exists_gives made
  refine ⟨?_, ?_, ?_, fun fallback => ?_⟩
  · exact gives.retrieves closes set.onlyFetches_rows
  · exact gives.retrieves closes (set.onlyFetches_fetchItem (Row.ofColumns set.columns))
  · exact gives.retrieves closes set.onlyFetches_column
  · have reads : ((ResultSet.fetchValueOr · fallback) set).OnlyFetches set.cursor :=
      set.onlyFetches_fetchValueOr fallback
    exact gives.retrieves closes reads

def selecting : Statement :=
  ⟨.text (Text.ofString "SELECT 1"), [], []⟩

/-- A cursor whose second row has no values and whose third fetch is interrupted, and
which fails to close. -/
def troubledCursor : CursorScript :=
  { CursorScript.silent with
    columns := [Text.ofString "id"]
    rows := [[.integer 1], [], [.integer 3]]
    closeError := some lostError
    fetchErrors := [(2, .host .interruption [])] }

def troubledConnection : Connection :=
  .following [troubledCursor]

def troubledSet : ResultSet :=
  ⟨0, [Text.ofString "id"], .integer 0, .null, false⟩

def troubledQueried : Connection :=
  { troubledConnection with
    requests := [.openCursor 0, .execute 0 (Text.ofString "SELECT 1")]
    notices := [announcement (Text.ofString "SELECT 1")] }

theorem retrievals_release_cursor_troubled :
    (allRows ⟨Settings.default, false⟩ selecting).answer troubledConnection =
        .error .rowTooShort ∧
      (callsOn troubledSet.cursor ((allRows ⟨Settings.default, false⟩ selecting).asked
        troubledConnection)).count .closing = 1 ∧
      (allRows ⟨Settings.default, false⟩ selecting).answer
        (troubledConnection.closing troubledSet.cursor) = .error .rowTooShort := by
  have made : (Session.query ⟨Settings.default, false⟩ selecting).answer troubledConnection =
      .ok troubledSet := rfl
  have closes : ∀ error,
      (troubledConnection.cursorScript troubledSet.cursor).closeError = some error →
        error.isInterruption = false := by
    intro error unclosed
    cases unclosed
    rfl
  have queried : (Session.query ⟨Settings.default, false⟩ selecting).after
      troubledConnection = troubledQueried := rfl
  have unreadable : troubledSet.rows.answer troubledQueried = .error .rowTooShort := rfl
  obtain ⟨⟨⟨query, count, calls, _⟩, reads, unclosed⟩, _⟩ :=
    retrievals_release_cursor made closes
  rw [queried, unreadable] at reads
  refine ⟨reads, ?_, unclosed.symm.trans reads⟩
  rw [calls]
  simp [List.count_replicate]

end Session

end BoundQuery
