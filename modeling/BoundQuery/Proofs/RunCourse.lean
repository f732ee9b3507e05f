import BoundQuery.Proofs.ExchangeCourse

/-!
# The course of a run

A run under a limit talks to three cursors one after the other: the first sets the limit,
the second runs the query, and the third lifts the limit again. Each phase has a course
that follows from the script of its own cursor.

The main statements give the courses of a run with a limit and of one without, on every
scripted connection.
-/

namespace BoundQuery

namespace Execution

open Exchange

/-! ## The phases -/

/-- The course of setting a limit on a cursor of its own. An error of closing the cursor
takes the place of every other fault. -/
def limitCourse (script : CursorScript) (cursor : Nat) (seconds : Double) : Course Unit :=
  match script.openError with
  | some error => ⟨.error (.raised error), [.openCursor cursor]⟩
  | none =>
      match milliseconds seconds with
      | .error fault =>
          ⟨raising script.closeError >>= fun _ => .error fault,
            [.openCursor cursor, .closeCursor cursor]⟩
      | .ok amount =>
          ⟨raising script.closeError >>= fun _ => raising script.executeError,
            [.openCursor cursor, .execute cursor (limitStatement amount),
              .closeCursor cursor]⟩

/-- The course of running a query on an open cursor, which is closed when the query
fails. -/
def queryCourse (script : CursorScript) (cursor : Nat) (query : Text) : Course Unit :=
  match script.executeError with
  | none => ⟨.ok (), [.execute cursor query]⟩
  | some error =>
      if error.isInterruption then
        ⟨.error (.raised error), [.execute cursor query]⟩
      else
        ⟨raising script.closeError >>= fun _ => .error (.raised error),
          [.execute cursor query, .closeCursor cursor]⟩

/-- What is left of an answer when all faults but interruptions are ignored. -/
def interruptionOf : Except Fault Unit → Except Fault Unit
  | .ok _ => .ok ()
  | .error fault => if fault.isInterruption then .error fault else .ok ()

/-- The course of lifting the limit on a cursor of its own. -/
def liftCourse (script : CursorScript) (cursor : Nat) : Course Unit :=
  match script.openError with
  | some error => ⟨interruptionOf (.error (.raised error)), [.openCursor cursor]⟩
  | none =>
      ⟨interruptionOf (raising script.closeError >>= fun _ => raising script.executeError),
        [.openCursor cursor, .execute cursor unlimitedStatement, .closeCursor cursor]⟩

section Courses

variable {script : CursorScript} {cursor : Nat} {seconds : Double} {query : Text}
variable {error : Raised}

theorem limitCourse_of_refused (refused : script.openError = some error) :
    limitCourse script cursor seconds =
      ⟨.error (.raised error), [.openCursor cursor]⟩ := by
  rw [limitCourse, refused]

theorem limitCourse_of_not_finite {fault : Fault} (opened : script.openError = none)
    (endless : milliseconds seconds = .error fault) :
    limitCourse script cursor seconds =
      ⟨raising script.closeError >>= fun _ => .error fault,
        [.openCursor cursor, .closeCursor cursor]⟩ := by
  rw [limitCourse, opened, endless]

theorem limitCourse_of_amount {amount : Int} (opened : script.openError = none)
    (counted : milliseconds seconds = .ok amount) :
    limitCourse script cursor seconds =
      ⟨raising script.closeError >>= fun _ => raising script.executeError,
        [.openCursor cursor, .execute cursor (limitStatement amount),
          .closeCursor cursor]⟩ := by
  rw [limitCourse, opened, counted]

theorem queryCourse_of_success (succeeds : script.executeError = none) :
    queryCourse script cursor query = ⟨.ok (), [.execute cursor query]⟩ := by
  rw [queryCourse, succeeds]

theorem queryCourse_of_interruption (fails : script.executeError = some error)
    (interrupts : error.isInterruption = true) :
    queryCourse script cursor query =
      ⟨.error (.raised error), [.execute cursor query]⟩ := by
  rw [queryCourse, fails]
  exact if_pos interrupts

theorem queryCourse_of_error (fails : script.executeError = some error)
    (ordinary : error.isInterruption = false) :
    queryCourse script cursor query =
      ⟨raising script.closeError >>= fun _ => .error (.raised error),
        [.execute cursor query, .closeCursor cursor]⟩ := by
  rw [queryCourse, fails]
  exact if_neg (Bool.eq_false_iff.mp ordinary)

theorem interruptionOf_of_interruption {fault : Fault}
    (interrupts : fault.isInterruption = true) :
    interruptionOf (.error fault) = .error fault :=
  if_pos interrupts

theorem interruptionOf_of_ordinary {fault : Fault}
    (ordinary : fault.isInterruption = false) : interruptionOf (.error fault) = .ok () :=
  if_neg (Bool.eq_false_iff.mp ordinary)

theorem interruptionOf_of_isOrdinary {given : Except Fault Unit}
    (ordinary : IsOrdinary given) : interruptionOf given = .ok () := by
  cases given with
  | ok done => rfl
  | error fault => exact interruptionOf_of_ordinary (ordinary fault rfl)

theorem liftCourse_of_refused (refused : script.openError = some error) :
    liftCourse script cursor =
      ⟨interruptionOf (.error (.raised error)), [.openCursor cursor]⟩ := by
  rw [liftCourse, refused]

theorem liftCourse_of_open (opened : script.openError = none) :
    liftCourse script cursor =
      ⟨interruptionOf (raising script.closeError >>= fun _ => raising script.executeError),
        [.openCursor cursor, .execute cursor unlimitedStatement,
          .closeCursor cursor]⟩ := by
  rw [liftCourse, opened]

theorem countP_asked_limitCourse :
    (limitCourse script cursor seconds).asked.countP Request.isOpenCursor = 1 := by
  cases opening : script.openError with
  | some error =>
      rw [limitCourse_of_refused opening]
      rfl
  | none =>
      cases counting : milliseconds seconds with
      | error fault =>
          rw [limitCourse_of_not_finite opening counting]
          rfl
      | ok amount =>
          rw [limitCourse_of_amount opening counting]
          rfl

theorem countP_asked_queryCourse :
    (queryCourse script cursor query).asked.countP Request.isOpenCursor = 0 := by
  cases failing : script.executeError with
  | none =>
      rw [queryCourse_of_success failing]
      rfl
  | some error =>
      cases interrupts : error.isInterruption with
      | true =>
          rw [queryCourse_of_interruption failing interrupts]
          rfl
      | false =>
          rw [queryCourse_of_error failing interrupts]
          rfl

end Courses

section Phases

variable {connection : Connection} {script : Script}

theorem applyLimit_takes
    (scripted : connection.backend = .scripted script) (seconds : Double) :
    (applyLimit seconds).Takes connection
      (limitCourse (connection.cursorScript connection.cursorCount)
        connection.cursorCount seconds) := by
  unfold applyLimit
  cases opening : (connection.cursorScript connection.cursorCount).openError with
  | some error =>
      rw [limitCourse_of_refused opening]
      exact takes_withCursor_of_error _ scripted opening
  | none =>
      have opens := takes_openCursor scripted
      cases counting : milliseconds seconds with
      | error fault =>
          rw [limitCourse_of_not_finite opening counting]
          have fails := takes_ofExcept (.error fault : Except Fault Int)
            (openCursor.after connection)
          exact takes_withCursor_of_open
            (fun cursor => do
              let amount ← Exchange.ofExcept (.error fault)
              Exchange.execute cursor (limitStatement amount))
            scripted opening (takes_bind_of_error fails)
      | ok amount =>
          have counts := takes_ofExcept (.ok amount : Except Fault Int)
            (openCursor.after connection)
          have scriptedThen := counts.backend.trans (opens.backend.trans scripted)
          have executes := takes_execute scriptedThen connection.cursorCount
            (limitStatement amount)
          rw [counts.cursorScript, opens.cursorScript] at executes
          rw [limitCourse_of_amount opening counting]
          exact takes_withCursor_of_open
            (fun cursor => do
              let amount ← Exchange.ofExcept (.ok amount)
              Exchange.execute cursor (limitStatement amount))
            scripted opening (takes_bind_of_ok counts executes)

theorem runOn_takes
    (scripted : connection.backend = .scripted script) (cursor : Nat) (query : Text) :
    (runOn cursor query).Takes connection
      (queryCourse (connection.cursorScript cursor) cursor query) := by
  have executes := takes_execute scripted cursor query
  unfold runOn onFault
  cases failing : (connection.cursorScript cursor).executeError with
  | none =>
      rw [failing] at executes
      rw [queryCourse_of_success failing]
      exact takes_handling_of_ok executes
  | some error =>
      rw [failing] at executes
      cases interrupts : error.isInterruption with
      | true =>
          rw [queryCourse_of_interruption failing interrupts]
          exact takes_handling_of_interruption executes interrupts
      | false =>
          have closes := takes_closeCursor (executes.backend.trans scripted) cursor
          rw [executes.cursorScript] at closes
          rw [queryCourse_of_error failing interrupts]
          apply takes_handling_of_fault executes interrupts
          cases closing : (connection.cursorScript cursor).closeError with
          | some other =>
              rw [closing] at closes
              exact takes_bind_of_error closes
          | none =>
              rw [closing] at closes
              exact takes_bind_of_ok closes (takes_throw _ _)

/-- The handler of a failure to lift the limit lets only interruptions pass. -/
theorem handling_notice_takes
    {action : Exchange Unit} {given : Except Fault Unit} {asked : List Request}
    {notice : Notice} (takes : action.Takes connection ⟨given, asked⟩) :
    (Exchange.handling action fun _ => Exchange.notify notice).Takes connection
      ⟨interruptionOf given, asked⟩ := by
  cases given with
  | ok done => exact takes_handling_of_ok takes
  | error fault =>
      cases interrupts : fault.isInterruption with
      | true =>
          rw [interruptionOf_of_interruption interrupts]
          exact takes_handling_of_interruption takes interrupts
      | false =>
          rw [interruptionOf_of_ordinary interrupts, ← List.append_nil asked]
          exact takes_handling_of_fault takes interrupts (takes_notify notice _)

theorem liftLimit_takes (scripted : connection.backend = .scripted script) :
    liftLimit.Takes connection
      (liftCourse (connection.cursorScript connection.cursorCount)
        connection.cursorCount) := by
  cases opening : (connection.cursorScript connection.cursorCount).openError with
  | some error =>
      rw [liftCourse_of_refused opening]
      exact handling_notice_takes (takes_withCursor_of_error _ scripted opening)
  | none =>
      have opens := takes_openCursor scripted
      have executes := takes_execute (opens.backend.trans scripted) connection.cursorCount
        unlimitedStatement
      rw [opens.cursorScript] at executes
      rw [liftCourse_of_open opening]
      exact handling_notice_takes
        (takes_withCursor_of_open
          (fun cursor => Exchange.execute cursor unlimitedStatement) scripted opening
          executes)

end Phases

/-! ## Runs -/

/-- The course of an action on a cursor that is opened for it and handed out. -/
def handedCourse (script : CursorScript) (cursor : Nat) (acted : Course Unit) :
    Course Nat :=
  match script.openError with
  | some error => ⟨.error (.raised error), [.openCursor cursor]⟩
  | none => ⟨acted.answer.map fun _ => cursor, .openCursor cursor :: acted.asked⟩

def unlimitedCourse (script : CursorScript) (cursor : Nat) (query : Text) : Course Nat :=
  handedCourse script cursor (queryCourse script cursor query)

/-- The course of a query on an open cursor, after which the next cursor lifts the
limit. -/
def ensuredCourse (scripts : Nat → CursorScript) (cursor : Nat) (query : Text) :
    Course Unit :=
  let ran := queryCourse (scripts cursor) cursor query
  let lifted := liftCourse (scripts (cursor + 1)) (cursor + 1)
  ⟨lifted.answer >>= fun _ => ran.answer, ran.asked ++ lifted.asked⟩

/-- The course of a run once the limit is set. -/
def limitSetCourse (scripts : Nat → CursorScript) (cursor : Nat) (query : Text) :
    Course Nat :=
  handedCourse (scripts cursor) cursor (ensuredCourse scripts cursor query)

/-- The course of a run under a limit, on up to three cursors in a row. -/
def limitedCourse
    (scripts : Nat → CursorScript) (first : Nat) (seconds : Double) (query : Text) :
    Course Nat :=
  let limit := limitCourse (scripts first) first seconds
  match limit.answer with
  | .error fault => ⟨.error fault, limit.asked⟩
  | .ok _ =>
      ⟨(limitSetCourse scripts (first + 1) query).answer,
        limit.asked ++ (limitSetCourse scripts (first + 1) query).asked⟩

def runCourse
    (scripts : Nat → CursorScript) (first : Nat) (timeout : Option Double)
    (query : Text) : Course Nat :=
  match activeLimit timeout with
  | none => unlimitedCourse (scripts first) first query
  | some seconds => limitedCourse scripts first seconds query

theorem handedCourse_of_refused
    {script : CursorScript} {error : Raised} (refused : script.openError = some error)
    (cursor : Nat) (acted : Course Unit) :
    handedCourse script cursor acted =
      ⟨.error (.raised error), [.openCursor cursor]⟩ := by
  rw [handedCourse, refused]

theorem handedCourse_of_open
    {script : CursorScript} (opened : script.openError = none) (cursor : Nat)
    (acted : Course Unit) :
    handedCourse script cursor acted =
      ⟨acted.answer.map fun _ => cursor, .openCursor cursor :: acted.asked⟩ := by
  rw [handedCourse, opened]

section Limited

variable {scripts : Nat → CursorScript} {first : Nat} {timeout : Option Double}
variable {seconds : Double} {asked : List Request}

theorem limitedCourse_of_error {fault : Fault}
    (limits : limitCourse (scripts first) first seconds = ⟨.error fault, asked⟩)
    (query : Text) :
    limitedCourse scripts first seconds query = ⟨.error fault, asked⟩ := by
  rw [limitedCourse, limits]

theorem limitedCourse_of_ok {done : Unit}
    (limits : limitCourse (scripts first) first seconds = ⟨.ok done, asked⟩)
    (query : Text) :
    limitedCourse scripts first seconds query =
      ⟨(limitSetCourse scripts (first + 1) query).answer,
        asked ++ (limitSetCourse scripts (first + 1) query).asked⟩ := by
  rw [limitedCourse, limits]

theorem runCourse_of_no_limit (unlimited : activeLimit timeout = none) (query : Text) :
    runCourse scripts first timeout query =
      unlimitedCourse (scripts first) first query := by
  rw [runCourse, unlimited]

theorem runCourse_of_limit (limited : activeLimit timeout = some seconds) (query : Text) :
    runCourse scripts first timeout query =
      limitedCourse scripts first seconds query := by
  rw [runCourse, limited]

end Limited

section Runs

variable {connection : Connection} {script : Script}

theorem handed_takes
    (scripted : connection.backend = .scripted script) {action : Nat → Exchange Unit}
    {acted : Course Unit}
    (acts : openCursor.Takes connection
        ⟨.ok connection.cursorCount, [.openCursor connection.cursorCount]⟩ →
      (action connection.cursorCount).Takes (openCursor.after connection) acted) :
    (do
      let cursor ← openCursor
      action cursor
      return cursor : Exchange Nat).Takes connection
      (handedCourse (connection.cursorScript connection.cursorCount)
        connection.cursorCount acted) := by
  have opens := takes_openCursor scripted
  cases opening : (connection.cursorScript connection.cursorCount).openError with
  | some error =>
      rw [opening] at opens
      rw [handedCourse_of_refused opening]
      exact takes_bind_of_error opens
  | none =>
      rw [opening] at opens
      rw [handedCourse_of_open opening]
      exact takes_bind_of_ok opens (takes_bind_pure (acts opens) connection.cursorCount)

theorem run_takes_unlimited
    (scripted : connection.backend = .scripted script) (query : Text) :
    (do
      let cursor ← openCursor
      runOn cursor query
      return cursor : Exchange Nat).Takes connection
      (unlimitedCourse (connection.cursorScript connection.cursorCount)
        connection.cursorCount query) := by
  apply handed_takes scripted
  intro opens
  have runs := runOn_takes (opens.backend.trans scripted) connection.cursorCount query
  rw [opens.cursorScript] at runs
  exact runs

/-- Setting the limit asks for one cursor, so the query runs on the next one. -/
theorem cursorCount_after_applyLimit
    (scripted : connection.backend = .scripted script) (seconds : Double) :
    ((applyLimit seconds).after connection).cursorCount = connection.cursorCount + 1 := by
  rw [(applyLimit_takes scripted seconds).cursorCount, countP_asked_limitCourse]

/-- The cursor after the one of the query is the one that lifts the limit. -/
theorem cursorCount_after_runOn
    (scripted : connection.backend = .scripted script) (query : Text) :
    ((runOn connection.cursorCount query).after
      (openCursor.after connection)).cursorCount = connection.cursorCount + 1 := by
  have opens := takes_openCursor scripted
  rw [(runOn_takes (opens.backend.trans scripted) connection.cursorCount query).cursorCount,
    countP_asked_queryCourse, opens.cursorCount]
  rfl

/-- The limit is lifted however the query ends. -/
theorem run_takes_limitSet
    (scripted : connection.backend = .scripted script) (query : Text) :
    (do
      let cursor ← openCursor
      ensuring (runOn cursor query) liftLimit
      return cursor : Exchange Nat).Takes connection
      (limitSetCourse connection.cursorScript connection.cursorCount query) := by
  apply handed_takes scripted
  intro opens
  have scriptedThen := opens.backend.trans scripted
  have runs := runOn_takes scriptedThen connection.cursorCount query
  have lifts := liftLimit_takes (runs.backend.trans scriptedThen)
  rw [cursorCount_after_runOn scripted, runs.cursorScript, opens.cursorScript] at lifts
  rw [opens.cursorScript] at runs
  exact takes_ensuring runs lifts

theorem run_takes_limited
    (scripted : connection.backend = .scripted script) (seconds : Double) (query : Text) :
    (do
      applyLimit seconds
      let cursor ← openCursor
      ensuring (runOn cursor query) liftLimit
      return cursor : Exchange Nat).Takes connection
      (limitedCourse connection.cursorScript connection.cursorCount seconds query) := by
  have limits := applyLimit_takes scripted seconds
  cases course : limitCourse (connection.cursorScript connection.cursorCount)
      connection.cursorCount seconds with
  | mk answer asked =>
      rw [course] at limits
      cases answer with
      | error fault =>
          rw [limitedCourse_of_error course]
          exact takes_bind_of_error limits
      | ok done =>
          have runs := run_takes_limitSet (limits.backend.trans scripted) query
          rw [limits.cursorScript, cursorCount_after_applyLimit scripted] at runs
          rw [limitedCourse_of_ok course]
          exact takes_bind_of_ok limits runs

theorem run_takes
    (scripted : connection.backend = .scripted script) (timeout : Option Double)
    (query : Text) :
    (run timeout query).Takes connection
      (runCourse connection.cursorScript connection.cursorCount timeout query) := by
  unfold run
  cases limit : activeLimit timeout with
  | none =>
      rw [runCourse_of_no_limit limit]
      exact run_takes_unlimited scripted query
  | some seconds =>
      rw [runCourse_of_limit limit]
      exact run_takes_limited scripted seconds query

end Runs

end Execution

end BoundQuery
