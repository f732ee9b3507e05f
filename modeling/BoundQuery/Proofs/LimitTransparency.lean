import BoundQuery.Proofs.CursorRelease
import BoundQuery.Proofs.Preservation

/-!
# Runs with and without a limit

A limit brings two cursors of its own into a run, one before the cursor of the query and
one after it. Nothing that happens on the last one reaches the answer of the run unless it
is an interruption: a handler takes every other fault and gives a notice.

The main statement compares a run under a limit that can be set with a run without one,
on two connections whose query cursors follow the same script. Both end alike, their
cursors receive the same calls, and a notice is given exactly when lifting the limit
fails.
-/

namespace BoundQuery

/-- No call on a cursor raises an error, except perhaps a fetch. -/
structure CursorScript.Faultless (script : CursorScript) : Prop where
  opening : script.openError = none
  running : script.executeError = none
  closing : script.closeError = none

theorem CursorScript.faultless_iff {script : CursorScript} :
    script.Faultless ↔
      script.openError = none ∧ script.executeError = none ∧ script.closeError = none :=
  ⟨fun faultless => ⟨faultless.opening, faultless.running, faultless.closing⟩,
    fun ⟨opening, running, closing⟩ => ⟨opening, running, closing⟩⟩

instance CursorScript.decidableFaultless (script : CursorScript) :
    Decidable script.Faultless :=
  decidable_of_iff' _ faultless_iff

/-- A connection has the notices of another one, and no more. -/
def Connection.SameNotices (before after : Connection) : Prop :=
  after.notices = before.notices

instance : IsPreorder Connection Connection.SameNotices where
  refl _ := rfl
  trans _ _ _ begins goesOn := goesOn.trans begins

namespace Exchange

/-! ## Notices -/

section Notices

variable {result : Type}

/-- The notices that an action gives, in order. -/
def noticed (action : Exchange result) (connection : Connection) : List Notice :=
  (action.after connection).notices.drop connection.notices.length

theorem noticed_of_notices
    {action : Exchange result} {connection : Connection} {given : List Notice}
    (notices : (action.after connection).notices = connection.notices ++ given) :
    action.noticed connection = given := by
  rw [noticed, notices, List.drop_left]

theorem noticed_of_keeps
    {action : Exchange result} (quiet : action.Keeps Connection.SameNotices)
    (connection : Connection) : action.noticed connection = [] :=
  noticed_of_notices ((quiet connection).trans (List.append_nil _).symm)

theorem records_sameNotices (made : Request) : Records Connection.SameNotices made := by
  intro connection
  unfold Connection.SameNotices Connection.recording
  cases connection.backend <;> rfl

end Notices

end Exchange

namespace Execution

open Exchange

/-! ## Notices of each phase -/

section Quiet

theorem quiet_openCursor : openCursor.Keeps Connection.SameNotices :=
  keeps_openCursor fun _ => records_sameNotices _

theorem quiet_withCursor
    {action : Nat → Exchange Unit}
    (acts : ∀ cursor, (action cursor).Keeps Connection.SameNotices) :
    (withCursor action).Keeps Connection.SameNotices :=
  keeps_withCursor acts (fun _ => records_sameNotices _) fun _ => records_sameNotices _

theorem quiet_applyLimit (seconds : Double) :
    (applyLimit seconds).Keeps Connection.SameNotices :=
  quiet_withCursor fun _ =>
    keeps_bind (keeps_ofExcept _) fun _ => keeps_execute (records_sameNotices _)

theorem quiet_runOn (cursor : Nat) (query : Text) :
    (runOn cursor query).Keeps Connection.SameNotices :=
  keeps_onFault (keeps_execute (records_sameNotices _))
    (keeps_closeCursor (records_sameNotices _))

/-- Without a limit there is nothing to give a notice of. -/
theorem quiet_run_unlimited (query : Text) :
    (run none query).Keeps Connection.SameNotices :=
  keeps_bind quiet_openCursor fun cursor =>
    keeps_bind (quiet_runOn cursor query) fun _ => keeps_pure cursor

end Quiet

section Lifting

variable {connection : Connection} {script : Script}

/-- A statement on a cursor of its own fails with the error of opening the cursor, of
closing it, or of executing the statement. -/
theorem answer_withCursor_execute
    (scripted : connection.backend = .scripted script) (statement : Text) :
    (withCursor fun cursor => Exchange.execute cursor statement).answer connection =
      raising (connection.cursorScript connection.cursorCount).openError >>= fun _ =>
        raising (connection.cursorScript connection.cursorCount).closeError >>= fun _ =>
          raising (connection.cursorScript connection.cursorCount).executeError := by
  cases opening : (connection.cursorScript connection.cursorCount).openError with
  | some error => exact (takes_withCursor_of_error _ scripted opening).answer
  | none =>
      have opens := takes_openCursor scripted
      have executes := takes_execute (opens.backend.trans scripted) connection.cursorCount
        statement
      rw [opens.cursorScript] at executes
      exact (takes_withCursor_of_open (fun cursor => Exchange.execute cursor statement)
        scripted opening executes).answer

theorem faultless_of_answer_eq_ok
    {own : CursorScript}
    (succeeds : (raising own.openError >>= fun _ => raising own.closeError >>= fun _ =>
      raising own.executeError) = .ok ()) : own.Faultless := by
  rw [raising_bind_eq_ok_iff, raising_bind_eq_ok_iff, raising_eq_ok_iff] at succeeds
  obtain ⟨opening, closing, running⟩ := succeeds
  exact ⟨opening, running, closing⟩

/-- A notice is given when the limit is not lifted, and nothing else is. -/
theorem notices_liftLimit
    (scripted : connection.backend = .scripted script)
    (ordinary : (connection.cursorScript connection.cursorCount).Ordinary) :
    (liftLimit.after connection).notices =
      connection.notices ++
        if (connection.cursorScript connection.cursorCount).Faultless then []
        else [limitKept] := by
  have attempted := answer_withCursor_execute scripted unlimitedStatement
  have quiet : (withCursor fun cursor =>
      Exchange.execute cursor unlimitedStatement).Keeps Connection.SameNotices :=
    quiet_withCursor fun _ => keeps_execute (records_sameNotices _)
  by_cases faultless : (connection.cursorScript connection.cursorCount).Faultless
  · rw [faultless.opening, faultless.running, faultless.closing] at attempted
    rw [if_pos faultless, List.append_nil, liftLimit, after_handling_of_ok attempted]
    exact quiet connection
  · have faults := (isOrdinary_raising ordinary.opening).bind fun _ =>
      (isOrdinary_raising ordinary.closing).bind fun _ =>
        isOrdinary_raising ordinary.running
    rw [if_neg faultless, liftLimit]
    cases ended : (withCursor fun cursor =>
        Exchange.execute cursor unlimitedStatement).answer connection with
    -- An answer without a fault needs all three calls to succeed.
    | ok done => exact absurd (faultless_of_answer_eq_ok (attempted.symm.trans ended)) faultless
    | error fault =>
        rw [after_handling_of_fault ended (faults fault (attempted.symm.trans ended))]
        exact congrArg (· ++ [limitKept]) (quiet connection)

end Lifting

/-! ## Runs -/

section Runs

variable {connection : Connection} {script : Script} {seconds : Double}

theorem exists_milliseconds (finite : seconds.timesThousand.isFinite = true) :
    ∃ amount, milliseconds seconds = .ok amount := by
  cases counting : milliseconds seconds with
  | ok amount => exact ⟨amount, rfl⟩
  | error fault =>
      rw [milliseconds, Double.integerPart?, finite] at counting
      cases counting

/-- A limit whose cursor does not fail is set. -/
theorem limitCourse_of_faultless
    {setter : CursorScript} (faultless : setter.Faultless)
    (finite : seconds.timesThousand.isFinite = true) (cursor : Nat) :
    ∃ limits, limitCourse setter cursor seconds = ⟨.ok (), limits⟩ := by
  obtain ⟨amount, counted⟩ := exists_milliseconds finite
  rw [limitCourse_of_amount faultless.opening counted, faultless.running, faultless.closing]
  exact ⟨_, rfl⟩

/-- Once the limit is set, notices are given by lifting it alone. -/
theorem notices_limitSet
    (scripted : connection.backend = .scripted script)
    (lifter : (connection.cursorScript (connection.cursorCount + 1)).Ordinary)
    (query : Text) :
    ((do
      let cursor ← openCursor
      ensuring (runOn cursor query) liftLimit
      return cursor : Exchange Nat).after connection).notices =
      connection.notices ++
        if (connection.cursorScript connection.cursorCount).openError = none ∧
            ¬ (connection.cursorScript (connection.cursorCount + 1)).Faultless
        then [limitKept] else [] := by
  have opens := takes_openCursor scripted
  have opensQuietly := quiet_openCursor connection
  cases opening : (connection.cursorScript connection.cursorCount).openError with
  | some error =>
      rw [opening] at opens
      rw [after_bind_of_error opens.answer, if_neg (fun fails => by cases fails.1),
        List.append_nil]
      exact opensQuietly
  | none =>
      rw [opening] at opens
      have scriptedThen := opens.backend.trans scripted
      have runs := runOn_takes scriptedThen connection.cursorCount query
      have runsQuietly := quiet_runOn connection.cursorCount query (openCursor.after connection)
      -- The limit is lifted on the next cursor, from a connection with the notices of before.
      have following := cursorCount_after_runOn scripted query
      have scripts := runs.cursorScript.trans opens.cursorScript
      have lifts := notices_liftLimit (runs.backend.trans scriptedThen)
        (by rw [following, scripts]; exact lifter)
      rw [following, scripts, runsQuietly.trans opensQuietly] at lifts
      rw [after_bind_of_ok opens.answer, after_bind_pure, after_ensuring, lifts]
      by_cases faultless : (connection.cursorScript (connection.cursorCount + 1)).Faultless
      · rw [if_pos faultless, if_neg fun fails => fails.2 faultless]
      · rw [if_neg faultless, if_pos ⟨rfl, faultless⟩]

theorem notices_run_limited
    (scripted : connection.backend = .scripted script)
    (positive : seconds.isPositive = true)
    (finite : seconds.timesThousand.isFinite = true)
    (setter : (connection.cursorScript connection.cursorCount).Faultless)
    (lifter : (connection.cursorScript (connection.cursorCount + 2)).Ordinary)
    (query : Text) :
    ((run (some seconds) query).after connection).notices =
      connection.notices ++
        if (connection.cursorScript (connection.cursorCount + 1)).openError = none ∧
            ¬ (connection.cursorScript (connection.cursorCount + 2)).Faultless
        then [limitKept] else [] := by
  have limited : activeLimit (some seconds) = some seconds :=
    (activeLimit_eq_some_iff (some seconds) seconds).mpr ⟨rfl, positive⟩
  obtain ⟨limits, course⟩ :=
    limitCourse_of_faultless setter finite connection.cursorCount
  have sets := applyLimit_takes scripted seconds
  have second := cursorCount_after_applyLimit scripted seconds
  rw [course] at sets
  have following := notices_limitSet (sets.backend.trans scripted)
    (by rw [second, sets.cursorScript]; exact lifter) query
  rw [second, sets.cursorScript, quiet_applyLimit seconds connection] at following
  rw [run, limited]
  exact (congrArg Connection.notices (after_bind_of_ok sets.answer)).trans following

/-- How a query on one cursor ends does not depend on the number of the cursor. -/
theorem exists_end (own : CursorScript) (query : Text) :
    ∃ ended : Except Fault Unit, ∀ cursor,
      (unlimitedCourse own cursor query).answer = ended.map fun _ => cursor := by
  cases opening : own.openError with
  | some error =>
      refine ⟨.error (.raised error), fun cursor => ?_⟩
      rw [unlimitedCourse, handedCourse_of_refused opening]
      rfl
  | none =>
      have same : ∀ cursor, (queryCourse own cursor query).answer =
          (queryCourse own 0 query).answer := by
        intro cursor
        unfold queryCourse
        cases own.executeError with
        | none => rfl
        | some error => cases interrupts : error.isInterruption <;> simp [interrupts]
      refine ⟨(queryCourse own 0 query).answer, fun cursor => ?_⟩
      rw [unlimitedCourse, handedCourse_of_open opening, same]

/-- A run under a limit that can be set ends as a run without one does, and the cursor of
the query receives the same calls. A failure to lift the limit becomes a notice and has no
other effect. -/
theorem run_under_limit_is_transparent
    {connection unlimited : Connection} {script unlimitedScript : Script}
    (scripted : connection.backend = .scripted script)
    (unlimitedScripted : unlimited.backend = .scripted unlimitedScript)
    (sameScript : unlimited.cursorScript unlimited.cursorCount =
      connection.cursorScript (connection.cursorCount + 1))
    {seconds : Double} (positive : seconds.isPositive = true)
    (finite : seconds.timesThousand.isFinite = true)
    (setter : (connection.cursorScript connection.cursorCount).Faultless)
    (lifter : (connection.cursorScript (connection.cursorCount + 2)).Ordinary)
    (query : Text) :
    (∃ ended : Except Fault Unit,
      (run (some seconds) query).answer connection =
          ended.map (fun _ => connection.cursorCount + 1) ∧
        (run none query).answer unlimited = ended.map fun _ => unlimited.cursorCount) ∧
    callsOn (connection.cursorCount + 1) ((run (some seconds) query).asked connection) =
      callsOn unlimited.cursorCount ((run none query).asked unlimited) ∧
    (run none query).noticed unlimited = [] ∧
    (run (some seconds) query).noticed connection =
      if (connection.cursorScript (connection.cursorCount + 1)).openError = none ∧
          ¬ (connection.cursorScript (connection.cursorCount + 2)).Faultless
      then [limitKept] else [] := by
  have limited : activeLimit (some seconds) = some seconds :=
    (activeLimit_eq_some_iff (some seconds) seconds).mpr ⟨rfl, positive⟩
  obtain ⟨limits, course⟩ :=
    limitCourse_of_faultless setter finite connection.cursorCount
  have takes := run_takes scripted (some seconds) query
  rw [runCourse_of_limit limited, limitedCourse_of_ok course,
    answer_limitSetCourse lifter] at takes
  -- The query takes one and the same course on both connections, on cursors of its own.
  have takesUnlimited := run_takes unlimitedScripted none query
  rw [runCourse_of_no_limit rfl, sameScript] at takesUnlimited
  refine ⟨?_, ?_, ?_, ?_⟩
  · obtain ⟨ended, ends⟩ :=
      exists_end (connection.cursorScript (connection.cursorCount + 1)) query
    exact ⟨ended, takes.answer.trans (ends _), takesUnlimited.answer.trans (ends _)⟩
  · rw [takes.asked_eq, takesUnlimited.asked_eq, callsOn_main_of_limit_set course,
      callsOn_unlimitedCourse]
  · exact noticed_of_keeps (quiet_run_unlimited query) unlimited
  · exact noticed_of_notices
      (notices_run_limited scripted positive finite setter lifter query)

/-- A cursor on which a query is interrupted. -/
def interrupted : CursorScript :=
  { CursorScript.silent with executeError := some (.host .interruption []) }

/-- The query is interrupted, and its limit cannot be lifted. -/
def interruptedUnderLimit : Connection :=
  .following [.silent, interrupted, failing]

def interruptedWithoutLimit : Connection :=
  .following [interrupted]

theorem run_under_limit_is_transparent_interrupted :
    (run (some twoSeconds) (Text.ofString "SELECT 1")).answer interruptedUnderLimit =
        .error (.raised (.host .interruption [])) ∧
      callsOn 1 ((run (some twoSeconds) (Text.ofString "SELECT 1")).asked
          interruptedUnderLimit) =
        callsOn 0 ((run none (Text.ofString "SELECT 1")).asked interruptedWithoutLimit) ∧
      (run (some twoSeconds) (Text.ofString "SELECT 1")).noticed interruptedUnderLimit =
        [limitKept] := by
  have sameScript : interruptedWithoutLimit.cursorScript interruptedWithoutLimit.cursorCount =
      interruptedUnderLimit.cursorScript (interruptedUnderLimit.cursorCount + 1) := rfl
  have positive : twoSeconds.isPositive = true := rfl
  have finite : twoSeconds.timesThousand.isFinite = true := rfl
  have setter : CursorScript.silent.Faultless := ⟨rfl, rfl, rfl⟩
  obtain ⟨⟨ended, ends, endsAlone⟩, calls, _, notices⟩ :=
    run_under_limit_is_transparent rfl rfl sameScript positive finite setter
      ordinary_failing (Text.ofString "SELECT 1")
  have alone : (run none (Text.ofString "SELECT 1")).answer interruptedWithoutLimit =
      .error (.raised (.host .interruption [])) := rfl
  refine ⟨?_, calls, notices⟩
  rw [alone] at endsAlone
  cases ended with
  | ok done => cases endsAlone
  | error fault =>
      cases endsAlone
      exact ends

end Runs

end Execution

end BoundQuery
