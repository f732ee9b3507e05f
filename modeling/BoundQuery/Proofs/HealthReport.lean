import BoundQuery.Proofs.CursorRelease

/-!
# What a health check reports

A check runs a probe and fetches one row. A fault of either is taken by a handler and
becomes a report of bad health. The cursor of the probe is closed after that, where no
handler stands any more.

The main statement is about checks that nothing interrupts. Such a check raises exactly
the errors of closing the cursor of a probe that has run, and otherwise it tells whether
the probe gave a row. Every cursor that it opens is closed once.
-/

namespace BoundQuery

/-- Handlers of ordinary errors take every error of a cursor, also those of fetches. -/
structure CursorScript.Uninterrupted (script : CursorScript) : Prop
    extends script.Ordinary where
  fetching : ∀ fetch error,
    script.fetchError? fetch = some error → error.isInterruption = false

theorem CursorScript.Ordinary.uninterrupted
    {script : CursorScript} (ordinary : script.Ordinary)
    (fetches : ∀ entry ∈ script.fetchErrors, entry.2.isInterruption = false) :
    script.Uninterrupted := by
  refine ⟨ordinary, ?_⟩
  intro fetch error raises
  obtain ⟨entry, found, rfl⟩ := Option.map_eq_some_iff.mp raises
  exact fetches entry (List.mem_of_find?_eq_some found)

theorem CursorScript.uninterrupted_silent : CursorScript.silent.Uninterrupted :=
  CursorScript.ordinary_silent.uninterrupted fun _ member => by cases member

namespace Execution

open Exchange

/-! ## Runs that nothing interrupts -/

section Courses

variable {script : CursorScript} {cursor : Nat} {query : Text}

theorem isOrdinary_milliseconds (seconds : Double) : IsOrdinary (milliseconds seconds) := by
  unfold milliseconds
  split
  · exact isOrdinary_ok _
  · exact isOrdinary_error rfl

theorem isOrdinary_limitCourse (ordinary : script.Ordinary) (seconds : Double) :
    IsOrdinary (limitCourse script cursor seconds).answer := by
  have closes := isOrdinary_raising ordinary.closing
  cases opening : script.openError with
  | some error =>
      rw [limitCourse_of_refused opening]
      exact isOrdinary_error (ordinary.opening error opening)
  | none =>
      cases counting : milliseconds seconds with
      | error fault =>
          rw [limitCourse_of_not_finite opening counting]
          exact closes.bind fun _ =>
            isOrdinary_error (isOrdinary_milliseconds seconds fault counting)
      | ok amount =>
          rw [limitCourse_of_amount opening counting]
          exact closes.bind fun _ => isOrdinary_raising ordinary.running

theorem isOrdinary_queryCourse (ordinary : script.Ordinary) :
    IsOrdinary (queryCourse script cursor query).answer := by
  cases failing : script.executeError with
  | none =>
      rw [queryCourse_of_success failing]
      exact isOrdinary_ok ()
  | some error =>
      have running := ordinary.running error failing
      rw [queryCourse_of_error failing running]
      exact (isOrdinary_raising ordinary.closing).bind fun _ => isOrdinary_error running

theorem isOrdinary_unlimitedCourse (ordinary : script.Ordinary) :
    IsOrdinary (unlimitedCourse script cursor query).answer := by
  rw [unlimitedCourse]
  cases opening : script.openError with
  | some error =>
      rw [handedCourse_of_refused opening]
      exact isOrdinary_error (ordinary.opening error opening)
  | none =>
      rw [handedCourse_of_open opening]
      exact (isOrdinary_queryCourse ordinary).map fun _ => cursor

end Courses

theorem isOrdinary_run
    {connection : Connection} {script : Script}
    (scripted : connection.backend = .scripted script)
    (ordinary : ∀ cursor, (connection.cursorScript cursor).Ordinary)
    (timeout : Option Double) (query : Text) :
    IsOrdinary ((run timeout query).answer connection) := by
  rw [(run_takes scripted timeout query).answer]
  cases limit : activeLimit timeout with
  | none =>
      rw [runCourse_of_no_limit limit]
      exact isOrdinary_unlimitedCourse (ordinary _)
  | some seconds =>
      rw [runCourse_of_limit limit, answer_limitedCourse ordinary]
      exact (isOrdinary_limitCourse (ordinary _) seconds).bind fun _ =>
        isOrdinary_unlimitedCourse (ordinary _)

end Execution

namespace Health

open Exchange

/-! ## The course of a check -/

/-- Whether a fetch gives a row. -/
def givesRow : Except Raised (Option (List Value)) → Bool
  | .ok row => row.isSome
  | .error _ => false

/-- What a check makes of the answer to its probe. -/
def verdict (connection : Connection) : Except Fault Nat → Except Fault Bool
  | .error _ => .ok false
  | .ok cursor =>
      raising (connection.cursorScript cursor).closeError >>= fun _ =>
        .ok (givesRow
          ((connection.cursorScript cursor).fetchAnswer (connection.fetchCount cursor)))

/-- The requests that a check makes after its probe. -/
def reading : Except Fault Nat → List Request
  | .error _ => []
  | .ok cursor => [.fetch cursor, .closeCursor cursor]

section Checks

variable {connection : Connection} {script : Script}

theorem report_takes (fault : Fault) (connection : Connection) :
    (report fault).Takes connection ⟨.ok false, []⟩ :=
  takes_bind_pure (takes_notify unhealthy connection) false

/-- A fault of the fetch becomes a report, but one of closing the cursor does not. -/
theorem reading_takes
    (scripted : connection.backend = .scripted script) {cursor : Nat}
    (ordinary : (connection.cursorScript cursor).Uninterrupted) :
    (ensuring
      (handling
        (do
          let row ← Exchange.fetch cursor
          return row.isSome)
        report)
      (Exchange.closeCursor cursor)).Takes connection
      ⟨verdict connection (.ok cursor), [.fetch cursor, .closeCursor cursor]⟩ := by
  have fetches := takes_bind_form (takes_fetch scripted cursor) Option.isSome
  have handled : (handling
      (do
        let row ← Exchange.fetch cursor
        return row.isSome)
      report).Takes connection
      ⟨.ok (givesRow ((connection.cursorScript cursor).fetchAnswer
        (connection.fetchCount cursor))), [.fetch cursor]⟩ := by
    cases error : (connection.cursorScript cursor).fetchError?
        (connection.fetchCount cursor) with
    | none =>
        rw [CursorScript.fetchAnswer, error] at fetches ⊢
        exact takes_handling_of_ok fetches
    | some raised =>
        rw [CursorScript.fetchAnswer, error] at fetches ⊢
        exact takes_handling_of_fault fetches (ordinary.fetching _ raised error)
          (report_takes _ _)
  have closes := takes_closeCursor (handled.backend.trans scripted) cursor
  rw [handled.cursorScript] at closes
  exact takes_ensuring handled closes

theorem check_takes
    (scripted : connection.backend = .scripted script)
    (uninterrupted : ∀ cursor, (connection.cursorScript cursor).Uninterrupted)
    (timeout : Option Double) :
    (check timeout).Takes connection
      ⟨verdict connection ((Execution.run timeout probe).answer connection),
        (Execution.run timeout probe).asked connection ++
          reading ((Execution.run timeout probe).answer connection)⟩ := by
  have ordinary := fun cursor => (uninterrupted cursor).toOrdinary
  have runs := (Execution.run_takes scripted timeout probe).own
  have releases := Execution.releases_run scripted ordinary timeout probe
  have faults := Execution.isOrdinary_run scripted ordinary timeout probe
  cases ended : (Execution.run timeout probe).answer connection with
  | error fault =>
      apply runs.followed (report_takes fault _)
      rw [check, run_of_answer_eq_error ended]
      simp only [faults fault ended, Bool.false_eq_true, if_false]
  | ok cursor =>
      have reads := reading_takes (runs.backend.trans scripted)
        (runs.cursorScript ▸ uninterrupted cursor)
      -- The run calls its cursor twice, and neither call is a fetch.
      have unread : ((Execution.run timeout probe).after connection).fetchCount cursor =
          connection.fetchCount cursor := by
        obtain ⟨rfl, _, _, calls⟩ := releases.handed cursor ended
        rw [runs.fetchCount, countP_isFetchOf, calls]
        rfl
      rw [verdict, runs.cursorScript, unread] at reads
      apply runs.followed reads
      rw [check, run_of_answer_eq_ok ended]

end Checks

/-! ## What is reported, and what is closed -/

section Verdicts

variable {connection : Connection} {ended : Except Fault Nat}

theorem givesRow_eq_true_iff (fetched : Except Raised (Option (List Value))) :
    givesRow fetched = true ↔ ∃ row, fetched = .ok (some row) := by
  cases fetched with
  | error raised => exact iff_of_false Bool.false_ne_true fun ⟨_, gives⟩ => by cases gives
  | ok row? => cases row? <;> simp [givesRow]

theorem verdict_eq_error_iff (fault : Fault) :
    verdict connection ended = .error fault ↔
      ∃ cursor error, ended = .ok cursor ∧
        (connection.cursorScript cursor).closeError = some error ∧
        fault = .raised error := by
  cases ended with
  | error other =>
      exact iff_of_false (fun fails => by cases fails) fun ⟨_, _, handed, _⟩ => by cases handed
  | ok cursor =>
      rw [verdict, raising_bind_ok_eq_error_iff]
      constructor
      · rintro ⟨error, closing, rfl⟩
        exact ⟨cursor, error, rfl, closing, rfl⟩
      · rintro ⟨_, error, handed, closing, rfl⟩
        cases handed
        exact ⟨error, closing, rfl⟩

theorem verdict_eq_true_iff :
    verdict connection ended = .ok true ↔
      ∃ cursor row, ended = .ok cursor ∧
        (connection.cursorScript cursor).fetchAnswer (connection.fetchCount cursor) =
          .ok (some row) ∧
        (connection.cursorScript cursor).closeError = none := by
  cases ended with
  | error other =>
      exact iff_of_false (fun healthy => by cases healthy)
        fun ⟨_, _, handed, _⟩ => by cases handed
  | ok cursor =>
      rw [verdict, raising_bind_eq_ok_iff]
      constructor
      · rintro ⟨closing, healthy⟩
        obtain ⟨row, fetched⟩ := (givesRow_eq_true_iff _).mp (Except.ok.inj healthy)
        exact ⟨cursor, row, rfl, fetched, closing⟩
      · rintro ⟨_, row, handed, fetched, closing⟩
        cases handed
        exact ⟨closing, congrArg Except.ok ((givesRow_eq_true_iff _).mpr ⟨row, fetched⟩)⟩

theorem callsOn_reading_self (cursor : Nat) :
    callsOn cursor (reading (.ok cursor)) = [.fetching, .closing] := by
  simp [callsOn, reading, Request.callOn?]

theorem callsOn_reading_of_other
    {cursor : Nat} (other : ended ≠ .ok cursor) : callsOn cursor (reading ended) = [] := by
  cases ended with
  | error fault => rfl
  | ok handed =>
      apply callsOn_of_other fun same => other (congrArg Except.ok same.symm)
      intro request member
      rcases List.mem_cons.mp member with rfl | closes
      · rfl
      · rw [List.mem_singleton.mp closes]
        rfl

end Verdicts

/-- A check closes its cursors itself, or leaves them to its probe, which does. -/
theorem isReleased_check
    {connection : Connection} {script : Script}
    (scripted : connection.backend = .scripted script)
    (uninterrupted : ∀ cursor, (connection.cursorScript cursor).Uninterrupted)
    (timeout : Option Double) {cursor : Nat}
    (opened : Opened connection.cursorScript ((check timeout).asked connection) cursor) :
    IsReleased (callsOn cursor ((check timeout).asked connection)) := by
  have ordinary := fun cursor => (uninterrupted cursor).toOrdinary
  have releases := Execution.releases_run scripted ordinary timeout probe
  rw [(check_takes scripted uninterrupted timeout).asked_eq] at opened ⊢
  by_cases handed : (Execution.run timeout probe).answer connection = .ok cursor
  · obtain ⟨rfl, _, _, calls⟩ := releases.handed cursor handed
    rw [callsOn_append, calls, handed, callsOn_reading_self]
    exact ⟨[.executing probe, .fetching], by simp, by simp, rfl⟩
  · rw [Opened, callsOn_append, callsOn_reading_of_other handed, List.append_nil] at opened
    rw [callsOn_append, callsOn_reading_of_other handed, List.append_nil]
    exact releases.released cursor opened handed

/-- A check that nothing interrupts raises the errors of closing the cursor on which its
probe ran, and no others. It reports good health exactly when that cursor gives a row and
closes, and it closes every cursor that it opens once. -/
theorem check_raises_only_close_errors
    {connection : Connection} {script : Script}
    (scripted : connection.backend = .scripted script)
    (uninterrupted : ∀ cursor, (connection.cursorScript cursor).Uninterrupted)
    (timeout : Option Double) :
    (∀ fault, (check timeout).answer connection = .error fault ↔
      ∃ cursor error, (Execution.run timeout probe).answer connection = .ok cursor ∧
        (connection.cursorScript cursor).closeError = some error ∧
        fault = .raised error) ∧
    ((check timeout).answer connection = .ok true ↔
      ∃ cursor row, (Execution.run timeout probe).answer connection = .ok cursor ∧
        (connection.cursorScript cursor).fetchAnswer (connection.fetchCount cursor) =
          .ok (some row) ∧
        (connection.cursorScript cursor).closeError = none) ∧
    (∀ cursor, (Execution.run timeout probe).answer connection = .ok cursor →
      (connection.cursorScript cursor).executeError = none ∧
        callsOn cursor ((check timeout).asked connection) =
          [.opening, .executing probe, .fetching, .closing]) ∧
    ∀ cursor,
      Opened connection.cursorScript ((check timeout).asked connection) cursor →
        (callsOn cursor ((check timeout).asked connection)).count .closing = 1 := by
  have ordinary := fun cursor => (uninterrupted cursor).toOrdinary
  have takes := check_takes scripted uninterrupted timeout
  have releases := Execution.releases_run scripted ordinary timeout probe
  refine ⟨?_, ?_, ?_, ?_⟩
  · intro fault
    rw [takes.answer]
    exact verdict_eq_error_iff fault
  · rw [takes.answer]
    exact verdict_eq_true_iff
  · intro cursor handed
    obtain ⟨rfl, _, succeeds, calls⟩ := releases.handed cursor handed
    refine ⟨succeeds, ?_⟩
    rw [takes.asked_eq, callsOn_append, calls, handed, callsOn_reading_self]
    rfl
  · intro cursor opened
    exact (isReleased_check scripted uninterrupted timeout opened).count_closing

open Execution (twoSeconds failing)

/-- The probe gives a row, and then its limit cannot be lifted. -/
def answering : Connection :=
  .following [.silent, { CursorScript.silent with rows := [[.integer 1]] }, failing]

theorem check_raises_only_close_errors_answering :
    (check (some twoSeconds)).answer answering = .ok true ∧
      ∀ cursor < 3,
        (callsOn cursor ((check (some twoSeconds)).asked answering)).count .closing = 1 := by
  have uninterrupted : ∀ cursor, (answering.cursorScript cursor).Uninterrupted := by
    intro cursor
    match cursor with
    | 0 | cursor + 3 => exact CursorScript.uninterrupted_silent
    | 1 | 2 =>
        exact CursorScript.Ordinary.uninterrupted (by decide) fun _ member => by cases member
  obtain ⟨_, healthy, _, closed⟩ :=
    check_raises_only_close_errors rfl uninterrupted (some twoSeconds)
  refine ⟨healthy.mpr ⟨1, [.integer 1], rfl, rfl, rfl⟩, ?_⟩
  intro cursor bounded
  match cursor, bounded with
  | 0, _ | 1, _ | 2, _ => exact closed _ ⟨by decide, rfl⟩

def goneError : Raised :=
  .driver .operational [.integer 2006, .text (Text.ofString "gone")]

/-- The connection is lost after the probe was executed. -/
def lost : Connection :=
  .following
    [{ CursorScript.silent with
      fetchErrors := [(0, .driver .operational
        [.integer 2013, .text (Text.ofString "lost")])]
      closeError := some goneError }]

/-- No error of the connection is an interruption, and yet the check raises one. -/
theorem close_error_escapes_check :
    (∀ cursor, (lost.cursorScript cursor).Uninterrupted) ∧
      (check none).answer lost = .error (.raised goneError) := by
  refine ⟨?_, rfl⟩
  intro cursor
  match cursor with
  | 0 =>
      refine CursorScript.Ordinary.uninterrupted (by decide) ?_
      intro entry member
      rw [List.mem_singleton.mp member]
      rfl
  | cursor + 1 => exact CursorScript.uninterrupted_silent

end Health

end BoundQuery
