import BoundQuery.Proofs.QueryReport

/-!
# Cursors are closed once

A run opens up to three cursors, and each of them may fail in three ways. The calls on one
cursor are taken out of the requests of the whole run here, and the calls on the cursor of
the query follow from its script alone, whether there is a limit or not.

The main statement says that every cursor that a run opens is closed exactly once, apart
from the one that it hands out.
-/

namespace BoundQuery

/-! ## The calls on one cursor -/

/-- What a request asks of its cursor. -/
inductive CursorCall
  | opening
  | executing (query : Text)
  | fetching
  | closing
  deriving DecidableEq

def Request.callOn? (cursor : Nat) : Request → Option CursorCall
  | .openCursor asked => if asked = cursor then some .opening else none
  | .execute asked query => if asked = cursor then some (.executing query) else none
  | .fetch asked => if asked = cursor then some .fetching else none
  | .closeCursor asked => if asked = cursor then some .closing else none
  | .connect _ | .closeConnection => none

/-- The calls on a cursor among requests, in order. -/
def callsOn (cursor : Nat) (asked : List Request) : List CursorCall :=
  asked.filterMap (Request.callOn? cursor)

theorem callsOn_append (cursor : Nat) (asked later : List Request) :
    callsOn cursor (asked ++ later) = callsOn cursor asked ++ callsOn cursor later :=
  List.filterMap_append

theorem callsOn_openCursor_cons (cursor : Nat) (asked : List Request) :
    callsOn cursor (.openCursor cursor :: asked) = .opening :: callsOn cursor asked :=
  List.filterMap_cons_some (if_pos rfl)

theorem callsOn_eq_nil
    {cursor : Nat} {asked : List Request}
    (about : ∀ request ∈ asked, request.cursor? ≠ some cursor) :
    callsOn cursor asked = [] := by
  rw [callsOn, List.filterMap_eq_nil_iff]
  intro request member
  have other := about request member
  cases request with
  | connect arguments => rfl
  | closeConnection => rfl
  | _ => exact if_neg fun same => other (congrArg some same)

/-- Requests about a cursor of their own call no other one. -/
theorem callsOn_of_other
    {own cursor : Nat} (other : cursor ≠ own) {asked : List Request}
    (about : ∀ request ∈ asked, request.cursor? = some own) : callsOn cursor asked = [] := by
  apply callsOn_eq_nil
  intro request member
  rw [about request member]
  exact fun equal => other (Option.some.inj equal).symm

theorem countP_isFetchOf (cursor : Nat) (asked : List Request) :
    asked.countP (Request.isFetchOf cursor) = (callsOn cursor asked).count .fetching := by
  rw [callsOn, List.count, List.countP_filterMap]
  congr 1
  funext request
  cases request with
  | fetch other =>
      by_cases same : other = cursor <;> simp [Request.isFetchOf, Request.callOn?, same]
  | connect arguments => rfl
  | closeConnection => rfl
  | _ => simp only [Request.isFetchOf, Request.callOn?]; split <;> rfl

/-- A cursor is opened by requests: they ask for it and it is not refused. -/
def Opened (scripts : Nat → CursorScript) (asked : List Request) (cursor : Nat) : Prop :=
  .opening ∈ callsOn cursor asked ∧ (scripts cursor).openError = none

theorem Opened.callsOn_ne_nil
    {scripts : Nat → CursorScript} {asked : List Request} {cursor : Nat}
    (opened : Opened scripts asked cursor) : callsOn cursor asked ≠ [] :=
  List.ne_nil_of_mem opened.1

/-- The calls on a cursor that is opened, used, and then closed once and for all. -/
def IsReleased (calls : List CursorCall) : Prop :=
  ∃ uses : List CursorCall, .opening ∉ uses ∧ .closing ∉ uses ∧
    calls = .opening :: (uses ++ [.closing])

theorem IsReleased.count_closing
    {calls : List CursorCall} (released : IsReleased calls) :
    calls.count .closing = 1 := by
  obtain ⟨uses, _, unclosed, rfl⟩ := released
  rw [List.count_cons_of_ne (by decide), List.count_append,
    List.count_eq_zero_of_not_mem unclosed]
  rfl

namespace Execution

open Exchange

/-! ## The calls of each phase -/

section Phases

variable {script : CursorScript} {cursor : Nat} {query : Text}

theorem isReleased_limitCourse {seconds : Double} (opened : script.openError = none) :
    IsReleased (callsOn cursor (limitCourse script cursor seconds).asked) := by
  cases counting : milliseconds seconds with
  | error fault =>
      rw [limitCourse_of_not_finite opened counting]
      exact ⟨[], by decide, by decide, by simp [callsOn, Request.callOn?]⟩
  | ok amount =>
      rw [limitCourse_of_amount opened counting]
      exact ⟨[.executing (limitStatement amount)], by simp, by simp,
        by simp [callsOn, Request.callOn?]⟩

theorem isReleased_liftCourse (opened : script.openError = none) :
    IsReleased (callsOn cursor (liftCourse script cursor).asked) := by
  rw [liftCourse_of_open opened]
  exact ⟨[.executing unlimitedStatement], by simp, by simp,
    by simp [callsOn, Request.callOn?]⟩

/-- The calls on a cursor that is open and executes a query. It is closed after an error
that is no interruption. -/
def queryCalls (script : CursorScript) (query : Text) : List CursorCall :=
  match script.executeError with
  | none => [.executing query]
  | some error =>
      if error.isInterruption then [.executing query] else [.executing query, .closing]

/-- The calls on the cursor of a query, the first of which asks for it. -/
def mainCalls (script : CursorScript) (query : Text) : List CursorCall :=
  match script.openError with
  | none => .opening :: queryCalls script query
  | some _ => [.opening]

theorem queryCalls_of_success (succeeds : script.executeError = none) :
    queryCalls script query = [.executing query] := by
  rw [queryCalls, succeeds]

theorem queryCalls_of_interruption {error : Raised}
    (fails : script.executeError = some error) (interrupts : error.isInterruption = true) :
    queryCalls script query = [.executing query] := by
  rw [queryCalls, fails]
  exact if_pos interrupts

theorem queryCalls_of_error {error : Raised}
    (fails : script.executeError = some error) (ordinary : error.isInterruption = false) :
    queryCalls script query = [.executing query, .closing] := by
  rw [queryCalls, fails]
  exact if_neg (Bool.eq_false_iff.mp ordinary)

theorem callsOn_queryCourse :
    callsOn cursor (queryCourse script cursor query).asked = queryCalls script query := by
  cases failing : script.executeError with
  | none =>
      rw [queryCourse_of_success failing, queryCalls_of_success failing]
      simp [callsOn, Request.callOn?]
  | some error =>
      cases interrupts : error.isInterruption with
      | true =>
          rw [queryCourse_of_interruption failing interrupts,
            queryCalls_of_interruption failing interrupts]
          simp [callsOn, Request.callOn?]
      | false =>
          rw [queryCourse_of_error failing interrupts, queryCalls_of_error failing interrupts]
          simp [callsOn, Request.callOn?]

theorem mainCalls_of_refused {error : Raised} (refused : script.openError = some error) :
    mainCalls script query = [.opening] := by
  rw [mainCalls, refused]

theorem mainCalls_of_open (opened : script.openError = none) :
    mainCalls script query = .opening :: queryCalls script query := by
  rw [mainCalls, opened]

theorem callsOn_unlimitedCourse :
    callsOn cursor (unlimitedCourse script cursor query).asked = mainCalls script query := by
  rw [unlimitedCourse]
  cases opening : script.openError with
  | some error =>
      rw [handedCourse_of_refused opening, mainCalls_of_refused opening]
      exact callsOn_openCursor_cons cursor []
  | none =>
      rw [handedCourse_of_open opening, mainCalls_of_open opening, callsOn_openCursor_cons,
        callsOn_queryCourse]

theorem cursor?_of_mem_unlimitedCourse
    {request : Request} (member : request ∈ (unlimitedCourse script cursor query).asked) :
    request.cursor? = some cursor := by
  rw [unlimitedCourse] at member
  cases opening : script.openError with
  | some error =>
      rw [handedCourse_of_refused opening] at member
      rw [List.mem_singleton.mp member]
      rfl
  | none =>
      rw [handedCourse_of_open opening] at member
      rcases List.mem_cons.mp member with rfl | ran
      · rfl
      · exact cursor?_of_mem_queryCourse ran

/-- The cursor of a query that is handed out was opened and executed the query. -/
theorem mainCalls_of_answer_eq_ok
    {main : Nat} (gives : (unlimitedCourse script cursor query).answer = .ok main) :
    main = cursor ∧ script.openError = none ∧ script.executeError = none ∧
      mainCalls script query = [.opening, .executing query] := by
  rw [unlimitedCourse] at gives
  cases opening : script.openError with
  | some error =>
      rw [handedCourse_of_refused opening] at gives
      cases gives
  | none =>
      rw [handedCourse_of_open opening] at gives
      cases failing : script.executeError with
      | none =>
          rw [queryCourse_of_success failing] at gives
          rw [mainCalls_of_open opening, queryCalls_of_success failing]
          exact ⟨(Except.ok.inj gives).symm, rfl, rfl, rfl⟩
      | some error =>
          cases interrupts : error.isInterruption with
          | true =>
              rw [queryCourse_of_interruption failing interrupts] at gives
              cases gives
          | false =>
              rw [queryCourse_of_error failing interrupts] at gives
              cases closing : script.closeError <;> rw [closing] at gives <;> cases gives

/-- The cursor of a query that fails is closed, unless the query is interrupted. -/
theorem isReleased_mainCalls
    (ordinary : script.Ordinary) (opened : script.openError = none) {fault : Fault}
    (fails : (unlimitedCourse script cursor query).answer = .error fault) :
    IsReleased (mainCalls script query) := by
  rw [unlimitedCourse, handedCourse_of_open opened] at fails
  cases failing : script.executeError with
  | none =>
      rw [queryCourse_of_success failing] at fails
      cases fails
  | some error =>
      rw [mainCalls_of_open opened, queryCalls_of_error failing (ordinary.running error failing)]
      exact ⟨[.executing query], by simp, by simp, rfl⟩

end Phases

/-! ## The calls of a run -/

section Runs

variable {scripts : Nat → CursorScript} {query : Text}

theorem callsOn_limitSetCourse_main (cursor : Nat) :
    callsOn cursor (limitSetCourse scripts cursor query).asked =
      mainCalls (scripts cursor) query := by
  rw [limitSetCourse]
  cases opening : (scripts cursor).openError with
  | some error =>
      rw [handedCourse_of_refused opening, mainCalls_of_refused opening]
      exact callsOn_openCursor_cons cursor []
  | none =>
      have lifted : callsOn cursor
          (liftCourse (scripts (cursor + 1)) (cursor + 1)).asked = [] :=
        callsOn_of_other (Nat.ne_of_lt (Nat.lt_succ_self cursor))
          fun _ member => cursor?_of_mem_liftCourse member
      rw [handedCourse_of_open opening, mainCalls_of_open opening, callsOn_openCursor_cons,
        ensuredCourse, callsOn_append, callsOn_queryCourse, lifted, List.append_nil]

theorem isReleased_limitSetCourse_lifter
    {cursor : Nat}
    (opened : Opened scripts (limitSetCourse scripts cursor query).asked (cursor + 1)) :
    IsReleased (callsOn (cursor + 1) (limitSetCourse scripts cursor query).asked) := by
  obtain ⟨asked, lifterOpened⟩ := opened
  rw [limitSetCourse] at asked ⊢
  cases opening : (scripts cursor).openError with
  | some error =>
      rw [handedCourse_of_refused opening] at asked
      simp [callsOn, Request.callOn?] at asked
  | none =>
      have ran : callsOn (cursor + 1)
          (.openCursor cursor :: (queryCourse (scripts cursor) cursor query).asked) = [] := by
        apply callsOn_of_other (Nat.succ_ne_self cursor)
        intro request member
        rcases List.mem_cons.mp member with rfl | runs
        · rfl
        · exact cursor?_of_mem_queryCourse runs
      rw [handedCourse_of_open opening, ensuredCourse, ← List.cons_append, callsOn_append, ran]
      exact isReleased_liftCourse lifterOpened

/-- What becomes of the cursors that requests open: the one that is handed out has
executed the query and is open, and every other one is closed. -/
structure Releases
    (scripts : Nat → CursorScript) (main : Nat) (query : Text) (course : Course Nat) :
    Prop where
  handed : ∀ cursor, course.answer = .ok cursor → cursor = main ∧
    (scripts main).openError = none ∧ (scripts main).executeError = none ∧
    callsOn main course.asked = [.opening, .executing query]
  released : ∀ cursor, Opened scripts course.asked cursor → course.answer ≠ .ok cursor →
    IsReleased (callsOn cursor course.asked)

variable {first : Nat} {timeout : Option Double}

theorem isReleased_unless_handed
    {script : CursorScript} {cursor : Nat} (ordinary : script.Ordinary)
    (opened : script.openError = none)
    (kept : (unlimitedCourse script cursor query).answer ≠ .ok cursor) :
    IsReleased (mainCalls script query) := by
  cases given : (unlimitedCourse script cursor query).answer with
  | ok main => exact absurd ((mainCalls_of_answer_eq_ok given).1 ▸ given) kept
  | error fault => exact isReleased_mainCalls ordinary opened given

theorem releases_unlimited (ordinary : (scripts first).Ordinary) :
    Releases scripts first query (unlimitedCourse (scripts first) first query) := by
  constructor
  · intro cursor gives
    obtain ⟨same, opened, succeeds, calls⟩ := mainCalls_of_answer_eq_ok gives
    exact ⟨same, opened, succeeds, callsOn_unlimitedCourse.trans calls⟩
  · intro cursor opened kept
    by_cases same : cursor = first
    · rw [same] at opened kept ⊢
      rw [callsOn_unlimitedCourse]
      exact isReleased_unless_handed ordinary opened.2 kept
    · have unused : callsOn cursor (unlimitedCourse (scripts first) first query).asked = [] :=
        callsOn_of_other same fun _ member => cursor?_of_mem_unlimitedCourse member
      exact absurd unused opened.callsOn_ne_nil

theorem callsOn_limitCourse_of_other
    {script : CursorScript} {cursor : Nat} (other : cursor ≠ first) (seconds : Double) :
    callsOn cursor (limitCourse script first seconds).asked = [] :=
  callsOn_of_other other fun _ member => cursor?_of_mem_limitCourse member

theorem callsOn_limitSetCourse_of_other
    {cursor : Nat} (notMain : cursor ≠ first) (notLifter : cursor ≠ first + 1) :
    callsOn cursor (limitSetCourse scripts first query).asked = [] := by
  apply callsOn_eq_nil
  intro request member
  rcases cursor?_of_mem_limitSetCourse member with same | same
  · rw [same]
    exact fun equal => notMain (Option.some.inj equal).symm
  · rw [same]
    exact fun equal => notLifter (Option.some.inj equal).symm

section Limits

variable {seconds : Double} {limits : List Request}

theorem releases_of_limit_fault
    {fault : Fault}
    (course : limitCourse (scripts first) first seconds = ⟨.error fault, limits⟩) :
    Releases scripts (first + 1) query ⟨.error fault, limits⟩ := by
  have own : limits = (limitCourse (scripts first) first seconds).asked := by rw [course]
  refine ⟨fun cursor gives => (by cases gives), ?_⟩
  intro cursor opened _
  by_cases setter : cursor = first
  · rw [setter] at opened ⊢
    rw [own]
    exact isReleased_limitCourse opened.2
  · have unused : callsOn cursor limits = [] := by
      rw [own]
      exact callsOn_limitCourse_of_other setter seconds
    exact absurd unused opened.callsOn_ne_nil

theorem callsOn_of_limit_set
    {cursor : Nat} (other : cursor ≠ first)
    (course : limitCourse (scripts first) first seconds = ⟨.ok (), limits⟩) :
    callsOn cursor (limits ++ (limitSetCourse scripts (first + 1) query).asked) =
      callsOn cursor (limitSetCourse scripts (first + 1) query).asked := by
  have unused : callsOn cursor (limitCourse (scripts first) first seconds).asked = [] :=
    callsOn_limitCourse_of_other other seconds
  rw [course] at unused
  rw [callsOn_append, unused, List.nil_append]

theorem callsOn_main_of_limit_set
    (course : limitCourse (scripts first) first seconds = ⟨.ok (), limits⟩) :
    callsOn (first + 1) (limits ++ (limitSetCourse scripts (first + 1) query).asked) =
      mainCalls (scripts (first + 1)) query := by
  rw [callsOn_of_limit_set (Nat.succ_ne_self first) course, callsOn_limitSetCourse_main]

/-- Once a limit is set, each cursor of the run is used in one of its three phases. -/
theorem releases_of_limit_set
    (ordinary : ∀ cursor, (scripts cursor).Ordinary)
    (course : limitCourse (scripts first) first seconds = ⟨.ok (), limits⟩) :
    Releases scripts (first + 1) query
      ⟨(limitSetCourse scripts (first + 1) query).answer,
        limits ++ (limitSetCourse scripts (first + 1) query).asked⟩ := by
  rw [answer_limitSetCourse (ordinary (first + 1 + 1))]
  constructor
  · intro cursor gives
    obtain ⟨same, opened, succeeds, calls⟩ := mainCalls_of_answer_eq_ok gives
    exact ⟨same, opened, succeeds, (callsOn_main_of_limit_set course).trans calls⟩
  · intro cursor opened kept
    by_cases setter : cursor = first
    · rw [setter] at opened ⊢
      rw [callsOn_append, callsOn_limitSetCourse_of_other (by omega) (by omega),
        List.append_nil]
      have released : IsReleased
          (callsOn first (limitCourse (scripts first) first seconds).asked) :=
        isReleased_limitCourse opened.2
      rwa [course] at released
    · by_cases main : cursor = first + 1
      · rw [main] at opened kept ⊢
        rw [callsOn_main_of_limit_set course]
        exact isReleased_unless_handed (ordinary (first + 1)) opened.2 kept
      · by_cases lifter : cursor = first + 2
        · rw [lifter] at opened ⊢
          rw [Opened, callsOn_of_limit_set (by omega) course] at opened
          rw [callsOn_of_limit_set (by omega) course]
          exact isReleased_limitSetCourse_lifter opened
        · have used := opened.callsOn_ne_nil
          rw [callsOn_of_limit_set setter course] at used
          exact absurd (callsOn_limitSetCourse_of_other main lifter) used

end Limits

theorem releases_limited
    (ordinary : ∀ cursor, (scripts cursor).Ordinary) (seconds : Double) :
    Releases scripts (first + 1) query (limitedCourse scripts first seconds query) := by
  cases course : limitCourse (scripts first) first seconds with
  | mk answer limits =>
      cases answer with
      | error fault =>
          rw [limitedCourse_of_error course]
          exact releases_of_limit_fault course
      | ok done =>
          rw [limitedCourse_of_ok course]
          exact releases_of_limit_set ordinary course

theorem releases_runCourse (ordinary : ∀ cursor, (scripts cursor).Ordinary) :
    Releases scripts (queryCursor first timeout) query
      (runCourse scripts first timeout query) := by
  cases limit : activeLimit timeout with
  | none =>
      rw [runCourse_of_no_limit limit, queryCursor_of_no_limit limit]
      exact releases_unlimited (ordinary first)
  | some seconds =>
      rw [runCourse_of_limit limit, queryCursor_of_limit limit]
      exact releases_limited ordinary seconds

end Runs

/-- A run hands out the cursor of its query or none, and releases all others. -/
theorem releases_run
    {connection : Connection} {script : Script}
    (scripted : connection.backend = .scripted script)
    (ordinary : ∀ cursor, (connection.cursorScript cursor).Ordinary)
    (timeout : Option Double) (query : Text) :
    Releases connection.cursorScript (queryCursor connection.cursorCount timeout) query
      ⟨(run timeout query).answer connection, (run timeout query).asked connection⟩ := by
  have takes := run_takes scripted timeout query
  rw [takes.answer, takes.asked_eq]
  exact releases_runCourse ordinary

/-- A run that fails has closed every cursor that it opened exactly once. A run that
succeeds gives the cursor of its query, which is open, and has closed all others. -/
theorem run_closes_cursors_once
    {connection : Connection} {script : Script}
    (scripted : connection.backend = .scripted script)
    (ordinary : ∀ cursor, (connection.cursorScript cursor).Ordinary)
    (timeout : Option Double) (query : Text) :
    (∀ fault, (run timeout query).answer connection = .error fault →
      ∀ cursor,
        Opened connection.cursorScript ((run timeout query).asked connection) cursor →
          (callsOn cursor ((run timeout query).asked connection)).count .closing = 1) ∧
    ∀ main, (run timeout query).answer connection = .ok main →
      main = queryCursor connection.cursorCount timeout ∧
        Opened connection.cursorScript ((run timeout query).asked connection) main ∧
        .closing ∉ callsOn main ((run timeout query).asked connection) ∧
        ∀ other, other ≠ main →
          Opened connection.cursorScript ((run timeout query).asked connection) other →
            (callsOn other ((run timeout query).asked connection)).count .closing = 1 := by
  have releases := releases_run scripted ordinary timeout query
  constructor
  · intro fault fails cursor opened
    have kept : (run timeout query).answer connection ≠ .ok cursor := by
      rw [fails]
      exact fun same => by cases same
    exact (releases.released cursor opened kept).count_closing
  · intro main gives
    obtain ⟨rfl, opened, _, calls⟩ := releases.handed main gives
    refine ⟨rfl, ⟨by simp [calls], opened⟩, by simp [calls], ?_⟩
    intro other apart otherOpened
    have kept : (run timeout query).answer connection ≠ .ok other := by
      rw [gives]
      exact fun same => apart (Except.ok.inj same).symm
    exact (releases.released other otherOpened kept).count_closing

/-- A cursor that opens, and then fails to execute and to close. -/
def failing : CursorScript :=
  { CursorScript.silent with
    executeError := some (.driver .programming
      [.integer 1064, .text (Text.ofString "syntax")])
    closeError := some (.driver .operational
      [.integer 2013, .text (Text.ofString "lost")]) }

theorem ordinary_failing : failing.Ordinary := by decide

/-- The query fails, and so does lifting its limit. -/
def failingTwice : Connection :=
  .following [.silent, failing, failing]

theorem run_closes_cursors_once_failing :
    (run (some twoSeconds) (Text.ofString "SELECT 1")).answer failingTwice =
        .error (.raised (.driver .operational
          [.integer 2013, .text (Text.ofString "lost")])) ∧
      ∀ cursor < 3, (callsOn cursor
        ((run (some twoSeconds) (Text.ofString "SELECT 1")).asked
          failingTwice)).count .closing = 1 := by
  have ordinary : ∀ cursor, (failingTwice.cursorScript cursor).Ordinary := by
    intro cursor
    match cursor with
    | 0 | cursor + 3 => exact CursorScript.ordinary_silent
    | 1 | 2 => exact ordinary_failing
  have fails : (run (some twoSeconds) (Text.ofString "SELECT 1")).answer failingTwice =
      .error (.raised (.driver .operational
        [.integer 2013, .text (Text.ofString "lost")])) := rfl
  have closed := (run_closes_cursors_once rfl ordinary (some twoSeconds)
    (Text.ofString "SELECT 1")).1 _ fails
  refine ⟨fails, ?_⟩
  intro cursor bounded
  match cursor, bounded with
  | 0, _ | 1, _ | 2, _ => exact closed _ ⟨by decide, rfl⟩

end Execution

end BoundQuery
