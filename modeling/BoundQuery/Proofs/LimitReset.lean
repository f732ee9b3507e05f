import BoundQuery.Proofs.RunCourse

/-!
# Lifting a limit that was set

A limit outlives the query for which it was set until it is lifted. A run that opens a
cursor for its query tries to lift the limit on a third cursor, whatever happens to the
query. Between setting the limit and that point lie two requests that may fail: closing
the first cursor, and opening the second one.

The main statement says that a limit that was set is left standing exactly when one of
these two requests fails.
-/

namespace BoundQuery

/-- The cursor that a request is about. -/
def Request.cursor? : Request → Option Nat
  | .openCursor cursor => some cursor
  | .execute cursor _ => some cursor
  | .fetch cursor => some cursor
  | .closeCursor cursor => some cursor
  | .connect _ => none
  | .closeConnection => none

namespace Execution

open Exchange

/-! ## One cursor for each phase -/

section Cursors

variable {script : CursorScript} {cursor : Nat} {request : Request}

theorem cursor?_of_mem_limitCourse {seconds : Double}
    (member : request ∈ (limitCourse script cursor seconds).asked) :
    request.cursor? = some cursor := by
  cases opening : script.openError with
  | some error =>
      simp only [limitCourse_of_refused opening, List.mem_singleton] at member
      rcases member with rfl
      rfl
  | none =>
      cases counting : milliseconds seconds with
      | error fault =>
          simp only [limitCourse_of_not_finite opening counting, List.mem_cons,
            List.not_mem_nil, or_false] at member
          rcases member with rfl | rfl <;> rfl
      | ok amount =>
          simp only [limitCourse_of_amount opening counting, List.mem_cons,
            List.not_mem_nil, or_false] at member
          rcases member with rfl | rfl | rfl <;> rfl

theorem cursor?_of_mem_queryCourse {query : Text}
    (member : request ∈ (queryCourse script cursor query).asked) :
    request.cursor? = some cursor := by
  cases failing : script.executeError with
  | none =>
      simp only [queryCourse_of_success failing, List.mem_singleton] at member
      rcases member with rfl
      rfl
  | some error =>
      cases interrupts : error.isInterruption with
      | true =>
          simp only [queryCourse_of_interruption failing interrupts,
            List.mem_singleton] at member
          rcases member with rfl
          rfl
      | false =>
          simp only [queryCourse_of_error failing interrupts, List.mem_cons,
            List.not_mem_nil, or_false] at member
          rcases member with rfl | rfl <;> rfl

theorem cursor?_of_mem_liftCourse
    (member : request ∈ (liftCourse script cursor).asked) :
    request.cursor? = some cursor := by
  cases opening : script.openError with
  | some error =>
      simp only [liftCourse_of_refused opening, List.mem_singleton] at member
      rcases member with rfl
      rfl
  | none =>
      simp only [liftCourse_of_open opening, List.mem_cons, List.not_mem_nil,
        or_false] at member
      rcases member with rfl | rfl | rfl <;> rfl

end Cursors

/-- Once the limit is set, only the cursor of the query and the one after it are used. -/
theorem cursor?_of_mem_limitSetCourse
    {scripts : Nat → CursorScript} {cursor : Nat} {query : Text} {request : Request}
    (member : request ∈ (limitSetCourse scripts cursor query).asked) :
    request.cursor? = some cursor ∨ request.cursor? = some (cursor + 1) := by
  rw [limitSetCourse] at member
  cases opening : (scripts cursor).openError with
  | some error =>
      simp only [handedCourse_of_refused opening, List.mem_singleton] at member
      rcases member with rfl
      exact Or.inl rfl
  | none =>
      simp only [handedCourse_of_open opening, ensuredCourse, List.mem_cons,
        List.mem_append] at member
      rcases member with rfl | ran | lifted
      · exact Or.inl rfl
      · exact Or.inl (cursor?_of_mem_queryCourse ran)
      · exact Or.inr (cursor?_of_mem_liftCourse lifted)

/-! ## Limits that are set and lifted -/

/-- A cursor sets a limit: it is asked to and raises no error. -/
def SetsLimit
    (scripts : Nat → CursorScript) (setter : Nat) (asked : List Request) : Prop :=
  (scripts setter).executeError = none ∧
    ∃ amount, .execute setter (limitStatement amount) ∈ asked

/-- A limit that one cursor set is followed by an attempt of another to lift it: the
other is asked for and, if it opens, runs the statement that lifts the limit. -/
def LiftFollows
    (scripts : Nat → CursorScript) (setter lifter : Nat) (asked : List Request) : Prop :=
  ∃ earlier later,
    asked = earlier ++ .openCursor lifter :: later ∧
      (∃ amount, .execute setter (limitStatement amount) ∈ earlier) ∧
      ((scripts lifter).openError = none →
        .execute lifter unlimitedStatement ∈ later)

section Limits

variable {scripts : Nat → CursorScript} {first : Nat} {seconds : Double} {query : Text}

/-- A limit is set only on a cursor that opens, and with milliseconds that are finite. -/
theorem limitCourse_of_setsLimit
    (sets : SetsLimit scripts first (limitedCourse scripts first seconds query).asked) :
    ∃ amount, limitCourse (scripts first) first seconds =
      ⟨raising (scripts first).closeError,
        [.openCursor first, .execute first (limitStatement amount),
          .closeCursor first]⟩ := by
  rcases sets with ⟨executes, amount, member⟩
  have limiting : .execute first (limitStatement amount) ∈
      (limitCourse (scripts first) first seconds).asked := by
    cases course : limitCourse (scripts first) first seconds with
    | mk answer asked =>
        cases answer with
        | error fault =>
            rw [limitedCourse_of_error course] at member
            exact member
        | ok done =>
            simp only [limitedCourse_of_ok course, List.mem_append] at member
            rcases member with limits | runs
            · exact limits
            -- A query may spell the same statement, but it runs on a later cursor.
            · rcases cursor?_of_mem_limitSetCourse runs with same | same <;>
                exact absurd (Option.some.inj same) (by omega)
  cases opening : (scripts first).openError with
  | some error => simp [limitCourse_of_refused opening] at limiting
  | none =>
      cases counting : milliseconds seconds with
      | error fault => simp [limitCourse_of_not_finite opening counting] at limiting
      | ok whole =>
          refine ⟨whole, ?_⟩
          rw [limitCourse_of_amount opening counting, executes]
          cases (scripts first).closeError <;> rfl

theorem not_liftFollows
    {setter lifter : Nat} {asked : List Request}
    (absent : ∀ request ∈ asked, request.cursor? ≠ some lifter) :
    ¬ LiftFollows scripts setter lifter asked := by
  rintro ⟨earlier, later, split, _⟩
  have member : .openCursor lifter ∈ asked := by
    rw [split]
    exact List.mem_append_right earlier List.mem_cons_self
  exact absent (.openCursor lifter) member rfl

theorem liftCourse_begins (script : CursorScript) (cursor : Nat) :
    ∃ later,
      (liftCourse script cursor).asked = .openCursor cursor :: later ∧
        (script.openError = none → .execute cursor unlimitedStatement ∈ later) := by
  cases opening : script.openError with
  | some error =>
      rw [liftCourse_of_refused opening]
      exact ⟨[], rfl, fun opens => by cases opens⟩
  | none =>
      rw [liftCourse_of_open opening]
      exact ⟨_, rfl, fun _ => List.mem_cons_self⟩

/-- A query on an open cursor is followed by an attempt to lift the limit. -/
theorem liftFollows_limitSetCourse
    {amount : Int} {limits : List Request}
    (limited : .execute first (limitStatement amount) ∈ limits)
    (opened : (scripts (first + 1)).openError = none) :
    LiftFollows scripts first (first + 2)
      (limits ++ (limitSetCourse scripts (first + 1) query).asked) := by
  obtain ⟨later, lifted, lifts⟩ := liftCourse_begins (scripts (first + 2)) (first + 2)
  let ran := queryCourse (scripts (first + 1)) (first + 1) query
  have ensured : (ensuredCourse scripts (first + 1) query).asked =
      ran.asked ++ .openCursor (first + 2) :: later :=
    congrArg (ran.asked ++ ·) lifted
  refine ⟨limits ++ .openCursor (first + 1) :: ran.asked, later, ?_,
    ⟨amount, List.mem_append_left _ limited⟩, lifts⟩
  rw [limitSetCourse, handedCourse_of_open opened, ensured, List.append_assoc]
  rfl

theorem liftFollows_limitedCourse_iff
    (sets : SetsLimit scripts first (limitedCourse scripts first seconds query).asked) :
    LiftFollows scripts first (first + 2) (limitedCourse scripts first seconds query).asked ↔
      (scripts first).closeError = none ∧ (scripts (first + 1)).openError = none := by
  obtain ⟨amount, course⟩ := limitCourse_of_setsLimit sets
  have ownCursor : ∀ request ∈ (limitCourse (scripts first) first seconds).asked,
      request.cursor? ≠ some (first + 2) := by
    intro request member concerns
    rw [cursor?_of_mem_limitCourse member] at concerns
    exact absurd (Option.some.inj concerns) (by omega)
  have limited : .execute first (limitStatement amount) ∈
      (limitCourse (scripts first) first seconds).asked := by
    rw [course]
    exact List.mem_cons_of_mem _ List.mem_cons_self
  rw [course] at ownCursor limited
  cases closing : (scripts first).closeError with
  | some error =>
      rw [closing] at course
      rw [limitedCourse_of_error course]
      exact iff_of_false (not_liftFollows ownCursor) fun fine => by cases fine.1
  | none =>
      rw [closing] at course
      rw [limitedCourse_of_ok course]
      cases opening : (scripts (first + 1)).openError with
      | none =>
          exact iff_of_true (liftFollows_limitSetCourse limited opening) ⟨rfl, rfl⟩
      | some error =>
          refine iff_of_false (not_liftFollows ?_) fun fine => by cases fine.2
          intro request member concerns
          rw [limitSetCourse, handedCourse_of_refused opening] at member
          rcases List.mem_append.mp member with limits | opens
          · exact ownCursor request limits concerns
          · rw [List.mem_singleton.mp opens] at concerns
            exact absurd (Option.some.inj concerns) (by omega)

end Limits

/-! ## Runs -/

/-- A run that set a limit goes on to try to lift it, however its query ends, exactly
when the cursor that set the limit closes and the cursor of the query opens. -/
theorem run_lifts_limit_iff
    {connection : Connection} {script : Script}
    (scripted : connection.backend = .scripted script)
    {seconds : Double} (positive : seconds.isPositive = true) (query : Text)
    (sets : SetsLimit connection.cursorScript connection.cursorCount
      ((run (some seconds) query).asked connection)) :
    LiftFollows connection.cursorScript connection.cursorCount
        (connection.cursorCount + 2) ((run (some seconds) query).asked connection) ↔
      (connection.cursorScript connection.cursorCount).closeError = none ∧
        (connection.cursorScript (connection.cursorCount + 1)).openError = none := by
  have limited : activeLimit (some seconds) = some seconds :=
    (activeLimit_eq_some_iff (some seconds) seconds).mpr ⟨rfl, positive⟩
  have asked := (run_takes scripted (some seconds) query).asked_eq
  rw [runCourse_of_limit limited] at asked
  rw [asked] at sets ⊢
  exact liftFollows_limitedCourse_iff sets

def twoSeconds : Double :=
  Double.nearest false 2 1

def refusedQuery : Connection :=
  .following
    [.silent,
      { CursorScript.silent with
        executeError := some (.driver .programming
          [.integer 1064, .text (Text.ofString "syntax")]) }]

theorem run_lifts_limit_of_refused_query :
    LiftFollows refusedQuery.cursorScript 0 2
      ((run (some twoSeconds) (Text.ofString "SELECT 1")).asked refusedQuery) := by
  have limits : (run (some twoSeconds) (Text.ofString "SELECT 1")).asked refusedQuery =
      .openCursor 0 :: .execute 0 (limitStatement 2000) ::
        [.closeCursor 0, .openCursor 1, .execute 1 (Text.ofString "SELECT 1"),
          .closeCursor 1, .openCursor 2, .execute 2 unlimitedStatement,
          .closeCursor 2] := rfl
  have sets : SetsLimit refusedQuery.cursorScript 0
      ((run (some twoSeconds) (Text.ofString "SELECT 1")).asked refusedQuery) :=
    ⟨rfl, 2000, limits ▸ List.mem_cons_of_mem _ List.mem_cons_self⟩
  exact (run_lifts_limit_iff rfl rfl (Text.ofString "SELECT 1") sets).mpr ⟨rfl, rfl⟩

def refusedCursor : Connection :=
  .following
    [.silent,
      { CursorScript.silent with
        openError := some (.driver .operational
          [.integer 2006, .text (Text.ofString "gone")]) }]

/-- A limit is left standing when the cursor of the query is refused. -/
theorem limit_left_by_refused_cursor :
    SetsLimit refusedCursor.cursorScript 0
        ((run (some twoSeconds) (Text.ofString "SELECT 1")).asked refusedCursor) ∧
      ¬ LiftFollows refusedCursor.cursorScript 0 2
        ((run (some twoSeconds) (Text.ofString "SELECT 1")).asked refusedCursor) := by
  have asked : (run (some twoSeconds) (Text.ofString "SELECT 1")).asked refusedCursor =
      .openCursor 0 :: .execute 0 (limitStatement 2000) ::
        [.closeCursor 0, .openCursor 1] := rfl
  rw [asked]
  refine ⟨⟨rfl, 2000, List.mem_cons_of_mem _ List.mem_cons_self⟩, not_liftFollows ?_⟩
  intro request member
  simp only [List.mem_cons, List.not_mem_nil, or_false] at member
  rcases member with rfl | rfl | rfl | rfl <;> decide

end Execution

end BoundQuery
