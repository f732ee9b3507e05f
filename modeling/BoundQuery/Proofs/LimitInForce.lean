import BoundQuery.Number.Reading
import BoundQuery.Proofs.LimitReset
import BoundQuery.Proofs.RoundedThousandfold

/-!
# Limits that are in force

The far end keeps the limit that it was told last, and takes an amount that is not positive
for no limit at all. A run tells it the whole milliseconds in the configured time. The time
only has to be positive for that, so that it may be too short for a single millisecond; then
what is meant to set a limit is the very statement that lifts one.

The main statement says that a query under a limit runs once, right after the limit was
told, and that between the two a limit is in force exactly when the configured time is one
millisecond or more.
-/

namespace BoundQuery

/-! ## The limit of the far end -/

def readIntegerNumeral? (numeral : Text) : Option Int :=
  let (negative, magnitude) := Numeral.splitMinus numeral
  (Numeral.digitValues? magnitude).map fun digits =>
    Numeral.withSign negative (Numeral.ofDigitValues digits)

/-- The milliseconds in a statement that tells the limit. -/
def limitOf? (statement : Text) : Option Int :=
  (dropBeginning? (Text.ofString "SET SESSION max_execution_time = ") statement).bind
    readIntegerNumeral?

/-- The limit of the far end after a request, when there was the given one before it. An
amount that is not positive stands for no limit. -/
def Request.changeLimit (limit : Option Int) : Request → Option Int
  | .execute _ statement =>
      match limitOf? statement with
      | some amount => if 0 < amount then some amount else none
      | none => limit
  | _ => limit

/-- The limit of the far end after requests in a row. -/
def limitAfter (limit : Option Int) (asked : List Request) : Option Int :=
  asked.foldl Request.changeLimit limit

section FarEnd

variable {asked : List Request} {limit : Option Int}

theorem limitAfter_append (limit : Option Int) (earlier later : List Request) :
    limitAfter limit (earlier ++ later) = limitAfter (limitAfter limit earlier) later :=
  List.foldl_append

theorem readIntegerNumeral?_integer (number : Int) :
    readIntegerNumeral? (Numeral.integer number) = some number := by
  obtain ⟨digits, reading, total⟩ := Numeral.digitValues?_natural number.natAbs
  simp only [readIntegerNumeral?, Numeral.splitMinus_integer]
  rw [reading, Option.map_some, total, Numeral.withSign_natAbs]

theorem dropBeginning?_append (beginning rest : Text) :
    dropBeginning? beginning (beginning ++ rest) = some rest := by
  rw [dropBeginning?, if_pos (List.isPrefixOf_iff_prefix.mpr (List.prefix_append _ _)),
    List.drop_left]

theorem limitOf?_limitStatement (amount : Int) :
    limitOf? (Execution.limitStatement amount) = some amount := by
  rw [limitOf?, Execution.limitStatement, dropBeginning?_append, Option.bind_some,
    readIntegerNumeral?_integer]

/-- Telling an amount of zero lifts the limit. -/
theorem limitStatement_zero : Execution.limitStatement 0 = Execution.unlimitedStatement := by
  rfl

theorem changeLimit_limitStatement (limit : Option Int) (cursor : Nat) (amount : Int) :
    Request.changeLimit limit (.execute cursor (Execution.limitStatement amount)) =
      if 0 < amount then some amount else none := by
  rw [Request.changeLimit, limitOf?_limitStatement]

/-- Requests that execute nothing leave the limit as it is. -/
theorem limitAfter_of_no_statement
    (quiet : ∀ request ∈ asked, ∀ cursor statement, request ≠ .execute cursor statement) :
    limitAfter limit asked = limit := by
  induction asked with
  | nil => rfl
  | cons request later inductionHypothesis =>
      have kept : request.changeLimit limit = limit := by
        cases request with
        | execute cursor statement => exact absurd rfl (quiet _ List.mem_cons_self _ _)
        | _ => rfl
      rw [limitAfter, List.foldl_cons, kept]
      exact inductionHypothesis fun request member =>
        quiet request (List.mem_cons_of_mem _ member)

end FarEnd

namespace Execution

open Exchange

/-! ## Queries under a limit -/

section Queries

variable {scripts : Nat → CursorScript} {script : CursorScript} {first cursor : Nat}
variable {seconds : Double} {query : Text} {asked : List Request}

theorem integerPart?_of_milliseconds {amount : Int}
    (counted : milliseconds seconds = .ok amount) :
    seconds.timesThousand.integerPart? = some amount := by
  unfold milliseconds at counted
  cases whole : seconds.timesThousand.integerPart? with
  | none =>
      rw [whole] at counted
      cases counted
  | some found =>
      rw [whole] at counted
      exact congrArg some (Except.ok.inj counted)

/-- A limit is set without an error only when the whole milliseconds were told. -/
theorem limitCourse_of_ok {done : Unit}
    (limits : limitCourse script cursor seconds = ⟨.ok done, asked⟩) :
    ∃ amount, milliseconds seconds = .ok amount ∧ script.executeError = none ∧
      asked = [.openCursor cursor, .execute cursor (limitStatement amount),
        .closeCursor cursor] := by
  cases opening : script.openError with
  | some error =>
      rw [limitCourse_of_refused opening] at limits
      cases limits
  | none =>
      cases counting : milliseconds seconds with
      | error fault =>
          rw [limitCourse_of_not_finite opening counting] at limits
          cases closing : script.closeError <;> rw [closing] at limits <;> cases limits
      | ok amount =>
          rw [limitCourse_of_amount opening counting] at limits
          obtain ⟨answer, rfl⟩ := Course.mk.inj limits
          refine ⟨amount, rfl, ?_, rfl⟩
          cases closing : script.closeError with
          | some error =>
              rw [closing] at answer
              cases answer
          | none =>
              rw [closing] at answer
              exact raising_eq_ok_iff.mp answer

/-- A query is executed once on its cursor, before anything else. -/
theorem queryCourse_begins (script : CursorScript) (cursor : Nat) (query : Text) :
    ∃ closing, (queryCourse script cursor query).asked = .execute cursor query :: closing ∧
      .execute cursor query ∉ closing := by
  cases failing : script.executeError with
  | none =>
      rw [queryCourse_of_success failing]
      exact ⟨[], rfl, List.not_mem_nil⟩
  | some error =>
      cases interrupts : error.isInterruption with
      | true =>
          rw [queryCourse_of_interruption failing interrupts]
          exact ⟨[], rfl, List.not_mem_nil⟩
      | false =>
          rw [queryCourse_of_error failing interrupts]
          refine ⟨[.closeCursor cursor], rfl, ?_⟩
          rw [List.mem_singleton]
          intro same
          cases same

/-- The requests with which a cursor tells a limit. -/
def requestsForLimit (first : Nat) (amount : Int) : List Request :=
  [.openCursor first, .execute first (limitStatement amount)]

/-- The requests between telling a limit and the query that runs under it. -/
def requestsUnderLimit (first : Nat) : List Request :=
  [.closeCursor first, .openCursor (first + 1)]

/-- A limit that was told stays as long as nothing else is executed. -/
theorem limitAfter_requestsForLimit
    (limit : Option Int) (first : Nat) (amount : Int)
    (quiet : ∀ request ∈ asked, ∀ cursor statement, request ≠ .execute cursor statement) :
    limitAfter limit (requestsForLimit first amount ++ asked) =
      if 0 < amount then some amount else none := by
  have told : limitAfter limit (requestsForLimit first amount) =
      if 0 < amount then some amount else none :=
    changeLimit_limitStatement limit first amount
  rw [limitAfter_append, told]
  exact limitAfter_of_no_statement quiet

theorem requestsUnderLimit_execute_nothing {request : Request}
    (member : request ∈ requestsUnderLimit first) (cursor : Nat) (statement : Text) :
    request ≠ .execute cursor statement := by
  simp only [requestsUnderLimit, List.mem_cons, List.not_mem_nil, or_false] at member
  rcases member with rfl | rfl <;> intro same <;> cases same

/-- A query is executed under a limit only after the limit was told without an error. -/
theorem limitedCourse_of_executed
    (executed : .execute (first + 1) query ∈
      (limitedCourse scripts first seconds query).asked) :
    ∃ amount later,
      milliseconds seconds = .ok amount ∧ (scripts first).executeError = none ∧
        (limitedCourse scripts first seconds query).asked =
          requestsForLimit first amount ++ requestsUnderLimit first ++
            .execute (first + 1) query :: later ∧
        .execute (first + 1) query ∉ later := by
  have notLimiting : .execute (first + 1) query ∉
      (limitCourse (scripts first) first seconds).asked := by
    intro member
    have same := cursor?_of_mem_limitCourse member
    exact absurd (Option.some.inj same) (by omega)
  cases course : limitCourse (scripts first) first seconds with
  | mk answer limits =>
      rw [course] at notLimiting
      cases answer with
      | error fault =>
          rw [limitedCourse_of_error course] at executed
          exact absurd executed notLimiting
      | ok done =>
          obtain ⟨amount, counted, told, rfl⟩ := limitCourse_of_ok course
          rw [limitedCourse_of_ok course] at executed ⊢
          have running := (List.mem_append.mp executed).resolve_left notLimiting
          cases opening : (scripts (first + 1)).openError with
          | some error =>
              rw [limitSetCourse, handedCourse_of_refused opening,
                List.mem_singleton] at running
              cases running
          | none =>
              obtain ⟨closing, ran, once⟩ :=
                queryCourse_begins (scripts (first + 1)) (first + 1) query
              refine ⟨amount,
                closing ++ (liftCourse (scripts (first + 2)) (first + 2)).asked, counted,
                told, ?_, ?_⟩
              · rw [limitSetCourse, handedCourse_of_open opening]
                simp only [ensuredCourse, ran]
                rfl
              · intro member
                rcases List.mem_append.mp member with closes | lifts
                · exact once closes
                · have same := cursor?_of_mem_liftCourse lifts
                  exact absurd (Option.some.inj same) (by omega)

end Queries

/-! ## Runs -/

/-- A query that a run executes under a positive finite time is executed once. Before it
the whole milliseconds in the time are told without an error, and nothing else is
executed. Until the query is executed, a limit is in force at the far end exactly when the
time is one millisecond or more; the amount that is told is positive then, and zero
otherwise. -/
theorem limit_in_force_iff_millisecond
    {connection : Connection} {script : Script}
    (scripted : connection.backend = .scripted script)
    {seconds : Double} (finite : seconds.isFinite = true)
    (positive : seconds.isPositive = true) {query : Text}
    (executed : .execute (connection.cursorCount + 1) query ∈
      (run (some seconds) query).asked connection) :
    ∃ amount later,
      milliseconds seconds = .ok amount ∧
        (connection.cursorScript connection.cursorCount).executeError = none ∧
        (run (some seconds) query).asked connection =
          requestsForLimit connection.cursorCount amount ++
            requestsUnderLimit connection.cursorCount ++
              .execute (connection.cursorCount + 1) query :: later ∧
        .execute (connection.cursorCount + 1) query ∉ later ∧
        0 ≤ amount ∧ (1 ≤ amount ↔ 1 / 1000 ≤ seconds.magnitude) ∧
        ∀ limit waiting, waiting <+: requestsUnderLimit connection.cursorCount →
          ((limitAfter limit
            (requestsForLimit connection.cursorCount amount ++ waiting)).isSome = true ↔
              1 / 1000 ≤ seconds.magnitude) := by
  have limited : activeLimit (some seconds) = some seconds :=
    (activeLimit_eq_some_iff (some seconds) seconds).mpr ⟨rfl, positive⟩
  have asked := (run_takes scripted (some seconds) query).asked_eq
  rw [runCourse_of_limit limited] at asked
  rw [asked] at executed ⊢
  obtain ⟨amount, later, counted, told, split, once⟩ := limitedCourse_of_executed executed
  obtain ⟨nonneg, reached⟩ := Double.integerPart_timesThousand finite positive
    (integerPart?_of_milliseconds counted)
  refine ⟨amount, later, counted, told, split, once, nonneg, reached, ?_⟩
  intro limit waiting begins
  have quiet : ∀ request ∈ waiting, ∀ cursor statement,
      request ≠ .execute cursor statement :=
    fun request member => requestsUnderLimit_execute_nothing (begins.subset member)
  rw [limitAfter_requestsForLimit limit _ amount quiet, ← reached]
  by_cases large : 0 < amount
  · rw [if_pos large]
    exact iff_of_true rfl (by omega)
  · rw [if_neg large]
    exact iff_of_false (by decide) (by omega)

/-- The shortest time that sets a limit. -/
def oneMillisecond : Double :=
  Double.nearestDecimal false 1 (-3)

theorem limit_in_force_of_one_millisecond :
    limitAfter none (requestsForLimit 0 1 ++ requestsUnderLimit 0) ≠ none ∧
      1 / 1000 ≤ oneMillisecond.magnitude := by
  have asked : (run (some oneMillisecond) (Text.ofString "SELECT 1")).asked (.following []) =
      requestsForLimit 0 1 ++ requestsUnderLimit 0 ++
        .execute 1 (Text.ofString "SELECT 1") ::
          [.openCursor 2, .execute 2 unlimitedStatement, .closeCursor 2] := rfl
  have scripted : (Connection.following []).backend = .scripted ⟨none, [], none⟩ := rfl
  obtain ⟨amount, later, counted, _, _, _, _, reached, inForce⟩ :=
    limit_in_force_iff_millisecond scripted rfl rfl
      (asked ▸ List.mem_append_right _ List.mem_cons_self)
  have one : amount = 1 := (Except.ok.inj counted).symm
  have enough := reached.mp one.ge
  have kept := (inForce none (requestsUnderLimit 0) (List.prefix_refl _)).mpr enough
  rw [one] at kept
  exact ⟨Option.isSome_iff_ne_none.mp kept, enough⟩

/-- A time that is positive and yet shorter than a millisecond. -/
def halfMillisecond : Double :=
  Double.nearestDecimal false 5 (-4)

/-- Half a millisecond is told as zero, which lifts the limit before the query runs. No
positive amount is told at all. -/
theorem half_millisecond_lifts_limit :
    halfMillisecond.isFinite = true ∧ halfMillisecond.isPositive = true ∧
      (run (some halfMillisecond) (Text.ofString "SELECT 1")).asked (.following []) =
        requestsForLimit 0 0 ++ requestsUnderLimit 0 ++
          .execute 1 (Text.ofString "SELECT 1") ::
            [.openCursor 2, .execute 2 unlimitedStatement, .closeCursor 2] ∧
      (∀ cursor amount, .execute cursor (limitStatement amount) ∈
        (run (some halfMillisecond) (Text.ofString "SELECT 1")).asked (.following []) →
          ¬ 1 ≤ amount) ∧
      limitStatement 0 = unlimitedStatement ∧
      ∀ limit, limitAfter limit (requestsForLimit 0 0 ++ requestsUnderLimit 0) = none := by
  have asked : (run (some halfMillisecond) (Text.ofString "SELECT 1")).asked (.following []) =
      requestsForLimit 0 0 ++ requestsUnderLimit 0 ++
        .execute 1 (Text.ofString "SELECT 1") ::
          [.openCursor 2, .execute 2 unlimitedStatement, .closeCursor 2] := rfl
  refine ⟨rfl, rfl, asked, ?_, limitStatement_zero, fun limit => ?_⟩
  · intro cursor amount member
    have amounts := limitOf?_limitStatement amount
    rw [asked] at member
    simp only [requestsForLimit, requestsUnderLimit, List.mem_append, List.mem_cons,
      List.not_mem_nil, or_false, false_or, reduceCtorEq, Request.execute.injEq] at member
    rcases member with ⟨_, same⟩ | ⟨_, same⟩ | ⟨_, same⟩
    · rw [same, limitOf?_limitStatement] at amounts
      cases amounts
      decide
    · rw [same] at amounts
      cases amounts
    · rw [same, ← limitStatement_zero, limitOf?_limitStatement] at amounts
      cases amounts
      decide
  · exact limitAfter_requestsForLimit limit 0 0 fun _ => requestsUnderLimit_execute_nothing

end Execution

end BoundQuery
