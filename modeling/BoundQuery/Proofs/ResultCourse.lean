import BoundQuery.Proofs.FetchOrder
import BoundQuery.Proofs.RequestKinds

/-!
# Steps on a result

A step on a result fetches rows for its answer, or frees the result, or does neither. What
it takes of the rows that are left, and what it gives for them, depends on the kind of
step: one row or value, all rows, or nothing, as for an iterator that is ended.

The statements at the end say that every step has such a course, and count the requests
that it makes.
-/

namespace BoundQuery

open Exchange

/-! ## Rows that fit their columns -/

namespace Row

theorem exists_fill_of_length (row : Row) {names : List Text} {values : List Value}
    (fits : values.length = names.length) : ∃ filled, fill row names values = .ok filled := by
  induction names generalizing row values with
  | nil =>
      rw [List.eq_nil_of_length_eq_zero fits]
      exact ⟨row, rfl⟩
  | cons name names inductionHypothesis =>
      cases values with
      | nil => cases fits
      | cons value values =>
          exact inductionHypothesis (put name value row) (Nat.succ.inj fits)

end Row

namespace ResultSet

/-- The rows of a cursor are as long as the list of columns. -/
def Fits (columns : List Text) (cursor : CursorScript) : Prop :=
  columns ≠ [] → ∀ values ∈ cursor.rows, values.length = columns.length

section Fitting

variable {set : ResultSet} {cursor : CursorScript}

theorem columns_ne_nil_of_readable (readable : set.isReadable = true) :
    set.columns ≠ [] := by
  intro none
  rw [isReadable, none, List.isEmpty_nil, Bool.not_true, Bool.and_false] at readable
  cases readable

theorem Fits.rows (fits : Fits set.columns cursor) (readable : set.isReadable = true) :
    Converts (Row.ofColumns set.columns) cursor := by
  intro values given
  have long := fits (columns_ne_nil_of_readable readable) values given
  exact Row.exists_fill_of_length [] long

theorem Fits.firstValues
    (fits : Fits set.columns cursor) (readable : set.isReadable = true) :
    Converts firstValue cursor := by
  intro values given
  have some := columns_ne_nil_of_readable readable
  have long := fits some values given
  cases values with
  | nil => exact absurd (List.eq_nil_of_length_eq_zero long.symm) some
  | cons first rest => exact ⟨first, rfl⟩

end Fitting

/-! ## Freeing a result -/

/-- A result after steps that may have freed it. -/
def freedIf (set : ResultSet) (released : Bool) : ResultSet :=
  { set with freed := set.freed || released }

theorem freedIf_false (set : ResultSet) : set.freedIf false = set := by
  rw [freedIf, Bool.or_false]

theorem freedIf_true (set : ResultSet) : set.freedIf true = set.asFreed := by
  rw [freedIf, Bool.or_true, asFreed]

theorem freedIf_freedIf (set : ResultSet) (first second : Bool) :
    (set.freedIf first).freedIf second = set.freedIf (first || second) := by
  rw [freedIf, freedIf, freedIf, Bool.or_assoc]

/-- The request with which a result is freed, unless it was freed before. -/
def closings (set : ResultSet) : List Request :=
  if set.freed then [] else [.closeCursor set.cursor]

theorem takes_free
    (set : ResultSet) {connection : Connection} {script : Script}
    (scripted : connection.backend = .scripted script) :
    ∃ answer, set.free.Takes connection ⟨answer, set.closings⟩ := by
  unfold free closings
  cases set.freed with
  | true => exact ⟨.ok (), takes_pure () connection⟩
  | false =>
      have closes := takes_closeCursor scripted set.cursor
      cases error : (connection.cursorScript set.cursor).closeError with
      | none =>
          rw [error] at closes
          exact ⟨.ok (), takes_handling_of_ok closes⟩
      | some raised =>
          rw [error] at closes
          by_cases interrupts : (Fault.raised raised).isInterruption = true
          · exact ⟨_, takes_handling_of_interruption closes interrupts⟩
          · exact ⟨_, takes_handling_of_fault closes (Bool.eq_false_iff.mpr interrupts)
              (takes_notify cursorKept _)⟩

end ResultSet

/-! ## Steps on a result -/

namespace ResultStep

def releases : ResultStep → Bool
  | .free | .leave => true
  | _ => false

def iterates : ResultStep → Bool
  | .iterate => true
  | _ => false

/-- What a step that reads rows gives when there are none. -/
def emptyReply? : ResultStep → Option Reply
  | .fetchRow => some .nothing
  | .fetchColumn fallback => some (.value fallback)
  | .rows => some (.rows [])
  | .next _ => some .noMoreRows
  | .properties | .iterate | .free | .enter | .leave => none

end ResultStep

def Reply.ofNext? : Option Row → Reply
  | some found => .row found
  | none => .noMoreRows

/-- What a step takes of the rows that are left, and what it gives for them. An iterator
that is not running takes none. -/
inductive Delivers (cursor : CursorScript) (columns : List Text)
    (iterators : List RowIterator) (left : List (List Value)) :
    ResultStep → List (List Value) → Except Fault Reply → Prop
  | fetchRow {taken : List (List Value)} {answer : Except Fault (Option Row)} :
      ItemRead cursor (Row.ofColumns columns) left taken answer →
      Delivers cursor columns iterators left .fetchRow taken (answer.map Reply.ofRow?)
  | fetchColumn {taken : List (List Value)} {answer : Except Fault (Option Value)}
      (fallback : Value) :
      ItemRead cursor ResultSet.firstValue left taken answer →
      Delivers cursor columns iterators left (.fetchColumn fallback) taken
        (answer.map fun found => .value (found.getD fallback))
  | rows {taken : List (List Value)} {answer : Except Fault (List Row)} :
      ItemsRead cursor (Row.ofColumns columns) left taken answer →
      Delivers cursor columns iterators left .rows taken (answer.map .rows)
  | next {iterator number : Nat} {taken : List (List Value)}
      {answer : Except Fault (Option Row)} :
      iterators[iterator]? = some ⟨number, true⟩ →
      ItemRead cursor (Row.ofColumns columns) left taken answer →
      Delivers cursor columns iterators left (.next iterator) taken (answer.map Reply.ofNext?)
  | ended {iterator : Nat} :
      (∀ number, iterators[iterator]? ≠ some ⟨number, true⟩) →
      Delivers cursor columns iterators left (.next iterator) [] (.ok .noMoreRows)
  | idle {step : ResultStep} (answer : Except Fault Reply) :
      step.emptyReply? = none → Delivers cursor columns iterators left step [] answer

/-- A result that is being read, with the iterators over it, and its connection. -/
structure Reading where
  results : Results
  connection : Connection

def Connection.closeCount (connection : Connection) (cursor : Nat) : Nat :=
  connection.requests.countP (Request.isCloseOf cursor)

namespace Reading

def outcome (reading : Reading) (step : ResultStep) : Results.Outcome :=
  reading.results.step 0 step reading.connection

def after (reading : Reading) (step : ResultStep) : Reading :=
  ⟨(reading.outcome step).results, (reading.outcome step).connection⟩

def answer (reading : Reading) (step : ResultStep) : Except Fault Reply :=
  (reading.outcome step).answer

/-- The rows that a cursor gives to a step. -/
def taken (cursor : Nat) (reading : Reading) (step : ResultStep) : List (List Value) :=
  (reading.connection.cursorScript cursor).rowsTaken (reading.connection.fetchCount cursor)
    ((reading.after step).connection.fetchCount cursor -
      reading.connection.fetchCount cursor)

/-- A result is the one that is read, and its cursor follows a script. -/
structure Of (set : ResultSet) (cursor : CursorScript) (reading : Reading) : Prop where
  sets : reading.results.sets = [set]
  own : ∀ iterator ∈ reading.results.iterators, iterator.result = 0
  scripted : ∃ script, reading.connection.backend = .scripted script
  follows : reading.connection.cursorScript set.cursor = cursor

/-- What a step does: some fetches, none if the result is not readable, and then the
closing of the cursor if the step frees the result. -/
structure Advances (set : ResultSet) (reading : Reading) (step : ResultStep)
    (fetches : Nat) : Prop where
  backend : (reading.after step).connection.backend = reading.connection.backend
  requests : (reading.after step).connection.requests =
    reading.connection.requests ++
      (List.replicate fetches (.fetch set.cursor) ++
        if step.releases then set.closings else [])
  stopped : set.isReadable = false →
    fetches = 0 ∧ ∀ reply, step.emptyReply? = some reply → reading.answer step = .ok reply
  delivers : Delivers (reading.connection.cursorScript set.cursor) set.columns
    reading.results.iterators (set.rowsAvailable reading.connection) step
    ((reading.connection.cursorScript set.cursor).rowsTaken
      (reading.connection.fetchCount set.cursor) fetches)
    (reading.answer step)

end Reading

/-! ## One step -/

namespace Results

/-- An iterator goes on when it met a row, and is ended otherwise. -/
def afterNext (results : Results) (iterator : Nat) : Except Fault (Option Row) → Results
  | .ok (some _) => results
  | .ok none | .error _ => results.markEnded iterator

theorem next_eq
    {results : Results} {iterator number : Nat} {set : ResultSet}
    (running : results.iterators[iterator]? = some ⟨number, true⟩)
    (found : results.sets[number]? = some set) (connection : Connection) :
    results.next iterator connection =
      ⟨results.afterNext iterator (set.fetchRow.answer connection),
        set.fetchRow.after connection,
        (set.fetchRow.answer connection).map Reply.ofNext?⟩ := by
  rw [next_of_running running found]
  unfold Exchange.after Exchange.answer
  cases set.fetchRow connection with
  | ok row after => cases row <;> rfl
  | error fault after => rfl

theorem next_of_not_running
    {results : Results} {iterator : Nat}
    (stopped : ∀ number, results.iterators[iterator]? ≠ some ⟨number, true⟩)
    (connection : Connection) :
    results.next iterator connection = ⟨results, connection, .ok .noMoreRows⟩ := by
  unfold next
  cases found : results.iterators[iterator]? with
  | none => rfl
  | some current =>
      obtain ⟨number, running⟩ := current
      cases running with
      | false => rfl
      | true => exact absurd found (stopped number)

end Results

namespace Reading

variable {set : ResultSet} {cursor : CursorScript} {reading : Reading}

theorem Of.found (of : reading.Of set cursor) : reading.results.sets[0]? = some set := by
  rw [of.sets]
  rfl

/-- The result that an iterator reads is the only one there is. -/
theorem Of.own_number (of : reading.Of set cursor) {iterator number : Nat} {running : Bool}
    (found : reading.results.iterators[iterator]? = some ⟨number, running⟩) : number = 0 :=
  of.own _ (List.mem_of_getElem? found)

/-- An iterator that is running reads a row of the result, and any other one nothing. -/
theorem Of.next_cases (of : reading.Of set cursor) (iterator : Nat) :
    ((∀ number, reading.results.iterators[iterator]? ≠ some ⟨number, true⟩) ∧
        reading.outcome (.next iterator) =
          ⟨reading.results, reading.connection, .ok .noMoreRows⟩) ∨
      (reading.results.iterators[iterator]? = some ⟨0, true⟩ ∧
        reading.outcome (.next iterator) =
          ⟨reading.results.afterNext iterator (set.fetchRow.answer reading.connection),
            set.fetchRow.after reading.connection,
            (set.fetchRow.answer reading.connection).map Reply.ofNext?⟩) := by
  have found := of.found
  have outcome : reading.outcome (.next iterator) =
      reading.results.next iterator reading.connection := by
    simp only [Reading.outcome, Results.step, found]
  rw [outcome]
  by_cases stopped : ∀ number, reading.results.iterators[iterator]? ≠ some ⟨number, true⟩
  · exact Or.inl ⟨stopped, Results.next_of_not_running stopped _⟩
  · obtain ⟨number, notStopped⟩ := not_forall.mp stopped
    have running := not_not.mp notStopped
    cases of.own_number running
    exact Or.inr ⟨running, Results.next_eq running found _⟩

theorem advances_of_course
    {result : Type} {action : Exchange result} {empty : result} {reply : result → Reply}
    {made : List (List Value) → List (List Value) → Except Fault result → Prop}
    {step : ResultStep} {results : Results} {count : Nat} {given : Except Fault result}
    (outcome : reading.outcome step = ⟨results, action.after reading.connection,
      (action.answer reading.connection).map reply⟩)
    (keeps : step.releases = false) (nothing : step.emptyReply? = some (reply empty))
    (course : set.FetchCourse action empty made reading.connection count given)
    (delivers : ∀ taken, made (set.rowsAvailable reading.connection) taken given →
      Delivers (reading.connection.cursorScript set.cursor) set.columns
        reading.results.iterators (set.rowsAvailable reading.connection) step taken
        (given.map reply)) :
    reading.Advances set step count := by
  have connection : (reading.after step).connection = action.after reading.connection := by
    rw [after, outcome]
  have answers : reading.answer step = given.map reply := by
    rw [answer, outcome, course.takes.answer]
  refine ⟨?_, ?_, ?_, ?_⟩
  · rw [connection, course.takes.backend]
  · rw [connection, course.takes.requests, keeps]
    simp only [Bool.false_eq_true, if_false, List.append_nil]
  · intro unreadable
    obtain ⟨none, gives⟩ := course.stopped unreadable
    refine ⟨none, fun other same => ?_⟩
    rw [nothing] at same
    cases same
    rw [answers, gives]
    rfl
  · rw [answers]
    exact delivers _ course.reads

theorem advances_of_idle
    {step : ResultStep} (nothing : step.emptyReply? = none)
    (backend : (reading.after step).connection.backend = reading.connection.backend)
    (requests : (reading.after step).connection.requests = reading.connection.requests ++
      if step.releases then set.closings else []) :
    reading.Advances set step 0 := by
  refine ⟨backend, requests, fun _ => ⟨rfl, ?_⟩, .idle _ nothing⟩
  intro reply same
  rw [nothing] at same
  cases same

theorem advances_of_unchanged
    {step : ResultStep} (nothing : step.emptyReply? = none) (keeps : step.releases = false)
    (unchanged : (reading.after step).connection = reading.connection) :
    reading.Advances set step 0 := by
  apply advances_of_idle nothing
  · rw [unchanged]
  · rw [unchanged, keeps]
    exact (List.append_nil _).symm

theorem advances_of_release
    (of : reading.Of set cursor) {step : ResultStep} (releases : step.releases = true)
    (frees : reading.outcome step = reading.results.free 0 set reading.connection) :
    reading.Advances set step 0 := by
  obtain ⟨script, scripted⟩ := of.scripted
  obtain ⟨answer, takes⟩ := set.takes_free scripted
  have nothing : step.emptyReply? = none := by
    cases step <;> first | rfl | cases releases
  have connection : (reading.after step).connection = set.free.after reading.connection := by
    rw [after, frees, Results.free, Results.settle_eq]
  apply advances_of_idle nothing
  · rw [connection, takes.backend]
  · rw [connection, takes.requests, releases]
    rfl

/-- Every step has a course: one case for each kind of step. -/
theorem exists_advances
    (of : reading.Of set cursor) (fits : ResultSet.Fits set.columns cursor)
    (step : ResultStep) : ∃ fetches, reading.Advances set step fetches := by
  obtain ⟨script, scripted⟩ := of.scripted
  have found := of.found
  have rows : set.isReadable = true → ResultSet.Converts (Row.ofColumns set.columns)
      (reading.connection.cursorScript set.cursor) := by
    rw [of.follows]
    exact fits.rows
  have firstValues : set.isReadable = true → ResultSet.Converts ResultSet.firstValue
      (reading.connection.cursorScript set.cursor) := by
    rw [of.follows]
    exact fits.firstValues
  have row : ∃ count answer, set.FetchCourse set.fetchRow none
      (ItemRead (reading.connection.cursorScript set.cursor) (Row.ofColumns set.columns))
      reading.connection count answer := by
    rw [ResultSet.fetchRow_eq_fetchItem]
    exact ResultSet.fetchItem_course scripted rows
  have value : ∃ count answer, set.FetchCourse set.fetchColumn none
      (ItemRead (reading.connection.cursorScript set.cursor) ResultSet.firstValue)
      reading.connection count answer := by
    rw [ResultSet.fetchColumn_eq_fetchItem]
    exact ResultSet.fetchItem_course scripted firstValues
  cases step with
  | fetchRow =>
      have outcome : reading.outcome .fetchRow =
          Results.settle reading.results Reply.ofRow? set.fetchRow reading.connection := by
        simp only [Reading.outcome, Results.step, found]
      rw [Results.settle_eq] at outcome
      obtain ⟨count, answer, course⟩ := row
      exact ⟨count, advances_of_course outcome rfl rfl course
        fun _ reads => .fetchRow reads⟩
  | fetchColumn fallback =>
      have outcome : reading.outcome (.fetchColumn fallback) =
          Results.settle reading.results (fun found => .value (found.getD fallback))
            set.fetchColumn reading.connection := by
        simp only [Reading.outcome, Results.step, found]
      rw [Results.settle_eq] at outcome
      obtain ⟨count, answer, course⟩ := value
      exact ⟨count, advances_of_course outcome rfl rfl course
        fun _ reads => .fetchColumn fallback reads⟩
  | rows =>
      have outcome : reading.outcome .rows =
          Results.settle reading.results .rows set.rows reading.connection := by
        simp only [Reading.outcome, Results.step, found]
      rw [Results.settle_eq] at outcome
      obtain ⟨count, answer, course⟩ := ResultSet.rows_course scripted rows
      exact ⟨count, advances_of_course outcome rfl rfl course
        fun _ reads => .rows reads⟩
  | next iterator =>
      rcases of.next_cases iterator with ⟨stopped, outcome⟩ | ⟨running, outcome⟩
      · have unchanged : (reading.after (.next iterator)).connection = reading.connection := by
          rw [after, outcome]
        have answers : reading.answer (.next iterator) = .ok .noMoreRows := by
          rw [answer, outcome]
        refine ⟨0, by rw [unchanged], ?_, ?_, ?_⟩
        · rw [unchanged]
          exact (List.append_nil _).symm
        · intro _
          refine ⟨rfl, fun reply same => ?_⟩
          cases same
          exact answers
        · rw [answers]
          exact .ended stopped
      · obtain ⟨count, answer, course⟩ := row
        exact ⟨count, advances_of_course outcome rfl rfl course
          fun _ reads => .next running reads⟩
  | free =>
      refine ⟨0, advances_of_release of rfl ?_⟩
      simp only [Reading.outcome, Results.step, found]
  | leave =>
      refine ⟨0, advances_of_release of rfl ?_⟩
      simp only [Reading.outcome, Results.step, found]
  | properties =>
      have unchanged : (reading.after .properties).connection = reading.connection := by
        simp only [after, Reading.outcome, Results.step, found]
      exact ⟨0, advances_of_unchanged rfl rfl unchanged⟩
  | iterate =>
      have unchanged : (reading.after .iterate).connection = reading.connection := by
        simp only [after, Reading.outcome, Results.step, found]
      exact ⟨0, advances_of_unchanged rfl rfl unchanged⟩
  | enter =>
      have unchanged : (reading.after .enter).connection = reading.connection := by
        simp only [after, Reading.outcome, Results.step, found]
      exact ⟨0, advances_of_unchanged rfl rfl unchanged⟩

/-! ## Counting the requests of a step -/

theorem countP_isFetchOf_closings (set : ResultSet) (cursor : Nat) :
    set.closings.countP (Request.isFetchOf cursor) = 0 := by
  rw [ResultSet.closings]
  cases set.freed <;> rfl

section Counting

variable {step : ResultStep} {fetches : Nat}

theorem Advances.fetchCount (advances : reading.Advances set step fetches) :
    (reading.after step).connection.fetchCount set.cursor =
      reading.connection.fetchCount set.cursor + fetches := by
  have closing : (if step.releases then set.closings else []).countP
      (Request.isFetchOf set.cursor) = 0 := by
    cases step.releases with
    | true => exact countP_isFetchOf_closings set set.cursor
    | false => rfl
  rw [Connection.fetchCount, advances.requests, List.countP_append, List.countP_append,
    closing, List.countP_replicate]
  simp only [Request.isFetchOf, BEq.rfl, if_true]
  rfl

/-- A result that is not readable fetches from no cursor at all. -/
theorem Advances.fetchCount_of_not_readable
    (advances : reading.Advances set step fetches) (unreadable : set.isReadable = false) :
    (reading.after step).connection.fetchCount = reading.connection.fetchCount := by
  funext cursor
  have none := (advances.stopped unreadable).1
  have requests := advances.requests
  rw [none, List.replicate_zero, List.nil_append] at requests
  have closing : (if step.releases then set.closings else []).countP
      (Request.isFetchOf cursor) = 0 := by
    cases step.releases with
    | true => exact countP_isFetchOf_closings set cursor
    | false => rfl
  rw [Connection.fetchCount, requests, List.countP_append, closing]
  rfl

/-- The rows that a step takes are those of its fetches. -/
theorem Advances.taken_eq (advances : reading.Advances set step fetches) :
    reading.taken set.cursor step =
      (reading.connection.cursorScript set.cursor).rowsTaken
        (reading.connection.fetchCount set.cursor) fetches := by
  rw [taken, advances.fetchCount, Nat.add_sub_cancel_left]

theorem Advances.closeCount (advances : reading.Advances set step fetches) :
    (reading.after step).connection.closeCount set.cursor =
      reading.connection.closeCount set.cursor +
        if set.freed = false ∧ step.releases = true then 1 else 0 := by
  have fetching : (List.replicate fetches (Request.fetch set.cursor)).countP
      (Request.isCloseOf set.cursor) = 0 := by
    rw [List.countP_replicate]
    rfl
  rw [Connection.closeCount, advances.requests, List.countP_append, List.countP_append,
    fetching, Nat.zero_add, ResultSet.closings]
  cases step.releases <;> cases set.freed <;>
    simp [Request.isCloseOf, Connection.closeCount]

end Counting

end Reading

end BoundQuery
