import BoundQuery.Proofs.ResultCourse

/-!
# How a result gives out its rows

A result can be read in several ways at once: row by row, for the first value of a row,
for all rows to the end, and by iterators, each of which may pause and go on later. All
of them read from the one cursor of the result, so each row goes to the step that comes
first. Freeing the result ends this for all of them, and an iterator that met the end or
an error is ended for itself.

The main statement is about every sequence of steps on a result, whatever errors the
fetches and the closing of its cursor raise.
-/

namespace BoundQuery

namespace Reading

variable {set : ResultSet} {cursor : CursorScript} {reading : Reading}

/-! ## Iterators -/

/-- The answer of an iterator that is at its end. -/
def isEnd : Except Fault Reply → Bool
  | .ok .noMoreRows | .error _ => true
  | .ok _ => false

/-- A step makes an iterator, or meets the end of one, or leaves the iterators as they
are. -/
theorem Of.iterators_cases (of : reading.Of set cursor) (step : ResultStep) :
    (step.iterates = false ∧
        (reading.after step).results.iterators = reading.results.iterators) ∨
      (∃ iterator, step = .next iterator ∧ isEnd (reading.answer step) = true ∧
        (reading.after step).results.iterators =
          (reading.results.markEnded iterator).iterators) ∨
      (step.iterates = true ∧
        (reading.after step).results.iterators =
          reading.results.iterators ++ [⟨0, true⟩]) := by
  have found := of.found
  cases step with
  | iterate =>
      refine Or.inr (Or.inr ⟨rfl, ?_⟩)
      simp only [after, outcome, Results.step, found]
  | next iterator =>
      rw [after, answer]
      rcases of.next_cases iterator with ⟨_, outcome⟩ | ⟨_, outcome⟩
      · rw [outcome]
        exact Or.inl ⟨rfl, rfl⟩
      · rw [outcome]
        rcases set.fetchRow.answer reading.connection with fault | row
        · exact Or.inr (Or.inl ⟨iterator, rfl, rfl, rfl⟩)
        · cases row with
          | none => exact Or.inr (Or.inl ⟨iterator, rfl, rfl, rfl⟩)
          | some row => exact Or.inl ⟨rfl, rfl⟩
  | _ =>
      refine Or.inl ⟨rfl, ?_⟩
      simp only [after, outcome, Results.step, found, Results.settle_eq, Results.free,
        Results.markFreed]

theorem length_markEnded (results : Results) (iterator : Nat) :
    (results.markEnded iterator).iterators.length = results.iterators.length :=
  List.length_modify _ _ _

theorem length_iterators_after (of : reading.Of set cursor) (step : ResultStep) :
    (reading.after step).results.iterators.length =
      reading.results.iterators.length + [step].countP ResultStep.iterates := by
  rcases of.iterators_cases step with ⟨keeps, same⟩ | ⟨other, rfl, _, marked⟩ | ⟨makes, made⟩
  · rw [same, List.countP_cons_of_neg (by rw [keeps]; exact Bool.false_ne_true)]
    rfl
  · rw [marked, length_markEnded]
    rfl
  · rw [made, List.length_append, List.countP_cons_of_pos makes]
    rfl

theorem iterators_markEnded_getElem?
    (results : Results) (ended iterator : Nat) :
    (results.markEnded ended).iterators[iterator]? =
      (results.iterators[iterator]?).map fun current =>
        if ended = iterator then { current with running := false } else current := by
  rw [Results.markEnded, List.getElem?_modify]
  by_cases same : ended = iterator
  · simp only [same, if_true]
    rfl
  · simp only [same, if_false]
    rfl

/-- An iterator that is ended stays ended. -/
theorem ended_after
    (of : reading.Of set cursor) {iterator number : Nat}
    (ended : reading.results.iterators[iterator]? = some ⟨number, false⟩)
    (step : ResultStep) :
    (reading.after step).results.iterators[iterator]? = some ⟨number, false⟩ := by
  rcases of.iterators_cases step with ⟨_, same⟩ | ⟨other, _, _, marked⟩ | ⟨_, made⟩
  · rw [same, ended]
  · rw [marked, iterators_markEnded_getElem?, ended, Option.map_some]
    split <;> rfl
  · rw [made]
    have inside := (List.getElem?_eq_some_iff.mp ended).1
    rw [List.getElem?_append_left inside, ended]

/-- An iterator that is running goes on unless the step meets its end. -/
theorem running_after
    (of : reading.Of set cursor) {iterator number : Nat}
    (running : reading.results.iterators[iterator]? = some ⟨number, true⟩)
    {step : ResultStep}
    (goesOn : step = .next iterator → isEnd (reading.answer step) = false) :
    (reading.after step).results.iterators[iterator]? = some ⟨number, true⟩ := by
  rcases of.iterators_cases step with
    ⟨_, same⟩ | ⟨other, isNext, ends, marked⟩ | ⟨_, made⟩
  · rw [same, running]
  · by_cases own : other = iterator
    · rw [goesOn (own ▸ isNext)] at ends
      cases ends
    · rw [marked, iterators_markEnded_getElem?, running, Option.map_some, if_neg own]
  · have inside := (List.getElem?_eq_some_iff.mp running).1
    rw [made, List.getElem?_append_left inside, running]

/-- An iterator that was not there before a step is running after it. -/
theorem running_of_made
    (of : reading.Of set cursor) {step : ResultStep} {iterator : Nat}
    (absent : reading.results.iterators.length ≤ iterator)
    (present : iterator < (reading.after step).results.iterators.length) :
    (reading.after step).results.iterators[iterator]? = some ⟨0, true⟩ := by
  have long := length_iterators_after of step
  rcases of.iterators_cases step with ⟨_, same⟩ | ⟨other, _, _, marked⟩ | ⟨makes, made⟩
  · rw [same] at present
    exact absurd present (Nat.not_lt.mpr absent)
  · rw [marked, length_markEnded] at present
    exact absurd present (Nat.not_lt.mpr absent)
  · rw [List.countP_cons_of_pos makes, List.countP_nil] at long
    have last : iterator = reading.results.iterators.length := by omega
    rw [made, last, List.getElem?_concat_length]

/-- An iterator that answers with the end or an error is ended. -/
theorem ended_of_isEnd
    (of : reading.Of set cursor) {iterator : Nat}
    (present : iterator < reading.results.iterators.length)
    (ends : isEnd (reading.answer (.next iterator)) = true) :
    (reading.after (.next iterator)).results.iterators[iterator]? = some ⟨0, false⟩ := by
  rw [answer] at ends
  rw [after]
  rcases of.next_cases iterator with ⟨stopped, outcome⟩ | ⟨running, outcome⟩
  · rw [outcome]
    cases found : reading.results.iterators[iterator]? with
    | none => exact absurd present (Nat.not_lt.mpr (List.getElem?_eq_none_iff.mp found))
    | some current =>
        obtain ⟨number, isRunning⟩ := current
        cases of.own_number found
        cases isRunning with
        | false => rfl
        | true => exact absurd found (stopped 0)
  · have marked : (reading.results.markEnded iterator).iterators[iterator]? =
        some ⟨0, false⟩ := by
      rw [iterators_markEnded_getElem?, running, Option.map_some, if_pos rfl]
    rw [outcome] at ends ⊢
    cases given : set.fetchRow.answer reading.connection with
    | error fault => exact marked
    | ok row =>
        rw [given] at ends
        cases row with
        | none => exact marked
        | some row => cases ends

theorem connection_of_ended
    (of : reading.Of set cursor) {iterator number : Nat}
    (ended : reading.results.iterators[iterator]? = some ⟨number, false⟩) :
    (reading.after (.next iterator)).connection = reading.connection := by
  have outcome : reading.outcome (.next iterator) =
      reading.results.next iterator reading.connection := by
    simp only [Reading.outcome, Results.step, of.found]
  rw [after, outcome, Results.next_of_ended _ _ _ _ ended]

/-! ## What a step leaves -/

theorem sets_after (of : reading.Of set cursor) (step : ResultStep) :
    (reading.after step).results.sets = [set.freedIf step.releases] := by
  have found := of.found
  have kept : [set] = [set.freedIf false] := by
    rw [ResultSet.freedIf_false]
  have freed : reading.results.sets.modify 0 ResultSet.asFreed = [set.freedIf true] := by
    rw [of.sets, ResultSet.freedIf_true]
    rfl
  cases step with
  | free =>
      simp only [after, outcome, Results.step, found, Results.free, Results.settle_eq]
      exact freed
  | leave =>
      simp only [after, outcome, Results.step, found, Results.free, Results.settle_eq]
      exact freed
  | next iterator =>
      rw [after]
      rcases of.next_cases iterator with ⟨_, outcome⟩ | ⟨_, outcome⟩
      · rw [outcome]
        exact of.sets.trans kept
      · rw [outcome]
        rcases set.fetchRow.answer reading.connection with fault | row
        · exact of.sets.trans kept
        · cases row <;> exact of.sets.trans kept
  | _ =>
      simp only [after, outcome, Results.step, found, Results.settle_eq]
      exact of.sets.trans kept

theorem own_after (of : reading.Of set cursor) (step : ResultStep) :
    ∀ iterator ∈ (reading.after step).results.iterators, iterator.result = 0 := by
  intro iterator member
  rcases of.iterators_cases step with ⟨_, same⟩ | ⟨other, _, _, marked⟩ | ⟨_, made⟩
  · rw [same] at member
    exact of.own iterator member
  · rw [marked] at member
    obtain ⟨position, found⟩ := List.getElem?_of_mem member
    rw [iterators_markEnded_getElem?, Option.map_eq_some_iff] at found
    obtain ⟨current, present, rfl⟩ := found
    have own := of.own current (List.mem_of_getElem? present)
    split <;> exact own
  · rw [made, List.mem_append, List.mem_singleton] at member
    rcases member with old | rfl
    · exact of.own iterator old
    · rfl

theorem Of.after
    (of : reading.Of set cursor) (fits : ResultSet.Fits set.columns cursor)
    (step : ResultStep) : (reading.after step).Of (set.freedIf step.releases) cursor := by
  obtain ⟨script, scripted⟩ := of.scripted
  obtain ⟨fetches, advances⟩ := exists_advances of fits step
  refine ⟨sets_after of step, own_after of step,
    ⟨script, advances.backend.trans scripted⟩, ?_⟩
  have follows := of.follows
  rw [Connection.cursorScript, ← advances.backend] at follows
  exact follows

/-! ## All steps -/

def run (reading : Reading) (steps : List ResultStep) : Reading :=
  steps.foldl after reading

theorem run_append (reading : Reading) (steps later : List ResultStep) :
    reading.run (steps ++ later) = (reading.run steps).run later :=
  List.foldl_append

/-- The rows that a cursor gives to steps, step by step. -/
def takenInTurn (cursor : Nat) (reading : Reading) :
    List ResultStep → List (List (List Value))
  | [] => []
  | step :: rest =>
      reading.taken cursor step :: takenInTurn cursor (reading.after step) rest

theorem Of.run
    (of : reading.Of set cursor) (fits : ResultSet.Fits set.columns cursor)
    (steps : List ResultStep) :
    (reading.run steps).Of (set.freedIf (steps.any ResultStep.releases)) cursor := by
  induction steps generalizing reading set with
  | nil =>
      rw [List.any_nil, ResultSet.freedIf_false]
      exact of
  | cons step rest inductionHypothesis =>
      have following := inductionHypothesis (of.after fits step) fits
      rw [ResultSet.freedIf_freedIf] at following
      exact following

/-- The rows that steps take, and those left after them, are the rows left before. -/
theorem takenInTurn_append_rowsLeft
    (of : reading.Of set cursor) (fits : ResultSet.Fits set.columns cursor)
    (steps : List ResultStep) :
    (reading.takenInTurn set.cursor steps).flatten ++
        cursor.rowsLeft ((reading.run steps).connection.fetchCount set.cursor) =
      cursor.rowsLeft (reading.connection.fetchCount set.cursor) := by
  induction steps generalizing reading set with
  | nil => rfl
  | cons step rest inductionHypothesis =>
      obtain ⟨fetches, advances⟩ := exists_advances of fits step
      have following : (takenInTurn set.cursor (reading.after step) rest).flatten ++
            cursor.rowsLeft
              (((reading.after step).run rest).connection.fetchCount set.cursor) =
          cursor.rowsLeft ((reading.after step).connection.fetchCount set.cursor) :=
        @inductionHypothesis (set.freedIf step.releases) _ (of.after fits step) fits
      have taken := advances.taken_eq
      rw [of.follows] at taken
      have split := cursor.rowsTaken_append_rowsLeft
        (reading.connection.fetchCount set.cursor) fetches
      rw [← advances.fetchCount, ← taken, ← following] at split
      rw [takenInTurn, List.flatten_cons, List.append_assoc]
      exact split

/-- The cursor is closed by the first step that frees the result, and by no other one. -/
theorem closeCount_run
    (of : reading.Of set cursor) (fits : ResultSet.Fits set.columns cursor)
    (steps : List ResultStep) :
    (reading.run steps).connection.closeCount set.cursor =
      reading.connection.closeCount set.cursor +
        if set.freed = false ∧ steps.any ResultStep.releases = true then 1 else 0 := by
  induction steps generalizing reading set with
  | nil => simp [run]
  | cons step rest inductionHypothesis =>
      obtain ⟨fetches, advances⟩ := exists_advances of fits step
      have following := inductionHypothesis (of.after fits step) fits
      have closed := advances.closeCount
      have count : (reading.run (step :: rest)).connection.closeCount set.cursor =
          (reading.after step).connection.closeCount set.cursor +
            if (set.freedIf step.releases).freed = false ∧
              rest.any ResultStep.releases = true then 1 else 0 := following
      rw [count, closed, List.any_cons, Nat.add_assoc, ResultSet.freedIf]
      cases set.freed <;> cases step.releases <;> simp

theorem fetchCount_run_of_no_columns
    (of : reading.Of set cursor) (fits : ResultSet.Fits set.columns cursor)
    (none : set.columns = []) (steps : List ResultStep) :
    (reading.run steps).connection.fetchCount = reading.connection.fetchCount := by
  induction steps generalizing reading set with
  | nil => rfl
  | cons step rest inductionHypothesis =>
      obtain ⟨fetches, advances⟩ := exists_advances of fits step
      have unreadable : set.isReadable = false := by
        rw [ResultSet.isReadable, none, List.isEmpty_nil, Bool.not_true, Bool.and_false]
      have following := inductionHypothesis (of.after fits step) fits none
      exact following.trans (advances.fetchCount_of_not_readable unreadable)

theorem ended_run
    (of : reading.Of set cursor) (fits : ResultSet.Fits set.columns cursor)
    {iterator number : Nat}
    (ended : reading.results.iterators[iterator]? = some ⟨number, false⟩)
    (steps : List ResultStep) :
    (reading.run steps).results.iterators[iterator]? = some ⟨number, false⟩ := by
  induction steps generalizing reading set with
  | nil => exact ended
  | cons step rest inductionHypothesis =>
      exact inductionHypothesis (of.after fits step) fits (ended_after of ended step)

theorem length_iterators_run
    (of : reading.Of set cursor) (fits : ResultSet.Fits set.columns cursor)
    (steps : List ResultStep) :
    (reading.run steps).results.iterators.length =
      reading.results.iterators.length + steps.countP ResultStep.iterates := by
  induction steps generalizing reading set with
  | nil => rfl
  | cons step rest inductionHypothesis =>
      have following := inductionHypothesis (of.after fits step) fits
      have counted : ([step] ++ rest).countP ResultStep.iterates =
          [step].countP ResultStep.iterates + rest.countP ResultStep.iterates :=
        List.countP_append
      rw [length_iterators_after of step, Nat.add_assoc, ← counted] at following
      exact following

/-- An iterator that no step brought to its end is running. -/
theorem running_run
    (of : reading.Of set cursor) (fits : ResultSet.Fits set.columns cursor)
    {iterator : Nat}
    (begins : iterator < reading.results.iterators.length →
      reading.results.iterators[iterator]? = some ⟨0, true⟩)
    (steps : List ResultStep)
    (present : iterator < (reading.run steps).results.iterators.length)
    (goesOn : ∀ earlier later, steps = earlier ++ .next iterator :: later →
      isEnd ((reading.run earlier).answer (.next iterator)) = false ∨
        (reading.run earlier).results.iterators.length ≤ iterator) :
    (reading.run steps).results.iterators[iterator]? = some ⟨0, true⟩ := by
  induction steps generalizing reading set with
  | nil => exact begins present
  | cons step rest inductionHypothesis =>
      refine inductionHypothesis (of.after fits step) fits ?_ present ?_
      · intro presentThen
        rcases Nat.lt_or_ge iterator reading.results.iterators.length with inside | absent
        · refine running_after of (begins inside) fun isNext => ?_
          rcases goesOn [] rest (by rw [isNext]; rfl) with goes | absent
          · rw [isNext]
            exact goes
          · exact absurd inside (Nat.not_lt.mpr absent)
        · exact running_of_made of absent presentThen
      · intro earlier later split
        exact goesOn (step :: earlier) later (by rw [split]; rfl)

end Reading

/-! ## A result over its cursor -/

section Made

variable {cursor : Nat} {connection : Connection} {set : ResultSet}

theorem ResultSet.fields_of_ofCursor
    (made : ResultSet.ofCursor cursor connection = .ok set connection) :
    set.cursor = cursor ∧ set.freed = false := by
  unfold ofCursor Exchange.ofExcept at made
  cases given : ofScript cursor (connection.cursorScript cursor) with
  | error fault =>
      rw [given] at made
      cases made
  | ok found =>
      rw [given] at made
      cases made
      exact fields_of_ofScript given

theorem ResultSet.isReadable_of_columns
    (fresh : set.freed = false) (some : set.columns ≠ []) : set.isReadable = true := by
  have columns : set.columns.isEmpty = false := by
    rw [List.isEmpty_eq_false_iff]
    exact some
  rw [isReadable, fresh, columns]
  rfl

theorem ResultSet.isReadable_freedIf_eq_false
    {steps : List ResultStep}
    (stopped : set.columns = [] ∨ ∃ step ∈ steps, step.releases = true) :
    (set.freedIf (steps.any ResultStep.releases)).isReadable = false := by
  rcases stopped with none | released
  · rw [isReadable, freedIf, none, List.isEmpty_nil, Bool.not_true, Bool.and_false]
  · rw [List.any_eq_true.mpr released, freedIf_true, isReadable_asFreed]

namespace Reading

/-- A result that nothing was read of. -/
def start (set : ResultSet) (connection : Connection) : Reading :=
  ⟨⟨[set], []⟩, connection⟩

theorem start_of
    {script : Script} (scripted : connection.backend = .scripted script) :
    (start set connection).Of set (connection.cursorScript set.cursor) :=
  ⟨rfl, fun _ member => absurd member List.not_mem_nil, ⟨script, scripted⟩, rfl⟩

/-- The steps on a result take its rows in order, each row once: the rows taken so far,
followed by the rows left, are the rows of the cursor, and the next step is given the
first of those left, or all of them, or none. Once the result is freed, and always when
it has no columns, no step fetches anything and each answers that there is no row. The
cursor is closed at most once. An iterator that met the end or an error fetches nothing
more, and any other one is running. -/
theorem hands_out_each_row_once
    {script : Script} (scripted : connection.backend = .scripted script)
    (made : ResultSet.ofCursor cursor connection = .ok set connection)
    (unread : connection.fetchCount cursor = 0)
    (fits : ResultSet.Fits set.columns (connection.cursorScript cursor))
    (steps : List ResultStep) :
    (∃ left,
      ((start set connection).takenInTurn cursor steps).flatten ++ left =
          (connection.cursorScript cursor).rows ∧
        (set.columns ≠ [] → (∀ step ∈ steps, step.releases = false) → ∀ step,
          Delivers (connection.cursorScript cursor) set.columns
            ((start set connection).run steps).results.iterators left step
            (((start set connection).run steps).taken cursor step)
            (((start set connection).run steps).answer step))) ∧
      ((set.columns = [] ∨ ∃ step ∈ steps, step.releases = true) → ∀ step,
        (((start set connection).run steps).after step).connection.fetchCount =
            ((start set connection).run steps).connection.fetchCount ∧
          ∀ reply, step.emptyReply? = some reply →
            ((start set connection).run steps).answer step = .ok reply) ∧
      (((start set connection).run steps).connection.closeCount cursor ≤
          connection.closeCount cursor + 1 ∧
        ((∃ step ∈ steps, step.releases = true) →
          ((start set connection).run steps).connection.closeCount cursor =
            connection.closeCount cursor + 1)) ∧
      (∀ earlier later iterator, steps = earlier ++ .next iterator :: later →
        iterator < earlier.countP ResultStep.iterates →
        isEnd (((start set connection).run earlier).answer (.next iterator)) = true →
        (((start set connection).run steps).after (.next iterator)).connection.fetchCount =
          ((start set connection).run steps).connection.fetchCount) ∧
      (∀ iterator, iterator < steps.countP ResultStep.iterates →
        (∀ earlier later, steps = earlier ++ .next iterator :: later →
          iterator < earlier.countP ResultStep.iterates →
          isEnd (((start set connection).run earlier).answer (.next iterator)) = false) →
        ((start set connection).run steps).results.iterators[iterator]? =
          some ⟨0, true⟩) ∧
      (set.columns = [] →
        ((start set connection).run steps).connection.fetchCount =
          connection.fetchCount) := by
  obtain ⟨rfl, fresh⟩ := ResultSet.fields_of_ofCursor made
  have begun : (start set connection).Of set (connection.cursorScript set.cursor) :=
    start_of scripted
  have ran := begun.run fits steps
  have all := takenInTurn_append_rowsLeft begun fits steps
  have begins : (start set connection).connection.fetchCount set.cursor = 0 := unread
  rw [begins, CursorScript.rowsLeft_zero] at all
  have closed := closeCount_run begun fits steps
  rw [fresh] at closed
  have counts : ∀ earlier : List ResultStep,
      ((start set connection).run earlier).results.iterators.length =
        earlier.countP ResultStep.iterates := by
    intro earlier
    rw [length_iterators_run begun fits earlier]
    exact Nat.zero_add _
  refine ⟨⟨_, all, ?_⟩, ?_, ⟨?_, ?_⟩, ?_, ?_, fun none => ?_⟩
  · intro some keeps step
    have kept : steps.any ResultStep.releases = false := by
      rw [List.any_eq_false]
      intro step member
      rw [keeps step member]
      exact Bool.false_ne_true
    rw [kept, ResultSet.freedIf_false] at ran
    obtain ⟨fetches, advances⟩ := exists_advances ran fits step
    have delivers := advances.delivers
    have readable := ResultSet.isReadable_of_columns fresh some
    rw [← advances.taken_eq, ResultSet.rowsAvailable, if_pos readable, ran.follows] at delivers
    exact delivers
  · intro stopped step
    obtain ⟨fetches, advances⟩ := exists_advances ran fits step
    have unreadable := ResultSet.isReadable_freedIf_eq_false stopped
    exact ⟨advances.fetchCount_of_not_readable unreadable, (advances.stopped unreadable).2⟩
  · rw [closed]
    refine Nat.add_le_add_left ?_ _
    split
    · exact Nat.le_refl 1
    · exact Nat.zero_le 1
  · intro released
    rw [closed, if_pos ⟨rfl, List.any_eq_true.mpr released⟩]
    rfl
  · intro earlier later iterator split present ends
    rw [← counts earlier] at present
    have ranEarlier := begun.run fits earlier
    have ended := ended_of_isEnd ranEarlier present ends
    have ranNext := ranEarlier.after fits (.next iterator)
    have stays := ended_run ranNext fits ended later
    have same : (start set connection).run steps =
        (((start set connection).run earlier).after (.next iterator)).run later := by
      rw [split, run_append]
      rfl
    rw [← same] at stays
    rw [connection_of_ended ran stays]
  · intro iterator present goesOn
    rw [← counts steps] at present
    refine running_run begun fits (fun inside => absurd inside (Nat.not_lt_zero _)) steps
      present ?_
    intro earlier later split
    rw [counts earlier]
    rcases Nat.lt_or_ge iterator (earlier.countP ResultStep.iterates) with inside | absent
    · exact Or.inl (goesOn earlier later split inside)
    · exact Or.inr absent
  · exact fetchCount_run_of_no_columns begun fits none steps

end Reading

end Made

namespace Reading

/-- A cursor of three rows whose second fetch fails and whose closing is interrupted. -/
def sharedCursor : CursorScript :=
  { CursorScript.silent with
    columns := [Text.ofString "id"]
    rows := [[.integer 1], [.integer 2], [.integer 3]]
    closeError := some (.host .interruption [])
    fetchErrors := [(1, .driver .operational [.integer 2013])] }

/-- Two iterators and a single fetch take turns, and then the result is freed. -/
def sharedSteps : List ResultStep :=
  [.iterate, .iterate, .next 0, .next 1, .fetchRow, .free]

def sharedSet : ResultSet :=
  ⟨0, [Text.ofString "id"], .integer 0, .null, false⟩

def sharedConnection : Connection :=
  .following [sharedCursor]

def shared : Reading :=
  start sharedSet sharedConnection

theorem hands_out_each_row_once_shared :
    (∃ left, (shared.takenInTurn 0 sharedSteps).flatten ++ left =
        [[.integer 1], [.integer 2], [.integer 3]]) ∧
      (shared.run sharedSteps).answer (.next 0) = .ok .noMoreRows ∧
      (shared.run sharedSteps).connection.closeCount 0 = 1 ∧
      ((shared.run sharedSteps).after (.next 1)).connection.fetchCount =
        (shared.run sharedSteps).connection.fetchCount := by
  have scripted : sharedConnection.backend = .scripted ⟨none, [sharedCursor], none⟩ := rfl
  have made : ResultSet.ofCursor 0 sharedConnection = .ok sharedSet sharedConnection := rfl
  have unread : sharedConnection.fetchCount 0 = 0 := rfl
  have fits : ResultSet.Fits sharedSet.columns (sharedConnection.cursorScript 0) := by
    intro _
    decide
  have released : ∃ step ∈ sharedSteps, step.releases = true :=
    ⟨.free, by simp [sharedSteps], rfl⟩
  obtain ⟨⟨left, all, _⟩, stops, ⟨_, closes⟩, ended, _⟩ :=
    hands_out_each_row_once scripted made unread fits sharedSteps
  exact ⟨⟨left, all⟩, (stops (Or.inr released) (.next 0)).2 _ rfl, closes released,
    ended [.iterate, .iterate, .next 0] [.fetchRow, .free] 1 rfl (by decide) rfl⟩

example : shared.takenInTurn 0 sharedSteps =
    [[], [], [[.integer 1]], [], [[.integer 2]], []] := rfl

end Reading

end BoundQuery
