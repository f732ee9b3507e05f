import BoundQuery.ResultSet

/-!
# Reading results step by step

The results made so far are numbered, and so are the iterators over them. An iterator
gives one row after the other. Once it has ended or failed it stays ended, and asks its
result for nothing more; other iterators over the same result go on with the rows that
are left.

The main statement says that an ended iterator answers without any request.
-/

namespace BoundQuery

/-- An iterator over the rows of a numbered result. -/
structure RowIterator where
  result : Nat
  running : Bool

/-- The results made so far and the iterators over them. -/
structure Results where
  sets : List ResultSet
  iterators : List RowIterator

/-- A step of reading a result. Iterators are named by their numbers. -/
inductive ResultStep
  | fetchRow
  | fetchColumn (fallback : Value)
  | properties
  | rows
  | iterate
  | next (iterator : Nat)
  | free
  | enter
  | leave

inductive Reply
  | nothing
  | flag (value : Bool)
  | value (value : Value)
  | text (text : Text)
  | row (row : Row)
  | rows (rows : List Row)
  | column (values : List Value)
  | properties (result : ResultSet)
  | opened (number : Nat) (result : ResultSet)
  | iterator (number : Nat)
  | noMoreRows

def Reply.ofRow? : Option Row → Reply
  | some found => .row found
  | none => .nothing

namespace Results

def empty : Results :=
  ⟨[], []⟩

/-- Results that a step leaves, its answer, and the connection after it. -/
structure Outcome where
  results : Results
  connection : Connection
  answer : Except Fault Reply

/-- The outcome of an action that leaves the results as given. -/
def settle {result : Type} (results : Results) (reply : result → Reply)
    (action : Exchange result) (connection : Connection) : Outcome :=
  match action connection with
  | .ok value next => ⟨results, next, .ok (reply value)⟩
  | .error fault next => ⟨results, next, .error fault⟩

def markFreed (results : Results) (number : Nat) : Results :=
  { results with sets := results.sets.modify number ResultSet.asFreed }

def markEnded (results : Results) (iterator : Nat) : Results :=
  { results with
    iterators := results.iterators.modify iterator fun current =>
      { current with running := false } }

def free (results : Results) (number : Nat) (result : ResultSet)
    (connection : Connection) : Outcome :=
  settle (results.markFreed number) (fun _ => .nothing) result.free connection

def next (results : Results) (iterator : Nat) (connection : Connection) : Outcome :=
  match results.iterators[iterator]? with
  | some ⟨number, true⟩ =>
      match results.sets[number]? with
      | some result =>
          match result.fetchRow connection with
          | .ok (some row) after => ⟨results, after, .ok (.row row)⟩
          | .ok none after => ⟨results.markEnded iterator, after, .ok .noMoreRows⟩
          | .error fault after => ⟨results.markEnded iterator, after, .error fault⟩
      | none => ⟨results, connection, .ok .noMoreRows⟩
  | _ => ⟨results, connection, .ok .noMoreRows⟩

/-- A step of reading a numbered result. A number that no result has gives nothing. -/
def step (results : Results) (number : Nat) (step : ResultStep)
    (connection : Connection) : Outcome :=
  match results.sets[number]? with
  | none => ⟨results, connection, .ok .nothing⟩
  | some result =>
      match step with
      | .fetchRow => settle results Reply.ofRow? result.fetchRow connection
      | .fetchColumn fallback =>
          settle results (fun found => .value (found.getD fallback)) result.fetchColumn
            connection
      | .properties => ⟨results, connection, .ok (.properties result)⟩
      | .rows => settle results .rows result.rows connection
      | .iterate =>
          ⟨{ results with iterators := results.iterators ++ [⟨number, true⟩] },
            connection, .ok (.iterator results.iterators.length)⟩
      | .next iterator => results.next iterator connection
      | .free => results.free number result connection
      | .enter => ⟨results, connection, .ok (.flag true)⟩
      | .leave => results.free number result connection

/-! ## Facts on iterators -/

/-- An iterator that is not running answers without any request. -/
theorem next_of_ended (results : Results) (iterator number : Nat)
    (connection : Connection)
    (ended : results.iterators[iterator]? = some ⟨number, false⟩) :
    results.next iterator connection = ⟨results, connection, .ok .noMoreRows⟩ := by
  simp [next, ended]

end Results

end BoundQuery
