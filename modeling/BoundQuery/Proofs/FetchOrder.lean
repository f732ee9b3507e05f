import BoundQuery.Proofs.ExchangeCourse
import BoundQuery.ResultSet
import Mathlib.Data.List.Forall2

/-!
# Rows in the order of the fetches

A cursor gives its rows one after the other. A fetch that raises an error takes no row,
and the row that it would have taken is left to the next fetch. So the rows that some
fetches take, followed by the rows that are left after them, are the rows that were left
before them.

The statements at the end are about a result that reads its cursor. For a row or a value
it fetches once. For all rows it fetches until it finds the end or an error, and it takes
all rows that are left unless there is an error.
-/

namespace BoundQuery

/-! ## Rows of a cursor -/

namespace CursorScript

variable (script : CursorScript)

/-- The row that a fetch takes, if it takes one. -/
def rowTaken? (fetch : Nat) : Option (List Value) :=
  match script.fetchAnswer fetch with
  | .ok row => row
  | .error _ => none

/-- The rows that a number of fetches take, from a given one on. -/
def rowsTaken (first count : Nat) : List (List Value) :=
  (List.range' first count).filterMap script.rowTaken?

/-- The rows that no fetch before a given one took. -/
def rowsLeft (fetch : Nat) : List (List Value) :=
  script.rows.drop (script.answeredBefore fetch)

/-- Some fetch of a cursor raises an error. -/
def RaisesOnFetch (error : Raised) : Prop :=
  ∃ fetch, script.fetchError? fetch = some error

theorem rowsLeft_zero : script.rowsLeft 0 = script.rows :=
  rfl

theorem rowsTaken_one (fetch : Nat) :
    script.rowsTaken fetch 1 = (script.rowTaken? fetch).toList := by
  rw [rowsTaken, List.range'_one, List.filterMap_cons]
  cases script.rowTaken? fetch <;> rfl

theorem rowsTaken_add (first count further : Nat) :
    script.rowsTaken first (count + further) =
      script.rowsTaken first count ++ script.rowsTaken (first + count) further := by
  rw [rowsTaken, ← List.range'_append_1, List.filterMap_append]
  rfl

theorem rowsTaken_succ (first count : Nat) :
    script.rowsTaken first (count + 1) =
      script.rowsTaken first 1 ++ script.rowsTaken (first + 1) count := by
  rw [Nat.add_comm, rowsTaken_add]

/-- A fetch raises an error, or finds the end, or takes the first of the rows left. -/
theorem fetch_cases (fetch : Nat) :
    (∃ error, script.RaisesOnFetch error ∧ script.fetchAnswer fetch = .error error ∧
        script.rowsTaken fetch 1 = [] ∧
        script.rowsLeft (fetch + 1) = script.rowsLeft fetch) ∨
      (script.fetchAnswer fetch = .ok none ∧ script.rowsTaken fetch 1 = [] ∧
        script.rowsLeft fetch = [] ∧ script.rowsLeft (fetch + 1) = []) ∨
      ∃ values, script.fetchAnswer fetch = .ok (some values) ∧
        script.rowsTaken fetch 1 = [values] ∧
        script.rowsLeft fetch = values :: script.rowsLeft (fetch + 1) := by
  have moves := script.answeredBefore_succ fetch
  rw [rowsTaken_one, rowTaken?]
  cases raises : script.fetchError? fetch with
  | some error =>
      rw [raises] at moves
      have answers : script.fetchAnswer fetch = .error error := by
        rw [fetchAnswer, raises]
      rw [answers]
      refine Or.inl ⟨error, ⟨fetch, raises⟩, rfl, rfl, ?_⟩
      rw [rowsLeft, moves]
      rfl
  | none =>
      rw [raises] at moves
      have answers : script.fetchAnswer fetch =
          .ok script.rows[script.answeredBefore fetch]? := by
        rw [fetchAnswer, raises]
      have leaves : script.rowsLeft (fetch + 1) =
          script.rows.drop (script.answeredBefore fetch + 1) := by
        rw [rowsLeft, moves]
        rfl
      rw [answers, leaves, rowsLeft]
      by_cases inside : script.answeredBefore fetch < script.rows.length
      · rw [List.getElem?_eq_getElem inside]
        exact Or.inr (Or.inr ⟨_, rfl, rfl, List.drop_eq_getElem_cons inside⟩)
      · have beyond := Nat.le_of_not_lt inside
        rw [List.getElem?_eq_none beyond]
        exact Or.inr (Or.inl ⟨rfl, rfl, List.drop_of_length_le beyond,
          List.drop_of_length_le (Nat.le_succ_of_le beyond)⟩)

/-- No row is lost, given twice or out of order. -/
theorem rowsTaken_append_rowsLeft (first count : Nat) :
    script.rowsTaken first count ++ script.rowsLeft (first + count) =
      script.rowsLeft first := by
  induction count generalizing first with
  | zero => rfl
  | succ count inductionHypothesis =>
      have following := inductionHypothesis (first + 1)
      rw [Nat.add_right_comm, Nat.add_assoc] at following
      rw [rowsTaken_succ, List.append_assoc, following]
      rcases script.fetch_cases first with
        ⟨error, _, _, taken, left⟩ | ⟨_, taken, left, leftThen⟩ | ⟨values, _, taken, left⟩
      · rw [taken, left]
        rfl
      · rw [taken, left, leftThen]
        rfl
      · rw [taken, left]
        rfl

end CursorScript

/-! ## Items made of rows -/

/-- What an item is made of: of some rows that are left, a fetch takes the first one, or
finds that there is none, or raises an error of its cursor. -/
inductive ItemRead {item : Type} (cursor : CursorScript)
    (convert : List Value → Except Fault item) :
    List (List Value) → List (List Value) → Except Fault (Option item) → Prop
  | found {values : List Value} {made : item} (later : List (List Value)) :
      convert values = .ok made →
      ItemRead cursor convert (values :: later) [values] (.ok (some made))
  | atEnd : ItemRead cursor convert [] [] (.ok none)
  | failed (left : List (List Value)) {error : Raised} :
      cursor.RaisesOnFetch error →
      ItemRead cursor convert left [] (.error (.raised error))

/-- What a list of items is made of: of all rows that are left, or of the rows that were
taken before an error. -/
inductive ItemsRead {item : Type} (cursor : CursorScript)
    (convert : List Value → Except Fault item) :
    List (List Value) → List (List Value) → Except Fault (List item) → Prop
  | all {left : List (List Value)} {items : List item} :
      List.Forall₂ (fun values made => convert values = .ok made) left items →
      ItemsRead cursor convert left left (.ok items)
  | failed {left taken : List (List Value)} {error : Raised} :
      cursor.RaisesOnFetch error → taken <+: left →
      ItemsRead cursor convert left taken (.error (.raised error))

section Items

variable {item : Type} {cursor : CursorScript} {convert : List Value → Except Fault item}

theorem ItemsRead.cons
    {left taken : List (List Value)} {answer : Except Fault (List item)}
    {values : List Value} {made : item} (converts : convert values = .ok made)
    (reads : ItemsRead cursor convert left taken answer) :
    ItemsRead cursor convert (values :: left) (values :: taken)
      (answer.map (made :: ·)) := by
  cases reads with
  | all rest => exact .all (.cons converts rest)
  | failed raises early =>
      exact .failed raises ((List.cons_prefix_cons).mpr ⟨rfl, early⟩)

end Items

namespace ResultSet

open Exchange

variable {item : Type}

/-- The next item of a result, when items are made of rows. -/
def fetchItem (set : ResultSet) (convert : List Value → Except Fault item) :
    Exchange (Option item) := do
  match ← set.fetchValues with
  | none => return none
  | some values =>
      let made ← Exchange.ofExcept (convert values)
      return some made

theorem fetchRow_eq_fetchItem (set : ResultSet) :
    set.fetchRow = set.fetchItem (Row.ofColumns set.columns) :=
  rfl

theorem fetchColumn_eq_fetchItem (set : ResultSet) :
    set.fetchColumn = set.fetchItem firstValue :=
  rfl

/-- The answer of a fetch, with an item made of the row. -/
def itemAnswer (convert : List Value → Except Fault item) :
    Except Raised (Option (List Value)) → Except Fault (Option item)
  | .error error => .error (.raised error)
  | .ok none => .ok none
  | .ok (some values) => (convert values).map some

/-- The rows that a result can still give: none at all when it is not readable. -/
def rowsAvailable (set : ResultSet) (connection : Connection) : List (List Value) :=
  if set.isReadable then
    (connection.cursorScript set.cursor).rowsLeft (connection.fetchCount set.cursor)
  else []

/-- A result reads from the cursor that it was made for, and begins unfreed. -/
theorem fields_of_ofScript
    {cursor : Nat} {script : CursorScript} {set : ResultSet}
    (made : ofScript cursor script = .ok set) : set.cursor = cursor ∧ set.freed = false := by
  unfold ofScript at made
  cases counted : reportedRows script.rowCount with
  | error fault =>
      rw [counted] at made
      cases made
  | ok rowCount =>
      rw [counted] at made
      cases made
      exact ⟨rfl, rfl⟩

/-! ## Fetches of a result -/

section Fetching

variable {set : ResultSet} {connection : Connection} {script : Script}
variable {convert : List Value → Except Fault item}

theorem takes_fetchItem_of_readable
    (scripted : connection.backend = .scripted script)
    (readable : set.isReadable = true) :
    (set.fetchItem convert).Takes connection
      ⟨itemAnswer convert ((connection.cursorScript set.cursor).fetchAnswer
          (connection.fetchCount set.cursor)), [.fetch set.cursor]⟩ := by
  have fetches := takes_fetch scripted set.cursor
  have values : set.fetchValues = fetch set.cursor := if_pos readable
  rw [fetchItem, values]
  cases answer : (connection.cursorScript set.cursor).fetchAnswer
      (connection.fetchCount set.cursor) with
  | error error =>
      rw [answer] at fetches
      exact takes_bind_of_error fetches
  | ok row =>
      rw [answer] at fetches
      cases row with
      | none => exact takes_bind_of_ok fetches (takes_pure none _)
      | some values =>
          have converts := takes_ofExcept (convert values) ((fetch set.cursor).after connection)
          exact takes_bind_of_ok fetches (takes_bind_form converts some)

theorem fetchItem_of_not_readable
    (unreadable : set.isReadable = false) : set.fetchItem convert = pure none := by
  have values : set.fetchValues = pure none := by
    rw [fetchValues, unreadable]
    rfl
  rw [fetchItem, values]
  rfl

/-- Every row that a cursor gives makes an item. -/
def Converts (convert : List Value → Except Fault item) (script : CursorScript) : Prop :=
  ∀ values ∈ script.rows, ∃ made, convert values = .ok made

theorem Converts.of_rowsLeft
    {cursor : CursorScript} (converts : Converts convert cursor)
    {fetch : Nat} {values : List Value} {later : List (List Value)}
    (left : cursor.rowsLeft fetch = values :: later) :
    ∃ made, convert values = .ok made := by
  have first : values ∈ cursor.rowsLeft fetch := by
    rw [left]
    exact List.mem_cons_self
  exact converts values (List.mem_of_mem_drop first)

theorem itemRead_of_fetch
    {cursor : CursorScript} (converts : Converts convert cursor) (fetch : Nat) :
    ItemRead cursor convert (cursor.rowsLeft fetch) (cursor.rowsTaken fetch 1)
      (itemAnswer convert (cursor.fetchAnswer fetch)) := by
  rcases cursor.fetch_cases fetch with
    ⟨error, raises, answer, taken, _⟩ | ⟨answer, taken, left, _⟩ |
      ⟨values, answer, taken, left⟩
  · rw [answer, taken]
    exact .failed _ raises
  · rw [answer, taken, left]
    exact .atEnd
  · obtain ⟨made, makes⟩ := converts.of_rowsLeft left
    rw [answer, taken, left, itemAnswer, makes]
    exact .found _ makes

theorem fetchCount_of_takes
    {result : Type} {action : Exchange result} {answer : Except Fault result}
    {cursor count : Nat}
    (takes : action.Takes connection ⟨answer, List.replicate count (.fetch cursor)⟩) :
    (action.after connection).fetchCount cursor = connection.fetchCount cursor + count := by
  rw [takes.fetchCount, List.countP_replicate]
  simp only [Request.isFetchOf, BEq.rfl, if_true]

/-- An action makes some fetches for a result and no other request, and none at all when
the result is not readable. What it answers is made of the rows that the fetches took. -/
structure FetchCourse {result : Type} (set : ResultSet) (action : Exchange result)
    (empty : result)
    (made : List (List Value) → List (List Value) → Except Fault result → Prop)
    (connection : Connection) (count : Nat) (answer : Except Fault result) : Prop where
  takes : action.Takes connection ⟨answer, List.replicate count (.fetch set.cursor)⟩
  stopped : set.isReadable = false → count = 0 ∧ answer = .ok empty
  reads : made (set.rowsAvailable connection)
    ((connection.cursorScript set.cursor).rowsTaken (connection.fetchCount set.cursor) count)
    answer

/-- A result that reads an item fetches once, if it is readable. -/
theorem fetchItem_course
    (scripted : connection.backend = .scripted script)
    (converts : set.isReadable = true →
      Converts convert (connection.cursorScript set.cursor)) :
    ∃ count answer,
      set.FetchCourse (set.fetchItem convert) none
        (ItemRead (connection.cursorScript set.cursor) convert) connection
        count answer := by
  cases readable : set.isReadable with
  | false =>
      refine ⟨0, .ok none, ?_, fun _ => ⟨rfl, rfl⟩, ?_⟩
      · rw [fetchItem_of_not_readable readable]
        exact takes_pure none connection
      · rw [rowsAvailable, readable]
        exact .atEnd
  | true =>
      have reads := itemRead_of_fetch (converts readable) (connection.fetchCount set.cursor)
      refine ⟨1, _, takes_fetchItem_of_readable scripted readable, ?_, ?_⟩
      · intro unreadable
        rw [readable] at unreadable
        cases unreadable
      · rw [rowsAvailable, readable]
        exact reads

/-- With a bound above the number of rows left, a result that reads items goes on to the
end or to an error. -/
theorem collect_reads
    {cursor : CursorScript} (converts : Converts convert cursor)
    (readable : set.isReadable = true) (bound : Nat)
    (scripted : connection.backend = .scripted script)
    (follows : connection.cursorScript set.cursor = cursor)
    (enough : (cursor.rowsLeft (connection.fetchCount set.cursor)).length < bound) :
    ∃ count answer,
      (collect (set.fetchItem convert) bound).Takes connection
          ⟨answer, List.replicate count (.fetch set.cursor)⟩ ∧
        ItemsRead cursor convert (cursor.rowsLeft (connection.fetchCount set.cursor))
          (cursor.rowsTaken (connection.fetchCount set.cursor) count) answer := by
  -- Each row that a fetch takes is one less to come, and so is the bound after it.
  induction bound generalizing connection with
  | zero => exact absurd enough (Nat.not_lt_zero _)
  | succ bound inductionHypothesis =>
      have fetches : (set.fetchItem convert).Takes connection _ :=
        takes_fetchItem_of_readable scripted readable
      have position : ((set.fetchItem convert).after connection).fetchCount set.cursor =
          connection.fetchCount set.cursor + 1 :=
        fetchCount_of_takes fetches
      rw [follows] at fetches
      generalize connection.fetchCount set.cursor = fetch at fetches position enough ⊢
      rcases cursor.fetch_cases fetch with
        ⟨error, raises, answer, taken, _⟩ | ⟨answer, taken, left, _⟩ |
          ⟨values, answer, taken, left⟩
      · rw [answer] at fetches
        refine ⟨1, .error (.raised error), takes_bind_of_error fetches, .failed raises ?_⟩
        rw [taken]
        exact List.nil_prefix
      · rw [answer] at fetches
        refine ⟨1, .ok [], takes_bind_of_ok fetches (takes_pure [] _), ?_⟩
        rw [taken, left]
        exact .all .nil
      · obtain ⟨made, makes⟩ := converts.of_rowsLeft left
        rw [answer, itemAnswer, makes] at fetches
        have fewer : (cursor.rowsLeft (fetch + 1)).length < bound := by
          rw [left, List.length_cons] at enough
          exact Nat.lt_of_succ_lt_succ enough
        rw [← position] at fewer
        obtain ⟨count, given, rest, reads⟩ := inductionHypothesis
          (fetches.backend.trans scripted) ((congrFun fetches.cursorScript _).trans follows)
          fewer
        rw [position] at reads
        refine ⟨count + 1, given.map (made :: ·), ?_, ?_⟩
        · exact takes_bind_of_ok fetches (takes_bind_form rest (made :: ·))
        · rw [CursorScript.rowsTaken_succ, taken, left]
          exact reads.cons makes

theorem length_rowsLeft_lt (cursor : CursorScript) (fetch : Nat) :
    (cursor.rowsLeft fetch).length < cursor.rows.length + 1 := by
  rw [CursorScript.rowsLeft, List.length_drop]
  exact Nat.lt_succ_of_le (Nat.sub_le _ _)

/-- A result that reads all its rows takes the ones that are left, or fails. -/
theorem rows_course
    (scripted : connection.backend = .scripted script)
    (converts : set.isReadable = true →
      Converts (Row.ofColumns set.columns) (connection.cursorScript set.cursor)) :
    ∃ count answer,
      set.FetchCourse set.rows []
        (ItemsRead (connection.cursorScript set.cursor) (Row.ofColumns set.columns))
        connection count answer := by
  cases readable : set.isReadable with
  | false =>
      have nothing : set.rows connection = (pure [] : Exchange (List Row)) connection := by
        rw [rows, fetchRow_eq_fetchItem, fetchItem_of_not_readable readable]
        rfl
      refine ⟨0, .ok [], (takes_pure [] connection).of_eq nothing, fun _ => ⟨rfl, rfl⟩, ?_⟩
      rw [rowsAvailable, readable]
      exact .all .nil
  | true =>
      obtain ⟨count, answer, takes, reads⟩ := collect_reads (converts readable) readable
        (set.rowBound connection) scripted rfl (length_rowsLeft_lt _ _)
      refine ⟨count, answer, takes.of_eq rfl, ?_, ?_⟩
      · intro unreadable
        rw [readable] at unreadable
        cases unreadable
      · rw [rowsAvailable, readable]
        exact reads

end Fetching

end ResultSet

end BoundQuery
