import BoundQuery.Proofs.RetrievalRelease
import BoundQuery.Proofs.ResultCourse

/-!
# Retrievals agree

All rows and the first column are two readings of the same rows of a cursor, and so are
the first row and the first value. When the columns have different names and the rows are
as long as the list of columns, the value that stands first in a row is the one that the
row holds under the name of the first column.

The main statement says that from one state the first column is the list of first values
of all rows, and the first value that of the first row, and that each pair fails with the
same fault if it fails. Where no fetch raises an error, the first row is the first of all
rows.
-/

namespace BoundQuery

/-! ## Rows under the names of their columns -/

namespace Row

theorem put_of_not_mem
    {name : Text} {row : Row} (fresh : name ∉ row.map Prod.fst) (value : Value) :
    put name value row = row ++ [(name, value)] := by
  induction row with
  | nil => rfl
  | cons entry rest inductionHypothesis =>
      obtain ⟨present, old⟩ := entry
      rw [List.map_cons, List.mem_cons, not_or] at fresh
      obtain ⟨different, freshRest⟩ := fresh
      rw [put, if_neg (Ne.symm different), inductionHypothesis freshRest]
      rfl

theorem fill_eq_append_zip
    {row : Row} {names : List Text} {values : List Value}
    (fits : values.length = names.length)
    (distinct : (row.map Prod.fst ++ names).Nodup) :
    fill row names values = .ok (row ++ names.zip values) := by
  induction names generalizing row values with
  | nil =>
      rw [List.eq_nil_of_length_eq_zero fits, List.zip_nil_left, List.append_nil]
      rfl
  | cons name names inductionHypothesis =>
      cases values with
      | nil => cases fits
      | cons value values =>
          have fresh : name ∉ row.map Prod.fst := fun member =>
            (List.nodup_append.mp distinct).2.2 name member name List.mem_cons_self rfl
          rw [fill, put_of_not_mem fresh, inductionHypothesis (Nat.succ.inj fits)]
          · rw [List.append_assoc]
            rfl
          · rw [List.map_append, List.append_assoc]
            exact distinct

/-- Where no name is repeated, a row is its names beside its values. -/
theorem ofColumns_eq_zip
    {columns : List Text} {values : List Value} (distinct : columns.Nodup)
    (fits : values.length = columns.length) :
    ofColumns columns values = .ok (columns.zip values) :=
  fill_eq_append_zip fits distinct

/-- The value that a row holds under the name of the first column. -/
def first? (columns : List Text) (row : Row) : Option Value :=
  columns.head?.bind fun name => row.lookup name

/-- The value that stands first is held under the name of the first column. -/
theorem agree_ofColumns_firstValue
    {columns : List Text} {values : List Value} (distinct : columns.Nodup)
    (some : columns ≠ []) (fits : values.length = columns.length) :
    Agree (fun row value => first? columns row = .some value)
      (ofColumns columns values) (ResultSet.firstValue values) := by
  rw [ofColumns_eq_zip distinct fits]
  cases columns with
  | nil => exact absurd rfl some
  | cons name names =>
      cases values with
      | nil => cases fits
      | cons value values => exact .given List.lookup_cons_self

end Row

/-! ## Readings of one result -/

namespace ResultSet

open Exchange
open Connection (SameRows)

variable {set : ResultSet} {connection : Connection} {script : Script}

/-- A row and the value that is read in its place belong together: the value stands
first in the row, or there is no row and the value is the given one. -/
def Stands (columns : List Text) (fallback : Value) : Option Row → Value → Prop
  | some row, value => Row.first? columns row = some value
  | none, value => value = fallback

theorem Fits.agree
    (fits : Fits set.columns (connection.cursorScript set.cursor))
    (distinct : set.columns.Nodup) (readable : set.isReadable = true) :
    ∀ values ∈ (connection.cursorScript set.cursor).withoutCloseError.rows,
      Agree (fun row value => Row.first? set.columns row = some value)
        (Row.ofColumns set.columns values) (firstValue values) := by
  intro values given
  have some := columns_ne_nil_of_readable readable
  exact Row.agree_ofColumns_firstValue distinct some (fits some values given)

theorem map_some_eq_map_first?
    {columns : List Text} {rows : List Row} {values : List Value}
    (related : List.Forall₂ (fun row value => Row.first? columns row = some value) rows
      values) :
    values.map some = rows.map (Row.first? columns) := by
  induction related with
  | nil => rfl
  | cons first rest inductionHypothesis =>
      rw [List.map_cons, List.map_cons, first, inductionHypothesis]

/-- All rows and the first column are read in step. -/
theorem agree_rows_column
    (scripted : connection.backend = .scripted script) (distinct : set.columns.Nodup)
    (fits : Fits set.columns (connection.cursorScript set.cursor)) :
    Agree (fun rows values => values.map some = rows.map (Row.first? set.columns))
      (set.rows.answer connection) (set.column.answer connection) := by
  have steps := inStep_collect_fetchItem (fits.agree distinct) (set.rowBound connection)
    (Connection.sameRows_self scripted set.cursor)
  exact steps.agree.mono fun _ _ related => map_some_eq_map_first? related

/-- A row and the value in its place are read in step. -/
theorem agree_fetchRow_fetchValueOr
    (scripted : connection.backend = .scripted script) (distinct : set.columns.Nodup)
    (fits : Fits set.columns (connection.cursorScript set.cursor)) (fallback : Value) :
    Agree (Stands set.columns fallback)
      (set.fetchRow.answer connection) ((set.fetchValueOr fallback).answer connection) := by
  have forms : InStep
      (SameRows set.cursor (connection.cursorScript set.cursor).withoutCloseError)
      (Stands set.columns fallback)
      (set.fetchRow >>= pure) (set.fetchValueOr fallback) connection connection := by
    refine (inStep_fetchItem (fits.agree distinct)
      (Connection.sameRows_self scripted set.cursor)).bind_form ?_
    intro row? value? related
    cases related with
    | none => rfl
    | some first => exact first
  rw [bind_pure] at forms
  exact forms.agree

/-- Where no fetch raises an error, the next row is the first one of all rows. -/
theorem fetchRow_eq_head?_rows
    (scripted : connection.backend = .scripted script)
    (fits : Fits set.columns (connection.cursorScript set.cursor))
    (faultless : ∀ fetch, (connection.cursorScript set.cursor).fetchError? fetch = none) :
    ∃ rows, set.rows.answer connection = .ok rows ∧
      set.fetchRow.answer connection = .ok rows.head? := by
  have raisesNothing : ∀ error,
      ¬(connection.cursorScript set.cursor).RaisesOnFetch error := by
    rintro error ⟨fetch, raises⟩
    cases (faultless fetch).symm.trans raises
  obtain ⟨_, answer, all⟩ := rows_course scripted fits.rows
  obtain ⟨_, single, next⟩ := fetchItem_course scripted fits.rows
  have rowsRead := all.reads
  have nextRead := next.reads
  rw [fetchRow_eq_fetchItem, next.takes.answer, all.takes.answer]
  -- Both readings find the same rows left, whatever they take of them.
  generalize set.rowsAvailable connection = left at rowsRead nextRead
  generalize CursorScript.rowsTaken _ _ _ = taken at rowsRead
  generalize CursorScript.rowsTaken _ _ _ = takenNext at nextRead
  cases rowsRead with
  | failed raises => exact absurd raises (raisesNothing _)
  | all converted =>
      refine ⟨_, rfl, ?_⟩
      cases nextRead with
      | failed _ raises => exact absurd raises (raisesNothing _)
      | atEnd =>
          cases converted
          rfl
      | found _ makes =>
          cases converted with
          | cons makesToo _ =>
              cases makes.symm.trans makesToo
              rfl

end ResultSet

/-! ## Retrievals of one statement -/

namespace Session

open Exchange

variable {session : Session} {statement : Statement} {connection : Connection}
variable {set : ResultSet}

/-- From one state the four retrievals agree. The first column holds the first values of
all rows, in order, and the first value is that of the first row, or the given one
without a row; in each pair both fail with the same fault if one fails. Where no fetch
raises an error, the first row is the first of all rows, or nothing without rows. -/
theorem retrievals_agree
    (made : (session.query statement).answer connection = .ok set)
    (closes : ∀ error, (connection.cursorScript set.cursor).closeError = some error →
      error.isInterruption = false)
    (distinct : set.columns.Nodup)
    (fits : ResultSet.Fits set.columns (connection.cursorScript set.cursor)) :
    Agree (fun rows values => values.map some = rows.map (Row.first? set.columns))
        ((session.allRows statement).answer connection)
        ((session.firstColumn statement).answer connection) ∧
      (∀ fallback, Agree (ResultSet.Stands set.columns fallback)
        ((session.firstRow statement).answer connection)
        ((session.firstValue statement fallback).answer connection)) ∧
      ((∀ fetch, (connection.cursorScript set.cursor).fetchError? fetch = none) →
        ∃ rows, (session.allRows statement).answer connection = .ok rows ∧
          (session.firstRow statement).answer connection = .ok rows.head?) := by
  obtain ⟨query, gives⟩ := exists_gives made
  obtain ⟨script, scripted⟩ := gives.scriptedThen
  have allRows : (session.allRows statement).answer connection = _ :=
    gives.answer_withResult closes set.onlyFetches_rows
  have firstRow : (session.firstRow statement).answer connection = _ :=
    gives.answer_withResult closes (set.onlyFetches_fetchItem (Row.ofColumns set.columns))
  have firstColumn : (session.firstColumn statement).answer connection = _ :=
    gives.answer_withResult closes set.onlyFetches_column
  rw [← gives.cursorScript] at fits
  rw [allRows, firstRow, firstColumn]
  refine ⟨set.agree_rows_column scripted distinct fits, fun fallback => ?_, ?_⟩
  · have firstValue : (session.firstValue statement fallback).answer connection = _ :=
      gives.answer_withResult closes (set.onlyFetches_fetchValueOr fallback)
    rw [firstValue]
    exact set.agree_fetchRow_fetchValueOr scripted distinct fits fallback
  · intro faultless
    rw [← gives.cursorScript] at faultless
    exact set.fetchRow_eq_head?_rows scripted fits faultless

/-- A cursor of two rows, the first of which begins with null, that fails to close. -/
def sparseCursor : CursorScript :=
  { CursorScript.silent with
    columns := [Text.ofString "id", Text.ofString "name"]
    rows := [[.null, .integer 1], [.integer 2, .null]]
    closeError := some lostError }

def sparseConnection : Connection :=
  .following [sparseCursor]

def sparseSet : ResultSet :=
  ⟨0, [Text.ofString "id", Text.ofString "name"], .integer 0, .null, false⟩

theorem retrievals_agree_sparse :
    ∃ rows values,
      (allRows ⟨Settings.default, false⟩ selecting).answer sparseConnection = .ok rows ∧
        (firstColumn ⟨Settings.default, false⟩ selecting).answer sparseConnection =
          .ok values ∧
        values.map some = rows.map (Row.first? sparseSet.columns) ∧
        (firstRow ⟨Settings.default, false⟩ selecting).answer sparseConnection =
          .ok rows.head? := by
  have made : (Session.query ⟨Settings.default, false⟩ selecting).answer sparseConnection =
      .ok sparseSet := rfl
  have closes : ∀ error,
      (sparseConnection.cursorScript sparseSet.cursor).closeError = some error →
        error.isInterruption = false := by
    intro error unclosed
    cases unclosed
    rfl
  have distinct : sparseSet.columns.Nodup := by decide
  have fits : ResultSet.Fits sparseSet.columns
      (sparseConnection.cursorScript sparseSet.cursor) := by
    intro _
    decide
  obtain ⟨columns, _, faultless⟩ := retrievals_agree made closes distinct fits
  obtain ⟨rows, all, first⟩ := faultless fun _ => rfl
  rw [all] at columns
  generalize (firstColumn ⟨Settings.default, false⟩ selecting).answer sparseConnection =
    column at columns ⊢
  cases columns with
  | given same => exact ⟨rows, _, all, rfl, same, first⟩

end Session

end BoundQuery
