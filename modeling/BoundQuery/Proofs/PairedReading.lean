import BoundQuery.Proofs.CloseErrors
import BoundQuery.Proofs.FetchOrder
import BoundQuery.Proofs.Preservation

/-!
# Two readings side by side

Two actions on two connections stay in step when they leave connections that are still
alike, and either fail with the same fault or give values that belong together. This
passes from the parts of an action to the whole, and so from one fetch to a loop of
fetches.

The main statements are about results. A result that makes one kind of item of its rows
and one that makes another stay in step when every row makes items that belong together,
and so does a result with itself when its cursor closes in another way.
-/

namespace BoundQuery

/-! ## Answers that agree -/

section Agreement

variable {left right : Type} {related : left → right → Prop}

/-- Two answers are the same fault, or values that are related. -/
inductive Agree (related : left → right → Prop) :
    Except Fault left → Except Fault right → Prop
  | failed (fault : Fault) : Agree related (.error fault) (.error fault)
  | given {value : left} {other : right} :
      related value other → Agree related (.ok value) (.ok other)

theorem agree_refl (answer : Except Fault left) : Agree Eq answer answer := by
  cases answer with
  | error fault => exact .failed fault
  | ok value => exact .given rfl

theorem Agree.eq {answer other : Except Fault left} (agree : Agree Eq answer other) :
    other = answer := by
  cases agree with
  | failed fault => rfl
  | given same => rw [same]

theorem Agree.mono
    {wider : left → right → Prop} {answer : Except Fault left} {other : Except Fault right}
    (agree : Agree related answer other)
    (wide : ∀ value found, related value found → wider value found) :
    Agree wider answer other := by
  cases agree with
  | failed fault => exact .failed fault
  | given holds => exact .given (wide _ _ holds)

end Agreement

/-! ## Actions in step -/

namespace Exchange

variable {left right leftTarget rightTarget : Type}

/-- From the given connections, two actions leave connections that are alike, and their
answers agree. -/
structure InStep (alike : Connection → Connection → Prop) (related : left → right → Prop)
    (action : Exchange left) (other : Exchange right) (connection beside : Connection) :
    Prop where
  alike : alike (action.after connection) (other.after beside)
  agree : Agree related (action.answer connection) (other.answer beside)

section Steps

variable {alike : Connection → Connection → Prop} {related : left → right → Prop}
variable {relatedTarget : leftTarget → rightTarget → Prop} {connection beside : Connection}

theorem inStep_pure
    (same : alike connection beside) {value : left} {other : right}
    (holds : related value other) :
    InStep alike related (pure value) (pure other) connection beside :=
  ⟨same, .given holds⟩

theorem inStep_ofExcept
    (same : alike connection beside) {given : Except Fault left}
    {other : Except Fault right} (agree : Agree related given other) :
    InStep alike related (ofExcept given) (ofExcept other) connection beside := by
  cases agree with
  | failed fault => exact ⟨same, .failed fault⟩
  | given holds => exact ⟨same, .given holds⟩

theorem InStep.mono
    {wider : left → right → Prop} {action : Exchange left} {other : Exchange right}
    (steps : InStep alike related action other connection beside)
    (wide : ∀ value found, related value found → wider value found) :
    InStep alike wider action other connection beside :=
  ⟨steps.alike, steps.agree.mono wide⟩

theorem InStep.bind
    {action : Exchange left} {other : Exchange right}
    {following : left → Exchange leftTarget} {otherFollowing : right → Exchange rightTarget}
    (begins : InStep alike related action other connection beside)
    (goesOn : ∀ value found, related value found →
      ∀ connection beside, alike connection beside →
        InStep alike relatedTarget (following value) (otherFollowing found)
          connection beside) :
    InStep alike relatedTarget (action >>= following) (other >>= otherFollowing)
      connection beside := by
  obtain ⟨same, agree⟩ := begins
  cases ended : action.answer connection with
  | error fault =>
      rw [ended] at agree
      cases otherEnded : other.answer beside with
      | ok found =>
          rw [otherEnded] at agree
          cases agree
      | error otherFault =>
          rw [otherEnded] at agree
          cases agree
          constructor
          · rw [after_bind_of_error ended, after_bind_of_error otherEnded]
            exact same
          · rw [answer_bind_of_error ended, answer_bind_of_error otherEnded]
            exact .failed fault
  | ok value =>
      rw [ended] at agree
      cases otherEnded : other.answer beside with
      | error otherFault =>
          rw [otherEnded] at agree
          cases agree
      | ok found =>
          rw [otherEnded] at agree
          cases agree with
          | given holds =>
              have rest := goesOn value found holds _ _ same
              constructor
              · rw [after_bind_of_ok ended, after_bind_of_ok otherEnded]
                exact rest.alike
              · rw [answer_bind_of_ok ended, answer_bind_of_ok otherEnded]
                exact rest.agree

/-- A change of form at the end keeps two actions in step. -/
theorem InStep.bind_form
    {action : Exchange left} {other : Exchange right}
    {form : left → leftTarget} {otherForm : right → rightTarget}
    (begins : InStep alike related action other connection beside)
    (forms : ∀ value found, related value found →
      relatedTarget (form value) (otherForm found)) :
    InStep alike relatedTarget (action >>= fun value => pure (form value))
      (other >>= fun found => pure (otherForm found)) connection beside :=
  begins.bind fun value found holds _ _ same => inStep_pure same (forms value found holds)

end Steps

end Exchange

/-! ## Cursors that give the same rows -/

/-- How a cursor closes has no bearing on what its fetches answer. -/
theorem CursorScript.fetchAnswer_withoutCloseError (script : CursorScript) (fetch : Nat) :
    script.withoutCloseError.fetchAnswer fetch = script.fetchAnswer fetch := by
  have position : ∀ fetch,
      script.withoutCloseError.answeredBefore fetch = script.answeredBefore fetch := by
    intro fetch
    induction fetch with
    | zero => rfl
    | succ fetch inductionHypothesis =>
        rw [answeredBefore_succ, answeredBefore_succ, inductionHypothesis]
        rfl
  rw [fetchAnswer, fetchAnswer, position]
  rfl

/-- A row that a fetch gives is one of the rows of its cursor. -/
theorem CursorScript.mem_rows_of_fetchAnswer
    {script : CursorScript} {fetch : Nat} {values : List Value}
    (answer : script.fetchAnswer fetch = .ok (some values)) : values ∈ script.rows := by
  unfold fetchAnswer at answer
  cases raises : script.fetchError? fetch with
  | some error =>
      rw [raises] at answer
      cases answer
  | none =>
      rw [raises] at answer
      exact List.mem_of_getElem? (Except.ok.inj answer)

/-- On two connections a cursor follows one script, apart from how it closes, and has
come to the same fetch. -/
structure Connection.SameRows (cursor : Nat) (script : CursorScript)
    (connection beside : Connection) : Prop where
  scripted : ∃ own, connection.backend = .scripted own
  besideScripted : ∃ own, beside.backend = .scripted own
  follows : (connection.cursorScript cursor).withoutCloseError = script
  besideFollows : (beside.cursorScript cursor).withoutCloseError = script
  fetchCount : beside.fetchCount cursor = connection.fetchCount cursor

theorem Connection.sameRows_self
    {connection : Connection} {script : Script}
    (scripted : connection.backend = .scripted script) (cursor : Nat) :
    SameRows cursor (connection.cursorScript cursor).withoutCloseError connection
      connection :=
  ⟨⟨script, scripted⟩, ⟨script, scripted⟩, rfl, rfl, rfl⟩

namespace Exchange

open Connection (SameRows)

variable {cursor : Nat} {script : CursorScript} {connection beside : Connection}

theorem fetchAnswer_of_follows
    (follows : (connection.cursorScript cursor).withoutCloseError = script) (fetch : Nat) :
    (connection.cursorScript cursor).fetchAnswer fetch = script.fetchAnswer fetch := by
  rw [← follows, CursorScript.fetchAnswer_withoutCloseError]

theorem inStep_fetch (same : SameRows cursor script connection beside) :
    InStep (SameRows cursor script)
      (fun row found => row = found ∧ ∀ values, row = some values → values ∈ script.rows)
      (fetch cursor) (fetch cursor) connection beside := by
  obtain ⟨own, scripted⟩ := same.scripted
  obtain ⟨besideOwn, besideScripted⟩ := same.besideScripted
  have fetches := takes_fetch scripted cursor
  have besideFetches := takes_fetch besideScripted cursor
  rw [fetchAnswer_of_follows same.follows] at fetches
  rw [fetchAnswer_of_follows same.besideFollows, same.fetchCount] at besideFetches
  refine ⟨⟨⟨own, fetches.backend.trans scripted⟩,
    ⟨besideOwn, besideFetches.backend.trans besideScripted⟩, ?_, ?_, ?_⟩, ?_⟩
  · rw [fetches.cursorScript]
    exact same.follows
  · rw [besideFetches.cursorScript]
    exact same.besideFollows
  · rw [fetches.fetchCount, besideFetches.fetchCount, same.fetchCount]
  · rw [fetches.answer, besideFetches.answer]
    cases answer : script.fetchAnswer (connection.fetchCount cursor) with
    | error error => exact .failed _
    | ok row =>
        refine .given ⟨rfl, fun values found => ?_⟩
        rw [found] at answer
        exact CursorScript.mem_rows_of_fetchAnswer answer

end Exchange

/-! ## Results in step -/

namespace ResultSet

open Exchange
open Connection (SameRows)

section Items

variable {set : ResultSet} {script : CursorScript} {connection beside : Connection}
variable {leftItem rightItem : Type} {related : leftItem → rightItem → Prop}
variable {convert : List Value → Except Fault leftItem}
variable {otherConvert : List Value → Except Fault rightItem}

theorem inStep_fetchItem
    (agree : set.isReadable = true →
      ∀ values ∈ script.rows, Agree related (convert values) (otherConvert values))
    (same : SameRows set.cursor script connection beside) :
    InStep (SameRows set.cursor script) (Option.Rel related)
      (set.fetchItem convert) (set.fetchItem otherConvert) connection beside := by
  cases readable : set.isReadable with
  | false =>
      rw [fetchItem_of_not_readable readable, fetchItem_of_not_readable readable]
      exact inStep_pure same .none
  | true =>
      have values : set.fetchValues = fetch set.cursor := if_pos readable
      rw [fetchItem, fetchItem, values]
      refine (inStep_fetch same).bind ?_
      rintro row _ ⟨rfl, given⟩ connection beside same
      cases row with
      | none => exact inStep_pure same .none
      | some values =>
          have items := inStep_ofExcept same (agree readable values (given values rfl))
          exact items.bind_form fun _ _ holds => .some holds

/-- Steps that stay in step one at a time do so until the end. -/
theorem inStep_collect
    {step : Exchange (Option leftItem)} {otherStep : Exchange (Option rightItem)}
    {alike : Connection → Connection → Prop}
    (steps : ∀ connection beside, alike connection beside →
      InStep alike (Option.Rel related) step otherStep connection beside)
    (bound : Nat) {connection beside : Connection} (same : alike connection beside) :
    InStep alike (List.Forall₂ related) (collect step bound) (collect otherStep bound)
      connection beside := by
  induction bound generalizing connection beside with
  | zero => exact inStep_pure same .nil
  | succ bound inductionHypothesis =>
      refine (steps connection beside same).bind ?_
      rintro item found holds connection beside same
      cases holds with
      | none => exact inStep_pure same .nil
      | some holds =>
          exact (inductionHypothesis same).bind_form fun _ _ following =>
            .cons holds following

/-- Two ways of reading all rows of a result stay in step. -/
theorem inStep_collect_fetchItem
    (agree : set.isReadable = true →
      ∀ values ∈ script.rows, Agree related (convert values) (otherConvert values))
    (bound : Nat) (same : SameRows set.cursor script connection beside) :
    InStep (SameRows set.cursor script) (List.Forall₂ related)
      (collect (set.fetchItem convert) bound) (collect (set.fetchItem otherConvert) bound)
      connection beside :=
  inStep_collect (fun _ _ same => inStep_fetchItem agree same) bound same

end Items

end ResultSet

end BoundQuery
