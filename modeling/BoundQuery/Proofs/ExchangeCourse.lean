import BoundQuery.Execution

/-!
# The course of an exchange

What can be seen of an action on a connection is its answer and the requests that it
made, in order. Both together are its course. Notices go to the log and are left out
here, since no answer depends on them.

The statements give the course of each primitive request on a scripted connection, and
of each way of putting actions together from the courses of its parts.
-/

namespace BoundQuery

/-- A fresh connection whose cursors follow the given scripts. -/
def Connection.following (cursors : List CursorScript) : Connection :=
  .fresh (.scripted ⟨none, cursors, none⟩) none

/-- What an action gives in the end, and what it asked the connection until then. -/
structure Course (result : Type) where
  answer : Except Fault result
  asked : List Request

namespace Exchange

variable {result target : Type}

def answer (action : Exchange result) (connection : Connection) : Except Fault result :=
  match action connection with
  | .ok value _ => .ok value
  | .error fault _ => .error fault

def after (action : Exchange result) (connection : Connection) : Connection :=
  match action connection with
  | .ok _ next => next
  | .error _ next => next

/-- The requests that an action makes of a connection. -/
def asked (action : Exchange result) (connection : Connection) : List Request :=
  (action.after connection).requests.drop connection.requests.length

/-- An action on a connection takes a course. -/
structure Takes (action : Exchange result) (connection : Connection)
    (course : Course result) : Prop where
  answer : action.answer connection = course.answer
  backend : (action.after connection).backend = connection.backend
  status : (action.after connection).status = connection.status
  requests : (action.after connection).requests = connection.requests ++ course.asked

namespace Takes

variable {action : Exchange result} {connection : Connection} {course : Course result}

theorem asked_eq (takes : action.Takes connection course) :
    action.asked connection = course.asked := by
  rw [asked, takes.requests, List.drop_left]

theorem cursorScript (takes : action.Takes connection course) :
    (action.after connection).cursorScript = connection.cursorScript := by
  funext cursor
  rw [Connection.cursorScript, Connection.cursorScript, takes.backend]

theorem cursorCount (takes : action.Takes connection course) :
    (action.after connection).cursorCount =
      connection.cursorCount + course.asked.countP Request.isOpenCursor := by
  rw [Connection.cursorCount, takes.requests, List.countP_append]
  rfl

theorem fetchCount (takes : action.Takes connection course) (cursor : Nat) :
    (action.after connection).fetchCount cursor =
      connection.fetchCount cursor + course.asked.countP (Request.isFetchOf cursor) := by
  rw [Connection.fetchCount, takes.requests, List.countP_append]
  rfl

/-- The course of an action in terms of the action itself. -/
theorem own (takes : action.Takes connection course) :
    action.Takes connection ⟨action.answer connection, action.asked connection⟩ := by
  rw [takes.answer, takes.asked_eq]
  exact takes

end Takes

theorem Takes.of_eq
    {action other : Exchange result} {connection : Connection} {course : Course result}
    (takes : other.Takes connection course)
    (same : action connection = other connection) : action.Takes connection course := by
  have sameAnswer : Exchange.answer action connection = Exchange.answer other connection := by
    rw [Exchange.answer, Exchange.answer, same]
  have sameAfter : Exchange.after action connection = Exchange.after other connection := by
    rw [Exchange.after, Exchange.after, same]
  exact ⟨sameAnswer.trans takes.answer, sameAfter ▸ takes.backend,
    sameAfter ▸ takes.status, sameAfter ▸ takes.requests⟩

/-! ## Courses of single steps -/

theorem takes_pure (value : result) (connection : Connection) :
    (pure value : Exchange result).Takes connection ⟨.ok value, []⟩ :=
  ⟨rfl, rfl, rfl, (List.append_nil _).symm⟩

theorem takes_throw (fault : Fault) (connection : Connection) :
    (throw fault : Exchange result).Takes connection ⟨.error fault, []⟩ :=
  ⟨rfl, rfl, rfl, (List.append_nil _).symm⟩

theorem takes_ofExcept (given : Except Fault result) (connection : Connection) :
    (ofExcept given).Takes connection ⟨given, []⟩ := by
  cases given with
  | ok value => exact takes_pure value connection
  | error fault => exact takes_throw fault connection

theorem takes_notify (notice : Notice) (connection : Connection) :
    (notify notice).Takes connection ⟨.ok (), []⟩ :=
  ⟨rfl, rfl, rfl, (List.append_nil _).symm⟩

/-- The answer to a request after which an error is raised, if there is one. -/
def raising : Option Raised → Except Fault Unit
  | none => .ok ()
  | some error => .error (.raised error)

theorem raising_eq_ok_iff {error? : Option Raised} :
    raising error? = .ok () ↔ error? = none := by
  cases error? <;> simp [raising]

theorem raising_bind_eq_ok_iff
    {error? : Option Raised} {following : Unit → Except Fault target} {value : target} :
    (raising error? >>= following) = .ok value ↔ error? = none ∧ following () = .ok value := by
  cases error? with
  | none => exact ⟨fun gives => ⟨rfl, gives⟩, fun gives => gives.2⟩
  | some error => exact iff_of_false (fun gives => by cases gives) fun gives => by cases gives.1

theorem raising_bind_ok_eq_error_iff
    {error? : Option Raised} {value : target} {fault : Fault} :
    (raising error? >>= fun _ => Except.ok value) = .error fault ↔
      ∃ error, error? = some error ∧ fault = .raised error := by
  cases error? with
  | none =>
      exact iff_of_false (fun fails => by cases fails) fun ⟨_, raised, _⟩ => by cases raised
  | some error =>
      constructor
      · intro fails
        exact ⟨error, rfl, (Except.error.inj fails).symm⟩
      · rintro ⟨_, raised, rfl⟩
        cases raised
        rfl

theorem after_request (made : Request) (error : Option Raised) (connection : Connection) :
    (request made error).after connection = connection.recording made := by
  cases error <;> rfl

theorem after_fetch (cursor : Nat) (connection : Connection) :
    (fetch cursor).after connection = connection.recording (.fetch cursor) := by
  unfold after fetch
  cases (connection.cursorScript cursor).fetchAnswer (connection.fetchCount cursor) <;> rfl

section Requests

variable {connection : Connection} {script : Script}

theorem recording_of_scripted
    (scripted : connection.backend = .scripted script) (made : Request) :
    connection.recording made =
      { connection with requests := connection.requests ++ [made] } := by
  rw [Connection.recording, scripted]

theorem takes_request
    (scripted : connection.backend = .scripted script) (made : Request)
    (error : Option Raised) :
    (request made error).Takes connection ⟨raising error, [made]⟩ := by
  have after := after_request made error connection
  rw [recording_of_scripted scripted] at after
  refine ⟨?_, by rw [after], by rw [after], by rw [after]⟩
  cases error <;> rfl

theorem takes_fetch
    (scripted : connection.backend = .scripted script) (cursor : Nat) :
    (fetch cursor).Takes connection
      ⟨((connection.cursorScript cursor).fetchAnswer
          (connection.fetchCount cursor)).mapError .raised, [.fetch cursor]⟩ := by
  have after := after_fetch cursor connection
  rw [recording_of_scripted scripted] at after
  refine ⟨?_, by rw [after], by rw [after], by rw [after]⟩
  unfold Exchange.answer fetch
  cases (connection.cursorScript cursor).fetchAnswer (connection.fetchCount cursor) <;> rfl

theorem takes_execute
    (scripted : connection.backend = .scripted script) (cursor : Nat) (query : Text) :
    (execute cursor query).Takes connection
      ⟨raising (connection.cursorScript cursor).executeError, [.execute cursor query]⟩ := by
  apply (takes_request scripted (.execute cursor query) _).of_eq
  have error : executeError? connection cursor query =
      (connection.cursorScript cursor).executeError := by
    rw [executeError?, scripted]
  rw [execute, error]

theorem takes_closeCursor
    (scripted : connection.backend = .scripted script) (cursor : Nat) :
    (closeCursor cursor).Takes connection
      ⟨raising (connection.cursorScript cursor).closeError, [.closeCursor cursor]⟩ :=
  (takes_request scripted (.closeCursor cursor) _).of_eq rfl

end Requests

/-! ## Answers that are no interruptions -/

/-- A handler of ordinary errors takes the fault of an answer, if there is one. -/
def IsOrdinary (answer : Except Fault result) : Prop :=
  ∀ fault, answer = .error fault → fault.isInterruption = false

section Answers

theorem isOrdinary_ok (value : result) : IsOrdinary (.ok value) :=
  fun _ fails => by cases fails

theorem isOrdinary_error {fault : Fault} (ordinary : fault.isInterruption = false) :
    IsOrdinary (.error fault : Except Fault result) :=
  fun _ fails => Except.error.inj fails ▸ ordinary

theorem isOrdinary_raising
    {error? : Option Raised}
    (ordinary : ∀ error, error? = some error → error.isInterruption = false) :
    IsOrdinary (raising error?) := by
  cases error? with
  | none => exact isOrdinary_ok ()
  | some error => exact isOrdinary_error (ordinary error rfl)

theorem IsOrdinary.bind
    {answer : Except Fault result} {following : result → Except Fault target}
    (ordinary : IsOrdinary answer) (goesOn : ∀ value, IsOrdinary (following value)) :
    IsOrdinary (answer >>= following) := by
  cases answer with
  | ok value => exact goesOn value
  | error fault => exact isOrdinary_error (ordinary fault rfl)

theorem IsOrdinary.map
    {answer : Except Fault result} (ordinary : IsOrdinary answer)
    (form : result → target) : IsOrdinary (answer.map form) := by
  cases answer with
  | ok value => exact isOrdinary_ok (form value)
  | error fault => exact isOrdinary_error (ordinary fault rfl)

end Answers

/-! ## Courses of actions put together -/

section Combining

variable {first : Exchange result} {following : result → Exchange target}
variable {connection : Connection} {asked later : List Request}

theorem run_of_answer_eq_ok
    {action : Exchange result} {value : result}
    (gives : action.answer connection = .ok value) :
    action connection = .ok value (action.after connection) := by
  unfold answer at gives
  unfold after
  cases ran : action connection with
  | ok found next =>
      rw [ran] at gives
      cases gives
      rfl
  | error fault next =>
      rw [ran] at gives
      cases gives

theorem run_of_answer_eq_error
    {action : Exchange result} {fault : Fault}
    (fails : action.answer connection = .error fault) :
    action connection = .error fault (action.after connection) := by
  unfold answer at fails
  unfold after
  cases ran : action connection with
  | ok found next =>
      rw [ran] at fails
      cases fails
  | error found next =>
      rw [ran] at fails
      cases fails
      rfl

/-- An action that, after a first part, ends as another action does. -/
theorem Takes.followed
    {part : Exchange result} {whole rest : Exchange target}
    {begun : Except Fault result} {given : Except Fault target}
    (starts : part.Takes connection ⟨begun, asked⟩)
    (goesOn : rest.Takes (part.after connection) ⟨given, later⟩)
    (same : whole connection = rest (part.after connection)) :
    whole.Takes connection ⟨given, asked ++ later⟩ := by
  have sameAnswer : Exchange.answer whole connection =
      Exchange.answer rest (part.after connection) := by
    rw [Exchange.answer, Exchange.answer, same]
  have sameAfter : Exchange.after whole connection =
      Exchange.after rest (part.after connection) := by
    rw [Exchange.after, Exchange.after, same]
  refine ⟨sameAnswer.trans goesOn.answer, ?_, ?_, ?_⟩
  · rw [sameAfter, goesOn.backend, starts.backend]
  · rw [sameAfter, goesOn.status, starts.status]
  · rw [sameAfter, goesOn.requests, starts.requests, List.append_assoc]

theorem takes_bind_of_ok
    {value : result} {given : Except Fault target}
    (starts : first.Takes connection ⟨.ok value, asked⟩)
    (goesOn : (following value).Takes (first.after connection) ⟨given, later⟩) :
    (first >>= following).Takes connection ⟨given, asked ++ later⟩ := by
  apply starts.followed goesOn
  simp only [bind, EStateM.bind, run_of_answer_eq_ok starts.answer]

theorem takes_bind_of_error
    {fault : Fault} (fails : first.Takes connection ⟨.error fault, asked⟩) :
    (first >>= following).Takes connection ⟨.error fault, asked⟩ := by
  rw [← List.append_nil asked]
  apply fails.followed (takes_throw fault (first.after connection))
  simp only [bind, EStateM.bind, run_of_answer_eq_error fails.answer]
  rfl

theorem takes_bind_form
    {given : Except Fault result} (takes : first.Takes connection ⟨given, asked⟩)
    (form : result → target) :
    (first >>= fun value => pure (form value)).Takes connection
      ⟨given.map form, asked⟩ := by
  cases given with
  | error fault => exact takes_bind_of_error takes
  | ok value =>
      rw [← List.append_nil asked]
      exact takes_bind_of_ok takes (takes_pure (form value) _)

theorem takes_bind_pure
    {given : Except Fault result} (takes : first.Takes connection ⟨given, asked⟩)
    (value : target) :
    (first >>= fun _ => pure value).Takes connection
      ⟨given.map fun _ => value, asked⟩ :=
  takes_bind_form takes fun _ => value

/-- A cleanup always runs, and its fault takes the place of the answer. -/
theorem takes_ensuring
    {action : Exchange result} {cleanup : Exchange Unit} {given : Except Fault result}
    {cleaned : Except Fault Unit}
    (acts : action.Takes connection ⟨given, asked⟩)
    (cleans : cleanup.Takes (action.after connection) ⟨cleaned, later⟩) :
    (ensuring action cleanup).Takes connection
      ⟨cleaned >>= fun _ => given, asked ++ later⟩ := by
  have rest : (cleanup >>= fun _ => ofExcept given).Takes (action.after connection)
      ⟨cleaned >>= fun _ => given, later⟩ := by
    cases cleaned with
    | error fault => exact takes_bind_of_error cleans
    | ok done =>
        rw [← List.append_nil later]
        exact takes_bind_of_ok cleans (takes_ofExcept given _)
  apply acts.followed rest
  unfold ensuring
  cases given with
  | ok value =>
      rw [run_of_answer_eq_ok acts.answer]
      simp only [bind, EStateM.bind]
      cases cleanup (action.after connection) <;> rfl
  | error fault =>
      rw [run_of_answer_eq_error acts.answer]
      simp only [bind, EStateM.bind]
      cases cleanup (action.after connection) <;> rfl

section Handling

variable {action : Exchange result} {handler : Fault → Exchange result}

theorem takes_handling_of_ok
    {value : result} (gives : action.Takes connection ⟨.ok value, asked⟩) :
    (handling action handler).Takes connection ⟨.ok value, asked⟩ := by
  apply gives.of_eq
  rw [handling, run_of_answer_eq_ok gives.answer]

theorem takes_handling_of_interruption
    {fault : Fault} (fails : action.Takes connection ⟨.error fault, asked⟩)
    (interrupts : fault.isInterruption = true) :
    (handling action handler).Takes connection ⟨.error fault, asked⟩ := by
  apply fails.of_eq
  rw [handling, run_of_answer_eq_error fails.answer]
  simp only [interrupts, if_true]

/-- A fault that is no interruption is left to the handler. -/
theorem takes_handling_of_fault
    {fault : Fault} {given : Except Fault result}
    (fails : action.Takes connection ⟨.error fault, asked⟩)
    (ordinary : fault.isInterruption = false)
    (handles : (handler fault).Takes (action.after connection) ⟨given, later⟩) :
    (handling action handler).Takes connection ⟨given, asked ++ later⟩ := by
  apply fails.followed handles
  rw [handling, run_of_answer_eq_error fails.answer]
  simp only [ordinary, Bool.false_eq_true, if_false]

/-- A handler that only words a fault anew, and leaves interruptions as they are. -/
theorem takes_rewording
    {given : Except Fault result} {wording : Fault → Fault}
    (takes : action.Takes connection ⟨given, asked⟩)
    (keeps : ∀ fault, fault.isInterruption = true → wording fault = fault) :
    (handling action fun fault => throw (wording fault)).Takes connection
      ⟨given.mapError wording, asked⟩ := by
  cases given with
  | ok value => exact takes_handling_of_ok takes
  | error fault =>
      by_cases interrupts : fault.isInterruption = true
      · have kept : (Except.error fault : Except Fault result).mapError wording =
            .error fault := congrArg Except.error (keeps fault interrupts)
        rw [kept]
        exact takes_handling_of_interruption takes interrupts
      · rw [← List.append_nil asked]
        exact takes_handling_of_fault takes (Bool.eq_false_iff.mpr interrupts)
          (takes_throw (wording fault) _)

end Handling

end Combining

/-! ## Cursors -/

section Cursors

variable {connection : Connection} {script : Script}

theorem openCursor_eq_bind (connection : Connection) :
    openCursor connection =
      (request (.openCursor connection.cursorCount)
        (connection.cursorScript connection.cursorCount).openError >>= fun _ =>
          pure connection.cursorCount) connection := by
  simp only [bind, EStateM.bind, openCursor]
  cases request (.openCursor connection.cursorCount)
    (connection.cursorScript connection.cursorCount).openError connection <;> rfl

theorem takes_openCursor (scripted : connection.backend = .scripted script) :
    openCursor.Takes connection
      ⟨(raising (connection.cursorScript connection.cursorCount).openError).map
          fun _ => connection.cursorCount,
        [.openCursor connection.cursorCount]⟩ := by
  have asks := takes_request scripted (.openCursor connection.cursorCount)
    (connection.cursorScript connection.cursorCount).openError
  have same := openCursor_eq_bind connection
  cases error : (connection.cursorScript connection.cursorCount).openError with
  | none =>
      rw [error] at asks same
      exact (takes_bind_of_ok asks (takes_pure connection.cursorCount _)).of_eq same
  | some raised =>
      rw [error] at asks same
      exact (takes_bind_of_error asks).of_eq same

theorem takes_withCursor_of_error
    (action : Nat → Exchange result) (scripted : connection.backend = .scripted script)
    {error : Raised}
    (refused :
      (connection.cursorScript connection.cursorCount).openError = some error) :
    (withCursor action).Takes connection
      ⟨.error (.raised error), [.openCursor connection.cursorCount]⟩ := by
  have opens := takes_openCursor scripted
  rw [refused] at opens
  exact takes_bind_of_error opens

/-- An action on a cursor of its own, which is closed after it whatever happens. -/
theorem takes_withCursor_of_open
    (action : Nat → Exchange result) (scripted : connection.backend = .scripted script)
    {given : Except Fault result} {asked : List Request}
    (opened : (connection.cursorScript connection.cursorCount).openError = none)
    (acts : (action connection.cursorCount).Takes (openCursor.after connection)
      ⟨given, asked⟩) :
    (withCursor action).Takes connection
      ⟨raising (connection.cursorScript connection.cursorCount).closeError >>=
          fun _ => given,
        .openCursor connection.cursorCount ::
          (asked ++ [.closeCursor connection.cursorCount])⟩ := by
  have opens := takes_openCursor scripted
  rw [opened] at opens
  have scriptedThen := acts.backend.trans (opens.backend.trans scripted)
  have closes := takes_closeCursor scriptedThen connection.cursorCount
  rw [acts.cursorScript, opens.cursorScript] at closes
  exact takes_bind_of_ok opens (takes_ensuring acts closes)

end Cursors

end Exchange

end BoundQuery
