import BoundQuery.Proofs.ExchangeCourse
import Mathlib.Order.Defs.Unbundled

/-!
# What actions keep

An action takes a connection to another one. A relation between the two that is
reflexive and transitive passes from the parts of an action to the whole: requests that
no part makes are not made at all, and notices that no part gives are not given.

The statements give the connection after each way of putting actions together and the
answer that it gives, and the law by which such a relation passes through it.
-/

namespace BoundQuery

namespace Exchange

variable {result target : Type}

/-! ## Connections after actions put together -/

section After

variable {connection : Connection}

theorem after_eq_of_eq
    {action other : Exchange result} {begun : Connection}
    (same : action connection = other begun) :
    action.after connection = other.after begun := by
  rw [after, after, same]

theorem after_bind_of_ok
    {first : Exchange result} {following : result → Exchange target} {value : result}
    (gives : first.answer connection = .ok value) :
    (first >>= following).after connection =
      (following value).after (first.after connection) := by
  apply after_eq_of_eq
  simp only [bind, EStateM.bind, run_of_answer_eq_ok gives]

theorem after_bind_of_error
    {first : Exchange result} {following : result → Exchange target} {fault : Fault}
    (fails : first.answer connection = .error fault) :
    (first >>= following).after connection = first.after connection := by
  have same : (first >>= following) connection =
      (throw fault : Exchange target) (first.after connection) := by
    simp only [bind, EStateM.bind, run_of_answer_eq_error fails]
    rfl
  exact after_eq_of_eq same

theorem after_bind_pure
    (action : Exchange result) (form : result → target) (connection : Connection) :
    (action >>= fun value => pure (form value)).after connection =
      action.after connection := by
  cases ended : action.answer connection with
  | ok value => exact after_bind_of_ok ended
  | error fault => exact after_bind_of_error ended

theorem after_ensuring
    (action : Exchange result) (cleanup : Exchange Unit) (connection : Connection) :
    (ensuring action cleanup).after connection =
      cleanup.after (action.after connection) := by
  unfold after ensuring
  cases action connection with
  | ok value next => cases cleaned : cleanup next <;> simp only [cleaned]
  | error fault next => cases cleaned : cleanup next <;> simp only [cleaned]

section Handling

variable {action : Exchange result} {handler : Fault → Exchange result}

theorem after_handling_of_ok
    {value : result} (gives : action.answer connection = .ok value) :
    (handling action handler).after connection = action.after connection := by
  apply after_eq_of_eq
  rw [handling, run_of_answer_eq_ok gives]

theorem after_handling_of_interruption
    {fault : Fault} (fails : action.answer connection = .error fault)
    (interrupts : fault.isInterruption = true) :
    (handling action handler).after connection = action.after connection := by
  apply after_eq_of_eq
  rw [handling, run_of_answer_eq_error fails]
  simp only [interrupts, if_true]

theorem after_handling_of_fault
    {fault : Fault} (fails : action.answer connection = .error fault)
    (ordinary : fault.isInterruption = false) :
    (handling action handler).after connection =
      (handler fault).after (action.after connection) := by
  apply after_eq_of_eq
  rw [handling, run_of_answer_eq_error fails]
  simp only [ordinary, Bool.false_eq_true, if_false]

end Handling

end After

/-! ## Answers of actions put together -/

section Answers

variable {connection : Connection}

theorem answer_eq_of_eq
    {action other : Exchange result} {begun : Connection}
    (same : action connection = other begun) :
    action.answer connection = other.answer begun := by
  rw [answer, answer, same]

theorem answer_bind_of_ok
    {first : Exchange result} {following : result → Exchange target} {value : result}
    (gives : first.answer connection = .ok value) :
    (first >>= following).answer connection =
      (following value).answer (first.after connection) := by
  apply answer_eq_of_eq
  simp only [bind, EStateM.bind, run_of_answer_eq_ok gives]

theorem answer_bind_of_error
    {first : Exchange result} {following : result → Exchange target} {fault : Fault}
    (fails : first.answer connection = .error fault) :
    (first >>= following).answer connection = .error fault := by
  have same : (first >>= following) connection =
      (throw fault : Exchange target) (first.after connection) := by
    simp only [bind, EStateM.bind, run_of_answer_eq_error fails]
    rfl
  exact answer_eq_of_eq same

theorem answer_ensuring
    (action : Exchange result) (cleanup : Exchange Unit) (connection : Connection) :
    (ensuring action cleanup).answer connection =
      cleanup.answer (action.after connection) >>= fun _ => action.answer connection := by
  unfold answer after ensuring
  cases action connection with
  | ok value next => cases cleaned : cleanup next <;> simp only [cleaned] <;> rfl
  | error fault next => cases cleaned : cleanup next <;> simp only [cleaned] <;> rfl

section Handling

variable {action : Exchange result} {handler : Fault → Exchange result}

theorem answer_handling_of_interruption
    {fault : Fault} (fails : action.answer connection = .error fault)
    (interrupts : fault.isInterruption = true) :
    (handling action handler).answer connection = .error fault := by
  have same : handling action handler connection =
      (throw fault : Exchange result) (action.after connection) := by
    rw [handling, run_of_answer_eq_error fails]
    simp only [interrupts, if_true]
    rfl
  exact answer_eq_of_eq same

theorem answer_handling_of_fault
    {fault : Fault} (fails : action.answer connection = .error fault)
    (ordinary : fault.isInterruption = false) :
    (handling action handler).answer connection =
      (handler fault).answer (action.after connection) := by
  apply answer_eq_of_eq
  rw [handling, run_of_answer_eq_error fails]
  simp only [ordinary, Bool.false_eq_true, if_false]

end Handling

end Answers

/-! ## Relations that pass through actions -/

/-- A relation holds between every connection and the one that an action leaves. -/
def Keeps (relation : Connection → Connection → Prop) (action : Exchange result) : Prop :=
  ∀ connection, relation connection (action.after connection)

section Laws

variable {relation : Connection → Connection → Prop} [IsPreorder Connection relation]

theorem keeps_pure (value : result) : (pure value : Exchange result).Keeps relation :=
  fun connection => refl_of relation connection

theorem keeps_throw (fault : Fault) : (throw fault : Exchange result).Keeps relation :=
  fun connection => refl_of relation connection

theorem keeps_ofExcept (given : Except Fault result) : (ofExcept given).Keeps relation := by
  cases given with
  | ok value => exact keeps_pure value
  | error fault => exact keeps_throw fault

theorem keeps_bind
    {first : Exchange result} {following : result → Exchange target}
    (begins : first.Keeps relation) (goesOn : ∀ value, (following value).Keeps relation) :
    (first >>= following).Keeps relation := by
  intro connection
  cases ended : first.answer connection with
  | error fault =>
      rw [after_bind_of_error ended]
      exact begins connection
  | ok value =>
      rw [after_bind_of_ok ended]
      exact trans_of relation (begins connection) (goesOn value _)

theorem keeps_ensuring
    {action : Exchange result} {cleanup : Exchange Unit}
    (acts : action.Keeps relation) (cleans : cleanup.Keeps relation) :
    (ensuring action cleanup).Keeps relation := by
  intro connection
  rw [after_ensuring]
  exact trans_of relation (acts connection) (cleans _)

theorem keeps_handling
    {action : Exchange result} {handler : Fault → Exchange result}
    (acts : action.Keeps relation) (handles : ∀ fault, (handler fault).Keeps relation) :
    (handling action handler).Keeps relation := by
  intro connection
  cases ended : action.answer connection with
  | ok value =>
      rw [after_handling_of_ok ended]
      exact acts connection
  | error fault =>
      cases interrupts : fault.isInterruption with
      | true =>
          rw [after_handling_of_interruption ended interrupts]
          exact acts connection
      | false =>
          rw [after_handling_of_fault ended interrupts]
          exact trans_of relation (acts connection) (handles fault _)

theorem keeps_onFault
    {action : Exchange result} {cleanup : Exchange Unit}
    (acts : action.Keeps relation) (cleans : cleanup.Keeps relation) :
    (onFault action cleanup).Keeps relation :=
  keeps_handling acts fun fault => keeps_bind cleans fun _ => keeps_throw fault

end Laws

/-! ## Relations that pass through requests -/

/-- A relation holds between every connection and the one with a request recorded. -/
def Records (relation : Connection → Connection → Prop) (made : Request) : Prop :=
  ∀ connection : Connection, relation connection (connection.recording made)

section Requests

variable {relation : Connection → Connection → Prop}

theorem keeps_request {made : Request} (records : Records relation made)
    (error : Option Raised) : (request made error).Keeps relation := by
  intro connection
  rw [after_request]
  exact records connection

theorem keeps_execute {cursor : Nat} {query : Text}
    (records : Records relation (.execute cursor query)) :
    (execute cursor query).Keeps relation :=
  fun connection => keeps_request records _ connection

theorem keeps_closeCursor {cursor : Nat}
    (records : Records relation (.closeCursor cursor)) :
    (closeCursor cursor).Keeps relation :=
  fun connection => keeps_request records _ connection

theorem keeps_fetch {cursor : Nat} (records : Records relation (.fetch cursor)) :
    (fetch cursor).Keeps relation := by
  intro connection
  rw [after_fetch]
  exact records connection

variable [IsPreorder Connection relation]

theorem keeps_openCursor (records : ∀ cursor, Records relation (.openCursor cursor)) :
    openCursor.Keeps relation := by
  intro connection
  rw [after_eq_of_eq (openCursor_eq_bind connection)]
  exact keeps_bind (keeps_request (records connection.cursorCount) _)
    (fun _ => keeps_pure connection.cursorCount) connection

theorem keeps_withCursor
    {action : Nat → Exchange result} (acts : ∀ cursor, (action cursor).Keeps relation)
    (opens : ∀ cursor, Records relation (.openCursor cursor))
    (closes : ∀ cursor, Records relation (.closeCursor cursor)) :
    (withCursor action).Keeps relation :=
  keeps_bind (keeps_openCursor opens) fun cursor =>
    keeps_ensuring (acts cursor) (keeps_closeCursor (closes cursor))

end Requests

end Exchange

end BoundQuery
