import SqlGateway.Proofs.Trace.History

/-!
# The transaction machine

An executor has at most one transaction, and the table of the executor says what each call makes of
it. Here the table is a relation between the transaction before a call, the call, what the call
asked of the backend, its answer and the transaction after it. It is written down without a look at
the definition of the calls, and every history of an executor follows it, whatever the backend
answers and whatever its hooks do.

## Balance

The backend cannot see that a transaction is forgotten: it is told of a beginning and then, if the
connection is lost, of nothing more until the next one. So the balance of beginnings and ends is
stated with a mark for the call that was refused. A commit or a rollback always ends a transaction
that the backend has begun and not ended since.
-/

namespace SqlGateway

open Trace

variable {W : Type}

namespace Trace

/-! ## What an execution may do -/

/-- Calls that run a text with parameters, and their error codes. -/
inductive Call.Executes : Call W → String → List Parameter → String → Prop where
  | now (sql : String) (parameters : List Parameter) (code : String) (operation : Operation) :
      Executes (.execute sql parameters code operation) sql parameters code
  | later (sql : String) (parameters : List Parameter) (code : String) (operation : Operation)
      (token : Cancellation W) :
      Executes (.executeAsync sql parameters code operation token) sql parameters code

/-- Calls that only change what is shown the commands. -/
inductive Call.Hooks : Call W → Prop where
  | setBefore (hook : Hook W) : Hooks (.setBefore hook)
  | setAfter (hook : Hook W) : Hooks (.setAfter hook)
  | clearHooks : Hooks .clearHooks

/-- A command for a text and parameters, tagged with the transaction. -/
structure Tagged (transaction : Option ActiveTransaction) (sql : String)
    (parameters : List Parameter) (command : Command) : Prop where
  sql_eq : command.sql = sql
  parameters_eq : command.parameters = Inference.infer sql parameters
  transaction_eq : command.transaction = transaction.map (·.id)

/-! ## The machine -/

/-- What is noted when the connection is found open, or is opened. -/
inductive Opening : List Event → Prop where
  | found : Opening [.looked .open]
  | foundLate : Opening [.looked .closed, .looked .open]
  | opened : Opening [.looked .closed, .looked .closed, .opened (.ok ())]

/-- The transitions of the machine: the transaction, the call, what it noted, what came of it, and
the transaction then. -/
inductive Transition : Option ActiveTransaction → Call W → List Event → Outcome →
    Option ActiveTransaction → Prop where
  /-- The id is drawn in this very call, after the backend has begun. -/
  | begun {opening : List Event} (isolation : Option IsolationLevel) (id : Uuid)
      (hopening : Opening opening) :
      Transition none (.begin isolation) (opening ++ [.began isolation (.ok ()), .named id])
        (.ok (.ok none)) (some ⟨id, isolation⟩)
  | unopened (isolation : Option IsolationLevel) (e : BackendError) :
      Transition none (.begin isolation) [.looked .closed, .looked .closed, .opened (.error e)]
        (.ok (.error (.connection e))) none
  | unbegun {opening : List Event} (isolation : Option IsolationLevel) (e : BackendError)
      (hopening : Opening opening) :
      Transition none (.begin isolation) (opening ++ [.began isolation (.error e)])
        (.ok (.error (.transaction e))) none
  | alreadyBegun (transaction : ActiveTransaction) (isolation : Option IsolationLevel) :
      Transition (some transaction) (.begin isolation) []
        (.ok (.error .transactionAlreadyStarted)) (some transaction)
  | committed (transaction : ActiveTransaction) (answer : BackendResult Unit) :
      Transition (some transaction) .commit [.committed answer]
        (.ok ((answer.mapError .transaction).map fun () ↦ none)) none
  | rolledBack (transaction : ActiveTransaction) (answer : BackendResult Unit) :
      Transition (some transaction) .rollback [.rolledBack answer]
        (.ok ((answer.mapError .transaction).map fun () ↦ none)) none
  | nothingToCommit : Transition none .commit [] (.ok (.ok none)) none
  | nothingToRollBack : Transition none .rollback [] (.ok (.ok none)) none
  /-- The connection is lost, and the transaction with it. -/
  | lost {call : Call W} {sql : String} {parameters : List Parameter} {code : String}
      {command : Command} (transaction : ActiveTransaction)
      (hcall : call.Executes sql parameters code)
      (hcommand : Tagged (some transaction) sql parameters command) :
      Transition (some transaction) call [.looked .closed]
        (.ok (.error (Executor.executionError command code Executor.connectionLost))) none
  /-- The connection was closed and cannot be opened. -/
  | unreached {call : Call W} {sql : String} {parameters : List Parameter} {code : String}
      (transaction : Option ActiveTransaction) (hcall : call.Executes sql parameters code)
      (e : BackendError) :
      Transition transaction call
        (Executor.check transaction ++ [.looked .closed, .looked .closed, .opened (.error e)])
        (.ok (.error (.connection e))) transaction
  /-- The backend can be reached; how the execution goes from there does not matter. -/
  | executed {call : Call W} {sql : String} {parameters : List Parameter} {code : String}
      {opening more : List Event} {command : Command} (transaction : Option ActiveTransaction)
      (hcall : call.Executes sql parameters code) (hopening : Opening opening)
      (hcommand : Tagged transaction sql parameters command)
      (hmore : ∀ event ∈ more, event.Concerns command) (outcome : Outcome) :
      Transition transaction call (Executor.check transaction ++ opening ++ more) outcome
        transaction
  | hooked {call : Call W} (transaction : Option ActiveTransaction) (hcall : call.Hooks) :
      Transition transaction call [] (.ok (.ok none)) transaction

/-! ## Balance -/

/-- What matters to the balance of beginnings and ends. -/
inductive Mark where
  | begun | ended | forgotten
deriving Repr, DecidableEq

/-- The mark of an event. -/
def Event.mark? : Event → Option Mark
  | .began _ (.ok ()) => some .begun
  | .committed _ | .rolledBack _ => some .ended
  | _ => none

/-- Whether nothing but a lost connection was noted: so it is in calls that are refused, and in no
others. -/
def isRefusal : List Event → Bool
  | [.looked .closed] => true
  | _ => false

/-- The marks of what was noted during a call. -/
def marks (events : List Event) : List Mark :=
  if isRefusal events then [.forgotten] else events.filterMap Event.mark?

/-- Beginnings alternate with what ends or forgets them. The two truth values say whether a
transaction is active at first and at last. -/
inductive Alternates : Bool → List Mark → Bool → Prop where
  | nil (active : Bool) : Alternates active [] active
  | begun {marks : List Mark} {last : Bool} (h : Alternates true marks last) :
      Alternates false (.begun :: marks) last
  | ended {marks : List Mark} {last : Bool} (h : Alternates false marks last) :
      Alternates true (.ended :: marks) last
  | forgotten {marks : List Mark} {last : Bool} (h : Alternates false marks last) :
      Alternates true (.forgotten :: marks) last

theorem Alternates.append {first middle last : Bool} {these those : List Mark}
    (h : Alternates first these middle) (h' : Alternates middle those last) :
    Alternates first (these ++ those) last := by
  induction h with
  | nil => exact h'
  | begun _ ih => exact .begun (ih h')
  | ended _ ih => exact .ended (ih h')
  | forgotten _ ih => exact .forgotten (ih h')

/-- What the backend is told of. -/
def told (marks : List Mark) : List Mark := marks.filter (· ≠ .forgotten)

theorem getLast?_cons_of_eq_some {first last : Mark} {marks : List Mark}
    (h : marks.getLast? = some last) : (first :: marks).getLast? = some last := by
  rw [List.getLast?_cons, h]
  rfl

/-- Of beginnings and ends that alternate, the backend is told of each end right after the beginning
of what it ends. -/
theorem Alternates.told_before_ended {first last : Bool} {marks before after : List Mark}
    (h : Alternates first marks last) (htold : told marks = before ++ .ended :: after) :
    before = [] ∧ first = true ∨ before.getLast? = some .begun := by
  induction h generalizing before with
  | nil =>
    cases before <;> cases htold
  | @begun marks last _ ih =>
    change .begun :: told marks = _ at htold
    cases before with
    | nil => cases htold
    | cons mark before =>
      obtain ⟨rfl, hrest⟩ := List.cons.inj htold
      obtain ⟨rfl, -⟩ | hbefore := ih hrest
      · exact .inr rfl
      · exact .inr (getLast?_cons_of_eq_some hbefore)
  | @ended marks last _ ih =>
    change .ended :: told marks = _ at htold
    cases before with
    | nil => exact .inl ⟨rfl, rfl⟩
    | cons mark before =>
      obtain ⟨rfl, hrest⟩ := List.cons.inj htold
      -- Nothing is active behind an end, so the next end has a beginning of its own.
      obtain ⟨-, hfalse⟩ | hbefore := ih hrest
      · cases hfalse
      · exact .inr (getLast?_cons_of_eq_some hbefore)
  | @forgotten marks last _ ih =>
    obtain ⟨-, hfalse⟩ | hbefore := ih htold
    · cases hfalse
    · exact .inr hbefore

theorem Event.mark_ne_forgotten {event : Event} {mark : Mark} (h : event.mark? = some mark) :
    mark ≠ .forgotten := by
  rintro rfl
  cases event with
  | began isolation answer => cases answer <;> cases h
  | _ => cases h

/-- The marks of a call of which the backend is told are those in its log. -/
theorem told_marks (events : List Event) : told (marks events) = events.filterMap Event.mark? := by
  rw [marks]
  split
  next h =>
    match events, h with
    | [.looked .closed], _ => rfl
  next =>
    refine List.filter_eq_self.mpr fun mark hmem ↦ ?_
    obtain ⟨event, -, hevent⟩ := List.mem_filterMap.mp hmem
    exact decide_eq_true (Event.mark_ne_forgotten hevent)

theorem Event.Concerns.mark_eq_none {command : Command} {event : Event}
    (h : event.Concerns command) : event.mark? = none := by
  cases event with
  | asked | interrupted | called | answered | shown => rfl
  | looked | opened | closed | began | committed | rolledBack | named => cases h

theorem filterMap_mark_eq_nil {command : Command} {events : List Event}
    (h : ∀ event ∈ events, event.Concerns command) : events.filterMap Event.mark? = [] :=
  List.filterMap_eq_nil_iff.mpr fun event hmem ↦ (h event hmem).mark_eq_none

theorem Opening.marks_append {opening : List Event} (h : Opening opening) (more : List Event) :
    marks (opening ++ more) = more.filterMap Event.mark? := by
  cases h <;> rfl

theorem marks_executed {opening more : List Event} {command : Command}
    (transaction : Option ActiveTransaction) (hopening : Opening opening)
    (hmore : ∀ event ∈ more, event.Concerns command) :
    marks (Executor.check transaction ++ opening ++ more) = [] := by
  have hmarks := filterMap_mark_eq_nil hmore
  cases transaction with
  | none => rw [Executor.check, List.nil_append, hopening.marks_append, hmarks]
  | some transaction => cases hopening <;> exact hmarks

/-- A transition changes at most once whether a transaction is active, and has the mark of it. -/
theorem Transition.alternates {before after : Option ActiveTransaction} {call : Call W}
    {events : List Event} {outcome : Outcome} (h : Transition before call events outcome after) :
    Alternates before.isSome (marks events) after.isSome := by
  cases h with
  | begun isolation id hopening =>
    rw [hopening.marks_append]
    exact .begun (.nil true)
  | unopened => exact .nil false
  | unbegun isolation e hopening =>
    rw [hopening.marks_append]
    exact .nil false
  | alreadyBegun => exact .nil true
  | committed | rolledBack => exact .ended (.nil false)
  | nothingToCommit | nothingToRollBack => exact .nil false
  | lost => exact .forgotten (.nil false)
  | unreached => cases before <;> exact .nil _
  | executed transaction hcall hopening hcommand hmore =>
    rw [marks_executed before hopening hmore]
    exact .nil _
  | hooked => exact .nil _

end Trace

namespace Executor

variable {executor left : Executor W} {events : List Event}

/-! ## Every call is a transition -/

theorem EnsuredOpen.opening (h : EnsuredOpen executor events (.ok ()) left) : Opening events := by
  cases h with
  | found => exact .found
  | foundLate => exact .foundLate
  | opened => exact .opened

theorem EnsuredOpen.failure {e : Error} (h : EnsuredOpen executor events (.error e) left) :
    ∃ failure, e = .connection failure ∧
      events = [.looked .closed, .looked .closed, .opened (.error failure)] := by
  cases h with
  | failed failure => exact ⟨failure, rfl, rfl⟩

theorem EnsuredOpen.transaction_eq {answer : Result Unit}
    (h : EnsuredOpen executor events answer left) : left.transaction = executor.transaction := by
  obtain ⟨closed, rfl⟩ := h.frame
  rfl

theorem Began.transition {isolation : Option IsolationLevel} {answer : Result Unit}
    (h : executor.Began isolation events answer left) :
    Transition executor.transaction (.begin isolation : Call W) events
      (.ok (answer.map fun () ↦ none)) left.transaction := by
  cases h with
  | refused hactive =>
    rw [hactive]
    exact .alreadyBegun _ isolation
  | unopened hidle hopen =>
    obtain ⟨failure, rfl, rfl⟩ := hopen.failure
    rw [hopen.transaction_eq, hidle]
    exact .unopened isolation failure
  | failed e hidle hopen =>
    rw [hopen.transaction_eq, hidle]
    exact .unbegun isolation e hopen.opening
  | begun id hidle hopen =>
    rw [hidle]
    exact .begun isolation id hopen.opening

theorem tagged_commandNow (executor : Executor W) (sql : String) (parameters : List Parameter) :
    Tagged executor.transaction sql parameters (executor.commandNow sql parameters) :=
  ⟨rfl, rfl, rfl⟩

theorem Ran.transition {call : Call W} {sql : String} {parameters : List Parameter} {code : String}
    {outcome : Except Panic (Result Output)} (hcall : call.Executes sql parameters code)
    (h : executor.Ran sql parameters code events outcome left) :
    Transition executor.transaction call events (outcome.map (·.map some)) left.transaction := by
  have htagged := executor.tagged_commandNow sql parameters
  cases h with
  | lost hactive =>
    obtain ⟨transaction, htransaction⟩ := Option.isSome_iff_exists.mp hactive
    rw [htransaction] at htagged ⊢
    exact .lost transaction hcall htagged
  | unopened hopen =>
    obtain ⟨failure, rfl, rfl⟩ := hopen.failure
    rw [hopen.transaction_eq]
    exact .unreached _ hcall failure
  | ran hopen hmore outcome =>
    rw [hopen.transaction_eq]
    exact .executed _ hcall hopen.opening htagged hmore _

/-- A single call is a transition of the machine. -/
theorem transition_of_went {call : Call W} {outcome : Outcome}
    (h : call.Went executor events outcome left) :
    Transition executor.transaction call events outcome left.transaction := by
  cases h with
  | begin h => exact h.transition
  | commit h =>
    cases h with
    | idle hidle =>
      rw [hidle]
      exact .nothingToCommit
    | ended answer hactive =>
      rw [hactive]
      exact .committed _ answer
  | rollback h =>
    cases h with
    | idle hidle =>
      rw [hidle]
      exact .nothingToRollBack
    | ended answer hactive =>
      rw [hactive]
      exact .rolledBack _ answer
  | execute operation h => exact h.transition (.now _ _ _ operation)
  | executeAsync operation token h => exact h.transition (.later _ _ _ operation token)
  | setBefore hook => exact .hooked _ (.setBefore hook)
  | setAfter hook => exact .hooked _ (.setAfter hook)
  | clearHooks => exact .hooked _ .clearHooks

/-- What the backend is told of in a history is in the log. -/
theorem told_flatMap_marks (moments : List (Moment W)) :
    told (moments.flatMap fun moment ↦ marks moment.events) =
      (moments.flatMap Moment.events).filterMap Event.mark? := by
  rw [told, List.filter_flatMap, List.filterMap_flatMap]
  exact congrArg (List.flatMap · moments) (funext fun moment ↦ told_marks moment.events)

theorem transition_of_mem_history [IdSource W] (calls : List (Call W)) (scene : Scene W)
    (log : List Event) : ∀ moment ∈ history calls (scene.recorded log),
      Transition moment.transaction moment.call moment.events moment.outcome
        moment.left.executor.transaction := by
  refine history_induction (motive := fun _ _ moments _ ↦ ∀ moment ∈ moments,
    Transition moment.transaction moment.call moment.events moment.outcome
      moment.left.executor.transaction) ?_ ?_ calls scene log
  · intro scene log moment hmem
    cases hmem
  · intro call scene left log events outcome moments final hwent ih
    refine List.forall_mem_cons.mpr ⟨?_, ih⟩
    rw [Moment.events_mk]
    exact transition_of_went hwent

theorem history_alternates [IdSource W] (calls : List (Call W)) (scene : Scene W)
    (log : List Event) :
    Alternates scene.executor.isActive
      ((history calls (scene.recorded log)).flatMap fun moment ↦ marks moment.events)
      (last calls (scene.recorded log)).executor.isActive := by
  refine history_induction (motive := fun scene _ moments final ↦
    Alternates scene.executor.isActive (moments.flatMap fun moment ↦ marks moment.events)
      final.executor.isActive) ?_ ?_ calls scene log
  · intro scene log
    exact .nil _
  · intro call scene left log events outcome moments final hwent ih
    rw [List.flatMap_cons, Moment.events_mk]
    exact (transition_of_went hwent).alternates.append ih

/-- **Every history follows the machine**: each call is a transition of it, the log is what the
calls noted, and beginnings alternate with what ends or forgets them. So the backend is asked to
commit or to roll back only if the last thing it was told of transactions is that one begins. -/
theorem history_transitions [IdSource W] (calls : List (Call W)) (scene : Scene W)
    (log : List Event) :
    let moments := history calls (scene.recorded log)
    let final := last calls (scene.recorded log)
    (∀ moment ∈ moments, Transition moment.transaction moment.call moment.events moment.outcome
      moment.left.executor.transaction) ∧
    final.world.log = log ++ moments.flatMap Moment.events ∧
    Alternates scene.executor.isActive (moments.flatMap fun moment ↦ marks moment.events)
      final.executor.isActive ∧
    ∀ before after,
      (moments.flatMap Moment.events).filterMap Event.mark? = before ++ .ended :: after →
      before = [] ∧ scene.executor.isActive = true ∨ before.getLast? = some .begun := by
  have halternates := history_alternates calls scene log
  refine ⟨transition_of_mem_history calls scene log, log_last calls scene log, halternates, ?_⟩
  intro before after h
  rw [← told_flatMap_marks] at h
  exact halternates.told_before_ended h

end Executor

end SqlGateway
