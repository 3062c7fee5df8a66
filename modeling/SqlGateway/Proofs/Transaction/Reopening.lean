import Mathlib.Data.List.Induction
import SqlGateway.Dialect.SqlServer
import SqlGateway.Proofs.Transaction.Machine

/-!
# Reopening under a transaction

A transaction lives on the opening of the connection that it was begun on. Under a transaction an
execution first checks that the connection is not lost, and then makes sure that it is open. Each
of these steps reads the state of the connection for itself, so a connection that is lost between
them passes the check and is opened again under the transaction.

This is the only way: a connection is opened under a transaction exactly when the readings were
open, closed and closed again. In histories without such readings every command of a transaction
reaches the backend on the opening on which the transaction was begun.
-/

namespace SqlGateway

open Trace

variable {W : Type}

namespace Trace

/-! ## Lost between two readings -/

/-- What is noted of a connection that is lost after it was checked and before it is made sure to
be open. -/
def lostUnseen : List Event := [.looked .open, .looked .closed, .looked .closed]

/-- Events that neither open nor close a connection, nor begin or end a transaction. -/
def Event.Keeps : Event → Prop
  | .opened _ | .closed _ | .began _ _ | .committed _ | .rolledBack _ | .named _ => False
  | .looked _ | .asked _ | .interrupted | .called _ _ | .answered _ | .shown _ _ => True

theorem Event.Concerns.keeps {command : Command} {event : Event} (h : event.Concerns command) :
    event.Keeps := by
  cases event with
  | asked | interrupted | called | answered | shown => trivial
  | looked | opened | closed | began | committed | rolledBack | named => cases h

theorem Event.Concerns.ne_opened {command : Command} {event : Event} {answer : BackendResult Unit}
    (h : event.Concerns command) : event ≠ .opened answer := by
  rintro rfl
  cases h

/-- An execution under a transaction opens the connection only if it was lost unseen. -/
theorem Opening.opened_iff {opening more : List Event} {command : Command}
    (h : Opening opening) (hmore : ∀ event ∈ more, event.Concerns command) :
    (∃ answer, .opened answer ∈ .looked .open :: opening ++ more) ↔
      lostUnseen <+: .looked .open :: opening ++ more := by
  have hnone (answer : BackendResult Unit) : .opened answer ∉ more :=
    fun hmem ↦ (hmore _ hmem).ne_opened rfl
  cases h with
  | found | foundLate => simp [lostUnseen, hnone]
  | opened => simp [lostUnseen]

theorem Transition.opened_iff {transaction : ActiveTransaction} {call : Call W}
    {events : List Event} {outcome : Outcome} {after : Option ActiveTransaction}
    (h : Transition (some transaction) call events outcome after) :
    (∃ answer, .opened answer ∈ events) ↔ lostUnseen <+: events := by
  cases h with
  | alreadyBegun | committed | rolledBack | lost | hooked => simp [lostUnseen]
  | unreached => simp [lostUnseen, Executor.check]
  | executed _ hcall hopening hcommand hmore => exact hopening.opened_iff hmore

/-! ## The opening of a transaction -/

theorem Opening.keeps {opening more : List Event} {command : Command} (h : Opening opening)
    (hmore : ∀ event ∈ more, event.Concerns command)
    (hseen : ¬lostUnseen <+: .looked .open :: opening ++ more) :
    ∀ event ∈ .looked .open :: opening ++ more, event.Keeps := by
  have hkeeps : ∀ event ∈ more, event.Keeps := fun event hmem ↦ (hmore event hmem).keeps
  cases h with
  | found | foundLate => simpa [Event.Keeps] using hkeeps
  | opened => simp [lostUnseen] at hseen

/-- Under a transaction, a call after which it is still active keeps the opening unless the
connection was lost unseen. -/
theorem Transition.keeps {transaction transaction' : ActiveTransaction} {call : Call W}
    {events : List Event} {outcome : Outcome}
    (h : Transition (some transaction) call events outcome (some transaction'))
    (hseen : ¬lostUnseen <+: events) :
    transaction' = transaction ∧ ∀ event ∈ events, event.Keeps := by
  cases h with
  | alreadyBegun | hooked => simp
  | unreached => simp [lostUnseen, Executor.check] at hseen
  | executed _ hcall hopening hcommand hmore => exact ⟨rfl, hopening.keeps hmore hseen⟩

/-- A transaction that becomes active was begun last. -/
theorem Transition.begun_last {transaction : ActiveTransaction} {call : Call W}
    {events : List Event} {outcome : Outcome}
    (h : Transition none call events outcome (some transaction)) :
    ∃ opening isolation,
      events = opening ++ [.began isolation (.ok ()), .named transaction.id] := by
  cases h with
  | begun isolation id hopening => exact ⟨_, isolation, rfl⟩

theorem Opening.not_called {opening : List Event} {service : Service} {command : Command}
    (h : Opening opening) : .called service command ∉ opening := by
  cases h <;> simp

/-- Only executions that reach the backend give it a command, which carries the transaction. -/
theorem Transition.of_called {transaction after : Option ActiveTransaction} {call : Call W}
    {events : List Event} {outcome : Outcome} {service : Service} {command : Command}
    (h : Transition transaction call events outcome after)
    (hmem : .called service command ∈ events) :
    command.transaction = transaction.map (·.id) ∧ after = transaction := by
  cases h with
  | begun _ _ hopening | unbegun _ _ hopening => simp [hopening.not_called] at hmem
  | unopened | alreadyBegun | committed | rolledBack | nothingToCommit | nothingToRollBack | lost
  | hooked => simp at hmem
  | unreached => cases transaction <;> simp [Executor.check] at hmem
  | executed _ hcall hopening hcommand hmore =>
    have hcalled := by
      cases transaction <;> simpa [Executor.check, hopening.not_called] using hmem
    have hsame : command = _ := hmore _ hcalled
    rw [hsame]
    exact ⟨hcommand.transaction_eq, rfl⟩

/-- Since the transaction with an id was begun, its opening was kept. -/
def SinceBegun (id : Uuid) (log : List Event) : Prop :=
  ∃ front isolation middle, log = front ++ [.began isolation (.ok ()), .named id] ++ middle ∧
    ∀ event ∈ middle, event.Keeps

theorem SinceBegun.append {id : Uuid} {log more : List Event} (h : SinceBegun id log)
    (hmore : ∀ event ∈ more, event.Keeps) : SinceBegun id (log ++ more) := by
  obtain ⟨front, isolation, middle, rfl, hmiddle⟩ := h
  refine ⟨front, isolation, middle ++ more, List.append_assoc _ _ _, fun event hmem ↦ ?_⟩
  exact (List.mem_append.mp hmem).elim (hmiddle event) (hmore event)

/-- What was noted last either kept the opening or named the transaction. -/
theorem SinceBegun.concat_cases {id : Uuid} {log : List Event} {event : Event}
    (h : SinceBegun id (log ++ [event])) :
    event.Keeps ∧ SinceBegun id log ∨ event = .named id := by
  obtain ⟨front, isolation, middle, hlog, hmiddle⟩ := h
  rcases List.eq_nil_or_concat middle with rfl | ⟨middle, last, rfl⟩
  · have hlast := congrArg List.getLast? hlog
    rw [List.append_nil, List.getLast?_append, List.getLast?_append] at hlast
    exact .inr (Option.some.inj hlast)
  · rw [List.concat_eq_append] at hlog hmiddle
    rw [← List.append_assoc] at hlog
    obtain ⟨rfl, hevent⟩ := List.append_inj' hlog rfl
    obtain rfl := List.singleton_inj.mp hevent
    refine .inl ⟨hmiddle event (by simp), front, isolation, middle, rfl, fun other hmem ↦ ?_⟩
    exact hmiddle other (List.mem_append_left _ hmem)

/-- The opening was not kept if the connection was opened and no other transaction begun. -/
theorem not_sinceBegun_of_opened {tail : List Event} (htail : ∀ event ∈ tail, event.Keeps)
    (id : Uuid) (log : List Event) (answer : BackendResult Unit) :
    ¬SinceBegun id (log ++ .opened answer :: tail) := by
  induction tail using List.reverseRecOn with
  | nil =>
    intro h
    obtain ⟨hkeeps, -⟩ | hnamed := h.concat_cases
    · cases hkeeps
    · cases hnamed
  | append_singleton tail event ih =>
    intro h
    rw [← List.cons_append, ← List.append_assoc] at h
    obtain ⟨-, h⟩ | rfl := h.concat_cases
    · exact ih (fun other hmem ↦ htail other (List.mem_append_left _ hmem)) h
    · cases htail _ (List.mem_append_right _ (List.mem_singleton_self _))

/-- The active transaction, if there is one, was begun in the log, on an opening kept since. -/
def Rooted (transaction : Option ActiveTransaction) (log : List Event) : Prop :=
  ∀ active, transaction = some active → SinceBegun active.id log

theorem Transition.rooted {transaction after : Option ActiveTransaction} {call : Call W}
    {log events : List Event} {outcome : Outcome}
    (h : Transition transaction call events outcome after) (hrooted : Rooted transaction log)
    (hseen : transaction.isSome → ¬lostUnseen <+: events) : Rooted after (log ++ events) := by
  rintro active rfl
  cases transaction with
  | none =>
    obtain ⟨opening, isolation, rfl⟩ := h.begun_last
    refine ⟨log ++ opening, isolation, [], ?_, by simp⟩
    rw [List.append_nil, List.append_assoc]
  | some transaction =>
    obtain ⟨rfl, hkeeps⟩ := h.keeps (hseen rfl)
    exact (hrooted _ rfl).append hkeeps

/-- A command that carries an id is given to the backend on the opening on which the transaction
with that id was begun. -/
theorem Transition.sinceBegun_of_called {transaction after : Option ActiveTransaction}
    {call : Call W} {log before rest : List Event} {outcome : Outcome} {service : Service}
    {command : Command} {id : Uuid}
    (h : Transition transaction call (before ++ .called service command :: rest) outcome after)
    (hrooted : Rooted transaction log)
    (hseen : transaction.isSome → ¬lostUnseen <+: before ++ .called service command :: rest)
    (hid : command.transaction = some id) : SinceBegun id (log ++ before) := by
  obtain ⟨hcommand, rfl⟩ := h.of_called (List.mem_append_right before (List.mem_cons_self ..))
  obtain ⟨active, rfl, rfl⟩ := Option.map_eq_some_iff.mp (hcommand.symm.trans hid)
  obtain ⟨-, hkeeps⟩ := h.keeps (hseen rfl)
  exact (hrooted active rfl).append fun event hmem ↦ hkeeps event (List.mem_append_left _ hmem)

/-- A call under a transaction that gives the backend a command although the connection was lost
unseen has opened it before, and has noted nothing else that matters. -/
theorem Transition.of_lostUnseen {transaction : ActiveTransaction} {call : Call W}
    {events : List Event} {outcome : Outcome} {after : Option ActiveTransaction}
    {service : Service} {command : Command}
    (h : Transition (some transaction) call events outcome after) (hlost : lostUnseen <+: events)
    (hcalled : .called service command ∈ events) :
    ∃ more, events = lostUnseen ++ [.opened (.ok ())] ++ more ∧ ∀ event ∈ more, event.Keeps := by
  cases h with
  | alreadyBegun | committed | rolledBack | lost | hooked | unreached =>
    simp [lostUnseen, Executor.check] at hlost hcalled
  | @executed _ _ _ _ opening more command' _ hcall hopening hcommand hmore =>
    cases hopening with
    | found | foundLate => simp [lostUnseen, Executor.check] at hlost
    | opened => exact ⟨more, rfl, fun event hmem ↦ (hmore event hmem).keeps⟩

/-- Such a command is not given to the backend on the opening on which the transaction was begun. -/
theorem Transition.not_sinceBegun_of_called {transaction : ActiveTransaction} {call : Call W}
    {before rest : List Event} {outcome : Outcome} {after : Option ActiveTransaction}
    {service : Service} {command : Command}
    (h : Transition (some transaction) call (before ++ .called service command :: rest) outcome
      after) (hlost : lostUnseen <+: before ++ .called service command :: rest) (id : Uuid)
    (log : List Event) : ¬SinceBegun id (log ++ before) := by
  have hcalled : Event.called service command ∈ before ++ .called service command :: rest :=
    List.mem_append_right before (List.mem_cons_self ..)
  obtain ⟨more, hevents, hmore⟩ := h.of_lostUnseen hlost hcalled
  rcases List.append_eq_append_iff.mp hevents with ⟨now, hopened, hnow⟩ | ⟨tail, rfl, hmore'⟩
  · cases now with
    | nil =>
      rw [List.append_nil] at hopened
      rw [← hopened, ← List.append_assoc]
      exact not_sinceBegun_of_opened (by simp) id _ (.ok ())
    | cons event now =>
      -- The command is none of the first four events.
      obtain ⟨rfl, -⟩ := List.cons.inj hnow
      have hmem : Event.called service command ∈ lostUnseen ++ [.opened (.ok ())] := by
        rw [hopened]
        exact List.mem_append_right before (List.mem_cons_self ..)
      simp [lostUnseen] at hmem
  · rw [List.append_assoc, ← List.append_assoc log, List.singleton_append]
    refine not_sinceBegun_of_opened (fun event hmem ↦ hmore event ?_) id _ (.ok ())
    rw [hmore']
    exact List.mem_append_left _ hmem

end Trace

namespace Executor

/-! ## Histories -/

/-- Commands of a transaction run on the opening on which it was begun, as long as no connection is
lost unseen. -/
theorem history_sinceBegun [IdSource W] (calls : List (Call W)) (scene : Scene W)
    (log : List Event) (hrooted : Rooted scene.executor.transaction log)
    (hseen : ∀ moment ∈ history calls (scene.recorded log), moment.transaction.isSome →
      ¬lostUnseen <+: moment.events)
    {before rest : List Event} {service : Service} {command : Command} {id : Uuid}
    (hcalled : (history calls (scene.recorded log)).flatMap Moment.events =
      before ++ .called service command :: rest)
    (hid : command.transaction = some id) : SinceBegun id (log ++ before) := by
  refine history_induction (motive := fun scene log moments _ ↦
    Rooted scene.executor.transaction log →
    (∀ moment ∈ moments, moment.transaction.isSome → ¬lostUnseen <+: moment.events) →
    ∀ before, moments.flatMap Moment.events = before ++ .called service command :: rest →
    SinceBegun id (log ++ before)) ?_ ?_ calls scene log hrooted hseen before hcalled
  · intro scene log _ _ before hcalled
    simp at hcalled
  · intro call scene left log events outcome moments final hwent ih hrooted hseen before hcalled
    rw [List.flatMap_cons, Moment.events_mk] at hcalled
    obtain ⟨hfirst, hmoments⟩ := List.forall_mem_cons.mp hseen
    rw [Moment.events_mk] at hfirst
    have htransition := transition_of_went hwent
    have hleft := ih (htransition.rooted hrooted hfirst) hmoments
    -- The command is given to the backend later, or in this call.
    rcases List.append_eq_append_iff.mp hcalled with ⟨later, rfl, hlater⟩ | ⟨now, rfl, hnow⟩
    · rw [← List.append_assoc]
      exact hleft later hlater
    · cases now with
      | nil =>
        rw [List.append_nil] at hleft
        simpa using hleft [] hnow.symm
      | cons event now =>
        obtain ⟨rfl, -⟩ := List.cons.inj hnow
        exact htransition.sinceBegun_of_called hrooted hfirst hid

/-- **A connection is opened under a transaction exactly when it was lost unseen.** If it never is,
then a command of a transaction is given to the backend on the opening on which the transaction was
begun. A call in which it is gives the backend no command on that opening. -/
theorem history_opened_iff [IdSource W] (serverType : ServerType) (dialect : Dialect)
    (backend : Backend W) (world : W) (calls : List (Call W)) :
    let executor : Executor W :=
      { serverType := serverType, dialect := dialect, backend := backend }
    let start := Scene.recorded ⟨executor, world⟩ []
    (∀ moment ∈ history calls start, moment.transaction.isSome →
      ((∃ answer, .opened answer ∈ moment.events) ↔ lostUnseen <+: moment.events)) ∧
    ((∀ moment ∈ history calls start, moment.transaction.isSome →
        ¬lostUnseen <+: moment.events) →
      ∀ before rest service command id,
        (last calls start).world.log = before ++ .called service command :: rest →
        command.transaction = some id → SinceBegun id before) ∧
    ∀ moment ∈ history calls start, moment.transaction.isSome → lostUnseen <+: moment.events →
      ∀ before rest service command id,
        moment.events = before ++ .called service command :: rest →
        ¬SinceBegun id (moment.before.world.log ++ before) := by
  intro executor start
  have htransition := transition_of_mem_history calls ⟨executor, world⟩ []
  refine ⟨?_, ?_, ?_⟩
  · intro moment hmem hactive
    obtain ⟨active, hactive⟩ := Option.isSome_iff_exists.mp hactive
    have hmoment := htransition moment hmem
    rw [hactive] at hmoment
    exact hmoment.opened_iff
  · intro hseen before rest service command id hcalled hid
    have hrooted : Rooted executor.transaction [] := fun active hactive ↦ by cases hactive
    rw [log_last, List.nil_append] at hcalled
    exact history_sinceBegun calls ⟨executor, world⟩ [] hrooted hseen hcalled hid
  · intro moment hmem hactive hlost before rest service command id hevents
    obtain ⟨active, hactive⟩ := Option.isSome_iff_exists.mp hactive
    have hmoment := htransition moment hmem
    rw [hactive, hevents] at hmoment
    rw [hevents] at hlost
    exact hmoment.not_sinceBegun_of_called hlost id _

/-! ## A connection that is lost between two readings -/

/-- A world with the states that a connection will be found in. -/
structure Wavering where
  readings : List ConnectionState

namespace Wavering

instance : IdSource Wavering := ⟨pure default⟩

/-- A connection that is found in these states and of which everything else goes well. -/
def backend : Backend Wavering where
  state world := (world.readings.headD .closed, ⟨world.readings.tail⟩)
  establish := pure (.ok ())
  close := pure (.ok ())
  begin _ := pure (.ok ())
  commit := pure (.ok ())
  rollback := pure (.ok ())
  scalar _ := pure (.ok .null)
  nonQuery _ := pure (.ok 0)
  reader _ := pure (.ok .empty)
  fill _ := pure (.ok [])

/-- An executor of such a connection. -/
def start (readings : List ConnectionState) : Scene (Recorded Wavering) :=
  Scene.recorded ⟨{ serverType := .sqlServer, dialect := .sqlServer, backend := backend },
    ⟨readings⟩⟩ []

/-- Begin a transaction and run a command in it. -/
def calls : List (Call Wavering) := [.begin none, .execute "SELECT 1" [] "E1" .scalar]

/-- The connection is opened under a transaction, and the command of the transaction runs on the
new opening. -/
theorem reopens :
    ∃ moment ∈ history calls (start [.open, .open, .closed, .closed]),
      moment.transaction.isSome ∧ .opened (.ok ()) ∈ moment.events ∧
      ∃ before rest command id,
        (last calls (start [.open, .open, .closed, .closed])).world.log =
          before ++ .called .scalar command :: rest ∧
        command.transaction = some id ∧ ¬SinceBegun id before := by
  refine ⟨_, List.mem_cons_of_mem _ (List.mem_cons_self ..), rfl, ?_, ?_⟩
  · exact .tail _ (.tail _ (.tail _ (.head _)))
  · let begun : List Event := [.looked .open, .began none (.ok ()), .named default]
    let command : Command := ⟨"SELECT 1", "SqlServer", Inference.infer "SELECT 1" [], some default⟩
    refine ⟨begun ++ lostUnseen ++ [.opened (.ok ())], _, command, default, rfl, rfl, ?_⟩
    exact not_sinceBegun_of_opened (by simp) default (begun ++ lostUnseen) (.ok ())

/-- Of a connection that is found open throughout, the command of the transaction runs on the
opening of the transaction. -/
theorem steady_sinceBegun :
    ∃ before rest command,
      (last calls (start [.open, .open, .open])).world.log =
        before ++ .called .scalar command :: rest ∧
      command.transaction = some default ∧ SinceBegun default before := by
  let command : Command := ⟨"SELECT 1", "SqlServer", Inference.infer "SELECT 1" [], some default⟩
  have hseen : ∀ moment ∈ history calls (start [.open, .open, .open]),
      moment.transaction.isSome → ¬lostUnseen <+: moment.events := by
    intro moment hmem hactive hlost
    obtain rfl | hmem := List.mem_cons.mp hmem
    · cases hactive
    · obtain rfl := List.mem_singleton.mp hmem
      -- The second reading of the execution is open.
      obtain ⟨rest, hrest⟩ := hlost
      cases hrest
  let before : List Event :=
    [.looked .open, .began none (.ok ()), .named default, .looked .open, .looked .open]
  refine ⟨before, _, command, rfl, rfl, ?_⟩
  exact (history_opened_iff .sqlServer .sqlServer backend ⟨[.open, .open, .open]⟩ calls).2.1 hseen
    before _ .scalar command default rfl rfl

end Wavering

end Executor

end SqlGateway
