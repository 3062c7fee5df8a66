import SqlGateway.Proofs.Transaction.Disposal
import SqlGateway.Sqlite.Connection

/-!
# Transactions that are left pending

An executor forgets its transaction before the backend is asked to end it, and does not take it up
again if the backend refuses. The backend then has a transaction open of which the executor knows
nothing: the next one is refused, and commands that carry no transaction run in the old one.

This is the only way. What a backend has open is told from its answers: a transaction is pending
from a beginning that went well until it is committed or rolled back, or until the connection is
closed or lost. As long as no end was refused, nothing is pending outside of a transaction of the
executor. Once one was, it stays so at most until the next beginning that goes well, or until the
executor is given up.
-/

namespace SqlGateway

open Trace

variable {W : Type}

namespace Trace

/-! ## What a backend has open -/

/-- Events that end a transaction: it is committed or rolled back, or the connection is closed or
found closed. -/
def Event.Ends : Event → Prop
  | .committed (.ok ()) | .rolledBack (.ok ()) | .closed _ | .looked .closed => True
  | _ => False

/-- Events by which a backend refuses to end a transaction. -/
def Event.Refuses : Event → Prop
  | .committed (.error _) | .rolledBack (.error _) => True
  | _ => False

/-- Events by which an executor acts outside of its transactions: it gives the backend a command
that carries none, or asks it to begin one. -/
def Event.Outside : Event → Prop
  | .called _ command => command.transaction = none
  | .began _ _ => True
  | _ => False

/-- A transaction that was begun in the log has not ended since. A connection may be lost without a
note of it; `lost` tells behind which notes it is. -/
inductive Pending (lost : List Event → Prop) : List Event → Prop where
  | begun (log : List Event) (isolation : Option IsolationLevel)
      (hlost : ¬lost (log ++ [.began isolation (.ok ())])) :
      Pending lost (log ++ [.began isolation (.ok ())])
  | kept {log : List Event} {event : Event} (h : Pending lost log) (hends : ¬event.Ends)
      (hlost : ¬lost (log ++ [event])) : Pending lost (log ++ [event])

/-- The backend was last told of transactions when it refused to end one. -/
def Refused (log : List Event) : Prop :=
  ∃ front event tail, log = front ++ event :: tail ∧ event.Refuses ∧
    ∀ other ∈ tail, other.mark? = none

/-- If a transaction is pending, then because its end was refused. -/
def Clear (lost : List Event → Prop) (log : List Event) : Prop := Pending lost log → Refused log

variable {lost : List Event → Prop} {log more : List Event} {event : Event}

theorem Pending.concat_cases (h : Pending lost (log ++ [event])) :
    event.mark? = some .begun ∨ Pending lost log ∧ ¬event.Ends := by
  generalize hwhole : log ++ [event] = whole at h
  induction h with
  | begun front isolation =>
    obtain ⟨-, hevent⟩ := List.append_inj' hwhole rfl
    rw [List.singleton_inj.mp hevent]
    exact .inl rfl
  | kept h hends =>
    obtain ⟨rfl, hevent⟩ := List.append_inj' hwhole rfl
    rw [List.singleton_inj.mp hevent]
    exact .inr ⟨h, hends⟩

/-- Nothing becomes pending where nothing begins. -/
theorem Pending.of_append (hmore : ∀ event ∈ more, event.mark? = none)
    (h : Pending lost (log ++ more)) : Pending lost log := by
  induction more using List.reverseRecOn with
  | nil => rwa [List.append_nil] at h
  | append_singleton more event ih =>
    rw [← List.append_assoc] at h
    obtain hbegun | ⟨h, -⟩ := h.concat_cases
    · rw [hmore event (by simp)] at hbegun
      cases hbegun
    · exact ih (fun other hmem ↦ hmore other (List.mem_append_left _ hmem)) h

theorem not_pending_nil : ¬Pending lost [] := by
  intro h
  generalize hwhole : ([] : List Event) = whole at h
  induction h with
  | begun | kept => simp at hwhole

theorem not_pending_of_mark_eq_none (hlog : ∀ event ∈ log, event.mark? = none) :
    ¬Pending lost log := by
  intro h
  rw [← List.nil_append log] at h
  exact not_pending_nil (h.of_append hlog)

theorem not_pending_of_ends (hends : event.Ends) (hmark : event.mark? ≠ some .begun) :
    ¬Pending lost (log ++ [event]) := by
  intro h
  obtain hbegun | ⟨-, hkept⟩ := h.concat_cases
  · exact hmark hbegun
  · exact hkept hends

theorem Clear.append (h : Clear lost log) (hmore : ∀ event ∈ more, event.mark? = none) :
    Clear lost (log ++ more) := by
  intro hpending
  obtain ⟨front, event, tail, rfl, hrefuses, htail⟩ := h (hpending.of_append hmore)
  refine ⟨front, event, tail ++ more, by simp, hrefuses, ?_⟩
  exact List.forall_mem_append.mpr ⟨htail, hmore⟩

/-- An end that is not refused leaves nothing pending. -/
theorem clear_of_ended (h : event.Ends ∨ event.Refuses) (hmark : event.mark? ≠ some .begun) :
    Clear lost (log ++ [event]) := by
  intro hpending
  rcases h with hends | hrefuses
  · exact absurd hpending (not_pending_of_ends hends hmark)
  · exact ⟨log, event, [], rfl, hrefuses, by simp⟩

theorem clear_committed (answer : BackendResult Unit) :
    Clear lost (log ++ [.committed answer]) := by
  refine clear_of_ended ?_ (by simp [Event.mark?])
  cases answer with
  | ok => exact .inl trivial
  | error => exact .inr trivial

theorem clear_rolledBack (answer : BackendResult Unit) :
    Clear lost (log ++ [.rolledBack answer]) := by
  refine clear_of_ended ?_ (by simp [Event.mark?])
  cases answer with
  | ok => exact .inl trivial
  | error => exact .inr trivial

/-! ## What the machine leaves -/

theorem Opening.mark_eq_none {opening : List Event} (h : Opening opening) :
    ∀ event ∈ opening, event.mark? = none := by
  cases h <;> simp [Event.mark?]

/-- Without a transaction, only a beginning that goes well is of any matter to transactions. -/
theorem Transition.mark_eq_none {call : Call W} {events : List Event} {outcome : Outcome}
    (h : Transition none call events outcome none) : ∀ event ∈ events, event.mark? = none := by
  cases h with
  | unopened => simp [Event.mark?]
  | unbegun isolation e hopening =>
    refine List.forall_mem_append.mpr ⟨hopening.mark_eq_none, ?_⟩
    simp [Event.mark?]
  | nothingToCommit | nothingToRollBack | hooked => simp
  | unreached => simp [Executor.check, Event.mark?]
  | executed _ hcall hopening hcommand hmore =>
    refine List.forall_mem_append.mpr ⟨?_, fun event hmem ↦ (hmore event hmem).mark_eq_none⟩
    simpa [Executor.check] using hopening.mark_eq_none

/-- What a call leaves that no transaction is active after. -/
theorem Transition.clear {transaction : Option ActiveTransaction} {call : Call W}
    {events : List Event} {outcome : Outcome}
    (h : Transition transaction call events outcome none)
    (hclear : transaction = none → Clear lost log) : Clear lost (log ++ events) := by
  rcases transaction with _ | transaction
  · exact (hclear rfl).append h.mark_eq_none
  · cases h with
    | committed _ answer => exact clear_committed answer
    | rolledBack _ answer => exact clear_rolledBack answer
    | lost => exact clear_of_ended (.inl trivial) (by simp [Event.mark?])

/-- Under a transaction nothing is done outside of it. -/
theorem Transition.eq_none_of_outside {transaction after : Option ActiveTransaction}
    {call : Call W} {events : List Event} {outcome : Outcome}
    (h : Transition transaction call events outcome after) (hmem : event ∈ events)
    (houtside : event.Outside) : transaction = none := by
  cases event with
  | called service command =>
    obtain ⟨hcommand, -⟩ := h.of_called hmem
    rw [houtside] at hcommand
    exact Option.map_eq_none_iff.mp hcommand.symm
  | began isolation answer =>
    rcases transaction with _ | transaction
    · rfl
    · cases h with
      | alreadyBegun | committed | rolledBack | lost | hooked => simp at hmem
      | unreached => simp [Executor.check] at hmem
      | executed _ hcall hopening hcommand hmore =>
        obtain hmem | hmem := List.mem_append.mp hmem
        · cases hopening <;> simp [Executor.check] at hmem
        · cases hmore _ hmem
  | _ => cases houtside

/-- Before an executor acts outside of its transactions, a call has done nothing to them. -/
theorem Transition.mark_eq_none_of_outside {after : Option ActiveTransaction} {call : Call W}
    {before rest : List Event} {outcome : Outcome}
    (h : Transition none call (before ++ event :: rest) outcome after)
    (houtside : event.Outside) : ∀ other ∈ before, other.mark? = none := by
  rcases after with _ | transaction
  · exact fun other hmem ↦ h.mark_eq_none other (List.mem_append_left _ hmem)
  · generalize hevents : before ++ event :: rest = events at h
    cases h with
    | begun isolation id hopening =>
      rcases List.append_eq_append_iff.mp hevents with ⟨late, rfl, -⟩ | ⟨early, rfl, hearly⟩
      · exact fun other hmem ↦ hopening.mark_eq_none other (List.mem_append_left _ hmem)
      · -- Behind the opening there are the beginning and its id, which is not outside.
        rcases early with _ | ⟨first, _ | ⟨second, early⟩⟩
        · rw [List.append_nil]
          exact hopening.mark_eq_none
        · obtain ⟨-, hnamed⟩ := List.cons.inj hearly
          obtain ⟨rfl, -⟩ := List.cons.inj hnamed
          cases houtside
        · simp at hearly

/-- Where an executor acts outside of its transactions. -/
theorem Transition.clear_outside {transaction after : Option ActiveTransaction} {call : Call W}
    {before rest : List Event} {outcome : Outcome}
    (h : Transition transaction call (before ++ event :: rest) outcome after)
    (hclear : transaction = none → Clear lost log) (houtside : event.Outside) :
    Clear lost (log ++ before) := by
  obtain rfl := h.eq_none_of_outside (List.mem_append_right before (List.mem_cons_self ..)) houtside
  exact (hclear rfl).append (h.mark_eq_none_of_outside houtside)

end Trace

namespace Executor

/-! ## Histories -/

theorem last_clear [IdSource W] {lost : List Event → Prop} (calls : List (Call W))
    (scene : Scene W) (log : List Event)
    (hclear : scene.executor.transaction = none → Clear lost log) :
    (last calls (scene.recorded log)).executor.transaction = none →
      Clear lost (last calls (scene.recorded log)).world.log := by
  refine history_induction (motive := fun scene log _ final ↦
    (scene.executor.transaction = none → Clear lost log) →
    final.executor.transaction = none → Clear lost final.world.log) ?_ ?_ calls scene log hclear
  · intro scene log hclear
    exact hclear
  · intro call scene left log events outcome moments final hwent ih hclear
    refine ih fun hleft ↦ ?_
    have htransition := transition_of_went hwent
    rw [hleft] at htransition
    exact htransition.clear hclear

theorem history_clear_outside [IdSource W] {lost : List Event → Prop} (calls : List (Call W))
    (scene : Scene W) (log : List Event)
    (hclear : scene.executor.transaction = none → Clear lost log)
    {before rest : List Event} {event : Event} (houtside : event.Outside)
    (hevents : (history calls (scene.recorded log)).flatMap Moment.events =
      before ++ event :: rest) : Clear lost (log ++ before) := by
  refine history_induction (motive := fun scene log moments _ ↦
    (scene.executor.transaction = none → Clear lost log) →
    ∀ before, moments.flatMap Moment.events = before ++ event :: rest →
    Clear lost (log ++ before)) ?_ ?_ calls scene log hclear before hevents
  · intro scene log _ before hevents
    simp at hevents
  · intro call scene left log events outcome moments final hwent ih hclear before hevents
    rw [List.flatMap_cons, Moment.events_mk] at hevents
    have htransition := transition_of_went hwent
    have hleft := ih fun hleft ↦ by
      rw [hleft] at htransition
      exact htransition.clear hclear
    -- The executor acts outside later, or in this call.
    rcases List.append_eq_append_iff.mp hevents with ⟨later, rfl, hlater⟩ | ⟨now, rfl, hnow⟩
    · rw [← List.append_assoc]
      exact hleft later hlater
    · cases now with
      | nil =>
        rw [List.append_nil] at hleft
        simpa using hleft [] hnow.symm
      | cons first now =>
        obtain ⟨rfl, -⟩ := List.cons.inj hnow
        exact htransition.clear_outside hclear houtside

/-- **A transaction is left pending only if its end was refused.** Whatever an executor that was
created is called for: when no transaction is active, and whenever it gives the backend a command
that carries none or asks it to begin one, no transaction is pending, unless the backend refused to
end the last one. When the executor is given up, none is pending even then. -/
theorem history_pending [IdSource W] {serverType : ServerType} {dialect : Dialect}
    {backend : Backend W} {world : W} {executor : Executor (Recorded W)} {opened : Recorded W}
    (hcreated :
      (create serverType dialect backend.recorded).run ⟨world, []⟩ = (.ok executor, opened))
    (calls : List (Call W)) (lost : List Event → Prop) :
    let final := last calls ⟨executor, opened⟩
    (final.executor.isActive = false → Pending lost final.world.log → Refused final.world.log) ∧
    (∀ before event rest, final.world.log = before ++ event :: rest → event.Outside →
      Pending lost before → Refused before) ∧
    ¬Pending lost (dispose.run final).2.world.log := by
  intro final
  obtain ⟨scene, log, hscene, hopen⟩ := create_recorded hcreated
  have hnone : ∀ event ∈ log, event.mark? = none := hopen.opening.mark_eq_none
  have hclear : Clear lost log := fun h ↦ absurd h (not_pending_of_mark_eq_none hnone)
  have hfinal : final = last calls (scene.recorded log) := by rw [hscene]
  refine ⟨?_, ?_, ?_⟩
  · intro hactive
    rw [hfinal] at hactive ⊢
    have hidle := Option.isNone_iff_eq_none.mp (Option.isSome_eq_false_iff.mp hactive)
    exact last_clear calls scene log (fun _ ↦ hclear) hidle
  · intro before event rest hevents houtside
    rw [hfinal, log_last] at hevents
    rcases List.append_eq_append_iff.mp hevents with ⟨later, rfl, hlater⟩ | ⟨now, rfl, hnow⟩
    · exact history_clear_outside calls scene log (fun _ ↦ hclear) houtside hlater
    · have hbefore := (List.forall_mem_append.mp hnone).1
      exact fun h ↦ absurd h (not_pending_of_mark_eq_none hbefore)
  · obtain ⟨scene', left, log', ending, hlast, hdispose, hending, -⟩ := last_disposed hcreated calls
    obtain ⟨front, answer, rfl, -⟩ := hending.closing_last
    have hlast : final = scene'.recorded log' := hlast
    have hlog : (dispose.run final).2.world.log = log' ++ front ++ [.closed answer] := by
      rw [hlast, hdispose, List.append_assoc]
      rfl
    rw [hlog]
    exact not_pending_of_ends trivial (by simp [Event.mark?])

namespace Wavering

/-- A connection that does not commit. -/
def unyielding : Backend Wavering :=
  { backend with commit := pure (.error (.transaction "commit failed")) }

/-- The commit is refused, so the transaction stays pending until the executor is given up. -/
theorem unyielding_pending :
    ∃ executor opened,
      (create .sqlServer .sqlServer unyielding.recorded).run ⟨⟨[.open, .open]⟩, []⟩ =
        (.ok executor, opened) ∧
      let final := last [.begin none, .commit] ⟨executor, opened⟩
      final.executor.isActive = false ∧ Pending (fun _ ↦ False) final.world.log ∧
      Refused final.world.log ∧ ¬Pending (fun _ ↦ False) (dispose.run final).2.world.log := by
  let opened : Scene (Recorded Wavering) :=
    Scene.recorded ⟨{ serverType := .sqlServer, dialect := .sqlServer, backend := unyielding },
      ⟨[.open]⟩⟩ [.looked .open]
  have hcreated : (create .sqlServer .sqlServer unyielding.recorded).run ⟨⟨[.open, .open]⟩, []⟩ =
      (.ok opened.executor, opened.world) := rfl
  have hbegun : Pending (fun _ ↦ False) [.looked .open, .looked .open, .began none (.ok ())] :=
    .begun [.looked .open, .looked .open] none id
  have hnamed : Pending (fun _ ↦ False)
      [.looked .open, .looked .open, .began none (.ok ()), .named default] :=
    hbegun.kept id id
  have hpending : Pending (fun _ ↦ False) [.looked .open, .looked .open, .began none (.ok ()),
      .named default, .committed (.error (.transaction "commit failed"))] := hnamed.kept id id
  obtain ⟨hclear, -, hdisposed⟩ := history_pending hcreated [.begin none, .commit] fun _ ↦ False
  exact ⟨_, _, hcreated, rfl, hpending, hclear rfl hpending, hdisposed⟩

end Wavering

/-! ## A database that another connection reads -/

namespace Crowded

open Sqlite

instance : IdSource (Connection × Disk) := ⟨pure default⟩

/-- A database with a table, while another connection reads in a transaction. -/
def disk : Disk :=
  let table : Table := ⟨"t", [⟨"a", "", false, false, false⟩], []⟩
  ⟨⟨[(["t.db"], ⟨[table], [(0, some .shared)]⟩)], [[]]⟩, []⟩

/-- The connections of a world that is nothing else. -/
def backend : Backend (Connection × Disk) := Connection.backend ⟨id, fun there _ ↦ there⟩

/-- An executor of such a connection. -/
def executor : Executor (Recorded (Connection × Disk)) :=
  Executor.recorded { serverType := .sqlite, dialect := .sqlite, backend := backend }

/-- The world in which the executor was created. -/
def opened : Recorded (Connection × Disk) :=
  ((create .sqlite .sqlite backend.recorded).run ⟨(.ofPath "t.db", disk), []⟩).2

def calls : List (Call (Connection × Disk)) :=
  [.begin none, .execute "INSERT INTO t VALUES (1)" [] "E1" .nonQuery, .commit]

set_option maxRecDepth 20000 in
/-- A commit is refused because the database is read, and the executor takes its transaction for
ended. It is still open, and the next one is refused because of it. -/
theorem commit_refused :
    (create .sqlite .sqlite backend.recorded).run ⟨(.ofPath "t.db", disk), []⟩ =
      (.ok executor, opened) ∧
    let final := last calls ⟨executor, opened⟩
    final.executor.isActive = false ∧
    final.world.world.1.database.map (·.handle.inTransaction) = some true ∧
    ((begin none).run final).1 =
      .error (.transaction (.transaction "cannot start a transaction within a transaction")) :=
  ⟨rfl, by decide +kernel⟩

end Crowded

end Executor

end SqlGateway
