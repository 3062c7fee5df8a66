import SqlGateway.Proofs.Trace.Course

/-!
# The order of an execution

A synchronous call opens the connection if it has to, shows the command to the hook before, has the
backend run it and shows it to the hook after, in this order and each at most once. It stops early
when the connection was lost under a transaction or cannot be opened, and the hook after is left out
exactly when the backend fails.

There is one command in all of this. Its fields are written out in the statement: the text as the
caller gave it, the label of the server type, the parameters with those that were inferred, and the
transaction that is active. A failure is reported with the text and the parameters of this command.

## Hooks that return

Whatever a hook does to the world, it is here a step that cannot panic. For hooks that may, see
`Executor.Executed`, from which the order is derived: a panic of a hook cuts the call short.
-/

namespace SqlGateway

open Trace

variable {W : Type}

namespace Trace

/-! ## Stages -/

/-- What a call does to others. -/
inductive Stage where
  | opening | before | operation | after
deriving Repr, DecidableEq

/-- The stage that an event belongs to. -/
def Event.stage? : Event → Option Stage
  | .opened _ => some .opening
  | .shown .before _ => some .before
  | .called _ _ => some .operation
  | .shown .after _ => some .after
  | _ => none

/-- The stages in order. -/
def stages : List Stage := [.opening, .before, .operation, .after]

end Trace

namespace Executor

/-- A hook that returns. -/
def returning (hook : Command → StateM W Unit) : Hook W :=
  fun command ↦ Action.ofState (hook command)

/-- The executor with hooks that return, or without. -/
def withReturning (executor : Executor W) (before after : Option (Command → StateM W Unit)) :
    Executor W :=
  { executor with before := before.map returning, after := after.map returning }

theorem not_panics_returning (hook : Option (Command → StateM W Unit)) (command : Command)
    (panic : Panic) : ¬Panics (hook.map returning) command panic := by
  rintro ⟨world, hpanic⟩
  cases hook with
  | none => cases hpanic
  | some hook => cases hpanic

/-! ## How a call goes -/

/-- Events that are noted only if the backend succeeded. -/
def ifWell (reply : Except Panic (BackendResult Output)) (events : List Event) : List Event :=
  match reply with
  | .ok (.ok _) => events
  | _ => []

/-- How a call goes whose hooks return. -/
inductive InOrder (executor : Executor W) (command : Command) (code : String)
    (operation : Operation) :
    List Event → Except Panic (Result Output) → Executor W → Prop where
  /-- The connection was lost under the transaction. -/
  | lost (hactive : executor.isActive) :
      InOrder executor command code operation [.looked .closed]
        (.ok (.error (.execution code connectionLost.display command.sql
          command.parameterSnapshot))) { executor with transaction := none }
  /-- The connection was closed and cannot be opened. -/
  | unopened (e : BackendError) :
      InOrder executor command code operation
        (check executor.transaction ++ [.looked .closed, .looked .closed, .opened (.error e)])
        (.ok (.error (.connection e))) executor
  /-- The backend was given the command. -/
  | served {opening : List Event} {left : Executor W} {answer : Except Panic Answer}
      {reply : Except Panic (BackendResult Output)}
      (hopen : EnsuredOpen executor opening (.ok ()) left)
      (hserve : Served operation answer reply) :
      InOrder executor command code operation
        (check executor.transaction ++ opening ++ shownTo .before executor.before command ++
          [.called (.ofOperation operation) command, .answered answer] ++
          ifWell reply (shownTo .after executor.after command))
        (reply.map (·.mapError fun e ↦
          .execution code e.display command.sql command.parameterSnapshot)) left

section

variable {executor left : Executor W} {sql : String} {parameters : List Parameter} {code : String}
  {operation : Operation} {events : List Event} {outcome : Except Panic (Result Output)}

theorem Finished.inOrder {opening more : List Event} {command : Command}
    {answer : Except Panic Answer} {reply : Except Panic (BackendResult Output)}
    (h : Finished executor.after command code reply more outcome)
    (hafter : ∀ command panic, ¬Panics executor.after command panic)
    (hopen : EnsuredOpen executor opening (.ok ()) left)
    (hserve : Served operation answer reply) :
    InOrder executor command code operation
      (check executor.transaction ++ opening ++ shownTo .before executor.before command ++
        [.called (.ofOperation operation) command, .answered answer] ++ more) outcome left := by
  cases h with
  | panicked panic => exact .served hopen hserve
  | failed e => exact .served hopen hserve
  | succeeded output => exact .served hopen hserve
  | hookPanicked output hpanic => cases hafter command _ hpanic

theorem Executed.inOrder
    (h : Executed executor sql parameters code operation events outcome left)
    (hbefore : ∀ command panic, ¬Panics executor.before command panic)
    (hafter : ∀ command panic, ¬Panics executor.after command panic) :
    InOrder executor (executor.commandNow sql parameters) code operation events outcome left := by
  cases h with
  | unprepared hprepare =>
    cases hprepare with
    | unready hready =>
      cases hready with
      | lost hactive => exact .lost hactive
      | passed hopen =>
        cases hopen with
        | failed e => exact .unopened e
  | panicked hprepare =>
    cases hprepare with
    | panicked hready hpanic => cases hbefore _ _ hpanic
  | served hprepare hserve hfinish =>
    cases hprepare with
    | prepared hready =>
      cases hready with
      | passed hopen =>
        rw [← List.append_assoc]
        exact hfinish.inOrder hafter hopen hserve

/-! ## The stages of a call -/

theorem filterMap_stage_check (transaction : Option ActiveTransaction) :
    (check transaction).filterMap Event.stage? = [] := by
  cases transaction <;> rfl

theorem EnsuredOpen.stages {answer : Result Unit} (h : EnsuredOpen executor events answer left) :
    (events.filterMap Event.stage?).Sublist [.opening] := by
  cases h with
  | found | foundLate => exact List.nil_sublist _
  | opened | failed => exact List.Sublist.refl _

theorem stages_shownTo_before (hook : Option (Hook W)) (command : Command) :
    ((shownTo .before hook command).filterMap Event.stage?).Sublist [.before] := by
  cases hook with
  | none => exact List.nil_sublist _
  | some hook => exact List.Sublist.refl _

theorem stages_ifWell (reply : Except Panic (BackendResult Output)) (hook : Option (Hook W))
    (command : Command) :
    ((ifWell reply (shownTo .after hook command)).filterMap Event.stage?).Sublist [.after] := by
  rcases reply with panic | e | output
  · exact List.nil_sublist _
  · exact List.nil_sublist _
  · cases hook with
    | none => exact List.nil_sublist _
    | some hook => exact List.Sublist.refl _

/-- The stages of a call come in order and at most once. -/
theorem InOrder.stages {command : Command}
    (h : InOrder executor command code operation events outcome left) :
    (events.filterMap Event.stage?).Sublist Trace.stages := by
  cases h with
  | lost => exact List.nil_sublist _
  | unopened e =>
    rw [List.filterMap_append, filterMap_stage_check]
    exact List.sublist_append_left [Stage.opening] [.before, .operation, .after]
  | @served opening left answer reply hopen hserve =>
    rw [List.filterMap_append, List.filterMap_append, List.filterMap_append, List.filterMap_append,
      filterMap_stage_check, List.nil_append]
    have hcalled : [Event.called (.ofOperation operation) command, .answered answer].filterMap
        Event.stage? = [.operation] := rfl
    rw [hcalled]
    have hbefore := hopen.stages.append (stages_shownTo_before executor.before command)
    have hall := (hbefore.append (List.Sublist.refl [.operation])).append
      (stages_ifWell reply executor.after command)
    exact hall

end

/-- **A call goes in order**, and does so whether or not it is recorded. -/
theorem execute_inOrder (executor : Executor W) (before after : Option (Command → StateM W Unit))
    (sql : String) (parameters : List Parameter) (code : String) (operation : Operation)
    (world : W) :
    let executor := executor.withReturning before after
    let command : Command :=
      ⟨sql, executor.serverType.name, Inference.infer sql parameters,
        executor.transaction.map (·.id)⟩
    ∃ events outcome left world', InOrder executor command code operation events outcome left ∧
      (events.filterMap Event.stage?).Sublist stages ∧
      Records (execute sql parameters code operation) (execute sql parameters code operation)
        ⟨executor, world⟩ outcome events ⟨left, world'⟩ := by
  intro executor command
  obtain ⟨events, outcome, left, world', hexecuted, hrecords⟩ :=
    execute_records sql parameters code operation ⟨executor, world⟩
  have horder := hexecuted.inOrder (not_panics_returning before) (not_panics_returning after)
  exact ⟨events, outcome, left, world', horder, horder.stages, hrecords⟩

end Executor

end SqlGateway
