import SqlGateway.Executor.Pipeline

/-!
# Recorded worlds

What an executor asks of its backend and shows to its hooks cannot be read off its answers. A
recorded world keeps a log beside a world: a recorded backend does what the backend under it does
and notes what it was asked and what it answered, a recorded hook notes the command it was shown.
Statements about the order of calls are then statements about the log.

## The backend under the record is arbitrary

Nothing is assumed about the world or about the backend, so that they may be those of an adversary:
every call may succeed or fail, and as reading the state of a connection is a step of the world as
well, the connection may be lost before any reading. A statement about all recorded backends is one
about every sequence of answers.
-/

namespace SqlGateway

namespace Trace

/-! ## Events -/

/-- A function of a backend that runs a command. -/
inductive Service where
  | scalar | nonQuery | reader | fill | fillCancellable | scalarAsync | nonQueryAsync | readerAsync
deriving Repr, DecidableEq

/-- What a backend answers a command with, before it is made an output. -/
inductive Answer where
  | value (answer : BackendResult Value)
  | rows (answer : BackendResult UInt64)
  | table (answer : BackendResult DataTable)
  | tables (answer : BackendResult (List DataTable))

/-- Which of the two hooks. -/
inductive Side where
  | before | after
deriving Repr, DecidableEq

/-- What is noted in a log. -/
inductive Event where
  /-- The state of the connection was read. -/
  | looked (state : ConnectionState)
  | opened (answer : BackendResult Unit)
  | closed (answer : BackendResult Unit)
  | began (isolation : Option IsolationLevel) (answer : BackendResult Unit)
  | committed (answer : BackendResult Unit)
  | rolledBack (answer : BackendResult Unit)
  /-- A new id was drawn. -/
  | named (id : Uuid)
  /-- The token was read. -/
  | asked (fired : Bool)
  | interrupted
  /-- The backend was given a command. -/
  | called (service : Service) (command : Command)
  /-- The backend answered the command it was given last, or panicked. -/
  | answered (outcome : Except Panic Answer)
  /-- A hook was shown a command. -/
  | shown (side : Side) (command : Command)

/-! ## Worlds with a log -/

/-- A world with the log of what was done in it, in order. -/
structure Recorded (W : Type) where
  world : W
  log : List Event

namespace Recorded

variable {W α : Type}

/-- The same step, noted with its answer. -/
def note (event : α → Event) (step : StateM W α) : StateM (Recorded W) α := fun recorded ↦
  let (a, world) := step.run recorded.world
  (a, ⟨world, recorded.log ++ [event a]⟩)

instance [IdSource W] : IdSource (Recorded W) := ⟨note .named IdSource.newId⟩

/-- The same token, whose readings are noted. -/
def token (token : Cancellation W) : Cancellation (Recorded W) := note .asked token

/-- A token as the backend under the record sees it, whose own readings are not noted. -/
def bareToken (token : Cancellation (Recorded W)) : Cancellation W := fun world ↦
  let (fired, recorded) := token.run ⟨world, []⟩
  (fired, recorded.world)

/-- The same hook, which notes the command it is shown. -/
def hook (side : Side) (hook : Hook W) : Hook (Recorded W) := fun command recorded ↦
  let (outcome, world) := (hook command).perform recorded.world
  Action.ofOutcome outcome ⟨world, recorded.log ++ [.shown side command]⟩

theorem perform_hook (side : Side) (hook : Hook W) (command : Command) (recorded : Recorded W) :
    (Recorded.hook side hook command).perform recorded =
      (((hook command).perform recorded.world).1,
        ⟨((hook command).perform recorded.world).2, recorded.log ++ [.shown side command]⟩) :=
  Action.perform_ofOutcome _ _

/-- The same command, noted with its answer. -/
def serve (service : Service) (answer : BackendResult α → Answer) (command : Command)
    (action : Action W (BackendResult α)) : Action (Recorded W) (BackendResult α) :=
  fun recorded ↦
    let (outcome, world) := action.perform recorded.world
    Action.ofOutcome outcome
      ⟨world, recorded.log ++ [.called service command, .answered (outcome.map answer)]⟩

theorem perform_serve (service : Service) (answer : BackendResult α → Answer)
    (command : Command) (action : Action W (BackendResult α)) (recorded : Recorded W) :
    (serve service answer command action).perform recorded =
      ((action.perform recorded.world).1,
        ⟨(action.perform recorded.world).2, recorded.log ++
          [.called service command, .answered ((action.perform recorded.world).1.map answer)]⟩) :=
  Action.perform_ofOutcome _ _

/-- What is noted of work when it is left: its answer, if it is finished. -/
def ending (answer : BackendResult α → Answer) : Work W (BackendResult α) → List Event
  | .done outcome => [.answered (outcome.map answer)]
  | .poll _ _ => []

/-- The same work, whose answer is noted at the poll that finishes it. -/
def follow (answer : BackendResult α → Answer) :
    Work W (BackendResult α) → Work (Recorded W) (BackendResult α)
  | .done outcome => .done outcome
  | .poll effect rest =>
    .poll
      (fun recorded ↦
        ⟨effect recorded.world, recorded.log ++ ending answer (rest recorded.world)⟩)
      fun recorded ↦ follow answer (rest recorded.world)

/-- The same work, which is noted at its first poll and with its answer. -/
def serveLater (service : Service) (answer : BackendResult α → Answer) (command : Command) :
    Work W (BackendResult α) → Work (Recorded W) (BackendResult α)
  | .done outcome =>
    .poll
      (fun recorded ↦
        ⟨recorded.world,
          recorded.log ++ [.called service command, .answered (outcome.map answer)]⟩)
      fun _ ↦ .done outcome
  | .poll effect rest =>
    .poll
      (fun recorded ↦
        ⟨effect recorded.world,
          recorded.log ++ .called service command :: ending answer (rest recorded.world)⟩)
      fun recorded ↦ follow answer (rest recorded.world)

end Recorded

end Trace

open Trace

variable {W : Type}

/-! ## Recorded executors -/

/-- The same backend, every call of which is noted. -/
def Backend.recorded (backend : Backend W) : Backend (Recorded W) where
  state := Recorded.note .looked backend.state
  establish := Recorded.note .opened backend.establish
  close := Recorded.note .closed backend.close
  begin isolation := Recorded.note (.began isolation) (backend.begin isolation)
  commit := Recorded.note .committed backend.commit
  rollback := Recorded.note .rolledBack backend.rollback
  interrupt := Recorded.note (fun () ↦ .interrupted) backend.interrupt
  scalar command := Recorded.serve .scalar .value command (backend.scalar command)
  nonQuery command := Recorded.serve .nonQuery .rows command (backend.nonQuery command)
  reader command := Recorded.serve .reader .table command (backend.reader command)
  fill command := Recorded.serve .fill .tables command (backend.fill command)
  fillCancellable command token := Recorded.serveLater .fillCancellable .tables command
    (backend.fillCancellable command (Recorded.bareToken token))
  scalarAsync command token := Recorded.serveLater .scalarAsync .value command
    (backend.scalarAsync command (Recorded.bareToken token))
  nonQueryAsync command token := Recorded.serveLater .nonQueryAsync .rows command
    (backend.nonQueryAsync command (Recorded.bareToken token))
  readerAsync command token := Recorded.serveLater .readerAsync .table command
    (backend.readerAsync command (Recorded.bareToken token))

/-- The same executor over the recorded backend and with recorded hooks. -/
def Executor.recorded (executor : Executor W) : Executor (Recorded W) where
  serverType := executor.serverType
  dialect := executor.dialect
  backend := executor.backend.recorded
  before := executor.before.map (Recorded.hook .before)
  after := executor.after.map (Recorded.hook .after)
  transaction := executor.transaction
  closed := executor.closed
  disposed := executor.disposed

/-- The same scene with a log of what was done before. -/
def Scene.recorded (scene : Scene W) (log : List Event) : Scene (Recorded W) :=
  ⟨scene.executor.recorded, ⟨scene.world, log⟩⟩

/-- The backend under the record reads the caller's own token. -/
@[simp] theorem Recorded.bareToken_token (token : Cancellation W) :
    Recorded.bareToken (Recorded.token token) = token := rfl

end SqlGateway
