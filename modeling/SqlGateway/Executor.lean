import SqlGateway.Backend
import SqlGateway.Error
import SqlGateway.ServerType
import SqlGateway.Text.Quote

/-!
# Executors

An executor owns one connection and at most one transaction. It opens the connection when it is
made, opens it again when a call finds it closed, and closes it once at the end.

## Transactions

| transaction | `begin` | `commit`, `rollback` |
|---|---|---|
| none | a new one is active | nothing happens |
| active | refused | ended, whatever the backend answers |

A transaction dies with the connection it was begun on. It is then forgotten without a word to the
backend.

## Effects

A call runs in a scene: the executor together with the world that its connection is in. It fails
with an `Error`, or panics if a hook or the backend does; either way the scene is kept as it is
then.
-/

namespace SqlGateway

/-- A world in which ids can be drawn that were not drawn before. -/
class IdSource (W : Type) where
  newId : StateM W Uuid

/-- A transaction that is active. -/
structure ActiveTransaction where
  id : Uuid
  /-- The isolation that was asked for. -/
  isolation : Option IsolationLevel
deriving Repr, DecidableEq, Inhabited

/-- A hook, which is shown commands. -/
abbrev Hook (W : Type) := Command → Action W Unit

/-- An executor. -/
structure Executor (W : Type) where
  serverType : ServerType
  dialect : Dialect
  backend : Backend W
  /-- Is shown every command before the backend is. -/
  before : Option (Hook W) := none
  /-- Is shown every command that succeeded. -/
  after : Option (Hook W) := none
  transaction : Option ActiveTransaction := none
  /-- Whether the connection has been closed since it was opened last. -/
  closed : Bool := false
  /-- Whether the executor has been given up. -/
  disposed : Bool := false

/-- An executor in its world. -/
structure Scene (W : Type) where
  executor : Executor W
  world : W

/-- The answer of a call of an executor. -/
abbrev Result (α : Type) := Except Error α

namespace Scene

variable {W α : Type}

/-- Do something to the world of a scene. -/
def act (step : StateM W α) : StateM (Scene W) α := fun scene ↦
  let (a, world) := step.run scene.world
  (a, { scene with world := world })

/-- Do something to the world of a scene that may panic. -/
def perform (action : Action W α) : Action (Scene W) α := fun scene ↦
  match action.run scene.world with
  | .ok a world => .ok a { scene with world := world }
  | .error panic world => .error panic { scene with world := world }

theorem perform_perform (action : Action W α) (scene : Scene W) :
    (Scene.perform action).perform scene =
      ((action.perform scene.world).1,
        { scene with world := (action.perform scene.world).2 }) := by
  simp only [perform, Action.perform, EStateM.run]
  cases action scene.world <;> rfl

/-- Change the executor. -/
def revise (change : Executor W → Executor W) : StateM (Scene W) Unit := fun scene ↦
  ((), { scene with executor := change scene.executor })

end Scene

namespace Executor

variable {W : Type}

/-! ## The connection -/

/-- The state of the connection. -/
def connectionState : StateM (Scene W) ConnectionState := do
  let scene ← get
  Scene.act scene.executor.backend.state

/-- Make sure that the connection is open. Its state is read again before it is opened. -/
def ensureOpen : StateM (Scene W) (Result Unit) := do
  let scene ← get
  if (← connectionState) = .open then return .ok ()
  if (← connectionState) = .open then return .ok ()
  match ← Scene.act scene.executor.backend.establish with
  | .error e => return .error (.connection e)
  | .ok () =>
    Scene.revise fun executor ↦ { executor with closed := false }
    return .ok ()

/-- Close the connection, unless it has been closed since it was opened last. -/
def closeConnection : StateM (Scene W) (BackendResult Unit) := do
  let scene ← get
  if scene.executor.closed then return .ok ()
  Scene.revise fun executor ↦ { executor with closed := true }
  Scene.act scene.executor.backend.close

/-! ## Transactions -/

/-- Whether a transaction is active. -/
def isActive (executor : Executor W) : Bool := executor.transaction.isSome

/-- Forget the transaction, if one is active. -/
def takeTransaction : StateM (Scene W) (Option ActiveTransaction) := do
  let scene ← get
  Scene.revise fun executor ↦ { executor with transaction := none }
  return scene.executor.transaction

/-- Begin a transaction. It gets its id once the backend has begun. -/
def begin [IdSource W] (isolation : Option IsolationLevel) : StateM (Scene W) (Result Unit) := do
  let scene ← get
  if scene.executor.isActive then return .error .transactionAlreadyStarted
  match ← ensureOpen with
  | .error e => return .error e
  | .ok () =>
    match ← Scene.act (scene.executor.backend.begin isolation) with
    | .error e => return .error (.transaction e)
    | .ok () =>
      let id ← Scene.act IdSource.newId
      Scene.revise fun executor ↦ { executor with transaction := some ⟨id, isolation⟩ }
      return .ok ()

/-- End the transaction, if one is active, by a call of the backend. -/
def endTransaction (finish : Backend W → StateM W (BackendResult Unit)) :
    StateM (Scene W) (Result Unit) := do
  let scene ← get
  match ← takeTransaction with
  | none => return .ok ()
  | some _ => return (← Scene.act (finish scene.executor.backend)).mapError .transaction

/-- Commit the transaction, if one is active. -/
def commit : StateM (Scene W) (Result Unit) := endTransaction Backend.commit

/-- Roll the transaction back, if one is active. -/
def rollback : StateM (Scene W) (Result Unit) := endTransaction Backend.rollback

/-! ## Beginning and end -/

/-- Make an executor of a connection and open it. -/
def create (serverType : ServerType) (dialect : Dialect) (backend : Backend W) :
    StateM W (Result (Executor W)) := fun world ↦
  let executor : Executor W :=
    { serverType := serverType, dialect := dialect, backend := backend }
  let (result, scene) := ensureOpen.run ⟨executor, world⟩
  (result.map fun () ↦ scene.executor, scene.world)

/-- Give the executor up: roll a pending transaction back and close the connection. Whether that
went well does not matter, and a second time nothing happens. -/
def dispose : StateM (Scene W) Unit := do
  let scene ← get
  if scene.executor.disposed then return
  Scene.revise fun executor ↦ { executor with disposed := true }
  let _ ← rollback
  let _ ← closeConnection

/-! ## Hooks and templates -/

def setBefore (hook : Hook W) (executor : Executor W) : Executor W :=
  { executor with before := some hook }

def setAfter (hook : Hook W) (executor : Executor W) : Executor W :=
  { executor with after := some hook }

def clearHooks (executor : Executor W) : Executor W :=
  { executor with before := none, after := none }

/-- The template for a shape in the dialect of the executor. -/
def compile (executor : Executor W) (shape : QueryShape) (subQuery : Bool) :
    Result String :=
  (executor.dialect.compile shape subQuery).mapError Error.ofDialect

/-- The executor in one line, for diagnostics. The transaction is shown as `showId` says. -/
def describe (showId : Uuid → String) (executor : Executor W) (state : ConnectionState) :
    String :=
  let transaction := match executor.transaction with
    | some transaction => "Some(" ++ showId transaction.id ++ ")"
    | none => "None"
  "Executor \x7b server_type: " ++ executor.serverType.name ++ ", dialect: " ++
    Text.quoted executor.dialect.name ++ ", connection: " ++ state.name ++ ", transaction: " ++
    transaction ++ " \x7d"

end Executor

end SqlGateway
