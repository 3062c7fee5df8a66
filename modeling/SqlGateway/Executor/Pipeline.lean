import SqlGateway.Executor
import SqlGateway.Inference
import SqlGateway.Output

/-!
# Running commands

Every call, synchronous or not, takes the same steps: the connection is made sure to be open, the
parameters that the caller left out are inferred, the command is tagged with the transaction, the
hook before is shown it, the backend runs it, and if that went well the hook after is shown it.
A failure of the backend is reported with the caller's code, the text and the parameters.

If the connection was lost under a transaction, then the call is refused before any of that, and
the transaction is forgotten.

An asynchronous call never finishes at its first poll. Once the command is prepared, the token is
read; if it has fired by then, the backend is not called. Later the token is read before every
poll of the backend's work. If it has fired, the backend is interrupted and its work is awaited to
the end, so that nothing runs any more when the caller is answered; work that went well after all
counts as such.
-/

namespace SqlGateway.Executor

variable {W : Type}

/-! ## Commands -/

/-- The command for a text and the supplied parameters. -/
def commandFor (executor : Executor W) (sql : String) (parameters : List Parameter)
    (transaction : Option Uuid) : Command where
  sql := sql
  connection := executor.serverType.name
  parameters := Inference.infer sql parameters
  transaction := transaction

/-- The failure of a command, in the words of the backend. -/
def executionError (command : Command) (code : String) (e : BackendError) : Error :=
  .execution code e.display command.sql command.parameterSnapshot

/-- What a call under a transaction is told when the connection is gone. -/
def connectionLost : BackendError := .transaction "connection lost during transaction"

/-- Show a command to a hook, if there is one. -/
def consult (hook : Option (Hook W)) (command : Command) : Action (Scene W) Unit :=
  match hook with
  | some hook => Scene.perform (hook command)
  | none => pure ()

/-- Refuse a call whose transaction has lost its connection. -/
def refuseIfLost (sql : String) (parameters : List Parameter) (code : String) :
    StateM (Scene W) (Result Unit) := do
  let executor := (← get).executor
  if !executor.isActive then return .ok ()
  if (← connectionState) = .open then return .ok ()
  let lost ← takeTransaction
  let command := executor.commandFor sql parameters (lost.map (·.id))
  return .error (executionError command code connectionLost)

/-- The steps before a command is made. -/
def ready (sql : String) (parameters : List Parameter) (code : String) :
    StateM (Scene W) (Result Unit) := do
  match ← refuseIfLost sql parameters code with
  | .error e => return .error e
  | .ok () => ensureOpen

/-- The steps before the backend is called. -/
def prepare (sql : String) (parameters : List Parameter) (code : String) :
    Action (Scene W) (Result Command) := do
  match ← Action.ofState (ready sql parameters code) with
  | .error e => return .error e
  | .ok () =>
    let executor := (← get).executor
    let command := executor.commandFor sql parameters (executor.transaction.map (·.id))
    consult executor.before command
    return .ok command

/-- The steps after the backend has answered. -/
def finish (command : Command) (code : String) (answer : BackendResult Output) :
    Action (Scene W) (Result Output) := do
  match answer with
  | .ok output =>
    consult (← get).executor.after command
    return .ok output
  | .error e => return .error (executionError command code e)

/-! ## Operations -/

/-- A single table as an output; it is the first one. -/
def tableOutput (table : DataTable) : Output := .table (table.renamed (defaultTableName 0))

/-- Several tables as an output, under the caller's names. -/
def tablesOutput (names : List String) (tables : List DataTable) : Output :=
  .tableSet (nameTables tables names)

/-- Have the backend do an operation with a command. -/
def dispatch (backend : Backend W) (command : Command) :
    Operation → Action W (BackendResult Output)
  | .scalar => do return (← backend.scalar command).map .scalar
  | .nonQuery => do return (← backend.nonQuery command).map .rowsAffected
  | .table => do return (← backend.reader command).map tableOutput
  | .tableSet names => do return (← backend.fill command).map (tablesOutput names)

/-- What becomes of a panic on the thread that fills tables. -/
def workerFailure (panic : Panic) : BackendError :=
  .execute ("fill worker failed: task N panicked with message " ++ Text.quoted panic.message)

/-- Have the backend do an operation with a command without waiting for it. Several tables are
filled on a thread of its own, whose panics are failures. -/
def dispatchAsync (backend : Backend W) (command : Command) (token : Cancellation W) :
    Operation → Work W (BackendResult Output)
  | .scalar => (backend.scalarAsync command token).map (·.map .scalar)
  | .nonQuery => (backend.nonQueryAsync command token).map (·.map .rowsAffected)
  | .table => (backend.readerAsync command token).map (·.map tableOutput)
  | .tableSet names =>
    (((backend.fillCancellable command token).later).recover fun panic ↦
      .error (workerFailure panic)).map (·.map (tablesOutput names))

/-! ## Synchronous calls -/

/-- Run a text with parameters. Its failure is tagged with `code`. -/
def execute (sql : String) (parameters : List Parameter) (code : String)
    (operation : Operation) : Action (Scene W) (Result Output) := do
  match ← prepare sql parameters code with
  | .error e => return .error e
  | .ok command =>
    let backend := (← get).executor.backend
    let answer ← Scene.perform (dispatch backend command operation)
    finish command code answer

/-- The first cell of the first result, or `NULL`. -/
def scalar (sql : String) (parameters : List Parameter) : Action (Scene W) (Result Value) := do
  return (← execute sql parameters errorCodes.scalar .scalar).bind Output.toScalar

/-- The number of rows affected. -/
def nonQuery (sql : String) (parameters : List Parameter) : Action (Scene W) (Result UInt64) := do
  return (← execute sql parameters errorCodes.nonQuery .nonQuery).bind Output.toRowsAffected

/-- The first result. -/
def table (sql : String) (parameters : List Parameter) : Action (Scene W) (Result DataTable) := do
  return (← execute sql parameters errorCodes.table .table).bind Output.toTable

/-- Every result, under the given names as far as they go. -/
def tableSet (sql : String) (parameters : List Parameter) (names : List String) :
    Action (Scene W) (Result DataSet) := do
  return (← execute sql parameters errorCodes.tableSet (.tableSet names)).bind Output.toTableSet

/-! ## Asynchronous calls -/

/-- The answer of a call that was interrupted: a failure is a cancellation. -/
def onlyIfWell : BackendResult Output → BackendResult Output
  | .ok output => .ok output
  | .error _ => .error .cancelled

/-- Poll the work of a backend while the token has not fired. If it fires before the work has
ended, interrupt the backend and await the rest of the work; unless that goes well, the call was
cancelled. -/
def runCancellable (backend : Backend W) (token : Cancellation W)
    (work : Work W (BackendResult Output)) : Action W (BackendResult Output) := fun world ↦
  match work.race token world with
  | (.finished outcome, world) => Action.ofOutcome outcome world
  | (.fired rest, world) =>
    let ((), world) := backend.interrupt.run world
    ((rest.map onlyIfWell).await) world

/-- Poll the work of a backend unless the token has fired already. -/
def runUnlessCancelled (backend : Backend W) (token : Cancellation W)
    (work : Work W (BackendResult Output)) : Action W (BackendResult Output) := do
  if ← Action.ofState token then return .error .cancelled
  runCancellable backend token work

/-- The steps of an asynchronous call after its first poll. -/
def executeCancellable (sql : String) (parameters : List Parameter) (code : String)
    (operation : Operation) (token : Cancellation W) : Action (Scene W) (Result Output) := do
  match ← prepare sql parameters code with
  | .error e => return .error e
  | .ok command =>
    let backend := (← get).executor.backend
    let work := dispatchAsync backend command token operation
    let answer ← Scene.perform (runUnlessCancelled backend token work)
    finish command code answer

/-- Run a text with parameters without waiting for it. Its failure is tagged with `code`. -/
def executeAsync (sql : String) (parameters : List Parameter) (code : String)
    (operation : Operation) (token : Cancellation W) : Work (Scene W) (Result Output) :=
  (Work.ofAction (executeCancellable sql parameters code operation token)).later

/-- The first cell of the first result, or `NULL`. -/
def scalarAsync (sql : String) (parameters : List Parameter) (token : Cancellation W) :
    Work (Scene W) (Result Value) :=
  (executeAsync sql parameters errorCodes.scalar .scalar token).map (·.bind Output.toScalar)

/-- The number of rows affected. -/
def nonQueryAsync (sql : String) (parameters : List Parameter) (token : Cancellation W) :
    Work (Scene W) (Result UInt64) :=
  (executeAsync sql parameters errorCodes.nonQuery .nonQuery token).map
    (·.bind Output.toRowsAffected)

/-- The first result. -/
def tableAsync (sql : String) (parameters : List Parameter) (token : Cancellation W) :
    Work (Scene W) (Result DataTable) :=
  (executeAsync sql parameters errorCodes.table .table token).map (·.bind Output.toTable)

/-- Every result, under the given names as far as they go. -/
def tableSetAsync (sql : String) (parameters : List Parameter) (names : List String)
    (token : Cancellation W) : Work (Scene W) (Result DataSet) :=
  (executeAsync sql parameters errorCodes.tableSet (.tableSet names) token).map
    (·.bind Output.toTableSet)

end SqlGateway.Executor
