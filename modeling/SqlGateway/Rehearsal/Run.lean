import SqlGateway.Executor.Pipeline
import SqlGateway.Rehearsal.Connection
import SqlGateway.Settings.Text

/-!
# Running a rehearsal

A rehearsal is a list of requests, each about the factory, about the scripts or about one of the
executors, which have names. Every request is answered with its result, what was recorded
meanwhile, and how the executor of that name stands after it. At the end the executors that are
left are given up in the order of their names.
-/

namespace SqlGateway.Rehearsal

/-! ## Requests -/

/-- A call of an executor. -/
inductive CallRequest where
  | scalar
  | nonQuery
  | table
  | tableSet (names : List String)
  | execute (code : String) (operation : Operation)
deriving Inhabited

/-- When the token of an asynchronous call is cancelled. -/
inductive CancelTime where
  | never | before | afterFirstPoll
deriving Repr, DecidableEq, Inhabited

/-- What is asked for. -/
inductive Request where
  | register (serverType : ServerType) (dialect : Dialect) (plain : Bool)
  | contains (serverType : ServerType)
  | getConnector (serverType : ServerType)
  | describeRegistry
  | create (config : DbConfig)
  | createByDefault (config : DbConfig)
  | createNamed (toml name : String)
  | createOver (serverType : ServerType) (dialect : Dialect) (plain : Bool)
  | testConnection (config : DbConfig)
  | testConnectionByDefault (config : DbConfig)
  /-- Change what later connections start with, and whether connecting fails. -/
  | reviseConnector (change : Script → Script) (fail : Option BackendError → Option BackendError)
  | reviseScript (change : Script → Script)
  | look
  | describe
  | compile (shape : QueryShape) (subQuery : Bool)
  | begin (isolation : Option IsolationLevel)
  | commit
  | rollback
  | giveUp
  | setHook (name : HookName) (tag : String) (disconnect : Bool) (panic : Option String)
  | clearHooks
  | call (request : CallRequest) (sql : String) (parameters : List Parameter)
  | callAsync (request : CallRequest) (sql : String) (parameters : List Parameter)
    (cancel : CancelTime)

/-! ## Answers -/

/-- The result of a request. -/
inductive Answer where
  | done
  | truth (holds : Bool)
  | text (content : String)
  | connectorOf (dialect : String)
  | created (serverType : ServerType) (dialect : String)
  | output (output : Output)
  | failed (e : Error)
  | panicked (message : String)
  | noExecutor
  /-- Of an asynchronous call: whether its first poll left it pending. -/
  | polled (pending : Bool) (answer : Answer)
deriving Inhabited

/-- How an executor stands. -/
structure Status where
  state : ConnectionState
  transaction : Option ActiveTransaction

/-- The answer to a request. -/
structure Report where
  answer : Answer
  events : List Event
  status : Option Status

/-- The answer of a result. -/
def answerOf {α : Type} (wrap : α → Answer) : Result α → Answer
  | .ok a => wrap a
  | .error e => .failed e

/-! ## The state of a rehearsal -/

/-- An executor with the number of its scripted connection, if it has one. -/
structure Actor where
  executor : Executor World
  connection : Option Nat

/-- A rehearsal in progress. Executors are kept in the order of their names. -/
structure Stage where
  world : World
  registry : Registry World
  actors : List (String × Actor)

/-- A rehearsal that has not begun. -/
def Stage.start (registry : Registry World) (directories : List String) : Stage :=
  ⟨{ disk := .ofDirectories directories }, registry, []⟩

namespace Stage

/-- The executor of a name. -/
def actor? (stage : Stage) (name : String) : Option Actor :=
  (stage.actors.find? fun entry ↦ entry.1 == name).map Prod.snd

/-- Put an executor in the place of its name. -/
def place (name : String) (actor : Actor) : List (String × Actor) → List (String × Actor)
  | [] => [(name, actor)]
  | entry :: entries =>
    if name < entry.1 then (name, actor) :: entry :: entries
    else if entry.1 < name then entry :: place name actor entries
    else (name, actor) :: entries

def withActor (stage : Stage) (name : String) (actor : Actor) : Stage :=
  { stage with actors := place name actor stage.actors }

def withoutActor (stage : Stage) (name : String) : Stage :=
  { stage with actors := stage.actors.filter fun entry ↦ entry.1 != name }

/-- Give an executor up. -/
def disposeActor (stage : Stage) (actor : Actor) : Stage :=
  let ((), scene) := Executor.dispose.run ⟨actor.executor, stage.world⟩
  { stage with world := scene.world }

/-! ## Requests about the factory -/

/-- Take a new executor in. One that had the name before is given up after that. -/
def takeIn (stage : Stage) (name : String) (make : StateM World (Result (Executor World))) :
    Answer × Stage :=
  let before := stage.world.scripts.length
  let (made, world) := make.run stage.world
  let stage := { stage with world := world }
  match made with
  | .error e => (.failed e, stage)
  | .ok executor =>
    let connection := if before < world.scripts.length then some (before + 1) else none
    let replaced := stage.actor? name
    let stage := stage.withActor name ⟨executor, connection⟩
    let stage := match replaced with
      | some actor => stage.disposeActor actor
      | none => stage
    (.created executor.serverType executor.dialect.name, stage)

/-- Make an executor over a scripted connection without the factory. -/
def createOver (serverType : ServerType) (dialect : Dialect) (plain : Bool) :
    StateM World (Result (Executor World)) := do
  match ← connect plain "" with
  | .error e => return .error (.connection e)
  | .ok backend => Executor.create serverType dialect backend

/-- Do something to the world for an answer. -/
def act (stage : Stage) (step : StateM World Answer) : Answer × Stage :=
  let (answer, world) := step.run stage.world
  (answer, { stage with world := world })

/-! ## Requests about an executor -/

/-- Change an executor by a call. -/
def play (stage : Stage) (name : String) (actor : Actor)
    (action : Action (Scene World) Answer) : Answer × Stage :=
  let (outcome, scene) := action.perform ⟨actor.executor, stage.world⟩
  let stage := { stage with world := scene.world }
  let stage := stage.withActor name { actor with executor := scene.executor }
  match outcome with
  | .ok answer => (answer, stage)
  | .error panic => (.panicked panic.message, stage)

/-- Make a call. -/
def callNow (sql : String) (parameters : List Parameter) :
    CallRequest → Action (Scene World) (Result Output)
  | .scalar => do return (← Executor.scalar sql parameters).map .scalar
  | .nonQuery => do return (← Executor.nonQuery sql parameters).map .rowsAffected
  | .table => do return (← Executor.table sql parameters).map .table
  | .tableSet names => do return (← Executor.tableSet sql parameters names).map .tableSet
  | .execute code operation => Executor.execute sql parameters code operation

/-- The work of a call. -/
def callWork (sql : String) (parameters : List Parameter) :
    CallRequest → Work (Scene World) (Result Output)
  | .scalar => (Executor.scalarAsync sql parameters World.token).map (·.map .scalar)
  | .nonQuery => (Executor.nonQueryAsync sql parameters World.token).map (·.map .rowsAffected)
  | .table => (Executor.tableAsync sql parameters World.token).map (·.map .table)
  | .tableSet names =>
    (Executor.tableSetAsync sql parameters names World.token).map (·.map .tableSet)
  | .execute code operation => Executor.executeAsync sql parameters code operation World.token

/-- Cancel the caller's token at a given time. -/
def cancelAt (now time : CancelTime) : StateM (Scene World) Unit :=
  modify fun scene ↦
    if now = time then { scene with world := scene.world.cancel } else scene

/-- Poll the work of a call once, and then to its end. -/
def pollCall (work : Work (Scene World) (Result Output)) (cancel : CancelTime) :
    Action (Scene World) Answer := do
  Action.ofState (cancelAt .before cancel)
  let rest ← Action.ofState (work.resume ·)
  Action.ofState (cancelAt .afterFirstPoll cancel)
  return .polled (!rest.isDone) (answerOf .output (← rest.await))

/-- A request about an executor. -/
def playRequest (stage : Stage) (name : String) (actor : Actor) : Request → Answer × Stage
  | .reviseScript change =>
    match actor.connection with
    | some connection =>
      (.done, { stage with world := stage.world.revise connection change })
    | none => (.done, stage)
  | .look => (.done, stage)
  | .describe => stage.play name actor do
    let state ← Action.ofState Executor.connectionState
    let showId (id : Uuid) : String := "#" ++ toString id.bits.toNat
    return .text ((← get).executor.describe showId state)
  | .compile shape subQuery => (answerOf .text (actor.executor.compile shape subQuery), stage)
  | .begin isolation => stage.play name actor do
    return answerOf (fun () ↦ .done) (← Action.ofState (Executor.begin isolation))
  | .commit => stage.play name actor do
    return answerOf (fun () ↦ .done) (← Action.ofState Executor.commit)
  | .rollback => stage.play name actor do
    return answerOf (fun () ↦ .done) (← Action.ofState Executor.rollback)
  | .giveUp => (.done, (stage.withoutActor name).disposeActor actor)
  | .setHook hook tag disconnect panic =>
    let cut := if disconnect then actor.connection else none
    let shown := recordingHook hook tag cut panic
    let executor := match hook with
      | .before => actor.executor.setBefore shown
      | .after => actor.executor.setAfter shown
    (.done, stage.withActor name { actor with executor := executor })
  | .clearHooks =>
    (.done, stage.withActor name { actor with executor := actor.executor.clearHooks })
  | .call request sql parameters => stage.play name actor do
    return answerOf .output (← callNow sql parameters request)
  | .callAsync request sql parameters cancel =>
    stage.play name actor (pollCall (callWork sql parameters request) cancel)
  | _ => (.done, stage)

/-! ## All requests -/

/-- A request with the name of the executor it is about. -/
def request (stage : Stage) (name : String) (request : Request) : Answer × Stage :=
  match request with
  | .register serverType dialect plain =>
    (.done,
      { stage with registry := stage.registry.register serverType (connector plain dialect) })
  | .contains serverType => (.truth (stage.registry.contains serverType), stage)
  | .getConnector serverType =>
    (answerOf (fun connector ↦ .connectorOf connector.dialect.name)
      (stage.registry.get serverType), stage)
  | .describeRegistry => (.text stage.registry.describe, stage)
  | .create config => stage.takeIn name (Factory.create stage.registry config)
  | .createByDefault config => stage.takeIn name (Factory.create (.default World) config)
  | .createNamed toml named =>
    match Settings.parse toml with
    | .error e => (.failed e, stage)
    | .ok settings => stage.takeIn name (Factory.createNamed stage.registry settings named)
  | .createOver serverType dialect plain =>
    stage.takeIn name (createOver serverType dialect plain)
  | .testConnection config => stage.act do
    return .truth (← Factory.testConnection stage.registry config)
  | .testConnectionByDefault config => stage.act do
    return .truth (← Factory.testConnection (.default World) config)
  | .reviseConnector change fail => stage.act do
    modify fun world ↦
      { world with starting := change world.starting, failConnect := fail world.failConnect }
    return .done
  | other =>
    match stage.actor? name with
    | some actor => stage.playRequest name actor other
    | none => (.noExecutor, stage)

/-- How the executor of a name stands. -/
def status (stage : Stage) (name : String) : Option Status × Stage :=
  match stage.actor? name with
  | none => (none, stage)
  | some actor =>
    let (state, scene) := Executor.connectionState.run ⟨actor.executor, stage.world⟩
    (some ⟨state, actor.executor.transaction⟩, { stage with world := scene.world })

/-- Answer a request; commands meanwhile give `reply`. -/
def respond (stage : Stage) (name : String) (reply : Reply) (asked : Request) : Report × Stage :=
  let stage := { stage with world := { stage.world with reply := reply, cancelled := false } }
  let (answer, stage) := stage.request name asked
  let (status, stage) := stage.status name
  let (events, world) := World.takeEvents.run stage.world
  (⟨answer, events, status⟩, { stage with world := world })

/-- Give up the executors that are left; gives what was recorded meanwhile. -/
def finish (stage : Stage) : List Event :=
  let stage := stage.actors.foldl (fun stage entry ↦ stage.disposeActor entry.2) stage
  (World.takeEvents.run stage.world).1

end Stage

end SqlGateway.Rehearsal
