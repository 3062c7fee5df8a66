import SqlGateway.Rehearsal.World

/-!
# Scripted connections

A command is recorded, may cost the connection, and is refused if the connection was closed before
that. Then a command that can be cancelled may cancel the caller's token, and at last it panics,
fails or succeeds as the reply says. A text that contains `FAIL` fails in any case.
-/

namespace SqlGateway.Rehearsal

open World

/-- Fail as a script says. -/
def failing (failure : Option BackendError) : BackendResult Unit :=
  match failure with
  | some e => .error e
  | none => .ok ()

/-- Do what a signal asks for, and change the script if that succeeds. -/
def answerSignal (signal : Signal) (connection : Nat) (failure : Script → Option BackendError)
    (change : Script → Script) : StateM World (BackendResult Unit) := do
  record (.signal signal connection)
  let answer := failing (failure (script connection (← get)))
  if answer.isOk then modify (revise connection change)
  return answer

/-- Whether a text contains another one. -/
def containsText (part : List Char) : List Char → Bool
  | [] => part.isEmpty
  | c :: cs => part.isPrefixOf (c :: cs) || containsText part cs

/-- How a command ends that was not refused. -/
def verdict {α : Type} (reply : Reply) (command : Command) (answer : Reply → α) :
    Except Panic (BackendResult α) :=
  match reply.panic with
  | some message => .error ⟨message⟩
  | none =>
    match reply.error with
    | some e => .ok (.error e)
    | none =>
      if containsText "FAIL".toList command.sql.toList then
        .ok (.error (.execute "backend rejected command"))
      else .ok (.ok (answer reply))

/-- Receive a command; gives whether the connection was open. -/
def receive (name : CallName) (connection : Nat) (command : Command) : StateM World Bool := do
  record (.call name connection command)
  let world ← get
  if world.reply.disconnect then
    modify (revise connection fun script ↦ { script with isOpen := false })
  return (script connection world).isOpen

/-- Carry out a command. -/
def carryOut {α : Type} (name : CallName) (connection : Nat) (answer : Reply → α)
    (command : Command) : Action World (BackendResult α) := do
  if ← Action.ofState (receive name connection command) then
    Action.ofOutcome (verdict (← get).reply command answer)
  else return .error .closed

/-- Carry out a command that may cancel the caller's token; `waits` says whether it then goes on
at once. -/
def carryOutAsync {α : Type} (name : CallName) (connection : Nat) (waits : CancelMode → Bool)
    (answer : Reply → α) (command : Command) : Work World (BackendResult α) :=
  .poll
    (fun world ↦
      let (wasOpen, world) := (receive name connection command).run world
      if wasOpen && world.reply.cancel.isSome then cancel world else world)
    fun world ↦
      if (script connection world).isOpen then
        let ending := Work.done (verdict world.reply command answer)
        if world.reply.cancel.any waits then ending.later else ending
      else .done (.ok (.error .closed))

/-- The first table of a reply. -/
def Reply.firstTable (reply : Reply) : DataTable := reply.tables.headD .empty

/-- The part of a scripted connection that a plain one has. -/
def plainBackend (connection : Nat) : Backend World where
  state := fun world ↦ (if (script connection world).isOpen then .open else .closed, world)
  establish := answerSignal .open connection (·.failOpen) fun script ↦
    { script with isOpen := !script.staysClosed }
  close := answerSignal .close connection (·.failClose) fun script ↦
    { script with isOpen := false }
  begin isolation := do
    record (.begin connection isolation)
    return failing (script connection (← get)).failBegin
  commit := answerSignal .commit connection (·.failCommit) id
  rollback := answerSignal .rollback connection (·.failRollback) id
  scalar := carryOut .scalar connection Reply.value
  nonQuery := carryOut .nonQuery connection Reply.rows
  reader := carryOut .reader connection Reply.firstTable
  fill := carryOut .fill connection Reply.tables

/-- A scripted connection. Filling tables goes on only after an interrupt. -/
def fullBackend (connection : Nat) : Backend World :=
  { plainBackend connection with
    interrupt := record (.signal .interrupt connection)
    scalarAsync := fun command _ ↦
      carryOutAsync .scalarAsync connection (· == .pending) Reply.value command
    nonQueryAsync := fun command _ ↦
      carryOutAsync .nonQueryAsync connection (· == .pending) Reply.rows command
    readerAsync := fun command _ ↦
      carryOutAsync .readerAsync connection (· == .pending) Reply.firstTable command
    fillCancellable := fun command _ ↦
      carryOutAsync .fillCancellable connection (fun _ ↦ true) Reply.tables command }

/-- Make a scripted connection. -/
def connect (plain : Bool) (connectionString : String) :
    StateM World (BackendResult (Backend World)) := do
  record (.connect connectionString)
  let world ← get
  match world.failConnect with
  | some e => return .error e
  | none =>
    let connection := world.scripts.length + 1
    set { world with scripts := world.scripts ++ [world.starting] }
    return .ok (if plain then plainBackend connection else fullBackend connection)

/-- The connector of scripted connections. -/
def connector (plain : Bool) (dialect : Dialect) : Connector World where
  connect := connect plain
  dialect := dialect

/-- A hook that records what it is shown; then it may cut a connection, and panic. -/
def recordingHook (name : HookName) (tag : String) (disconnect : Option Nat)
    (panic : Option String) : Hook World := fun command ↦ do
  Action.ofState (record (.hook name tag command))
  if let some connection := disconnect then
    modify (revise connection fun script ↦ { script with isOpen := false })
  if let some message := panic then throw ⟨message⟩

end SqlGateway.Rehearsal
