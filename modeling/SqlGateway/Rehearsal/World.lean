import SqlGateway.Factory

/-!
# The world of a rehearsal

In a rehearsal executors are tried out over connections that follow a script: it says which calls
fail, whether opening succeeds, and what the next command gives. The world records what the
connections and the hooks were asked to do. Databases of SQLite stand beside the scripted
connections and are not recorded.
-/

namespace SqlGateway.Rehearsal

/-! ## Scripts -/

/-- What a scripted connection does. -/
structure Script where
  /-- Whether the connection is open. -/
  isOpen : Bool := false
  /-- Whether it is still closed after it was opened. -/
  staysClosed : Bool := false
  failOpen : Option BackendError := none
  failClose : Option BackendError := none
  failBegin : Option BackendError := none
  failCommit : Option BackendError := none
  failRollback : Option BackendError := none
deriving Inhabited

/-- When a command that can be cancelled cancels the caller's token. -/
inductive CancelMode where
  /-- And goes on at once. -/
  | immediately
  /-- And goes on at the next poll. -/
  | pending
deriving Repr, DecidableEq, Inhabited

/-- What the next command does. -/
structure Reply where
  /-- Whether the connection is lost. -/
  disconnect : Bool := false
  cancel : Option CancelMode := none
  panic : Option String := none
  error : Option BackendError := none
  value : Value := .int 42
  rows : UInt64 := 3
  tables : List DataTable := [⟨"x", ["a"], []⟩, ⟨"y", ["b"], []⟩]
deriving Inhabited

/-! ## Events -/

/-- A command that a connection can be given, by the name of the call. -/
inductive CallName where
  | scalar | nonQuery | reader | fill | fillCancellable | scalarAsync | nonQueryAsync | readerAsync
deriving Repr, DecidableEq, Inhabited

instance : Enumeration CallName where
  all := [.scalar, .nonQuery, .reader, .fill, .fillCancellable, .scalarAsync, .nonQueryAsync,
    .readerAsync]
  tag
    | .scalar => "scalar"
    | .nonQuery => "non_query"
    | .reader => "reader"
    | .fill => "fill"
    | .fillCancellable => "fill_cancellable"
    | .scalarAsync => "scalar_async"
    | .nonQueryAsync => "non_query_async"
    | .readerAsync => "reader_async"

/-- Something that a connection other than to begin is asked for without a command. -/
inductive Signal where
  | «open» | close | commit | rollback | interrupt
deriving Repr, DecidableEq, Inhabited

instance : Enumeration Signal where
  all := [.open, .close, .commit, .rollback, .interrupt]
  tag
    | .open => "open"
    | .close => "close"
    | .commit => "commit"
    | .rollback => "rollback"
    | .interrupt => "interrupt"

/-- Which of the two hooks. -/
inductive HookName where
  | before | after
deriving Repr, DecidableEq, Inhabited

instance : Enumeration HookName where
  all := [.before, .after]
  tag
    | .before => "before"
    | .after => "after"

/-- What is recorded. Connections have numbers from one on. -/
inductive Event where
  | connect (connectionString : String)
  | signal (signal : Signal) (connection : Nat)
  | begin (connection : Nat) (isolation : Option IsolationLevel)
  | call (name : CallName) (connection : Nat) (command : Command)
  | hook (name : HookName) (tag : String) (command : Command)
deriving Inhabited

/-! ## The world -/

/-- The world of a rehearsal. -/
structure World where
  /-- The scripted connections in order of their numbers. -/
  scripts : List Script := []
  /-- What later connections start with. -/
  starting : Script := {}
  failConnect : Option BackendError := none
  reply : Reply := {}
  /-- Whether the caller has cancelled. -/
  cancelled : Bool := false
  /-- What was recorded, the latest first. -/
  recorded : List Event := []
  /-- How many ids were drawn. -/
  ids : Nat := 0
  databases : List Sqlite.Connection := []
  disk : Sqlite.Disk
deriving Inhabited

namespace World

/-- Ids are drawn by counting from one. -/
instance : IdSource World where
  newId := fun world ↦ (Uuid.ofNat (world.ids + 1), { world with ids := world.ids + 1 })

/-- The place of a database in the world. -/
def site (index : Nat) : Sqlite.Site World where
  get world := (world.databases.getD index default, world.disk)
  set := fun (connection, disk) world ↦
    { world with databases := world.databases.set index connection, disk := disk }

instance : SqliteHost World where
  attach connection := fun world ↦
    (site world.databases.length, { world with databases := world.databases ++ [connection] })

/-- Record an event. -/
def record (event : Event) : StateM World Unit :=
  modify fun world ↦ { world with recorded := event :: world.recorded }

/-- What was recorded, in order, and the world without it. -/
def takeEvents : StateM World (List Event) := fun world ↦
  (world.recorded.reverse, { world with recorded := [] })

/-- The script of a connection. -/
def script (connection : Nat) (world : World) : Script :=
  world.scripts.getD (connection - 1) default

/-- Change the script of a connection. -/
def revise (connection : Nat) (change : Script → Script) (world : World) : World :=
  { world with scripts := world.scripts.modify (connection - 1) change }

/-- The caller's token. -/
def token : Cancellation World := fun world ↦ (world.cancelled, world)

/-- Cancel the caller's token. -/
def cancel (world : World) : World := { world with cancelled := true }

end World

end SqlGateway.Rehearsal
