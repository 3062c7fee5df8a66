import SqlGateway.Backend
import SqlGateway.Dialect.Sqlite
import SqlGateway.Sqlite.Batch
import SqlGateway.Sqlite.Disk

/-!
# Connections to SQLite

A connection holds an open database or none. Whether it is open, and whether a running statement
could be interrupted, is noted beside the database, so that neither question has to wait for a
statement that is running.

What other connections to the same database have committed, and the locks that they hold, are looked
up before every call.
-/

namespace SqlGateway.Sqlite

/-- A connection to the database of a path. -/
structure Connection where
  path : String
  /-- The open database. -/
  database : Option OpenDatabase
  /-- Whether the connection reports that it is open. -/
  isOpen : Bool
  /-- Whether there is something to interrupt a statement with. -/
  interruptible : Bool
deriving Inhabited

/-- Where in a world a connection and the files are. -/
structure Site (W : Type) where
  get : W → Connection × Disk
  set : Connection × Disk → W → W

/-- Do something to the connection in its place. -/
def Site.act {W α : Type} (site : Site W) (step : StateM (Connection × Disk) α) : StateM W α :=
  fun world ↦
    let (a, there) := step.run (site.get world)
    (a, site.set there world)

namespace Connection

/-- A connection that is not open. -/
def ofPath (path : String) : Connection := ⟨path, none, false, false⟩

/-- The state that the connection reports. -/
def state (c : Connection) : ConnectionState := if c.isOpen then .open else .closed

/-! ## Opening and closing -/

/-- Hold an open database. -/
def holding (c : Connection) (opened : OpenDatabase) : Connection :=
  { c with database := some opened, isOpen := true, interruptible := true }

/-- Open the connection, unless it is open. -/
def establish : StateM (Connection × Disk) (BackendResult Unit) := fun (c, disk) ↦
  if c.database.isSome then (.ok (), c, disk)
  else match disk.open c.path with
    | .ok (opened, disk) => (.ok (), c.holding opened, disk)
    | .error fault => (.error (.opening (c.path ++ ": " ++ fault.message c.path)), c, disk)

/-- Close the connection, unless it is closed. The database is given up before it answers whether
that went well. -/
def closing (answer : Except SqlError Unit) : StateM (Connection × Disk) (BackendResult Unit) :=
  fun (c, disk) ↦
    match c.database with
    | none => (.ok (), c, disk)
    | some opened =>
      let result := match answer with
        | .ok () => .ok ()
        | .error e => .error ⟨.closed, e.display⟩
      (result, ofPath c.path, disk.close opened)

/-- Close the connection. No statement outlives its call, so the database lets go of it. -/
def close : StateM (Connection × Disk) (BackendResult Unit) := closing (.ok ())

/-! ## Calls -/

/-- Put what a call left of the open database where it belongs. -/
def keep (c : Connection) (disk : Disk) (opened : OpenDatabase) : Connection × Disk :=
  ({ c with database := some opened }, disk.save opened)

/-- Begin or end a transaction of the open database. -/
def transact (program : Program) : StateM (Connection × Disk) (BackendResult Unit) :=
  fun (c, disk) ↦
    match c.database with
    | none => (.error .closed, c, disk)
    | some opened =>
      let (after, result) := program.run (disk.load opened) []
      let result := match result with
        | .ok _ => .ok ()
        | .error e => .error (.transaction e.display)
      (result, c.keep disk { opened with handle := after })

/-- The lock that a transaction of some isolation has from the beginning. -/
def lockOf : Option IsolationLevel → Option Lock
  | some .repeatableRead => some .reserved
  | some .serializable => some .reserved
  | some .snapshot => some .reserved
  | _ => none

/-- What a batch gave. -/
structure Outcome where
  tables : List DataTable
  /-- How many rows it inserted, changed or deleted. -/
  changes : Nat

/-- The first cell of the first table. -/
def Outcome.firstValue (outcome : Outcome) : Value :=
  ((outcome.tables.head?.bind fun table ↦ table.rows.head?).bind List.head?).getD .null

/-- The first table. -/
def Outcome.firstTable (outcome : Outcome) : DataTable := outcome.tables.headD .empty

/-- The number of rows. -/
def Outcome.rowsAffected (outcome : Outcome) : UInt64 := .ofNat outcome.changes

/-- Run a command. Any failure of a call whose token has fired is a cancellation. -/
def run {W : Type} (site : Site W) (token : Cancellation W) (command : Command) :
    StateM W (BackendResult Outcome) := fun world ↦
  let (c, disk) := site.get world
  match c.database with
  | none => (.error .closed, world)
  | some opened =>
    let before := disk.load opened
    let walked := walk token command.parameters (statements command.sql) before world
    let after := walked.handle
    let world := site.set (c.keep disk { opened with handle := after }) walked.world
    match walked.result with
    | .ok tables => (.ok ⟨tables, after.changes - before.changes⟩, world)
    | .error e =>
      let (fired, world) := token.run world
      (.error (if fired then .cancelled else .execute e.display), world)

/-- The token of a call that cannot be cancelled. -/
def uncancelled {W : Type} : Cancellation W := fun world ↦ (false, world)

/-- Run a command for one part of its outcome. -/
def runFor {W α : Type} (site : Site W) (part : Outcome → α) (token : Cancellation W)
    (command : Command) : StateM W (BackendResult α) := do
  return (← run site token command).map part

/-- Run a command on another thread, which starts after the first poll. -/
def offload {W α : Type} (site : Site W) (part : Outcome → α) (command : Command)
    (token : Cancellation W) : Work W (BackendResult α) :=
  (Work.ofState (runFor site part token command)).later

/-- A connection as a backend. -/
def backend {W : Type} (site : Site W) : Backend W where
  state := fun world ↦ ((site.get world).1.state, world)
  establish := site.act establish
  close := site.act close
  begin isolation := site.act (transact (.begin (lockOf isolation)))
  commit := site.act (transact .commit)
  rollback := site.act (transact .rollback)
  scalar command := .ofState (runFor site Outcome.firstValue uncancelled command)
  nonQuery command := .ofState (runFor site Outcome.rowsAffected uncancelled command)
  reader command := .ofState (runFor site Outcome.firstTable uncancelled command)
  fill command := .ofState (runFor site Outcome.tables uncancelled command)
  fillCancellable command token := .ofState (runFor site Outcome.tables token command)
  scalarAsync := offload site Outcome.firstValue
  nonQueryAsync := offload site Outcome.rowsAffected
  readerAsync := offload site Outcome.firstTable

end Connection

end SqlGateway.Sqlite
