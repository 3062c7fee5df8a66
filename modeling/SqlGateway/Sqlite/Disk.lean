import SqlGateway.FileSystem
import SqlGateway.Sqlite.Handle
import SqlGateway.Sqlite.Location

/-!
# Databases that connections share

The databases that do not belong to a single connection: those in files, and those in memory that
have names. Beside the committed tables it is kept which connections have a database open and what
locks they hold. A database in memory is gone when the last of its connections is closed, and one in
a file stays.

The path of a database is taken step by step before anything is opened. A step back leads out of the
place that the names before it make, whether there is such a place or not, and a slash at the end
makes no difference.

## Main definitions

* `Disk.open`: open a database.
* `Disk.find?`, `Disk.put`: what is kept of a database.
-/

namespace SqlGateway.Sqlite

/-- A database that connections share. -/
structure Database where
  tables : Store
  /-- The connections that have it open, by number, with the locks that they hold. -/
  holders : List (Nat × Option Lock)
deriving Inhabited

namespace Database

/-- A database without tables, which nobody has open. -/
def empty : Database := ⟨[], []⟩

/-- A number that no connection has. -/
def freeNumber (database : Database) : Nat :=
  (database.holders.map fun holder ↦ holder.1 + 1).foldl max 0

/-- The strongest lock that connections other than the one of a number hold. -/
def rival (database : Database) (number : Nat) : Option Lock :=
  Lock.strongest ((database.holders.filter (·.1 != number)).filterMap Prod.snd)

/-- Keep the lock of a connection. -/
def hold (database : Database) (number : Nat) (lock : Option Lock) : Database :=
  { database with
    holders := (number, lock) :: database.holders.filter (·.1 != number) }

/-- Let a connection go. -/
def release (database : Database) (number : Nat) : Database :=
  { database with holders := database.holders.filter (·.1 != number) }

end Database

/-- Where an open database is. -/
inductive Residence where
  /-- With its connection. -/
  | alone
  /-- In memory under a name. -/
  | memory (name : String)
  /-- In the file of a place. -/
  | file (place : Place)
deriving Repr, DecidableEq, Inhabited

/-- A database that a connection has open, with what the connection alone has of it. -/
structure OpenDatabase where
  residence : Residence
  /-- The number of the connection among those that have the database open. -/
  number : Nat
  handle : Handle
deriving Inhabited

/-- The databases that connections share. -/
structure Disk where
  files : FileSystem Database
  memory : List (String × Database)
deriving Inhabited

namespace Disk

/-- No databases, and these directories for files. -/
def ofDirectories (paths : List String) : Disk := ⟨.ofDirectories paths, []⟩

/-- What is kept of a database. -/
def find? (disk : Disk) : Residence → Option Database
  | .alone => none
  | .memory name => disk.memory.lookup name
  | .file place => disk.files.lookup place

/-- Keep a database. -/
def put (disk : Disk) (database : Database) : Residence → Disk
  | .alone => disk
  | .memory name =>
    let others := disk.memory.filter (·.1 != name)
    if database.holders.isEmpty then { disk with memory := others }
    else { disk with memory := (name, database) :: others }
  | .file place => { disk with files := disk.files.store place database }

/-! ## Paths -/

/-- How many bytes the path of a place has. -/
def pathSize (place : Place) : Nat :=
  place.foldl (fun n name ↦ if name.isEmpty then n else n + name.utf8ByteSize + 1) 0

/-- How many bytes the path of a database may have while its steps are taken. -/
def stepLimit : Nat := 511

/-- How many bytes the path of a database may have, so that there is room behind it. -/
def databaseLimit : Nat := 504

/-- What is behind the name of a database in that of its journal. -/
def journalSuffix : String := "-journal"

/-- The place that a step leads to. Where there is nothing, there may be something later; but a path
does not go on behind a file. -/
def step (files : FileSystem Database) (place : Place) (name : String) : Option Place :=
  if name = "." then some place
  else if name = ".." then some place.parent
  else if stepLimit < pathSize (place ++ [name]) then none
  else match files.step place name with
    | .ok place => some place
    | .error .notFound => some (place ++ [name])
    | .error _ => none

/-- The place of the file of a database, which is not the root. -/
def placeOf (disk : Disk) (path : String) : Option Place := do
  let place ← (pathSteps path).foldlM (step disk.files) (pathStart path)
  if place = [""] ∨ databaseLimit < pathSize place then none else some place

/-- Whether there is room for a journal beside the file of a database. -/
def journaled : Residence → Bool
  | .file place => ((place.getLast?.getD "") ++ journalSuffix).utf8ByteSize ≤ nameLimit
  | _ => true

/-! ## Opening and closing -/

/-- Find the file of a database, or make it. -/
def openFile (disk : Disk) (path : String) (mode : OpenMode) :
    Except LocationFault (Residence × Disk) :=
  match disk.placeOf path with
  | none => .error .unopened
  | some place =>
    if disk.files.isDirectory place then
      .error (if mode = .readOnly then .unread else .unopened)
    else if (disk.files.lookup place).isSome then .ok (.file place, disk)
    else if mode = .create && disk.files.isDirectory place.parent then
      .ok (.file place, { disk with files := disk.files.store place .empty })
    else .error .unopened

/-- Find where a database is, or make it. -/
def reside (disk : Disk) (location : Location) : Except LocationFault (Residence × Disk) :=
  match location.medium with
  | .memory none => .ok (.alone, disk)
  | .memory (some name) => .ok (.memory name, disk)
  | .file path => disk.openFile path location.mode

/-- Open a database. -/
def «open» (disk : Disk) (name : String) : Except LocationFault (OpenDatabase × Disk) := do
  let location ← Location.ofName name
  let (residence, disk) ← disk.reside location
  let database := (disk.find? residence).getD .empty
  let number := database.freeNumber
  let handle : Handle := { Handle.ofStore database.tables with
    readOnly := location.isReadOnly
    journaled := journaled residence }
  return (⟨residence, number, handle⟩, disk.put (database.hold number none) residence)

/-- The open database with the locks of the others, and with the tables that are committed. The
connection does not see these while it may not begin to read. -/
def load (disk : Disk) (opened : OpenDatabase) : Handle :=
  match disk.find? opened.residence with
  | some database =>
    let h := { opened.handle with rival := database.rival opened.number }
    if Lock.granted .shared h.held h.rival then { h with committed := database.tables } else h
  | none => opened.handle

/-- Keep the lock of an open database, and the committed tables, unless another connection alone
could write. -/
def save (disk : Disk) (opened : OpenDatabase) : Disk :=
  match disk.find? opened.residence with
  | some database =>
    let h := opened.handle
    let tables := if h.rival.any (·.covers .reserved) then database.tables else h.committed
    let database := { database with tables }
    disk.put (database.hold opened.number h.held) opened.residence
  | none => disk

/-- Close a database. -/
def close (disk : Disk) (opened : OpenDatabase) : Disk :=
  match disk.find? opened.residence with
  | some database => disk.put (database.release opened.number) opened.residence
  | none => disk

end Disk

end SqlGateway.Sqlite
