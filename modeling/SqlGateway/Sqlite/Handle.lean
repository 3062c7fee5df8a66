import SqlGateway.Sqlite.Store

/-!
# Open databases

What a connection to a database holds while it is open: the tables that are committed, its own
temporary tables, the transaction in progress, the key it inserted last and the number of rows it
has changed.

A transaction begins by a statement or by the first savepoint, and in the latter case it ends
when that savepoint is released. Until a transaction changes a table it sees the committed tables
as they are; from then on it has tables of its own, which are committed as a whole or dropped.
Temporary tables are restored with the others. The last key and the number of changes are not.

In a transaction the connection keeps the lock that its statements took. A transaction that has
written is committed only if no other connection holds a lock, and otherwise goes on.
-/

namespace SqlGateway.Sqlite

/-- A place to roll back to: the tables at that time. -/
structure Savepoint where
  name : String
  working : Option Store
  temp : Store
deriving Inhabited

/-- A transaction in progress. -/
structure Transaction where
  /-- The tables, if any has been changed. -/
  working : Option Store
  /-- The temporary tables at the beginning. -/
  temp : Store
  /-- The lock on the tables that are not temporary. -/
  lock : Option Lock
  /-- Whether it began by a savepoint. -/
  bySavepoint : Bool
  /-- The latest first. -/
  savepoints : List Savepoint
deriving Inhabited

/-- An open database. -/
structure Handle where
  committed : Store
  temp : Store
  transaction : Option Transaction
  lastRowid : Int64
  changes : Nat
  /-- The strongest lock of the other connections to the database. -/
  rival : Option Lock := none
  /-- Whether the database was opened to be read only. -/
  readOnly : Bool := false
  /-- Whether there is room for a journal, without which nothing is written. -/
  journaled : Bool := true
  /-- Whether it is known which tables there are. -/
  surveyed : Bool := false
deriving Inhabited

namespace Handle

/-- A database that has just been opened. -/
def ofStore (committed : Store) : Handle :=
  { committed, temp := [], transaction := none, lastRowid := 0, changes := 0 }

/-- The tables as the connection sees them. -/
def main (h : Handle) : Store :=
  match h.transaction with
  | some transaction => transaction.working.getD h.committed
  | none => h.committed

/-- Change the tables, within the transaction if there is one. -/
def withMain (h : Handle) (store : Store) : Handle :=
  match h.transaction with
  | some transaction => { h with transaction := some { transaction with working := some store } }
  | none => { h with committed := store }

/-! ## Tables by name -/

/-- Where a table is. -/
inductive Place where
  | main | temp
deriving Repr, DecidableEq, Inhabited

/-- The tables in a place. -/
def storeAt (h : Handle) : Place → Store
  | .main => h.main
  | .temp => h.temp

/-- Change the tables in a place. -/
def withStoreAt (h : Handle) (store : Store) : Place → Handle
  | .main => h.withMain store
  | .temp => { h with temp := store }

/-- The places that a name is looked for in, in order. -/
def placesOf (table : TableName) : List Place :=
  match table.schema with
  | none => [.temp, .main]
  | some schema =>
    if Text.sameName schema "temp" then [.temp]
    else if Text.sameName schema "main" then [.main]
    else []

/-- The table of a name, and where it is. -/
def find? (h : Handle) (table : TableName) : Option (Place × Table) :=
  (placesOf table).findSome? fun place ↦
    ((h.storeAt place).find? table.name).map fun found ↦ (place, found)

/-! ## Transactions -/

/-- Whether a transaction is in progress. -/
def inTransaction (h : Handle) : Bool := h.transaction.isSome

/-- The lock that the connection holds. -/
def held (h : Handle) : Option Lock := h.transaction.bind (·.lock)

/-- Take a lock. In a transaction it is kept until the transaction ends. -/
def acquire (h : Handle) (wanted : Lock) : Except SqlError Handle :=
  if !wanted.granted h.held h.rival then .error .locked
  else if wanted.covers .reserved && !h.journaled then .error .noJournal
  else match h.transaction with
    | some transaction =>
      let lock := wanted.joined transaction.lock
      .ok { h with transaction := some { transaction with lock := some lock } }
    | none => .ok h

/-- Begin a transaction, which has a lock from the beginning if one was taken. -/
def begin (h : Handle) (lock : Option Lock) : Except SqlError Handle :=
  if h.inTransaction then .error (.general "cannot start a transaction within a transaction")
  else .ok { h with transaction := some ⟨none, h.temp, lock, false, []⟩ }

/-- Make the tables of a transaction the committed ones. While others hold locks, a transaction that
has written keeps them from beginning to read instead. -/
def finish (h : Handle) (transaction : Transaction) : Handle × Except SqlError Unit :=
  if transaction.lock.any (·.covers .reserved) && h.rival.isSome then
    ({ h with transaction := some { transaction with lock := some .pending } }, .error .locked)
  else
    ({ h with committed := transaction.working.getD h.committed, transaction := none }, .ok ())

/-- Commit the transaction. -/
def commit (h : Handle) : Handle × Except SqlError Unit :=
  match h.transaction with
  | some transaction => h.finish transaction
  | none => (h, .error (.general "cannot commit - no transaction is active"))

/-- Roll the transaction back. -/
def rollback (h : Handle) : Except SqlError Handle :=
  match h.transaction with
  | some transaction => .ok { h with temp := transaction.temp, transaction := none }
  | none => .error (.general "cannot rollback - no transaction is active")

/-- Set a savepoint; without a transaction, one begins. -/
def savepoint (h : Handle) (name : String) : Handle :=
  let transaction := h.transaction.getD ⟨none, h.temp, none, true, []⟩
  let savepoints := ⟨name, transaction.working, h.temp⟩ :: transaction.savepoints
  { h with transaction := some { transaction with savepoints := savepoints } }

/-- The latest savepoint of a name with the ones before it, and the transaction. -/
def findSavepoint (h : Handle) (name : String) :
    Except SqlError (Transaction × Savepoint × List Savepoint) :=
  let refusal := SqlError.general ("no such savepoint: " ++ name)
  match h.transaction with
  | none => .error refusal
  | some transaction =>
    match transaction.savepoints.dropWhile fun savepoint ↦ !Text.sameName savepoint.name name with
    | savepoint :: earlier => .ok (transaction, savepoint, earlier)
    | [] => .error refusal

/-- Release a savepoint and those behind it. The one that began the transaction commits it. -/
def release (h : Handle) (name : String) : Handle × Except SqlError Unit :=
  match h.findSavepoint name with
  | .error e => (h, .error e)
  | .ok (transaction, _, earlier) =>
    if earlier.isEmpty && transaction.bySavepoint then h.finish transaction
    else ({ h with transaction := some { transaction with savepoints := earlier } }, .ok ())

/-- Go back to a savepoint, which stays set. -/
def rollbackTo (h : Handle) (name : String) : Except SqlError Handle := do
  let (transaction, savepoint, earlier) ← h.findSavepoint name
  pure { h with
    temp := savepoint.temp
    transaction := some
      { transaction with working := savepoint.working, savepoints := savepoint :: earlier } }

end Handle

end SqlGateway.Sqlite
