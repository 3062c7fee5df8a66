import SqlGateway.BackendError
import SqlGateway.Command
import SqlGateway.Dialect
import SqlGateway.Effect
import SqlGateway.Isolation
import SqlGateway.Table

/-!
# Backends

What an executor needs of a connection to a database, and how connections are made for a server
type. A connection may be lost at any time, so even reading its state may change the world.

The asynchronous calls come with the caller's token. A backend that does not care about
cancellation leaves them out, and they are the synchronous ones, done in a single poll.
-/

namespace SqlGateway

/-- The state of a connection. -/
inductive ConnectionState where
  | closed | «open»
deriving Repr, DecidableEq, Inhabited

namespace ConnectionState

instance : Enumeration ConnectionState where
  all := [closed, «open»]
  tag
    | closed => "closed"
    | «open» => "open"

/-- The name of the state. -/
def name : ConnectionState → String
  | closed => "Closed"
  | «open» => "Open"

end ConnectionState

/-- A connection to a database. -/
structure Backend (W : Type) where
  /-- The state of the connection. -/
  state : StateM W ConnectionState
  /-- Open the connection. -/
  establish : StateM W (BackendResult Unit)
  /-- Close the connection. -/
  close : StateM W (BackendResult Unit)
  /-- Begin a transaction. -/
  begin : Option IsolationLevel → StateM W (BackendResult Unit)
  /-- Commit the transaction. -/
  commit : StateM W (BackendResult Unit)
  /-- Roll the transaction back. -/
  rollback : StateM W (BackendResult Unit)
  /-- The first cell of the first result, or `NULL`. -/
  scalar : Command → Action W (BackendResult Value)
  /-- The number of rows affected. -/
  nonQuery : Command → Action W (BackendResult UInt64)
  /-- The first result. -/
  reader : Command → Action W (BackendResult DataTable)
  /-- Every result in order. -/
  fill : Command → Action W (BackendResult (List DataTable))
  /-- Every result in order, stopping early once the token has fired. -/
  fillCancellable : Command → Cancellation W → Work W (BackendResult (List DataTable)) :=
    fun command _ ↦ .ofAction (fill command)
  /-- Abort whatever statement is running. -/
  interrupt : StateM W Unit := pure ()
  scalarAsync : Command → Cancellation W → Work W (BackendResult Value) :=
    fun command _ ↦ .ofAction (scalar command)
  nonQueryAsync : Command → Cancellation W → Work W (BackendResult UInt64) :=
    fun command _ ↦ .ofAction (nonQuery command)
  readerAsync : Command → Cancellation W → Work W (BackendResult DataTable) :=
    fun command _ ↦ .ofAction (reader command)

/-- What makes connections of one server type. -/
structure Connector (W : Type) where
  /-- Make a connection, which is not open yet, from a connection string. -/
  connect : String → StateM W (BackendResult (Backend W))
  /-- The dialect that the connections speak. -/
  dialect : Dialect

end SqlGateway
