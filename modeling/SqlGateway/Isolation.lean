import SqlGateway.Enumeration

/-!
# Isolation levels

The isolation that a caller may ask for when a transaction begins.
-/

namespace SqlGateway

/-- How far a transaction is kept apart from the others. -/
inductive IsolationLevel where
  | readUncommitted | readCommitted | repeatableRead | serializable | snapshot
deriving Repr, DecidableEq, Inhabited

namespace IsolationLevel

instance : Enumeration IsolationLevel where
  all := [readUncommitted, readCommitted, repeatableRead, serializable, snapshot]
  tag
    | readUncommitted => "read_uncommitted"
    | readCommitted => "read_committed"
    | repeatableRead => "repeatable_read"
    | serializable => "serializable"
    | snapshot => "snapshot"

/-- The level as SQL spells it. -/
def display : IsolationLevel → String
  | readUncommitted => "READ UNCOMMITTED"
  | readCommitted => "READ COMMITTED"
  | repeatableRead => "REPEATABLE READ"
  | serializable => "SERIALIZABLE"
  | snapshot => "SNAPSHOT"

end IsolationLevel

end SqlGateway
