import SqlGateway.Error
import SqlGateway.Table

/-!
# Operations and outputs

What is asked of a backend with a command, and what it gives. Every operation has one kind of
output. The tables of a set are named by the caller in order; a table for which there is no name
is called by its place.
-/

namespace SqlGateway

/-- What a backend is to do with a command. -/
inductive Operation where
  /-- The first cell. -/
  | scalar
  /-- The number of rows affected. -/
  | nonQuery
  /-- The first result. -/
  | table
  /-- Every result, under these names. -/
  | tableSet (names : List String)
deriving Repr, DecidableEq, Inhabited

/-- The name of an operation. -/
def Operation.name : Operation → String
  | scalar => "scalar"
  | nonQuery => "non_query"
  | table => "table"
  | tableSet _ => "table_set"

/-- What a command gave. -/
inductive Output where
  | scalar (value : Value)
  | rowsAffected (rows : UInt64)
  | table (table : DataTable)
  | tableSet (set : DataSet)
deriving Repr, BEq, Inhabited

namespace Output

/-- The name of the kind of output. -/
def kind : Output → String
  | scalar _ => "scalar"
  | rowsAffected _ => "rows_affected"
  | table _ => "table"
  | tableSet _ => "table_set"

/-- The refusal of an output of another kind. -/
def unexpected (output : Output) (expected : String) : Error :=
  .unexpectedOutput expected output.kind

def toScalar : Output → Except Error Value
  | scalar value => .ok value
  | other => .error (other.unexpected "scalar")

def toRowsAffected : Output → Except Error UInt64
  | rowsAffected rows => .ok rows
  | other => .error (other.unexpected "rows_affected")

def toTable : Output → Except Error DataTable
  | table t => .ok t
  | other => .error (other.unexpected "table")

def toTableSet : Output → Except Error DataSet
  | tableSet set => .ok set
  | other => .error (other.unexpected "table_set")

end Output

/-- The name of the table in place `index` if the caller gave none. -/
def defaultTableName (index : Nat) : String := "T" ++ toString index

/-- The name of the table in place `index`. -/
def tableName (names : List String) (index : Nat) : String :=
  names[index]?.getD (defaultTableName index)

/-- Tables under the caller's names, and under their places where names run out. -/
def nameTables (tables : List DataTable) (names : List String) : DataSet :=
  ⟨tables.mapIdx fun index t ↦ t.renamed (tableName names index)⟩

end SqlGateway
