import SqlGateway.Text.Split
import SqlGateway.Text.Trim

/-!
# Data sources

Where a connection string says that the database is. A string without `=` is the path itself; any
other is a list of `key=value` pieces between semicolons, and the first piece with one of the keys
that name the database counts. A string that names no path means a database in memory.
-/

namespace SqlGateway.Sqlite

/-- The path of a database that is kept in memory and is gone when its connection is closed. -/
def memoryDataSource : String := ":memory:"

/-- The keys that name the database, in lower case. -/
def dataSourceKeys : List String := ["data source", "datasource", "filename"]

/-- Whether a key names the database, in any case and with whitespace around it. -/
def isDataSourceKey (key : List Char) : Bool :=
  dataSourceKeys.any fun name ↦ name.toList == (Text.trimBlank key).map Char.toLower

/-- The path that a piece gives, if it has one of the keys. -/
def pieceDataSource? (piece : List Char) : Option (List Char) :=
  match Text.cut? '=' piece with
  | some (key, value) => if isDataSourceKey key then some (Text.trimBlank value) else none
  | none => none

/-- A path, or the database in memory if it is empty. -/
def orMemory (path : List Char) : String :=
  if path.isEmpty then memoryDataSource else String.ofList path

/-- The path of the database that a connection string names. -/
def dataSource (connectionString : String) : String :=
  let trimmed := Text.trimBlank connectionString.toList
  if trimmed.contains '=' then
    orMemory (((Text.pieces ';' trimmed).findSome? pieceDataSource?).getD [])
  else orMemory trimmed

end SqlGateway.Sqlite
