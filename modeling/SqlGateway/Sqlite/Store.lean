import SqlGateway.Sqlite.Affinity
import SqlGateway.Sqlite.SqlError
import SqlGateway.Sqlite.Statement

/-!
# Stored tables

Tables with their rows, and how rows are put in, changed and taken out. Every row has a key, and
rows are kept in the order of their keys. The key is a column of the table if one is declared as
such, and otherwise it is seen only where it is asked for. A row that is put in without a key gets
the one behind the greatest there is.

Names of tables and columns are compared without regard to ASCII case, and errors spell them as
they were declared.
-/

namespace SqlGateway.Sqlite

/-- A row of a table. -/
structure Row where
  key : Int64
  cells : List Cell
deriving Repr, BEq, Inhabited

/-- What a row has: its key, which may be one of its columns, and its other columns by place. -/
inductive Field where
  | key
  | column (index : Nat)
deriving Repr, DecidableEq, Inhabited

/-- A table. -/
structure Table where
  name : String
  columns : List ColumnDef
  rows : List Row
deriving Repr, BEq, Inhabited

namespace Table

/-- The place of a column. -/
def columnIndex? (table : Table) (name : String) : Option Nat :=
  table.columns.findIdx? fun column ↦ Text.sameName column.name name

/-- The place of the column that is the key. -/
def keyIndex? (table : Table) : Option Nat := table.columns.findIdx? (·.isKey)

/-- The declaration of the column that is the key. -/
def keyColumn? (table : Table) : Option ColumnDef := table.columns.find? (·.isKey)

/-- The names that the key has where no column has them. -/
def keyNames : List String := ["rowid", "oid", "_rowid_"]

/-- The field in the place of a column. -/
def fieldAt (table : Table) (index : Nat) : Field :=
  if table.keyIndex? = some index then .key else .column index

/-- The field of a name. -/
def field? (table : Table) (name : String) : Option Field :=
  match table.columnIndex? name with
  | some index => some (table.fieldAt index)
  | none => if keyNames.any (Text.sameName name) then some .key else none

/-- The fields of the columns. -/
def fields (table : Table) : List Field := (List.range table.columns.length).map table.fieldAt

/-- The name of a field as it is declared. -/
def fieldName (table : Table) : Field → String
  | .key => (table.keyColumn?.map (·.name)).getD "rowid"
  | .column index => ((table.columns[index]?).map (·.name)).getD ""

/-- The affinity of a field. -/
def affinity (table : Table) : Field → Affinity
  | .key => .integer
  | .column index => .ofType (((table.columns[index]?).map (·.type)).getD "")

/-! ## Keys and constraints -/

/-- The least key from `key` on that no row has; there is one among as many as `fuel` keys. -/
def freeKey (table : Table) : (fuel : Nat) → Int64 → Int64
  | 0, key => key
  | fuel + 1, key =>
    if table.rows.any (·.key == key) then table.freeKey fuel (key + 1) else key

/-- The key behind the greatest one. Behind the greatest integer it is one that no row has. -/
def nextKey (table : Table) : Int64 :=
  match table.rows.getLast? with
  | some row =>
    if row.key == Int64.maxValue then table.freeKey table.rows.length 1 else row.key + 1
  | none => 1

/-- Put a row in the place of its key. -/
def place (row : Row) : List Row → List Row
  | [] => [row]
  | first :: rest => if row.key < first.key then row :: first :: rest else first :: place row rest

/-- The failure of a constraint on a column. -/
def constraintError (table : Table) (constraint column : String) : SqlError :=
  .general (constraint ++ " constraint failed: " ++ table.name ++ "." ++ column)

/-- The key that a cell stands for. -/
def keyOf (cell : Cell) : Except SqlError Int64 :=
  match cell.asInteger? with
  | some key => .ok key
  | none => .error (.general "datatype mismatch")

/-- The row of a key and of a cell for each column, converted to the affinity of its column. -/
def rowOf (table : Table) (key : Int64) (cells : List Cell) : Row :=
  let stored := (table.columns.zip cells).map fun (column, cell) ↦
    if column.isKey then .integer key else (Affinity.ofType column.type).store cell
  ⟨key, stored⟩

/-- The column that may not be empty but is. -/
def missingColumn? (table : Table) (row : Row) : Option ColumnDef :=
  ((table.columns.zip row.cells).find? fun (column, cell) ↦ column.notNull && cell.isNull).map
    Prod.fst

/-- The places of the columns that have an index, which holds every cell once; the latest one
first. -/
def indexed (table : Table) : List Nat :=
  (table.columns.zipIdx.filterMap fun (column, index) ↦
    if column.unique && !column.isKey then some index else none).reverse

/-- The column of `row` that holds what only one row may hold, and another one holds. The column
that was declared last is found first. -/
def repeatedColumn? (table : Table) (row : Row) : Option ColumnDef :=
  (table.indexed.find? fun index ↦
    let cell := row.cells.getD index .null
    !cell.isNull && table.rows.any fun other ↦
      Cell.order (other.cells.getD index .null) cell == .eq).bind (table.columns[·]?)

/-- Put in a row if the constraints of the table allow it. -/
def add (table : Table) (row : Row) : Except SqlError Table :=
  match table.missingColumn? row with
  | some column => .error (table.constraintError "NOT NULL" column.name)
  | none =>
    if table.rows.any (·.key == row.key) then
      .error (table.constraintError "UNIQUE" (table.fieldName .key))
    else
      match table.repeatedColumn? row with
      | some column => .error (table.constraintError "UNIQUE" column.name)
      | none => .ok { table with rows := place row table.rows }

/-- Take out the row of a key. -/
def remove (table : Table) (key : Int64) : Table :=
  { table with rows := table.rows.filter (·.key != key) }

/-- Put in a row of cells. Without a key, or with `NULL` for one, it gets the next one. Gives the
key, too. -/
def insert (table : Table) (key : Option Cell) (cells : List Cell) :
    Except SqlError (Int64 × Table) := do
  let key ← match key with
    | none => pure table.nextKey
    | some .null => pure table.nextKey
    | some cell => keyOf cell
  return (key, ← table.add (table.rowOf key cells))

/-- Replace the cells of a row, and its key if another one is given. -/
def change (table : Table) (row : Row) (key : Option Cell) (cells : List Cell) :
    Except SqlError Table := do
  let key ← match key with
    | none => pure row.key
    | some cell => keyOf cell
  (table.remove row.key).add (table.rowOf key cells)

end Table

/-! ## Tables together -/

/-- Tables by name. -/
abbrev Store := List Table

namespace Store

/-- The table of a name. -/
def find? (store : Store) (name : String) : Option Table :=
  List.find? (fun table ↦ Text.sameName table.name name) store

/-- Put a table in the place of the one that has its name. -/
def replace (store : Store) (changed : Table) : Store :=
  store.map fun table ↦ if Text.sameName table.name changed.name then changed else table

end Store

end SqlGateway.Sqlite
