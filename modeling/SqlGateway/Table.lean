import SqlGateway.Text.Fold
import SqlGateway.Value

/-!
# Tables of results

A materialized result and an ordered collection of them. Columns and tables are looked up by name
up to ASCII case, and the first match counts.
-/

namespace SqlGateway

/-- A result: named columns and rows of values. -/
structure DataTable where
  name : String
  columns : List String
  rows : List (List Value)
deriving Repr, BEq, Inhabited

namespace DataTable

/-- The table without a name, columns or rows. -/
def empty : DataTable := ⟨"", [], []⟩

/-- A table without rows. -/
def ofColumns (name : String) (columns : List String) : DataTable := ⟨name, columns, []⟩

/-- The same table under another name. -/
def renamed (t : DataTable) (name : String) : DataTable := { t with name := name }

/-- The table with `row` at its end. -/
def push (t : DataTable) (row : List Value) : DataTable := { t with rows := t.rows ++ [row] }

/-- The place of the first column of that name. -/
def columnIndex? (t : DataTable) (column : String) : Option Nat :=
  t.columns.findIdx? (Text.sameName · column)

/-- The cell in row `row` under the first column of that name, if the row reaches so far. -/
def get? (t : DataTable) (row : Nat) (column : String) : Option Value := do
  let place ← t.columnIndex? column
  let values ← t.rows[row]?
  values[place]?

end DataTable

/-- The results of a statement that gives several. -/
structure DataSet where
  tables : List DataTable
deriving Repr, BEq, Inhabited

namespace DataSet

/-- The first table of that name. -/
def table? (set : DataSet) (name : String) : Option DataTable :=
  set.tables.find? fun t ↦ Text.sameName t.name name

/-- The names of the tables in order. -/
def names (set : DataSet) : List String := set.tables.map DataTable.name

end DataSet

end SqlGateway
