import SqlGateway.Sqlite.Cell
import SqlGateway.Sqlite.Lock
import SqlGateway.Sqlite.Token

/-!
# Statements

The statements that SQLite is asked to run: queries of one table or of none, changes of one table,
the creation of tables, and the statements that begin and end transactions.
-/

namespace SqlGateway.Sqlite

/-- A comparison of two cells. -/
inductive Comparison where
  | equal | notEqual | less | lessOrEqual | greater | greaterOrEqual
deriving Repr, DecidableEq, Inhabited

/-- The comparison with its sides exchanged. -/
def Comparison.swapped : Comparison → Comparison
  | equal => equal
  | notEqual => notEqual
  | less => greater
  | lessOrEqual => greaterOrEqual
  | greater => less
  | greaterOrEqual => lessOrEqual

/-- An expression over rows, in which names of type `ν` stand for what a row has. -/
inductive Expr (ν : Type) where
  | literal (cell : Cell)
  /-- The parameter of a number. -/
  | parameter (number : Nat)
  | name (name : ν)
  /-- The key of the row that the connection inserted last. -/
  | lastRowid
  /-- The number of rows. -/
  | count
  | upper (operand : Expr ν)
  | isNull (operand : Expr ν)
  | not (operand : Expr ν)
  | compare (comparison : Comparison) (left right : Expr ν)
  | and (left right : Expr ν)
  | or (left right : Expr ν)
deriving Repr, Inhabited

/-- The expression with an expression in the place of every name, unless one of them fails. -/
def Expr.bindM {m : Type → Type} [Monad m] {ν μ : Type} (f : ν → m (Expr μ)) :
    Expr ν → m (Expr μ)
  | literal cell => pure (literal cell)
  | parameter number => pure (parameter number)
  | name n => f n
  | lastRowid => pure lastRowid
  | count => pure count
  | upper operand => upper <$> operand.bindM f
  | isNull operand => isNull <$> operand.bindM f
  | not operand => not <$> operand.bindM f
  | compare comparison left right => compare comparison <$> left.bindM f <*> right.bindM f
  | and left right => and <$> left.bindM f <*> right.bindM f
  | or left right => or <$> left.bindM f <*> right.bindM f

/-- The names in an expression. -/
def Expr.names {ν : Type} : Expr ν → List ν
  | name n => [n]
  | upper operand => operand.names
  | isNull operand => operand.names
  | not operand => operand.names
  | compare _ left right => left.names ++ right.names
  | and left right => left.names ++ right.names
  | or left right => left.names ++ right.names
  | _ => []

/-- Whether an expression counts rows. -/
def Expr.counts {ν : Type} : Expr ν → Bool
  | count => true
  | upper operand => operand.counts
  | isNull operand => operand.counts
  | not operand => operand.counts
  | compare _ left right => left.counts || right.counts
  | and left right => left.counts || right.counts
  | or left right => left.counts || right.counts
  | _ => false

/-- The name of a column as it is written, so many characters into the statement. -/
structure ColumnName where
  qualifier : Option String
  name : String
  place : Nat
  /-- What the name stands for where there is no such column: a name between double quotes is a
  text, and some words are truth values. -/
  fallback : Option Cell
deriving Repr, Inhabited

/-- A table, in a schema if one is given. -/
structure TableName where
  schema : Option String
  name : String
deriving Repr, DecidableEq, Inhabited

/-- A column of a result. -/
inductive ResultColumn where
  /-- Every column of the table. -/
  | all
  /-- An expression with the name it is given, if any, and the text it is written as. -/
  | expression (value : Expr ColumnName) (label : Option String) (written : String)
deriving Repr, Inhabited

/-- Whether a column of a result stands for every column of the table. -/
def ResultColumn.isAll : ResultColumn → Bool
  | all => true
  | _ => false

/-- A key to sort by, which has its first number so many characters into the statement. -/
structure SortKey where
  value : Expr ColumnName
  descending : Bool
  place : Nat
deriving Repr, Inhabited

/-- A query. -/
structure Query where
  columns : List ResultColumn
  source : Option TableName
  condition : Option (Expr ColumnName)
  order : List SortKey
  limit : Option (Expr ColumnName)
  offset : Option (Expr ColumnName)
deriving Repr, Inhabited

/-- What is declared of a column. -/
structure ColumnDef where
  name : String
  /-- The type, which may be empty. -/
  type : String
  /-- Whether it is the key of its rows, which only an integer can be. -/
  isKey : Bool
  notNull : Bool
  unique : Bool
deriving Repr, DecidableEq, Inhabited

/-- What a statement does. -/
inductive Statement where
  | select (query : Query)
  /-- Create a table whose schema and whose name stand so many characters into the statement. -/
  | createTable (temporary ifNotExists : Bool) (table : TableName) (schemaPlace place : Nat)
    (columns : List ColumnDef)
  | insert (table : TableName) (columns : Option (List String))
    (rows : List (List (Expr ColumnName)))
  | update (table : TableName) (assignments : List (String × Expr ColumnName))
    (condition : Option (Expr ColumnName))
  | delete (table : TableName) (condition : Option (Expr ColumnName))
  /-- Begin a transaction, with a lock if one is asked for. -/
  | begin (lock : Option Lock)
  | commit
  | rollback
  | savepoint (name : String)
  | release (name : String)
  | rollbackTo (name : String)
deriving Repr, Inhabited

/-- Whether a statement names a table. -/
def Statement.namesTable : Statement → Bool
  | select query => query.source.isSome
  | createTable .. => true
  | insert .. => true
  | update .. => true
  | delete .. => true
  | _ => false

end SqlGateway.Sqlite
