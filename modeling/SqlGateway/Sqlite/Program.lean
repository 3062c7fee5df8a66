import SqlGateway.Sqlite.Handle
import SqlGateway.Sqlite.Parser

/-!
# Prepared programs

A statement is prepared against the tables that are there: its tables are looked up, every name in
its expressions becomes a field of a row, and the columns of its result get their names. What is
left is a program, which can be run without looking at names again.

A name is a column of the table, or else the label of a column of the result where such labels may
be used, or else what it falls back to.
-/

namespace SqlGateway.Sqlite

/-- A prepared query. -/
structure Selection where
  table : Option Table
  /-- The columns of the result with their names. -/
  results : List (String × Expr Field)
  condition : Option (Expr Field)
  /-- The keys to sort by, and whether they descend. -/
  order : List (Expr Field × Bool)
  limit : Option (Expr Field)
  offset : Option (Expr Field)
deriving Inhabited

/-- Whether the result is one row that counts the others. -/
def Selection.counts (selection : Selection) : Bool := selection.results.any (·.2.counts)

/-- What a prepared statement does. -/
inductive Program where
  /-- Query a table, which is in a place. -/
  | select (place : Option Handle.Place) (selection : Selection)
  /-- Create a table. -/
  | create (place : Handle.Place) (name : String) (columns : List ColumnDef)
  /-- Do nothing, as the table is there. -/
  | skip (place : Handle.Place)
  | insert (place : Handle.Place) (table : Table) (fields : List Field)
    (rows : List (List (Expr Field)))
  | update (place : Handle.Place) (table : Table) (assignments : List (Field × Expr Field))
    (condition : Option (Expr Field))
  | delete (place : Handle.Place) (table : Table) (condition : Option (Expr Field))
  | begin (lock : Option Lock)
  | commit
  | rollback
  | savepoint (name : String)
  | release (name : String)
  | rollbackTo (name : String)
deriving Inhabited

/-- Whether a program writes to tables that are not temporary. -/
def Program.writes : Program → Bool
  | create .main .. => true
  | insert .main .. => true
  | update .main .. => true
  | delete .main .. => true
  | _ => false

/-- The lock that a program takes before anything else. A transaction in a database that is only
read asks for no more than to read. -/
def Program.lock? (readOnly : Bool) : Program → Option Lock
  | select (some .main) _ => some .shared
  | skip .main => some .shared
  | begin lock => lock.map fun lock ↦ if readOnly then .shared else lock
  | program => if program.writes then some .reserved else none

/-! ## Names -/

/-- A table as a statement names it. -/
def TableName.display (table : TableName) : String :=
  match table.schema with
  | some schema => schema ++ "." ++ table.name
  | none => table.name

/-- Find the table that a statement names. -/
def Handle.resolve (h : Handle) (table : TableName) : Except SqlError (Handle.Place × Table) :=
  match h.find? table with
  | some found => .ok found
  | none => .error (.general ("no such table: " ++ table.display))

/-- What names may stand for. -/
structure Names where
  /-- The statement, for errors. -/
  text : List Char
  table : Option Table
  /-- The columns of the result that have labels. -/
  labels : List (String × Expr Field)

/-- The field of a table that a name stands for. -/
def Names.field? (names : Names) (column : ColumnName) : Option Field :=
  names.table.bind fun table ↦
    if column.qualifier.all (Text.sameName table.name) then table.field? column.name else none

/-- The expression that a name stands for where there is no such column. -/
def Names.other? (names : Names) (column : ColumnName) : Option (Expr Field) :=
  if column.qualifier.isSome then none
  else match names.labels.find? fun label ↦ Text.sameName label.1 column.name with
    | some (_, value) => some value
    | none => column.fallback.map .literal

/-- The expression that a name stands for. -/
def Names.find (names : Names) (column : ColumnName) : Except SqlError (Expr Field) :=
  match names.field? column with
  | some field => .ok (.name field)
  | none =>
    match names.other? column with
    | some value => .ok value
    | none =>
      let written := (column.qualifier.map (· ++ ".")).getD "" ++ column.name
      .error (.ofPlace ("no such column: " ++ written) names.text column.place)

/-- The expression over the fields of rows. -/
def Names.resolve (names : Names) (value : Expr ColumnName) : Except SqlError (Expr Field) :=
  value.bindM names.find

/-! ## Queries -/

/-- The columns of the result that a column of a query stands for, with their names. A column of a
table is called as it is declared, if it has no other name. -/
def ResultColumn.resolve (names : Names) :
    ResultColumn → Except SqlError (List (String × Expr Field))
  | .all =>
    match names.table with
    | some table => .ok (table.fields.map fun field ↦ (table.fieldName field, .name field))
    | none => .error (.general "no tables specified")
  | .expression value label written => do
    let resolved ← names.resolve value
    let declared := match value, resolved, names.table with
      | .name _, .name field, some table => table.fieldName field
      | _, _, _ => written
    return [(label.getD declared, resolved)]

/-- The columns of the result that have labels. -/
def labelsOf (names : Names) (columns : List ResultColumn) :
    Except SqlError (List (String × Expr Field)) :=
  columns.filterMapM fun column ↦ match column with
    | .expression value (some label) _ =>
      (names.resolve value).map fun resolved ↦ some (label, resolved)
    | _ => .ok none

/-- A number with the ending of its place in a sequence. -/
def ordinal (n : Nat) : String :=
  let ending :=
    if n / 10 % 10 = 1 then "th"
    else if n % 10 = 1 then "st"
    else if n % 10 = 2 then "nd"
    else if n % 10 = 3 then "rd"
    else "th"
  toString n ++ ending

/-- The column of the result that a sort key stands for by its number. -/
def numberedKey? : Expr ColumnName → Option Int
  | .literal (.integer i) =>
    if -2147483648 < i.toInt ∧ i.toInt < 2147483648 then some i.toInt else none
  | _ => none

/-- The fault of a sort key that is no number of a column. -/
def rangeFault (place width : Nat) : String :=
  ordinal (place + 1) ++ " ORDER BY term out of range - should be between 1 and " ++ toString width

/-- The expression to sort by for the key in a place: a number stands for a column of the result,
and a name for the one with this label, before it stands for a column of the table. There is none
for a number that is too large. -/
def Names.resolveKey (names : Names) (results : List (String × Expr Field)) (place : Nat)
    (key : SortKey) : Except SqlError (Option (Expr Field)) :=
  match numberedKey? key.value with
  | some i =>
    if i < 1 ∨ 0xFFFF < i then
      .error (.ofPlace (rangeFault place results.length) names.text key.place)
    else .ok ((results[i.toNat - 1]?).map Prod.snd)
  | none =>
    let labelled : Option (String × Expr Field) := match key.value with
      | .name ⟨none, name, _, _⟩ => names.labels.find? fun label ↦ Text.sameName label.1 name
      | _ => none
    match labelled with
    | some (_, value) => .ok (some value)
    | none => (names.resolve key.value).map some

/-- The keys to sort by. Only after all of them have been looked at, one whose number is too large
is refused. -/
def Names.resolveOrder (names : Names) (results : List (String × Expr Field))
    (keys : List SortKey) : Except SqlError (List (Expr Field × Bool)) := do
  let values ← keys.zipIdx.mapM fun (key, place) ↦ do
    return (← names.resolveKey results place key, key.descending)
  values.zipIdx.mapM fun ((value, descending), place) ↦ match value with
    | some value => .ok (value, descending)
    | none => .error (.general (rangeFault place results.length))

/-- Prepare a query. What bounds the result sees no names. -/
def Query.prepare (h : Handle) (text : List Char) (query : Query) : Except SqlError Selection := do
  let table ← query.source.mapM fun source ↦ return (← h.resolve source).2
  let nothing : Names := ⟨text, none, []⟩
  let inside : Names := ⟨text, table, []⟩
  if table.isNone then
    for column in query.columns do
      if column.isAll then throw (.general "no tables specified")
  let limit ← query.limit.mapM nothing.resolve
  let offset ← query.offset.mapM nothing.resolve
  let results ← query.columns.mapM (·.resolve inside)
  let results := results.flatten
  let names : Names := { inside with labels := ← labelsOf inside query.columns }
  let condition ← query.condition.mapM names.resolve
  let order ← names.resolveOrder results query.order
  return { table, results, condition, order, limit, offset }

/-! ## Changes -/

/-- The fields that an insertion fills. -/
def insertedFields (name : TableName) (table : Table) :
    Option (List String) → Except SqlError (List Field)
  | none => .ok table.fields
  | some columns => columns.mapM fun column ↦
    match table.field? column with
    | some field => .ok field
    | none => .error (.general ("table " ++ name.display ++ " has no column named " ++ column))

/-- Check that a row has a value for each field. -/
def checkWidth (name : TableName) (listed : Bool) (width : Nat) (row : List (Expr Field)) :
    Except SqlError Unit :=
  if row.length = width then .ok ()
  else if listed then
    .error (.general (toString row.length ++ " values for " ++ toString width ++ " columns"))
  else
    .error (.general ("table " ++ name.display ++ " has " ++ toString width ++ " columns but " ++
      toString row.length ++ " values were supplied"))

/-- Prepare an insertion. -/
def prepareInsert (h : Handle) (text : List Char) (name : TableName)
    (columns : Option (List String)) (rows : List (List (Expr ColumnName))) :
    Except SqlError Program := do
  let nothing : Names := ⟨text, none, []⟩
  if rows.any fun row ↦ row.length != (rows.headD []).length then
    throw (.general "all VALUES must have the same number of terms")
  let (place, table) ← h.resolve name
  let fields ← insertedFields name table columns
  let values ← rows.mapM (·.mapM nothing.resolve)
  for row in values do checkWidth name columns.isSome fields.length row
  return .insert place table fields values

/-- Prepare a change of rows. -/
def prepareUpdate (h : Handle) (text : List Char) (name : TableName)
    (assignments : List (String × Expr ColumnName)) (condition : Option (Expr ColumnName)) :
    Except SqlError Program := do
  let (place, table) ← h.resolve name
  let names : Names := ⟨text, some table, []⟩
  let prepared ← assignments.mapM fun (column, value) ↦ do
    let resolved ← names.resolve value
    match table.field? column with
    | some field => return (field, resolved)
    | none => throw (.general ("no such column: " ++ column))
  return .update place table prepared (← condition.mapM names.resolve)

/-- The first name that is the name of an earlier one. -/
def repeatedName? : List String → List String → Option String
  | _, [] => none
  | earlier, name :: rest =>
    if earlier.any (Text.sameName name) then some name else repeatedName? (name :: earlier) rest

/-- Prepare the creation of a table. -/
def prepareCreate (h : Handle) (text : List Char) (temporary ifNotExists : Bool)
    (table : TableName) (schemaPlace place : Nat) (columns : List ColumnDef) :
    Except SqlError Program := do
  let inSchema (name : String) : Bool := table.schema.any (Text.sameName name)
  if table.schema.isSome && !inSchema "temp" && !inSchema "main" then
    throw (.ofPlace ("unknown database " ++ table.schema.getD "") text schemaPlace)
  if temporary && inSchema "main" then
    throw (.general "temporary table name must be unqualified")
  if (Text.folded table.name).take 7 == "sqlite_".toList then
    throw (.general ("object name reserved for internal use: " ++ table.name))
  let target : Handle.Place := if temporary || inSchema "temp" then .temp else .main
  if ((h.storeAt target).find? table.name).isSome then
    if ifNotExists then return .skip target
    throw (.ofPlace ("table " ++ table.name ++ " already exists") text place)
  if let some name := repeatedName? [] (columns.map (·.name)) then
    throw (.general ("duplicate column name: " ++ name))
  return .create target table.name columns

/-! ## Statements -/

/-- Find out which tables there are, as the first statement with a table does. -/
def Prepared.survey (p : Prepared) (h : Handle) : Except SqlError Handle :=
  if p.statement.namesTable && !h.surveyed then
    if Lock.granted .shared h.held h.rival then .ok { h with surveyed := true }
    else .error .locked
  else .ok h

/-- Prepare a statement against the tables that are there. -/
def Prepared.program (p : Prepared) (h : Handle) : Except SqlError Program :=
  match p.statement with
  | .select query =>
    let place := (query.source.bind h.find?).map Prod.fst
    (query.prepare h p.text).map (.select place)
  | .createTable temporary ifNotExists table schemaPlace place columns =>
    prepareCreate h p.text temporary ifNotExists table schemaPlace place columns
  | .insert name columns rows => prepareInsert h p.text name columns rows
  | .update name assignments condition => prepareUpdate h p.text name assignments condition
  | .delete name condition => do
    let (place, table) ← h.resolve name
    let names : Names := ⟨p.text, some table, []⟩
    return .delete place table (← condition.mapM names.resolve)
  | .begin lock => .ok (.begin lock)
  | .commit => .ok .commit
  | .rollback => .ok .rollback
  | .savepoint name => .ok (.savepoint name)
  | .release name => .ok (.release name)
  | .rollbackTo name => .ok (.rollbackTo name)

/-- Prepare a statement, which may be the first one with a table. Gives the database after that,
even if it fails. -/
def Prepared.ready (p : Prepared) (h : Handle) : Handle × Except SqlError Program :=
  match p.survey h with
  | .error e => (h, .error e)
  | .ok h => (h, p.program h)

/-- The names of the columns of a program's result; only a query has some. -/
def Program.columns : Program → List String
  | .select _ selection => selection.results.map Prod.fst
  | _ => []

end SqlGateway.Sqlite
