import SqlGateway.Dialect

/-!
# The SQLite dialect

SQLite has no variables: a created row's key is captured in the temporary table `InsertedTable`,
and the rows that depend on it take it as the parameter `@MasterId`. There are no stored
procedures, so the table has no entry for them.
-/

namespace SqlGateway.Dialect.Sqlite

open Template (text)

/-- Insert a row and capture its key for the rows that depend on it. -/
def create : String := text
  ["INSERT INTO ", Slot.targetTable, " (", Slot.columns, ") VALUES (", Slot.values,
   ");\n",
   "CREATE TEMP TABLE IF NOT EXISTS InsertedTable (Id);\n",
   "DELETE FROM temp.InsertedTable;\n",
   "INSERT INTO temp.InsertedTable (Id) VALUES (last_insert_rowid());\n",
   Slot.subQueries, "\n",
   "SELECT Id AS ", Slot.pkName, " FROM temp.InsertedTable;"]

/-- Insert a dependent row. -/
def createSub : String := text
  ["INSERT INTO ", Slot.targetTable, " (", Slot.columns, ") VALUES (", Slot.values, ");"]

/-- Read many rows. -/
def readList : String := text
  ["SELECT ", Slot.columns, Slot.aggregations, Slot.subQueries, " FROM ", Slot.targetTable, " ",
   Slot.lefts, " ", Slot.filter, " ", Slot.order, " ", Slot.pagination]

/-- Read the rows of a parent as a document in one of its columns. -/
def readListSub : String := text
  ["(SELECT json_group_array(json_object(", Slot.columns, Slot.aggregations, Slot.subQueries,
   ")) FROM (SELECT * FROM ", Slot.targetTable, " ", Slot.lefts, " ", Slot.filter, " ",
   Slot.order, " ", Slot.pagination, ")) AS ", Slot.targetTableAs]

/-- Read groups of rows. -/
def aggregatedReadList : String := text
  ["SELECT ", Slot.columns, Slot.aggregations, " FROM ", Slot.targetTable, " ", Slot.lefts, " ",
   Slot.filter, " ", Slot.groupBy, " ", Slot.order, " ", Slot.pagination]

/-- Read one row. -/
def readByKey : String := text
  ["SELECT ", Slot.columns, Slot.subQueries, " FROM ", Slot.targetTable, " ", Slot.lefts, " ",
   Slot.filter]

/-- Change a row and what depends on it. -/
def updateByKey : String := text
  [Slot.preQueries, "\n",
   "UPDATE ", Slot.targetTable, " SET ", Slot.sets, " ", Slot.filter, ";\n",
   Slot.subQueries]

/-- Change a dependent row. -/
def updateByKeySub : String := text
  ["UPDATE ", Slot.targetTable, " SET ", Slot.sets, " ", Slot.filter, ";"]

/-- Delete rows. -/
def delete : String := text
  ["DELETE FROM ", Slot.targetTable, " ", Slot.filter, ";"]

/-- Delete a row after what depends on it. -/
def deleteByKey : String := text
  [Slot.subQueries, "\n",
   "DELETE FROM ", Slot.targetTable, " ", Slot.filter, ";"]

/-- Delete a dependent row. -/
def deleteByKeySub : String := text
  ["DELETE FROM ", Slot.targetTable, " ", Slot.filter, ";"]

/-- Read from a function that yields rows. -/
def tableFunction : String := text
  ["SELECT * FROM ", Slot.functionName, "(", Slot.inputParams, ");"]

/-- Evaluate a function. -/
def scalarFunction : String := text
  ["SELECT ", Slot.functionName, "(", Slot.inputParams, ");"]

/-- The table of templates. -/
def templates : List TemplateEntry := [
  ⟨.create, create, some createSub⟩,
  ⟨.readList, readList, some readListSub⟩,
  ⟨.aggregatedReadList, aggregatedReadList, none⟩,
  ⟨.readByKey, readByKey, none⟩,
  ⟨.updateByKey, updateByKey, some updateByKeySub⟩,
  ⟨.delete, delete, none⟩,
  ⟨.deleteByKey, deleteByKey, some deleteByKeySub⟩,
  ⟨.tableFunction, tableFunction, none⟩,
  ⟨.scalarFunction, scalarFunction, none⟩]

/-- The templates of clauses. -/
def auxiliary : AuxiliaryTemplates where
  pagination := text
    ["LIMIT @PageSize OFFSET @PageSkip"]
  groupBy := text
    ["GROUP BY ", Slot.columns]
  orderBy := text
    ["ORDER BY ", Slot.columns]
  leftJoin := text
    ["LEFT OUTER JOIN ", Slot.targetTable, " AS ", Slot.targetTableAs, " ON ",
     Slot.targetTableAs, ".", Slot.targetColumn, " = ", Slot.mainTable, ".", Slot.mainColumn]
  transactionBlock := text
    ["SAVEPOINT ", Slot.tranName, ";\n", Slot.sqlBody, "\n",
   "RELEASE ", Slot.tranName, ";"]

end SqlGateway.Dialect.Sqlite

namespace SqlGateway

/-- SQLite 3. -/
def Dialect.sqlite : Dialect where
  name := "Sqlite"
  marker := '@'
  wideLiteral := ""
  concatOperator := "||"
  templates := Dialect.Sqlite.templates
  auxiliary := Dialect.Sqlite.auxiliary

end SqlGateway
