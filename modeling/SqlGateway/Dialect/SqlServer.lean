import SqlGateway.Dialect

/-!
# The SQL Server dialect

The templates in T-SQL. A created row's key is captured in a table variable, and the rows that
depend on it take it from the variable `@MasterId`. Both names are declared by the template, which
is why they are reserved among the parameters.
-/

namespace SqlGateway.Dialect.SqlServer

open Template (text)

/-- Insert a row and capture its key for the rows that depend on it. -/
def create : String := text
  ["DECLARE @InsertedTable TABLE (Id ", Slot.pkTypeSize, ");\n",
   "INSERT INTO ", Slot.targetTable,
   " (", Slot.columns, ") OUTPUT INSERTED.", Slot.pkName, " INTO @InsertedTable VALUES (",
   Slot.values, ");\n",
   "DECLARE @MasterId sql_variant = (SELECT TOP 1 Id FROM @InsertedTable);\n",
   Slot.subQueries, "\n",
   "SELECT TOP 1 Id FROM @InsertedTable;"]

/-- Insert a dependent row. -/
def createSub : String := text
  ["INSERT INTO ", Slot.targetTable, " (", Slot.columns, ") VALUES (", Slot.values, ");"]

/-- Read many rows. -/
def readList : String := text
  ["SELECT ", Slot.columns, Slot.aggregations, Slot.subQueries, " FROM ", Slot.targetTable,
   " WITH (NOLOCK) ", Slot.lefts, " ", Slot.filter, " ", Slot.order, " ", Slot.pagination]

/-- Read the rows of a parent as a document in one of its columns. -/
def readListSub : String := text
  ["(SELECT ", Slot.columns, Slot.aggregations, Slot.subQueries, " FROM ", Slot.targetTable,
   " WITH (NOLOCK) ", Slot.lefts, " ", Slot.filter, " ", Slot.order, " ", Slot.pagination,
   " FOR JSON PATH) AS [", Slot.targetTableAs, "]"]

/-- Read groups of rows. -/
def aggregatedReadList : String := text
  ["SELECT ", Slot.columns, Slot.aggregations, " FROM ", Slot.targetTable, " WITH (NOLOCK) ",
   Slot.lefts, " ", Slot.filter, " ", Slot.groupBy, " ", Slot.order, " ", Slot.pagination]

/-- Read one row. -/
def readByKey : String := text
  ["SELECT ", Slot.columns, Slot.subQueries, " FROM ", Slot.targetTable, " WITH (NOLOCK) ",
   Slot.lefts, " ", Slot.filter]

/-- Change a row and what depends on it. -/
def updateByKey : String := text
  [Slot.preQueries, "\n",
   "UPDATE ", Slot.targetTable, " SET ", Slot.sets, " ", Slot.filter, ";\n",
   Slot.subQueries]

/-- Change a dependent row. -/
def updateByKeySub : String := text
  ["UPDATE ", Slot.targetTable, " SET ", Slot.sets, " ", Slot.filter, ";"]

/-- Delete rows. -/
def delete : String := text
  ["DELETE FROM ", Slot.targetTable, " ", Slot.filter, ";"]

/-- Delete a row after what depends on it. -/
def deleteByKey : String := text
  [Slot.subQueries, "\n",
   "DELETE FROM ", Slot.targetTable, " ", Slot.filter, ";"]

/-- Delete a dependent row. -/
def deleteByKeySub : String := text
  ["DELETE FROM ", Slot.targetTable, " ", Slot.filter, ";"]

/-- Run a stored procedure. -/
def procedure : String := text
  ["EXEC ", Slot.storedProcedureName, " ", Slot.inputParams, ";"]

/-- Read from a function that yields rows. -/
def tableFunction : String := text
  ["SELECT * FROM ", Slot.functionName, "(", Slot.inputParams, ");"]

/-- Evaluate a function. -/
def scalarFunction : String := text
  ["SELECT ", Slot.functionName, "(", Slot.inputParams, ");"]

/-- The table of templates. -/
def templates : List TemplateEntry := [
  ⟨.create, create, some createSub⟩,
  ⟨.readList, readList, some readListSub⟩,
  ⟨.aggregatedReadList, aggregatedReadList, none⟩,
  ⟨.readByKey, readByKey, none⟩,
  ⟨.updateByKey, updateByKey, some updateByKeySub⟩,
  ⟨.delete, delete, none⟩,
  ⟨.deleteByKey, deleteByKey, some deleteByKeySub⟩,
  ⟨.procedure, procedure, none⟩,
  ⟨.tableFunction, tableFunction, none⟩,
  ⟨.scalarFunction, scalarFunction, none⟩]

/-- The templates of clauses. -/
def auxiliary : AuxiliaryTemplates where
  pagination := text
    ["OFFSET @PageSkip ROWS FETCH NEXT @PageSize ROWS ONLY"]
  groupBy := text
    ["GROUP BY ", Slot.columns]
  orderBy := text
    ["ORDER BY ", Slot.columns]
  leftJoin := text
    ["LEFT OUTER JOIN ", Slot.targetTable, " AS ", Slot.targetTableAs, " WITH (NOLOCK) ON ",
     Slot.targetTableAs, ".", Slot.targetColumn, " = ", Slot.mainTable, ".", Slot.mainColumn]
  transactionBlock := text
    ["BEGIN TRAN ", Slot.tranName, ";\n", Slot.sqlBody, "\n",
   "COMMIT TRAN ", Slot.tranName, ";"]

end SqlGateway.Dialect.SqlServer

namespace SqlGateway

/-- Microsoft SQL Server. -/
def Dialect.sqlServer : Dialect where
  name := "SqlServer"
  marker := '@'
  wideLiteral := "N"
  concatOperator := "+"
  templates := Dialect.SqlServer.templates
  auxiliary := Dialect.SqlServer.auxiliary

end SqlGateway
