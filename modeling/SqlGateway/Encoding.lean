import SqlGateway.Command
import SqlGateway.Compare
import SqlGateway.Isolation
import SqlGateway.Json.Codec
import SqlGateway.Output
import SqlGateway.ServerType
import SqlGateway.Settings

/-!
# JSON forms of the domain

The JSON form of every type that is kept or sent: values and parameters, tables, commands,
operations and outputs, errors and settings. Each instance names the fields of a record in order,
or the variants of a type, and reads back what it writes.
-/

namespace SqlGateway

/-! ## Values and parameters -/

instance : JsonCodec Value where
  encode
    | .null => .tagged "Null"
    | .bool b => .variant "Bool" (encode b)
    | .int i => .variant "Int" (encode i)
    | .float x => .variant "Float" (encode x)
    | .string s => .variant "String" (encode s)
    | .bytes bs => .variant "Bytes" (encode bs)
  decode? j := do
    match ← j.variant? with
    | ("Null", contents) => if Json.isEmptyContents contents then some .null else none
    | ("Bool", some contents) => (decode? contents).map .bool
    | ("Int", some contents) => (decode? contents).map .int
    | ("Float", some contents) => (decode? contents).map .float
    | ("String", some contents) => (decode? contents).map .string
    | ("Bytes", some contents) => (decode? contents).map .bytes
    | _ => none

instance : JsonCodec Parameter where
  encode p := .object
    [("name", encode p.name), ("db_type", encode p.dbType), ("size", encode p.size),
      ("value", encode p.value)]
  decode? j := do
    match ← j.fields? ["name", "db_type", "size", "value"] 4 with
    | [name, dbType, size, value] =>
      pure ⟨← Json.required name, ← Json.required dbType, ← Json.optional size,
        ← Json.required value⟩
    | _ => none

instance : JsonCodec CompareClause where
  encode clause := .object [("operator", encode clause.operator)]
  decode? j := do
    match ← j.fields? ["operator"] 1 with
    | [operator] => pure ⟨← Json.required operator⟩
    | _ => none

/-! ## Tables -/

instance : JsonCodec DataTable where
  encode t := .object
    [("name", encode t.name), ("columns", encode t.columns), ("rows", encode t.rows)]
  decode? j := do
    match ← j.fields? ["name", "columns", "rows"] 3 with
    | [name, columns, rows] =>
      pure ⟨← Json.required name, ← Json.required columns, ← Json.required rows⟩
    | _ => none

instance : JsonCodec DataSet where
  encode set := .object [("tables", encode set.tables)]
  decode? j := do
    match ← j.fields? ["tables"] 1 with
    | [tables] => pure ⟨← Json.required tables⟩
    | _ => none

/-! ## Commands, operations and outputs -/

instance : JsonCodec Uuid where
  encode u := .string u.display
  decode?
    | .string text => Uuid.parse? text
    | _ => none

instance : JsonCodec Command where
  encode c := .object
    [("sql", encode c.sql), ("connection", encode c.connection),
      ("parameters", encode c.parameters), ("transaction", encode c.transaction)]
  decode? j := do
    match ← j.fields? ["sql", "connection", "parameters", "transaction"] 4 with
    | [sql, connection, parameters, transaction] =>
      pure ⟨← Json.required sql, ← Json.required connection, ← Json.required parameters,
        ← Json.optional transaction⟩
    | _ => none

instance : JsonCodec Operation where
  encode
    | .scalar => .tagged "Scalar"
    | .nonQuery => .tagged "NonQuery"
    | .table => .tagged "Table"
    | .tableSet names => .variant "TableSet" (.object [("names", encode names)])
  decode? j := do
    match ← j.variant? with
    | ("Scalar", contents) => if Json.isEmptyContents contents then some .scalar else none
    | ("NonQuery", contents) => if Json.isEmptyContents contents then some .nonQuery else none
    | ("Table", contents) => if Json.isEmptyContents contents then some .table else none
    | ("TableSet", some contents) =>
      match ← contents.fields? ["names"] 1 with
      | [names] => pure (.tableSet (← Json.required names))
      | _ => none
    | _ => none

instance : JsonCodec Output where
  encode
    | .scalar value => .variant "Scalar" (encode value)
    | .rowsAffected rows => .variant "RowsAffected" (encode rows)
    | .table t => .variant "Table" (encode t)
    | .tableSet set => .variant "TableSet" (encode set)
  decode? j := do
    match ← j.variant? with
    | ("Scalar", some contents) => (decode? contents).map .scalar
    | ("RowsAffected", some contents) => (decode? contents).map .rowsAffected
    | ("Table", some contents) => (decode? contents).map .table
    | ("TableSet", some contents) => (decode? contents).map .tableSet
    | _ => none

/-! ## Errors -/

instance : JsonCodec BackendError where
  encode e := .object [("kind", encode e.kind), ("message", encode e.message)]
  decode? j := do
    match ← j.fields? ["kind", "message"] 2 with
    | [kind, message] => pure ⟨← Json.required kind, ← Json.required message⟩
    | _ => none

/-- The contents of a refused shape. -/
def encodeRefusal (dialect : String) (shape : QueryShape) : Json :=
  .object [("dialect", encode dialect), ("shape", encode shape)]

/-- The dialect and the shape of a refusal. -/
def decodeRefusal? (contents : Json) : Option (String × QueryShape) := do
  match ← contents.fields? ["dialect", "shape"] 2 with
  | [dialect, shape] => pure (← Json.required dialect, ← Json.required shape)
  | _ => none

instance : JsonCodec DialectError where
  encode
    | .notImplementedYet dialect shape =>
      .variant "NotImplementedYet" (encodeRefusal dialect shape)
  decode? j := do
    match ← j.variant? with
    | ("NotImplementedYet", some contents) =>
      (decodeRefusal? contents).map fun refusal ↦ .notImplementedYet refusal.1 refusal.2
    | _ => none

/-- The one text of a record that has no other field. -/
def decodeText? (name : String) (contents : Json) : Option String := do
  match ← contents.fields? [name] 1 with
  | [text] => Json.required text
  | _ => none

instance : JsonCodec Error where
  encode
    | .serverTypeNotImplementedYet serverType =>
      .variant "DbServerTypeNotImplementedYet" (.object [("server_type", encode serverType)])
    | .notImplementedYet dialect shape =>
      .variant "NotImplementedYet" (encodeRefusal dialect shape)
    | .config reason => .variant "Config" (.object [("reason", encode reason)])
    | .connection cause => .variant "Connection" (encode cause)
    | .transactionAlreadyStarted => .tagged "TransactionAlreadyStarted"
    | .transaction cause => .variant "Transaction" (encode cause)
    | .execution code message sql parameters =>
      .variant "Execution" (.object
        [("code", encode code), ("message", encode message), ("sql", encode sql),
          ("parameters", encode parameters)])
    | .unexpectedOutput expected actual =>
      .variant "UnexpectedOutput" (.object
        [("expected", encode expected), ("actual", encode actual)])
    | .internal reason => .variant "Internal" (.object [("reason", encode reason)])
  decode? j := do
    match ← j.variant? with
    | ("DbServerTypeNotImplementedYet", some contents) =>
      (decodeText? "server_type" contents).map .serverTypeNotImplementedYet
    | ("NotImplementedYet", some contents) =>
      (decodeRefusal? contents).map fun refusal ↦ .notImplementedYet refusal.1 refusal.2
    | ("Config", some contents) => (decodeText? "reason" contents).map .config
    | ("Connection", some contents) => (decode? contents).map .connection
    | ("TransactionAlreadyStarted", contents) =>
      if Json.isEmptyContents contents then some .transactionAlreadyStarted else none
    | ("Transaction", some contents) => (decode? contents).map .transaction
    | ("Execution", some contents) =>
      match ← contents.fields? ["code", "message", "sql", "parameters"] 4 with
      | [code, message, sql, parameters] =>
        pure (.execution (← Json.required code) (← Json.required message) (← Json.required sql)
          (← Json.required parameters))
      | _ => none
    | ("UnexpectedOutput", some contents) =>
      match ← contents.fields? ["expected", "actual"] 2 with
      | [expected, actual] =>
        pure (.unexpectedOutput (← Json.required expected) (← Json.required actual))
      | _ => none
    | ("Internal", some contents) => (decodeText? "reason" contents).map .internal
    | _ => none

/-! ## Settings -/

instance : JsonCodec DbConfig where
  encode config := .object
    [("server_type", encode config.serverType),
      ("connection_string", encode config.connectionString)]
  decode? j := do
    match ← j.fields? ["server_type", "connection_string"] 2 with
    | [serverType, connectionString] =>
      pure ⟨← Json.required serverType, ← Json.required connectionString⟩
    | _ => none

instance : JsonCodec Settings where
  encode settings := .object
    [("databases", .object (settings.databases.map fun entry ↦ (entry.1, encode entry.2)))]
  decode? j := do
    match ← j.fields? ["databases"] 0 with
    | [none] => pure Settings.empty
    | [some (.object entries)] =>
      let databases ← entries.mapM fun entry ↦ (decode? entry.2).map fun config ↦
        (entry.1, config)
      pure (Settings.ofList databases)
    | _ => none

end SqlGateway
