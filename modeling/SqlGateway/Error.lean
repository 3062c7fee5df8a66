import SqlGateway.BackendError
import SqlGateway.Dialect

/-!
# Errors of an executor

One type for whatever may go wrong between a caller and a database, with the wording of each.
-/

namespace SqlGateway

/-- Why a call of an executor, of a factory or of the settings failed. -/
inductive Error where
  /-- There is no connector for the server type. -/
  | serverTypeNotImplementedYet (serverType : String)
  /-- The dialect has no template for the shape. -/
  | notImplementedYet (dialect : String) (shape : QueryShape)
  /-- The settings could not be read, or lack what is asked for. -/
  | config (reason : String)
  /-- The connection could not be opened. -/
  | connection (cause : BackendError)
  /-- A transaction is active already. -/
  | transactionAlreadyStarted
  /-- The backend refused to begin or to end a transaction. -/
  | transaction (cause : BackendError)
  /-- A command failed; `parameters` is its snapshot. -/
  | execution (code message sql parameters : String)
  /-- An output of another kind than asked for. -/
  | unexpectedOutput (expected actual : String)
  /-- A fault of the library. -/
  | internal (reason : String)
deriving Repr, DecidableEq, Inhabited

namespace Error

/-- The name of the kind of error. -/
def kind : Error → String
  | serverTypeNotImplementedYet _ => "DbServerTypeNotImplementedYet"
  | notImplementedYet _ _ => "NotImplementedYet"
  | config _ => "Config"
  | connection _ => "Connection"
  | transactionAlreadyStarted => "TransactionAlreadyStarted"
  | transaction _ => "Transaction"
  | execution _ _ _ _ => "Execution"
  | unexpectedOutput _ _ => "UnexpectedOutput"
  | internal _ => "Internal"

/-- The wording of the error. -/
def message : Error → String
  | serverTypeNotImplementedYet serverType =>
    "database server type not implemented yet: " ++ serverType
  | notImplementedYet dialect shape =>
    "query shape not implemented yet for " ++ dialect ++ ": " ++ shape.name
  | config reason => "configuration error: " ++ reason
  | connection cause => "connection error: " ++ cause.display
  | transactionAlreadyStarted => "transaction already started"
  | transaction cause => "transaction error: " ++ cause.display
  | execution code message sql parameters =>
    "[" ++ code ++ "] " ++ message ++ " | sql: " ++ sql ++ " | parameters: " ++ parameters
  | unexpectedOutput expected actual =>
    "unexpected output: expected " ++ expected ++ ", got " ++ actual
  | internal reason => "internal error: " ++ reason

/-- The caller's code of a failed command. -/
def code? : Error → Option String
  | execution code _ _ _ => some code
  | _ => none

/-- The text of a failed command. -/
def sql? : Error → Option String
  | execution _ _ sql _ => some sql
  | _ => none

/-- A refusal of a dialect, as an error of the executor that speaks it. -/
def ofDialect : DialectError → Error
  | .notImplementedYet dialect shape => .notImplementedYet dialect shape

end Error

/-- The codes that the four calls of an executor give to their failures. -/
structure ErrorCodes where
  scalar : String
  nonQuery : String
  table : String
  tableSet : String

/-- The default codes. -/
def errorCodes : ErrorCodes := ⟨"DB_SCALAR", "DB_NON_QUERY", "DB_TABLE", "DB_TABLE_SET"⟩

end SqlGateway
