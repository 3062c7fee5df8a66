/-!
# Errors of SQLite

The wording of what may go wrong with a statement. An error in the text of a statement quotes all
of the text that was still to be run, and tells how many bytes into it the fault is.
-/

namespace SqlGateway.Sqlite

/-- Why a statement failed. -/
inductive SqlError where
  | general (message : String)
  | located (message sql : String) (offset : Nat)
deriving Repr, DecidableEq, Inhabited

namespace SqlError

/-- The error in one line. -/
def display : SqlError → String
  | general message => message
  | located message sql offset => message ++ " in " ++ sql ++ " at offset " ++ toString offset

/-- An error that is so many characters into a text. -/
def ofPlace (message : String) (sql : List Char) (place : Nat) : SqlError :=
  .located message (String.ofList sql) ((sql.take place).foldl (fun n c ↦ n + c.utf8Size) 0)

/-- A statement was stopped between two others. -/
def interrupted : SqlError := .general "interrupted"

/-- Another connection holds a lock. -/
def locked : SqlError := .general "database is locked"

/-- The database was opened to be read only. -/
def readOnly : SqlError := .general "attempt to write a readonly database"

/-- There can be no journal beside the file. -/
def noJournal : SqlError := .general "unable to open database file"

end SqlError

end SqlGateway.Sqlite
