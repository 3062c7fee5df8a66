import SqlGateway.Error
import SqlGateway.Text.Fold
import SqlGateway.Text.Trim

/-!
# Server types

The kinds of server an executor can be built for, as settings name them.
-/

namespace SqlGateway

/-- A kind of database server. -/
inductive ServerType where
  | sqlServer | sqlite
deriving Repr, DecidableEq, Inhabited

namespace ServerType

instance : Enumeration ServerType where
  all := [sqlServer, sqlite]
  tag
    | sqlServer => "SqlServer"
    | sqlite => "Sqlite"

/-- The canonical name. -/
def name (ty : ServerType) : String := Enumeration.tag ty

/-- The names that are read, in lower case. -/
def names : List (String × ServerType) :=
  [("sqlserver", sqlServer), ("mssql", sqlServer), ("sqlite", sqlite)]

/-- The type a text names, in any case and with whitespace around it. -/
def parse? (text : String) : Option ServerType :=
  let name := (Text.trimBlank text.toList).map Char.toLower
  (names.find? fun entry ↦ entry.1.toList == name).map Prod.snd

/-- Read a server type; the refusal quotes the text unchanged. -/
def parse (text : String) : Except Error ServerType :=
  match parse? text with
  | some ty => .ok ty
  | none => .error (.serverTypeNotImplementedYet text)

end ServerType

end SqlGateway
