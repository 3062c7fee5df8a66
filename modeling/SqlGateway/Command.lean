import SqlGateway.Json.Writer
import SqlGateway.Parameter
import SqlGateway.Uuid

/-!
# Commands

What hooks and backends are given: the text of a statement with its parameters, the label of the
connection it runs on, and the transaction it belongs to.
-/

namespace SqlGateway

/-- A statement ready to be run. -/
structure Command where
  sql : String
  /-- The label of the connection. -/
  connection : String
  parameters : List Parameter
  /-- The active transaction, if there is one. -/
  transaction : Option Uuid
deriving Repr, BEq, Inhabited

namespace Command

/-- A statement that belongs to no connection yet. -/
def ofSql (sql : String) (parameters : List Parameter) : Command := ⟨sql, "", parameters, none⟩

/-- The first parameter of that name. -/
def parameter? (command : Command) (name : String) : Option Parameter :=
  command.parameters.find? (·.isNamed name)

/-! ## Snapshots -/

/-- Values are shown up to this many characters. -/
def snapshotLimit : Nat := 256

/-- A text cut to the limit, with three points in the place of what is left out. -/
def truncate (text : String) : String :=
  let cs := text.toList
  if cs.length ≤ snapshotLimit then text
  else String.ofList (cs.take snapshotLimit ++ "...".toList)

/-- A parameter in a snapshot: its name, and its value as text or `null`. -/
def snapshotEntry (p : Parameter) : Json :=
  .object [("name", .string p.name),
    ("value", if p.value.isNull then .null else .string (truncate p.value.display))]

/-- The parameters as a JSON array, for error messages. -/
def parameterSnapshot (command : Command) : String :=
  (Json.array (command.parameters.map snapshotEntry)).render

end Command

end SqlGateway
