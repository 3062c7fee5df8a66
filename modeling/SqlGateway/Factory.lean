import SqlGateway.Executor
import SqlGateway.Settings
import SqlGateway.Sqlite.Connection

/-!
# Making executors

A registry knows the connector of each server type; the last one registered counts. A factory makes
an executor from a configuration in steps, each of which may fail and then is the last: read the
server type, find its connector, connect, open.
-/

namespace SqlGateway

/-! ## Registries -/

/-- The connector of each server type, if there is one. -/
structure Registry (W : Type) where
  connector? : ServerType → Option (Connector W)

namespace Registry

variable {W : Type}

/-- A registry without connectors. -/
def empty : Registry W := ⟨fun _ ↦ none⟩

/-- Register a connector in the place of the one before it. -/
def register (registry : Registry W) (serverType : ServerType) (connector : Connector W) :
    Registry W :=
  ⟨fun other ↦ if other = serverType then some connector else registry.connector? other⟩

/-- Whether there is a connector for the type. -/
def contains (registry : Registry W) (serverType : ServerType) : Bool :=
  (registry.connector? serverType).isSome

/-- The connector for a type; the refusal gives its canonical name. -/
def get (registry : Registry W) (serverType : ServerType) : Result (Connector W) :=
  match registry.connector? serverType with
  | some connector => .ok connector
  | none => .error (.serverTypeNotImplementedYet serverType.name)

/-- The registry in one line, for diagnostics. -/
def describe (registry : Registry W) : String :=
  let names := ((Enumeration.all.filter registry.contains).map ServerType.name).mergeSort
  "ConnectorRegistry \x7b server_types: [" ++ ", ".intercalate (names.map Text.quoted) ++ "] \x7d"

end Registry

/-! ## Factories -/

namespace Factory

variable {W : Type}

/-- Make an executor for a configuration and open it. -/
def create (registry : Registry W) (config : DbConfig) : StateM W (Result (Executor W)) := do
  match ServerType.parse config.serverType with
  | .error e => return .error e
  | .ok serverType =>
    match registry.get serverType with
    | .error e => return .error e
    | .ok connector =>
      match ← connector.connect config.connectionString with
      | .error e => return .error (.connection e)
      | .ok backend => Executor.create serverType connector.dialect backend

/-- Make an executor for the database that settings know by a name. -/
def createNamed (registry : Registry W) (settings : Settings) (name : String) :
    StateM W (Result (Executor W)) :=
  match settings.get name with
  | .error e => return .error e
  | .ok config => create registry config

/-- Whether an executor for a configuration comes to be open. It is given up at once. -/
def testConnection (registry : Registry W) (config : DbConfig) : StateM W Bool := fun world ↦
  match (create registry config).run world with
  | (.error _, world) => (false, world)
  | (.ok executor, world) =>
    let (state, scene) := Executor.connectionState.run ⟨executor, world⟩
    let ((), scene) := Executor.dispose.run scene
    (state == .open, scene.world)

end Factory

/-! ## SQLite -/

/-- A world with room for connections to SQLite databases. -/
class SqliteHost (W : Type) where
  /-- Put a connection into the world; gives its place. -/
  attach : Sqlite.Connection → StateM W (Sqlite.Site W)

/-- The connector for SQLite, which accepts every connection string. -/
def Sqlite.connector (W : Type) [SqliteHost W] : Connector W where
  connect connectionString := do
    let site ← SqliteHost.attach (.ofPath (Sqlite.dataSource connectionString))
    return .ok (Sqlite.Connection.backend site)
  dialect := .sqlite

/-- The registry that knows SQLite alone. -/
def Registry.default (W : Type) [SqliteHost W] : Registry W :=
  empty.register .sqlite (Sqlite.connector W)

end SqlGateway
